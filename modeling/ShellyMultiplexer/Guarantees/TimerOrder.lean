import ShellyMultiplexer.Modbus.Timers

/-! # Which timer is served

A pass that brings in no word leaves its tier due, and the fast tier is looked at before the slow
one. So the slow registers are read only while the last fast pass that brought something in is
younger than its interval; as long as the fast passes come back empty they are not read at all.
-/
namespace ShellyMultiplexer
open Foundation

/-- When the last pass of the tier was. -/
def lastPass (tier : Tier) (passes : List (Tier × Instant)) : Option Instant :=
  ((passes.filter (fun p => decide (p.1 = tier))).getLast?).map Prod.snd

theorem lastPass_concat (tier other : Tier) (t : Instant) (passes : List (Tier × Instant)) :
    lastPass tier (passes ++ [(other,t)]) = if other = tier then some t else lastPass tier passes := by
  rw [lastPass, List.filter_append, lastPass]
  by_cases h : other = tier
  · simp [h]
  · simp [h]

theorem RefreshSystem.tierRefresh_times (sys : RefreshSystem) (tier : Tier) (w : RefreshWorld) :
    (sys.tierRefresh tier w).1.lastFastRefreshAt =
        (if tier = .fast ∧ (sys.tierRefresh tier w).2.isOk = true then some w.now
          else sys.lastFastRefreshAt) ∧
      (sys.tierRefresh tier w).1.lastSlowRefreshAt =
        (if tier = .slow ∧ (sys.tierRefresh tier w).2.isOk = true then some w.now
          else sys.lastSlowRefreshAt) := by
  unfold tierRefresh
  dsimp only
  split
  · simp [Except.isOk,Except.toBool]
  · cases tier <;> simp [noted,Except.isOk,Except.toBool]

namespace WriterTask
variable {task : WriterTask}

/-- What a task knows of its settings and of the passes it has made. -/
structure KeepsTime (fastInterval slowInterval : Option Duration)
    (passes : List (Tier × Instant)) (task : WriterTask) : Prop where
  fastInterval : task.fastRefreshInterval = fastInterval
  slowInterval : task.slowRefreshInterval = slowInterval
  fast : task.refresh.lastFastRefreshAt = lastPass .fast passes
  slow : task.refresh.lastSlowRefreshAt = lastPass .slow passes

namespace KeepsTime
variable {fastInterval slowInterval : Option Duration} {passes : List (Tier × Instant)}

theorem same {after : WriterTask} (h : KeepsTime fastInterval slowInterval passes task)
    (hsame : SameTimers task after) : KeepsTime fastInterval slowInterval passes after :=
  ⟨hsame.fastInterval.trans h.fastInterval,hsame.slowInterval.trans h.slowInterval,
    hsame.fast.trans h.fast,hsame.slow.trans h.slow⟩

theorem pass (h : KeepsTime fastInterval slowInterval passes task) (tier : Tier)
    (w : RefreshWorld) : KeepsTime fastInterval slowInterval
      (passes ++ if task.passSucceeds tier w then [(tier,w.now)] else [])
      (task.refreshTier tier w) := by
  obtain ⟨hfast,hslow⟩ := RefreshSystem.tierRefresh_times
    { task.refresh with connected := task.connected } tier w
  by_cases hok : task.passSucceeds tier w = true
  · rw [if_pos hok]
    refine ⟨h.fastInterval,h.slowInterval,hfast.trans ?_,hslow.trans ?_⟩
    · rw [lastPass_concat, ← h.fast]
      exact if_congr (and_iff_left hok) rfl rfl
    · rw [lastPass_concat, ← h.slow]
      exact if_congr (and_iff_left hok) rfl rfl
  · rw [if_neg hok, List.append_nil]
    refine ⟨h.fastInterval,h.slowInterval,hfast.trans ?_,hslow.trans ?_⟩
    · rw [← h.fast]
      exact if_neg (fun hboth => hok hboth.2)
    · rw [← h.slow]
      exact if_neg (fun hboth => hok hboth.2)

theorem step (h : KeepsTime fastInterval slowInterval passes task) (e : TaskEvent) :
    KeepsTime fastInterval slowInterval (passes ++ task.successfulPass e) (taskStep task e) := by
  rcases task.taskStep_timers e with ⟨hsame,hnone,-⟩ | rfl | ⟨tier,w,rfl,hsame,hpass⟩
  · rw [hnone, List.append_nil]
    exact h.same hsame
  · have hnone : task.successfulPass .stop = [] := rfl
    rw [hnone, List.append_nil]
    exact ⟨h.fastInterval,h.slowInterval,h.fast,h.slow⟩
  · rw [hpass]
    exact (h.pass tier w.refresh).same hsame

end KeepsTime

end WriterTask

/-! ## The select -/

/-- A tier is due once its last pass is as old as its interval. -/
theorem tierDue_le_iff {iv : Duration} {last : Option Instant} {since now : Instant}
    (h : since ≤ now) :
    WriterTask.tierDue (some iv) last since ≤ now ↔ ∀ t, last = some t → t + iv ≤ now := by
  cases last with
  | none => simp [WriterTask.tierDue,h]
  | some t => simp [WriterTask.tierDue,h]

/-- The slow tier comes last. -/
theorem chosen_slow_iff {task : WriterTask} {since now : Instant} (hp : task.phase = .waiting since) :
    task.chosen now = some .slowTimer ↔ task.shutdownSent = false ∧ task.rx.unseen = false ∧
      now < task.socDue since ∧ now < task.fastDue since ∧ task.slowDue since ≤ now := by
  simp only [WriterTask.chosen,hp,Branch.biased,List.find?_cons,WriterTask.ready]
  cases task.shutdownSent <;> cases task.rx.unseen <;>
    by_cases hsoc : task.socDue since ≤ now <;> by_cases hfast : task.fastDue since ≤ now <;>
      by_cases hslow : task.slowDue since ≤ now <;> simp [hsoc,hfast,hslow,not_lt.mpr,not_le.mp]

/-- The refresh intervals of the configuration. -/
def fastInterval (cfg : Config) : Duration := fromMillis (max cfg.virtualModbus.bulkRefreshMs 500)

def slowInterval (cfg : Config) : Duration := fromMillis (max cfg.virtualModbus.slowRefreshMs 1000)

/-- Without refreshes both tiers sleep for a day, and the fast one is looked at first. -/
theorem chosen_ne_slow_of_disabled {task : WriterTask} {since now : Instant}
    (hp : task.phase = .waiting since) (hfast : task.fastRefreshInterval = none)
    (hslow : task.slowRefreshInterval = none) : task.chosen now ≠ some .slowTimer := by
  intro h
  obtain ⟨-,-,-,hbefore,hdue⟩ := (chosen_slow_iff hp).mp h
  rw [WriterTask.fastDue, hfast] at hbefore
  rw [WriterTask.slowDue, hslow] at hdue
  exact absurd hdue (not_le.mpr hbefore)

theorem keepsTime_run (cfg : Config) (b : BatteryConfig) (leftover : Registers)
    (events : List TaskEvent) :
    WriterTask.KeepsTime (WriterTask.spawn cfg b leftover).fastRefreshInterval
      (WriterTask.spawn cfg b leftover).slowRefreshInterval
      (outputs taskStep WriterTask.successfulPass (.spawn cfg b leftover) events)
      (run taskStep (.spawn cfg b leftover) events) :=
  outputs_inv (WriterTask.KeepsTime _ _) ⟨rfl,rfl,rfl,rfl⟩ (fun _ _ e h => h.step e) events

/-- The slow tier is served exactly while the last fast pass that brought something in is younger
than its interval, and when nobody stops or sends, it is due itself, and the sleep of the timer for
the state of charge, which the refreshes stand in for, has not run out. -/
theorem slow_tier_served_iff (cfg : Config) (b : BatteryConfig) (leftover : Registers)
    (events : List TaskEvent) {since now : Instant}
    (hp : (run taskStep (.spawn cfg b leftover) events).phase = .waiting since)
    (hnow : since ≤ now) :
    let start := WriterTask.spawn cfg b leftover
    let passes := outputs taskStep WriterTask.successfulPass start events
    (run taskStep start events).chosen now = some .slowTimer ↔
      cfg.virtualModbus.enabled = true ∧ .stop ∉ events ∧
      (run taskStep start events).rx.unseen = false ∧ now < since + never ∧
      (∃ t, lastPass .fast passes = some t ∧ now < t + fastInterval cfg) ∧
      ∀ t, lastPass .slow passes = some t → t + slowInterval cfg ≤ now := by
  intro start passes
  have hkeeps := keepsTime_run cfg b leftover events
  by_cases hv : cfg.virtualModbus.enabled = true
  · have hfastIv : start.fastRefreshInterval = some (fastInterval cfg) := if_pos hv
    have hslowIv : start.slowRefreshInterval = some (slowInterval cfg) := if_pos hv
    have hstop : (run taskStep start events).shutdownSent = false ↔ .stop ∉ events := by
      rw [← Bool.not_eq_true, shutdownSent_run]
      simp [start,WriterTask.spawn]
    have hsoc : now < (run taskStep start events).socDue since ↔ now < since + never := by
      rw [WriterTask.socDue, hkeeps.fastInterval, hfastIv]
      rfl
    have hfast : now < (run taskStep start events).fastDue since ↔
        ∃ t, lastPass .fast passes = some t ∧ now < t + fastInterval cfg := by
      rw [← not_le, WriterTask.fastDue, hkeeps.fastInterval, hfastIv, hkeeps.fast,
        tierDue_le_iff hnow]
      simp [passes,start]
    have hslow : (run taskStep start events).slowDue since ≤ now ↔
        ∀ t, lastPass .slow passes = some t → t + slowInterval cfg ≤ now := by
      rw [WriterTask.slowDue, hkeeps.slowInterval, hslowIv, hkeeps.slow, tierDue_le_iff hnow]
    rw [chosen_slow_iff hp, and_iff_right hv]
    exact and_congr hstop (and_congr Iff.rfl (and_congr hsoc (and_congr hfast hslow)))
  · refine iff_of_false (chosen_ne_slow_of_disabled hp ?_ ?_) (fun h => hv h.1)
    · exact hkeeps.fastInterval.trans (if_neg hv)
    · exact hkeeps.slowInterval.trans (if_neg hv)

/-- Two fast passes in a row without an answer. -/
def silentPasses : List TaskEvent :=
  [.init answeringWire .timeout .timeout 0,.select 0,.perform (answeringLoop (fun _ => .timeout) 1),
    .select 1,.perform (answeringLoop (fun _ => .timeout) 2)]

theorem slow_tier_served_iff_wall : (run taskStep wallTask silentPasses).phase = .waiting 2 ∧
    (run taskStep wallTask silentPasses).chosen 2 ≠ some .slowTimer := by
  have hp : (run taskStep wallTask silentPasses).phase = .waiting 2 := by decide +kernel
  refine ⟨hp,fun h => ?_⟩
  obtain ⟨-,-,-,-,⟨t,ht,-⟩,-⟩ := (slow_tier_served_iff house
    (wallBattery "a" "10.0.0.1" "garage") (fun _ => 0) silentPasses hp le_rfl).mp h
  have hnone : outputs taskStep WriterTask.successfulPass wallTask silentPasses = [] := by
    decide +kernel
  cases (congrArg (lastPass .fast) hnone).symm.trans ht

end ShellyMultiplexer
