import ShellyMultiplexer.Guarantees.WholePulses

/-! # Pulses that outlive a silence

A silence ends by time alone, but what is left of a pulse is dropped only when a tick comes to the
queue. A stale grid reading or a pulse on another circuit sends every tick of the silence back
before that, and the old sample is handed out afterwards.
-/
namespace ShellyMultiplexer
open Foundation

/-- A silence has begun since the last arming. -/
def PulseRecord.overtakes : Bool → PulseRecord → Bool
  | _,armed _ => false
  | old,dropped => old
  | _,muted => true
  | old,reached => old
  | old,drained _ _ => old

def overtaken (log : List PulseRecord) : Bool := log.foldl PulseRecord.overtakes false

/-- A silence has begun since a tick last came to the queue. -/
def PulseRecord.waits : Bool → PulseRecord → Bool
  | old,armed _ => old
  | old,dropped => old
  | _,muted => true
  | _,reached => false
  | old,drained _ _ => old

def unreached (log : List PulseRecord) : Bool := log.foldl PulseRecord.waits false

/-- No sample is handed out after a silence that began later than its arming. -/
def NoSurvivorLog (log : List PulseRecord) : Prop :=
  ∀ past value later, log = past ++ .drained value false::later → value ≠ 0 →
    overtaken past = false

def NoSurvivor (sys : PulseSystem) : Prop := ∀ id, NoSurvivorLog (sys.log id)

/-- A battery that takes a sample on a circuit that is not silent does so when a tick has come to
the queue since the last silence began. -/
def ReachedFirst (sys : PulseSystem) : PulseEvent → Prop
  | .tick _ _ => True
  | .proceed _ => True
  | .request _ _ => True
  | .drain batteryId now clock => (batteryId,now) ∈ sys.admitted → ∀ id b, batteryId = some id →
      sys.app.batteries.get? id = some b → 0 < b.pulseRemaining →
        sys.app.circuitMuted clock b.circuit = false → unreached (sys.log id) = false
  | .world _ _ _ => True

/-- A pulse with samples left was overtaken exactly when no tick has come to the queue since. -/
def LeftoverPulse (log : List PulseRecord) (b : BatteryState) : Prop :=
  0 < b.pulseRemaining → overtaken log = unreached log

structure SurvivorInv (sys : PulseSystem) : Prop where
  pulses : PulseInv sys
  leftover : ∀ id b, sys.app.batteries.get? id = some b → LeftoverPulse (sys.log id) b
  none : NoSurvivor sys

variable {sys : PulseSystem} {e : PulseEvent} {now : Instant} {b b' : BatteryState}
variable {log records : List PulseRecord} {s : AppState} {deltas : Table String ℚ} {cfg : Config}

/-! ## The log -/

theorem NoSurvivorLog.concat {r : PulseRecord} (h : NoSurvivorLog log)
    (hr : ∀ value, r = .drained value false → value ≠ 0 → overtaken log = false) :
    NoSurvivorLog (log ++ [r]) := by
  intro past value later hsplit hv
  rcases List.eq_nil_or_concat later with rfl | ⟨rest,last,rfl⟩
  · obtain ⟨rfl,hlast⟩ := List.append_inj' hsplit rfl
    exact hr value (List.cons.inj hlast).1 hv
  · have hassoc : log ++ [r] = (past ++ .drained value false::rest) ++ [last] := by
      rw [hsplit]
      simp
    obtain ⟨rfl,-⟩ := List.append_inj' hassoc rfl
    exact h past value rest rfl hv

theorem NoSurvivorLog.append (h : NoSurvivorLog log)
    (hr : ∀ value, .drained value false ∉ records) : NoSurvivorLog (log ++ records) := by
  induction records using List.reverseRecOn with
  | nil => rwa [List.append_nil]
  | append_singleton records r ih =>
    rw [← List.append_assoc]
    refine (ih (fun value hm => hr value (List.mem_append_left _ hm))).concat (fun value hv => ?_)
    exact absurd (List.mem_append_right _ (List.mem_singleton.mpr hv.symm)) (hr value)

theorem queueRecord_not_drained (value : ℚ) :
    PulseRecord.drained value false ∉ queueRecord s now deltas b := by
  unfold queueRecord
  split
  · split <;> simp
  · split <;> simp

theorem LeftoverPulse.queue (hgate : s.circuitMuted now b.circuit = false → b.pulseRemaining = 0) :
    LeftoverPulse (log ++ queueRecord s now deltas b) (queuePulse s now deltas b) := by
  unfold LeftoverPulse queueRecord queuePulse
  by_cases hm : s.circuitMuted now b.circuit = true
  · rw [if_pos hm, if_pos hm]
    exact fun hr => absurd hr (lt_irrefl 0)
  · rw [if_neg hm, if_neg hm]
    dsimp only
    split
    · rw [hgate (Bool.eq_false_iff.mpr hm)]
      exact fun hr => absurd hr (lt_irrefl 0)
    · intro _
      simp [overtaken,unreached,PulseRecord.overtakes,PulseRecord.waits]

theorem SurvivorInv.step_leftover (h : SurvivorInv sys) (e : PulseEvent) (id : String)
    (b' : BatteryState) (hb' : (pulseStep sys e).app.batteries.get? id = some b') :
    LeftoverPulse ((pulseStep sys e).log id) b' := by
  cases pulseStep_moved sys e id with
  | absent _ hnone _ => rw [hnone] at hb'; cases hb'
  | present b c records hb hc _ hlog hmove =>
    rw [hc] at hb'
    cases hb'
    rw [hlog]
    have hleft := h.leftover id b hb
    cases hmove with
    | keep _ hr =>
      rw [List.append_nil, LeftoverPulse, hr]
      exact hleft
    | mute =>
      intro _
      simp [overtaken,unreached,PulseRecord.overtakes,PulseRecord.waits]
    | queue now clock deltas _ hphase hq =>
      rw [hq]
      exact .queue (fun hm => h.pulses.gate now (by rw [hphase]; rfl) id b hb hm)
    | drain now clock _ _ hd =>
      intro hr
      have hpending : 0 < b.pulseRemaining := by
        by_contra hz
        rw [hd, (drainPulse_of_empty (Nat.eq_zero_of_not_pos hz) now).2.1] at hr
        exact lt_irrefl 0 hr
      simpa [overtaken,unreached,PulseRecord.overtakes,PulseRecord.waits] using hleft hpending

theorem SurvivorInv.step_none (h : SurvivorInv sys) (hfirst : ReachedFirst sys e) :
    NoSurvivor (pulseStep sys e) := by
  intro id
  cases pulseStep_moved sys e id with
  | absent _ _ hlog => rw [hlog]; exact h.none id
  | present b c records hb _ _ hlog hmove =>
    rw [hlog]
    cases hmove with
    | keep => exact (h.none id).append (fun _ hm => nomatch hm)
    | mute => exact (h.none id).append (by simp)
    | queue now clock deltas => exact (h.none id).append queueRecord_not_drained
    | drain now clock he hadmitted _ =>
      subst he
      refine (h.none id).concat (fun value hv hne => ?_)
      obtain ⟨hvalue,hopen⟩ := PulseRecord.drained.inj hv
      have hpending : 0 < b.pulseRemaining := by
        by_contra hz
        rw [(drainPulse_of_empty (Nat.eq_zero_of_not_pos hz) now).1] at hvalue
        exact hne hvalue.symm
      rw [h.leftover id b hb hpending]
      exact hfirst hadmitted id b rfl hb hpending hopen

theorem SurvivorInv.step (h : SurvivorInv sys) (hfirst : ReachedFirst sys e) :
    SurvivorInv (pulseStep sys e) :=
  ⟨h.pulses.step e,h.step_leftover e,h.step_none hfirst⟩

theorem reachedFirst_of_noSurvivor (h : SurvivorInv sys) (hnone : NoSurvivor (pulseStep sys e)) :
    ReachedFirst sys e := by
  cases e with
  | tick => trivial
  | proceed => trivial
  | request => trivial
  | world => trivial
  | drain batteryId now clock =>
    rintro hadmitted id b rfl hb hpending hopen
    have hlog : (pulseStep sys (.drain (some id) now clock)).log id =
        sys.log id ++ .drained (drainPulse now b).1 false::[] := by
      simp only [pulseStep,if_pos hadmitted,PulseSystem.recorded,hb,Option.map_some,
        Option.getD_some,if_true,hopen]
    have hvalue : (drainPulse now b).1 ≠ 0 := by
      obtain ⟨n,hn⟩ := Nat.exists_eq_succ_of_ne_zero hpending.ne'
      rw [(drainPulse_of_pending hn now).1]
      exact (h.pulses.tracks id b hb).value_ne_zero hpending
    rw [← h.leftover id b hb hpending]
    exact hnone id (sys.log id) _ [] hlog hvalue

theorem SurvivorInv.start (cfg : Config) : SurvivorInv (PulseSystem.start cfg) :=
  ⟨.start cfg,fun _ _ _ _ => rfl,fun _ past value later hsplit => by
    rw [PulseSystem.start] at hsplit
    simp at hsplit⟩

/-- No pulse survives a silence exactly when a tick has come to the queue before every sample taken
after one. -/
theorem no_survivor_iff (cfg : Config) (events : List PulseEvent) :
    (∀ pre post, events = pre ++ post → NoSurvivor (run pulseStep (PulseSystem.start cfg) pre)) ↔
      StepsMeet pulseStep ReachedFirst (PulseSystem.start cfg) events :=
  run_exact SurvivorInv NoSurvivor (.start cfg) (fun _ _ h he => h.step he) (fun _ h => h.none)
    (fun _ _ h hn => reachedFirst_of_noSurvivor h hn)

/-! ## A battery that stops asking -/

/-- The third battery never asks for its samples; the plugs of the garage fall silent for ten
seconds. Ticks come every two seconds. -/
def silentGarage : List PulseEvent :=
  (List.range 36).flatMap (fun (i : ℕ) =>
    meters 0 1000 (fun id => if id = "c" ∨ 6 ≤ i then 2 * i else 0) (2 * i)::pulseTick (2 * i)) ++
      pollsOf "a" "10.0.0.1" 71

theorem sample_survives_silence : pulseHouse.validate (fun _ => true) = .ok () ∧
    (run pulseStep (PulseSystem.start pulseHouse) silentGarage).log "a" =
      [.reached,.armed 330,.muted] ++
        .drained 330 false::[.drained 330 false,.drained 330 false] ∧
    ¬ NoSurvivor (run pulseStep (PulseSystem.start pulseHouse) silentGarage) := by
  have hlog : (run pulseStep (PulseSystem.start pulseHouse) silentGarage).log "a" =
      [.reached,.armed 330,.muted] ++
        .drained 330 false::[.drained 330 false,.drained 330 false] := by decide +kernel
  exact ⟨pulseHouse_valid,hlog,fun h => absurd (h "a" _ _ _ hlog (by norm_num)) (by decide)⟩

end ShellyMultiplexer
