import ShellyMultiplexer.Dispatcher.Shares
import ShellyMultiplexer.Guarantees.WholePulses

/-! # Where a sample comes from

Whatever a poll takes, apart from zero, was computed by an earlier tick: on a fresh grid sample, for
a battery with a plug reading on a circuit that was not silent, and never so that the battery would
be sent past what it can give or take.
-/
namespace ShellyMultiplexer
open Foundation
variable {s : AppState} {dcfg : DispatcherConfig} {gridW : ℚ} {now clock : Instant} {cfg : Config}

/-- The change keeps the battery between its reading and one of its bounds. -/
structure StaysWithin (dcfg : DispatcherConfig) (now : Instant) (b : BatteryState)
    (delta : ℚ) : Prop where
  lower : min (plugOf b) (lowBound b dcfg now) ≤ plugOf b + delta
  upper : plugOf b + delta ≤ max (plugOf b) (highBound b dcfg now)

theorem StaysWithin.of_part {b : BatteryState} {share scale : ℚ} (h0 : 0 ≤ scale) (h1 : scale ≤ 1)
    (hlow : lowBound b dcfg now ≤ share) (hhigh : share ≤ highBound b dcfg now) :
    StaysWithin dcfg now b (scale * (share - plugOf b)) := by
  have hcut : 0 ≤ 1 - scale := sub_nonneg.mpr h1
  rcases le_total share (plugOf b) with hdown | hup
  · have hway : scale * (share - plugOf b) ≤ 0 :=
      mul_nonpos_of_nonneg_of_nonpos h0 (sub_nonpos.mpr hdown)
    have hrest : share - plugOf b ≤ scale * (share - plugOf b) := by nlinarith
    exact ⟨(min_le_right _ _).trans (by linarith),le_max_of_le_left (by linarith)⟩
  · have hway : 0 ≤ scale * (share - plugOf b) := mul_nonneg h0 (sub_nonneg.mpr hup)
    have hrest : scale * (share - plugOf b) ≤ share - plugOf b := by nlinarith
    exact ⟨(min_le_left _ _).trans (by linarith),le_max_of_le_right (by linarith)⟩

/-- Only eligible batteries are asked to change, each within its bounds. -/
theorem computeDeltas_stays_within (hs : s.Valid) {deltas : Table String ℚ}
    (h : computeDeltas s dcfg gridW now = some deltas) {b : BatteryState}
    (hb : s.batteries.get? b.id = some b) {delta : ℚ} (hd : deltas.get? b.id = some delta)
    (hne : delta ≠ 0) : b ∈ s.eligible now ∧ StaysWithin dcfg now b delta := by
  obtain ⟨before,after,-,hafter,hwant,hscaled⟩ := computeDeltas_eq_scaled hs dcfg gridW now
  cases h.symm.trans hafter
  obtain ⟨cs,hcs,hmem,-⟩ := hs.home hb
  have hmember : b ∈ s.lookup cs.memberIds := (hs.mem_lookup hcs).mpr ⟨hb,rfl⟩
  obtain ⟨x,hx,hx'⟩ := hscaled hcs b hmember
  obtain rfl := Option.some.inj (hd.symm.trans hx')
  obtain ⟨h0,h1⟩ := deltaScale_mem (s := s) before cs
  have hxne := right_ne_zero_of_mul hne
  rw [hwant.get?_eq hs hb] at hx
  by_cases helig : b ∈ s.eligible now
  · rw [if_pos helig, wantedDelta] at hx
    obtain rfl := Option.some.inj hx
    split at hxne
    · exact absurd rfl hxne
    · rename_i hbal
      obtain ⟨hlow,hhigh⟩ := (filledShare_proper hs dcfg gridW now).window b helig
      rw [if_neg hbal]
      exact ⟨helig,.of_part h0 h1 hlow hhigh⟩
  · rw [if_neg helig] at hx
    exact absurd (Option.some.inj hx).symm hxne

/-! ## A tick on its way -/

theorem runtimeOf_proceed {sys : PulseSystem} (hrun : sys.app.RuntimeOf cfg) (clock : Instant) :
    (sys.proceed clock).app.RuntimeOf cfg := by
  rw [PulseSystem.proceed]
  cases sys.phase with
  | fresh dcfg now => exact runtimeOf_detectPulseOutcomes hrun dcfg now
  | computed now deltas => exact hrun.mapBatteries _ (fun _ b => queuePulse_params deltas b)
  | _ => exact hrun

theorem runtimeOf_pulseStep {sys : PulseSystem} (hrun : sys.app.RuntimeOf cfg) (e : PulseEvent) :
    (pulseStep sys e).app.RuntimeOf cfg := by
  refine ⟨fun id => ?_,fun c => ?_⟩
  · rw [← hrun.batteries id]
    cases pulseStep_moved sys e id with
    | absent hnone hnone' _ => rw [hnone, hnone']
    | present b b' records hb hb' hparams _ _ => rw [hb, hb', Option.map_some, Option.map_some, hparams]
  · cases e with
    | tick dcfg now =>
      by_cases hidle : sys.phase = .idle
      · rw [pulseStep_tick hidle]
        exact (runtimeOf_updateCircuitMute hrun).circuits c
      · rw [pulseStep_tick_of_busy hidle]
        exact hrun.circuits c
    | proceed clock => exact (runtimeOf_proceed hrun clock).circuits c
    | request peer now =>
      simp only [pulseStep]
      split
      · cases sys.app.byAddr.get? peer <;> exact hrun.circuits c
      · exact hrun.circuits c
    | drain batteryId now clock =>
      simp only [pulseStep]
      split
      · cases batteryId <;> exact hrun.circuits c
      · exact hrun.circuits c
    | world batteries circuits snapshot =>
      have h := hrun.mapCircuits (fun id cs => { circuits id with
        toCircuitTopology := cs.toCircuitTopology
        silentUntil := cs.silentUntil }) (fun _ _ => rfl)
      exact h.circuits c

/-- What the running tick was called with, until it has its deltas. -/
def PulsePhase.ticking : PulsePhase → Option (DispatcherConfig × Instant)
  | fresh dcfg now => some (dcfg,now)
  | classified dcfg now => some (dcfg,now)
  | opened dcfg now => some (dcfg,now)
  | idle => none
  | computed _ _ => none
  | ended => none

/-- A tick has found the grid sample fresh. -/
def GridChecked (cfg : Config) (past : List PulseEvent) (dcfg : DispatcherConfig)
    (now : Instant) : Prop :=
  ∃ before after, past = before ++ .tick dcfg now::after ∧
    (run pulseStep (PulseSystem.start cfg) before).phase = .idle ∧
    gridFresh (run pulseStep (PulseSystem.start cfg) before).app dcfg now = true

/-- A tick on a fresh grid sample has computed a change that keeps the battery within its bounds. -/
def PulseComputed (cfg : Config) (past : List PulseEvent) (id : String) (delta : ℚ) : Prop :=
  ∃ before clock after dcfg now deltas b, past = before ++ .proceed clock::after ∧
    GridChecked cfg before dcfg now ∧
    (run pulseStep (PulseSystem.start cfg) before).phase = .opened dcfg now ∧
    computeDeltas (run pulseStep (PulseSystem.start cfg) before).app dcfg
      ((run pulseStep (PulseSystem.start cfg) before).app.snapshot.totalActPower.getD 0) now =
        some deltas ∧
    deltas.get? id = some delta ∧
    b ∈ (run pulseStep (PulseSystem.start cfg) before).app.eligible now ∧ b.id = id ∧
    StaysWithin dcfg now b delta

theorem GridChecked.concat {past : List PulseEvent} (h : GridChecked cfg past dcfg now) (e : PulseEvent) :
    GridChecked cfg (past ++ [e]) dcfg now := by
  obtain ⟨before,after,rfl,hidle,hfresh⟩ := h
  exact ⟨before,after ++ [e],by simp,hidle,hfresh⟩

theorem PulseComputed.concat {past : List PulseEvent} {id : String} {delta : ℚ}
    (h : PulseComputed cfg past id delta) (e : PulseEvent) : PulseComputed cfg (past ++ [e]) id delta := by
  obtain ⟨before,clock,after,dcfg,now,deltas,b,rfl,h⟩ := h
  exact ⟨before,clock,after ++ [e],dcfg,now,deltas,b,by simp,h⟩

/-- What is left of a pulse after the queue was left before, or is armed now. -/
theorem pending_of_queue {deltas : Table String ℚ} {b : BatteryState}
    (hleft : 0 < (queuePulse s now deltas b).pulseRemaining) :
    (queuePulse s now deltas b).pendingPulseW = b.pendingPulseW ∧ 0 < b.pulseRemaining ∨
      .armed (queuePulse s now deltas b).pendingPulseW ∈ queueRecord s now deltas b := by
  unfold queuePulse queueRecord at *
  by_cases hm : s.circuitMuted now b.circuit = true
  · rw [if_pos hm] at hleft
    exact absurd hleft (lt_irrefl 0)
  rw [if_neg hm] at hleft
  rw [if_neg hm, if_neg hm]
  by_cases hsmall : |(deltas.get? b.id).getD 0| < writeDeadbandW
  · simp only [hsmall,if_true] at hleft ⊢
    exact Or.inl ⟨trivial,hleft⟩
  · simp only [hsmall,if_false]
    exact Or.inr (by simp)

/-! ## Over a run -/

/-- What is known of the running tick and of every pulse, after the events that led here. -/
structure OriginInv (cfg : Config) (past : List PulseEvent) (sys : PulseSystem) : Prop where
  here : sys = run pulseStep (PulseSystem.start cfg) past
  runtime : sys.app.RuntimeOf cfg
  checked : ∀ dcfg now, sys.phase.ticking = some (dcfg,now) → GridChecked cfg past dcfg now
  computed : ∀ now deltas, sys.phase = .computed now deltas → ∀ id b,
    sys.app.batteries.get? id = some b → ∀ delta, deltas.get? id = some delta → delta ≠ 0 →
      PulseComputed cfg past id delta
  armed : ∀ id delta, .armed delta ∈ sys.log id →
    PulseComputed cfg past id delta ∧ writeDeadbandW ≤ |delta|
  pending : ∀ id b, sys.app.batteries.get? id = some b → 0 < b.pulseRemaining →
    .armed b.pendingPulseW ∈ sys.log id
  drained : ∀ id value silent, .drained value silent ∈ sys.log id → value ≠ 0 →
    .armed value ∈ sys.log id

variable {past : List PulseEvent} {sys : PulseSystem}

namespace OriginInv

theorem step_checked (h : OriginInv cfg past sys) (e : PulseEvent) (dcfg : DispatcherConfig)
    (now : Instant) (hphase : (pulseStep sys e).phase.ticking = some (dcfg,now)) :
    GridChecked cfg (past ++ [e]) dcfg now := by
  have hkept : sys.phase.ticking = some (dcfg,now) → GridChecked cfg (past ++ [e]) dcfg now :=
    fun hsame => (h.checked dcfg now hsame).concat e
  cases e with
  | tick dcfg' now' =>
    by_cases hidle : sys.phase = .idle
    · rw [pulseStep_tick hidle] at hphase
      dsimp only at hphase
      split at hphase
      · rename_i hfresh
        cases hphase
        exact ⟨past,[],rfl,h.here ▸ hidle,h.here ▸ hfresh⟩
      · cases hphase
    · rw [pulseStep_tick_of_busy hidle] at hphase
      exact hkept hphase
  | proceed clock =>
    refine hkept ?_
    rw [pulseStep, PulseSystem.proceed] at hphase
    cases hp : sys.phase with
    | idle =>
      simp only [hp] at hphase
      exact hphase
    | fresh dcfg' now' =>
      simp only [hp] at hphase
      exact hphase
    | classified dcfg' now' =>
      simp only [hp] at hphase
      split at hphase
      · cases hphase
      · exact hphase
    | opened dcfg' now' =>
      simp only [hp] at hphase
      split at hphase <;> cases hphase
    | computed now' deltas =>
      simp only [hp] at hphase
      cases hphase
    | ended =>
      simp only [hp] at hphase
      cases hphase
  | request peer now' =>
    refine hkept ?_
    simp only [pulseStep] at hphase
    split at hphase <;> exact hphase
  | drain batteryId now' clock =>
    refine hkept ?_
    simp only [pulseStep] at hphase
    split at hphase <;> exact hphase
  | world batteries circuits snapshot => exact hkept hphase

/-- A tick that has just computed its deltas. -/
theorem of_opened (h : OriginInv cfg past sys) (hw : cfg.WellFormed) {clock : Instant}
    {dcfg : DispatcherConfig} (hphase : sys.phase = .opened dcfg now) {deltas : Table String ℚ}
    (hd : computeDeltas sys.app dcfg (sys.app.snapshot.totalActPower.getD 0) now = some deltas)
    {id : String} {b : BatteryState} (hb : sys.app.batteries.get? id = some b) {delta : ℚ}
    (hget : deltas.get? id = some delta) (hne : delta ≠ 0) :
    PulseComputed cfg (past ++ [.proceed clock]) id delta := by
  have hv := h.runtime.valid hw
  obtain rfl := hv.id_eq hb
  obtain ⟨helig,hstays⟩ := computeDeltas_stays_within hv hd hb hget hne
  have hcheck := h.checked dcfg now (by rw [hphase]; rfl)
  have hhere := h.here
  subst hhere
  exact ⟨past,clock,[],dcfg,now,deltas,b,rfl,hcheck,hphase,hd,hget,helig,rfl,hstays⟩

theorem step_computed (h : OriginInv cfg past sys) (hw : cfg.WellFormed) (e : PulseEvent)
    (now : Instant) (deltas : Table String ℚ) (hphase : (pulseStep sys e).phase = .computed now deltas)
    (id : String) (b : BatteryState) (hb : (pulseStep sys e).app.batteries.get? id = some b)
    (delta : ℚ) (hget : deltas.get? id = some delta) (hne : delta ≠ 0) :
    PulseComputed cfg (past ++ [e]) id delta := by
  obtain ⟨b₀,hb₀,-⟩ := pulseStep_change hb
  have hkept : sys.phase = .computed now deltas → PulseComputed cfg (past ++ [e]) id delta :=
    fun hsame => (h.computed now deltas hsame id b₀ hb₀ delta hget hne).concat e
  cases e with
  | tick dcfg' now' =>
    by_cases hidle : sys.phase = .idle
    · rw [pulseStep_tick hidle] at hphase
      dsimp only at hphase
      split at hphase <;> cases hphase
    · rw [pulseStep_tick_of_busy hidle] at hphase
      exact hkept hphase
  | proceed clock =>
    rw [pulseStep, PulseSystem.proceed] at hphase
    cases hp : sys.phase with
    | opened dcfg' now' =>
      simp only [hp] at hphase
      cases hd : computeDeltas sys.app dcfg' (sys.app.snapshot.totalActPower.getD 0) now' with
      | none =>
        rw [hd] at hphase
        cases hphase
      | some deltas' =>
        rw [hd] at hphase
        cases hphase
        exact h.of_opened hw hp hd hb₀ hget hne
    | classified dcfg' now' =>
      simp only [hp] at hphase
      split at hphase <;> cases hphase
    | _ =>
      simp only [hp] at hphase
      cases hphase
  | request peer now' =>
    refine hkept ?_
    simp only [pulseStep] at hphase
    split at hphase <;> exact hphase
  | drain batteryId now' clock =>
    refine hkept ?_
    simp only [pulseStep] at hphase
    split at hphase <;> exact hphase
  | world batteries circuits snapshot => exact hkept hphase

/-- A battery whose pulse is queued. -/
theorem queue_armed (h : OriginInv cfg past sys) (hw : cfg.WellFormed) {deltas : Table String ℚ}
    (hphase : sys.phase = .computed now deltas) {id : String} {b : BatteryState}
    (hb : sys.app.batteries.get? id = some b) {delta : ℚ}
    (hd : .armed delta ∈ queueRecord sys.app now deltas b) :
    PulseComputed cfg past id delta ∧ writeDeadbandW ≤ |delta| := by
  unfold queueRecord at hd
  split at hd
  · split at hd <;> simp at hd
  split at hd
  · simp at hd
  rename_i hlarge
  have hsame : delta = (deltas.get? b.id).getD 0 := by simpa using hd
  rw [← hsame] at hlarge
  have hne : delta ≠ 0 := by
    rintro rfl
    rw [abs_zero] at hlarge
    exact hlarge (by norm_num [writeDeadbandW])
  rw [(h.runtime.valid hw).id_eq hb] at hsame
  refine ⟨h.computed now deltas hphase id b hb delta ?_ hne,not_lt.mp hlarge⟩
  cases hget : deltas.get? id with
  | none =>
    rw [hget] at hsame
    exact absurd hsame hne
  | some x =>
    rw [hget, Option.getD_some] at hsame
    rw [hsame]

theorem step_armed (h : OriginInv cfg past sys) (hw : cfg.WellFormed) (e : PulseEvent) (id : String)
    (delta : ℚ) (hd : .armed delta ∈ (pulseStep sys e).log id) :
    PulseComputed cfg (past ++ [e]) id delta ∧ writeDeadbandW ≤ |delta| := by
  have hkept : .armed delta ∈ sys.log id → PulseComputed cfg (past ++ [e]) id delta ∧
      writeDeadbandW ≤ |delta| := fun hold => (h.armed id delta hold).imp_left (·.concat e)
  cases pulseStep_moved sys e id with
  | absent _ _ hlog => exact hkept (hlog ▸ hd)
  | present b b' records hb _ _ hlog hmove =>
    rw [hlog] at hd
    rcases List.mem_append.mp hd with hold | hnew
    · exact hkept hold
    · cases hmove with
      | keep => cases hnew
      | mute => simp at hnew
      | queue now clock deltas _ hphase _ =>
        exact (h.queue_armed hw hphase hb hnew).imp_left (·.concat e)
      | drain => simp at hnew

theorem step_pending (h : OriginInv cfg past sys) (e : PulseEvent) (id : String) (b' : BatteryState)
    (hb' : (pulseStep sys e).app.batteries.get? id = some b') (hleft : 0 < b'.pulseRemaining) :
    .armed b'.pendingPulseW ∈ (pulseStep sys e).log id := by
  cases pulseStep_moved sys e id with
  | absent _ hnone _ =>
    rw [hnone] at hb'
    cases hb'
  | present b c records hb hc _ hlog hmove =>
    cases hb'.symm.trans hc
    rw [hlog]
    have hold : 0 < b.pulseRemaining → .armed b.pendingPulseW ∈ sys.log id ++ records :=
      fun hpos => List.mem_append_left _ (h.pending id b hb hpos)
    cases hmove with
    | keep hp hr =>
      rw [hp]
      exact hold (hr ▸ hleft)
    | mute hp hr =>
      rw [hp]
      exact hold (hr ▸ hleft)
    | queue now clock deltas _ _ hq =>
      subst hq
      rcases pending_of_queue hleft with ⟨hp,hpos⟩ | harmed
      · rw [hp]
        exact hold hpos
      · exact List.mem_append_right _ harmed
    | drain now clock _ _ hq =>
      subst hq
      cases hr : b.pulseRemaining with
      | zero =>
        obtain ⟨-,hzero,-⟩ := drainPulse_of_empty hr now
        rw [hzero] at hleft
        exact absurd hleft (lt_irrefl 0)
      | succ n =>
        obtain ⟨-,hn,hpending⟩ := drainPulse_of_pending hr now
        rw [hn] at hleft
        rw [hpending hleft]
        exact hold (by rw [hr]; exact Nat.succ_pos n)

theorem step_drained (h : OriginInv cfg past sys) (e : PulseEvent) (id : String) (value : ℚ)
    (silent : Bool) (hd : .drained value silent ∈ (pulseStep sys e).log id) (hne : value ≠ 0) :
    .armed value ∈ (pulseStep sys e).log id := by
  cases pulseStep_moved sys e id with
  | absent _ _ hlog =>
    rw [hlog] at hd ⊢
    exact h.drained id value silent hd hne
  | present b b' records hb _ _ hlog hmove =>
    rw [hlog] at hd ⊢
    rcases List.mem_append.mp hd with hold | hnew
    · exact List.mem_append_left _ (h.drained id value silent hold hne)
    · refine List.mem_append_left _ ?_
      cases hmove with
      | keep => cases hnew
      | mute => simp at hnew
      | queue now clock deltas _ _ _ =>
        unfold queueRecord at hnew
        split at hnew
        · split at hnew <;> simp at hnew
        · split at hnew <;> simp at hnew
      | drain now clock _ _ _ =>
        have hvalue : value = (drainPulse now b).1 := by
          rw [List.mem_singleton] at hnew
          exact (PulseRecord.drained.inj hnew).1
        cases hr : b.pulseRemaining with
        | zero => exact absurd (hvalue.trans (drainPulse_of_empty hr now).1) hne
        | succ n =>
          rw [hvalue, (drainPulse_of_pending hr now).1]
          exact h.pending id b hb (by rw [hr]; exact Nat.succ_pos n)

theorem step (h : OriginInv cfg past sys) (hw : cfg.WellFormed) (e : PulseEvent) :
    OriginInv cfg (past ++ [e]) (pulseStep sys e) where
  here := by rw [run_concat, ← h.here]
  runtime := runtimeOf_pulseStep h.runtime e
  checked := h.step_checked e
  computed := h.step_computed hw e
  armed := h.step_armed hw e
  pending := h.step_pending e
  drained := h.step_drained e

theorem start (cfg : Config) : OriginInv cfg [] (PulseSystem.start cfg) where
  here := rfl
  runtime := AppState.RuntimeOf.refl cfg
  checked := by simp [PulseSystem.start,PulsePhase.ticking]
  computed := by simp [PulseSystem.start]
  armed := by simp [PulseSystem.start]
  pending := by
    intro id b hb hpos
    refine absurd hpos (Table.of_get?_foldl_insert (P := fun b : BatteryState =>
      ¬ 0 < b.pulseRemaining) (fun k v hv => ?_) (fun a => ?_) hb)
    · rw [Table.get?_empty] at hv
      cases hv
    · exact lt_irrefl 0
  drained := by simp [PulseSystem.start]

end OriginInv

/-- Every sample a poll takes, apart from zero, was computed by an earlier tick. -/
theorem sample_traces_to_tick {isSocketAddr : String → Bool}
    (hcfg : cfg.validate isSocketAddr = .ok ()) (events : List PulseEvent) {id : String} {value : ℚ}
    {silent : Bool}
    (h : .drained value silent ∈ (run pulseStep (PulseSystem.start cfg) events).log id)
    (hne : value ≠ 0) : PulseComputed cfg events id value ∧ writeDeadbandW ≤ |value| := by
  have hw := Config.wellFormed_of_validate hcfg
  have hinv := run_past (OriginInv cfg) (.start cfg) (fun _ _ e hinv => hinv.step hw e) events
  exact hinv.armed id value (hinv.drained id value silent h hne)

theorem sample_traces_to_tick_house :
    PulseComputed pulseHouse twoPulses "a" 330 ∧ writeDeadbandW ≤ |(330 : ℚ)| := by
  have htaken : PulseRecord.drained 330 false ∈
      (run pulseStep (PulseSystem.start pulseHouse) twoPulses).log "a" := by decide +kernel
  exact sample_traces_to_tick pulseHouse_valid twoPulses htaken (by norm_num)

end ShellyMultiplexer
