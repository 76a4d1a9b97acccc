import ShellyMultiplexer.Model.Topology

/-! # Muting

Stale measurements silence a circuit. In pulse mode the silence lasts until the integrators of the
inverters have cleared; in modbus mode it ends at the instant it begins.
-/
namespace ShellyMultiplexer
open Foundation

def silenceAfterStale (mode : DispatchMode) : Duration :=
  match mode with
  | .pulse => groupSilentAfterStaleS
  | .modbus => 0

def gridFresh (s : AppState) (dcfg : DispatcherConfig) (now : Instant) : Bool :=
  match s.snapshot.age with
  | some t => durationSince now t ≤ dcfg.gridStaleS
  | none => false

/-- Some member has no reading, or one that is too old. -/
def anyPlugStale (s : AppState) (dcfg : DispatcherConfig) (now : Instant) (cs : CircuitState) :
    Bool :=
  cs.memberIds.any (fun bid =>
    ((s.batteries.get? bid).map (fun b => !b.isPlugFresh now dcfg.plugStaleS)).getD true)

def muteCircuit (s : AppState) (dcfg : DispatcherConfig) (now : Instant) (cs : CircuitState) :
    CircuitState :=
  if anyPlugStale s dcfg now cs || !gridFresh s dcfg now then
    let target := now + silenceAfterStale dcfg.mode
    { cs with silentUntil := match cs.silentUntil with
        | some prev => if target < prev then some prev else some target
        | none => some target }
  else match cs.silentUntil with
    | some t => if t ≤ now then { cs with silentUntil := none } else cs
    | none => cs

/-- Also tells whether the grid reading is fresh enough to act on. -/
def updateCircuitMute (s : AppState) (dcfg : DispatcherConfig) (now : Instant) : AppState × Bool :=
  ({ s with circuits := s.circuits.mapVal (fun _ cs => muteCircuit s dcfg now cs) },
    gridFresh s dcfg now)

variable {s : AppState} {dcfg : DispatcherConfig} {now : Instant} {cs : CircuitState}

@[simp] theorem muteCircuit_topology :
    (muteCircuit s dcfg now cs).toCircuitTopology = cs.toCircuitTopology := by
  unfold muteCircuit
  split
  · rfl
  · split
    · split <;> rfl
    · rfl

@[simp] theorem updateCircuitMute_batteries :
    (updateCircuitMute s dcfg now).1.batteries = s.batteries := rfl

@[simp] theorem updateCircuitMute_snapshot :
    (updateCircuitMute s dcfg now).1.snapshot = s.snapshot := rfl

@[simp] theorem updateCircuitMute_fresh :
    (updateCircuitMute s dcfg now).2 = gridFresh s dcfg now := rfl

theorem updateCircuitMute_get? (c : String) :
    (updateCircuitMute s dcfg now).1.circuits.get? c =
      (s.circuits.get? c).map (muteCircuit s dcfg now) := Table.get?_mapVal _ _ _

/-- A circuit with a stale measurement is silenced to the end of the silence at least, and
silenced now exactly when the mode has a silence or it was silenced beyond now before. -/
theorem isSilent_muteCircuit_of_stale
    (h : (anyPlugStale s dcfg now cs || !gridFresh s dcfg now) = true) :
    (muteCircuit s dcfg now cs).isSilent now = true ↔
      dcfg.mode = .pulse ∨ cs.isSilent now = true := by
  rw [muteCircuit, if_pos h]
  cases hm : dcfg.mode with
  | pulse =>
    simp only [true_or, iff_true, CircuitState.isSilent, silenceAfterStale]
    have hp : (0 : ℚ) < groupSilentAfterStaleS := by norm_num [groupSilentAfterStaleS]
    cases hs : cs.silentUntil with
    | none => simpa using hp
    | some prev =>
      by_cases hlt : now + groupSilentAfterStaleS < prev
      · simpa [hlt] using (lt_add_of_pos_right now hp).trans hlt
      · simpa [hlt] using hp
  | modbus =>
    simp only [reduceCtorEq, false_or, CircuitState.isSilent, silenceAfterStale, add_zero]
    cases hs : cs.silentUntil with
    | none => simp
    | some prev =>
      by_cases hlt : now < prev
      · simp [hlt]
      · simp [hlt]

theorem isSilent_muteCircuit_of_fresh
    (h : (anyPlugStale s dcfg now cs || !gridFresh s dcfg now) = false) :
    (muteCircuit s dcfg now cs).isSilent now = cs.isSilent now := by
  rw [muteCircuit, h, if_neg Bool.false_ne_true]
  cases hs : cs.silentUntil with
  | none => rfl
  | some t =>
    simp only
    split
    · rename_i hle
      simp [CircuitState.isSilent,hs,hle]
    · rfl

/-- In modbus mode a silence is never in force at the instant it begins, so muting changes nobody's
eligibility. -/
theorem isSilent_muteCircuit_modbus (hm : dcfg.mode = .modbus) :
    (muteCircuit s dcfg now cs).isSilent now = cs.isSilent now := by
  cases h : anyPlugStale s dcfg now cs || !gridFresh s dcfg now with
  | false => exact isSilent_muteCircuit_of_fresh h
  | true =>
    have := isSilent_muteCircuit_of_stale h
    rw [hm] at this
    rw [Bool.eq_iff_iff, this]
    simp

theorem runtimeOf_updateCircuitMute {cfg : Config} (hs : s.RuntimeOf cfg) :
    (updateCircuitMute s dcfg now).1.RuntimeOf cfg :=
  hs.mapCircuits _ (fun _ _ => muteCircuit_topology)

end ShellyMultiplexer
