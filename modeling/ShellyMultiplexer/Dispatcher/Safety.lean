import ShellyMultiplexer.Dispatcher.StepModbus

/-! # Circuit safety

A circuit over its cap and the margin is remediated in two phases: after a grace period its members
are sent standby, after a second one the plug relay of the worst offender is opened. Every circuit is
judged alone; what the judgements ask for is carried out together.
-/
namespace ShellyMultiplexer
open Foundation

def overloadGrace : Duration := max emergencyCutoffGraceS (1 / 2)
def softGrace : Duration := max emergencySoftRemediationGraceS 1
def cutoffRecovery : Duration := max emergencyCutoffRecoveryS 60

/-- The members whose relay is on, or not known to be off. -/
def relayOnMembers (s : AppState) (cs : CircuitState) : List BatteryState :=
  (s.lookup cs.memberIds).filter (fun b => b.plugRelayState.getD true)

def signedSum (members : List BatteryState) : ℚ :=
  (members.filterMap BatteryState.lastPlugW).sum

/-- `members` is not empty and exceeds the cap and the margin. -/
def isOverloaded (s : AppState) (margin : ℚ) (cs : CircuitState) : Bool :=
  !(relayOnMembers s cs).isEmpty && cs.capW + margin < |signedSum (relayOnMembers s cs)|

/-- The comparison behind `max_by`: the larger measured power wins. -/
def drawsMore (a b : BatteryState) : Bool := |b.lastPlugW.getD 0| < |a.lastPlugW.getD 0|

def worstOffender (members : List BatteryState) (now : Instant) : Option BatteryState :=
  maxBy drawsMore (members.filter (fun b => !b.isCut now &&
    (b.lastPlugW.map (fun w => signum w = signum (signedSum members) && 0 < |w|)).getD false))

structure Trip where
  batteryId : String
  plugUrl : String
  reason : String
  deriving DecidableEq

structure Verdict where
  circuit : CircuitState
  softRemediate : List String := []
  trip : Option Trip := none

def tripReason (cs : CircuitState) (signedSum margin : ℚ) (overFor softFor : Duration) : String :=
  s!"circuit {cs.config.id} over cap: |{formatFixed 0 signedSum} W| > " ++
    s!"{formatFixed 0 cs.capW} W + {formatFixed 0 margin} W margin for {formatFixed 1 overFor}s " ++
    s!"(soft remediation didn't help after {formatFixed 1 softFor}s)"

def clearClocks (cs : CircuitState) : CircuitState :=
  { cs with overloadStartedAt := none, softRemediationStartedAt := none }

def judgeCircuit (s : AppState) (margin : ℚ) (now : Instant) (cs : CircuitState) : Verdict :=
  let members := relayOnMembers s cs
  if isOverloaded s margin cs then
    let started := cs.overloadStartedAt.getD now
    let overFor := durationSince now started
    let cs := { cs with overloadStartedAt := some started }
    if overFor < overloadGrace then { circuit := cs }
    else
      let softStarted := cs.softRemediationStartedAt.getD now
      let softFor := durationSince now softStarted
      { circuit := { cs with softRemediationStartedAt := some softStarted }
        softRemediate := (members.filter (fun b => !b.isCut now)).map (·.id)
        trip :=
          if softGrace ≤ softFor then (worstOffender members now).map (fun b =>
            ⟨b.id,b.plugUrl,tripReason cs (signedSum members) margin overFor softFor⟩)
          else none }
  else { circuit := clearClocks cs }

inductive CallKind
  | trip (reason : String)
  | recover
  | nightCut
  | nightRestore
  | manualReset
  deriving DecidableEq

/-- A call of `set_relay` that runs in the background. -/
structure RelayCall where
  kind : CallKind
  batteryId : String
  plugUrl : String
  deriving DecidableEq

/-- The state of the relay that a call asks for. -/
def CallKind.on : CallKind → Bool
  | trip _ => false
  | recover => true
  | nightCut => false
  | nightRestore => true
  | manualReset => true

/-- The stamp that is taken back when the call fails. -/
def stampTrip (now : Instant) (reason : String) (b : BatteryState) : BatteryState :=
  { b with
    plugCutUntil := some (now + cutoffRecovery)
    plugCutReason := some reason
    plugRelayState := some false }

/-- The cut is over: `plug_cut_until` is set and has passed. -/
def BatteryState.isRecoveryDue (b : BatteryState) (now : Instant) : Bool :=
  (b.plugCutUntil.map (fun t => decide (t ≤ now))).getD false

structure SafetyTick where
  state : AppState
  dispatch : Option Channels
  calls : List RelayCall

def enforceCircuitSafety (s : AppState) (dcfg : DispatcherConfig) (dispatch : Option Channels)
    (now : Instant) : SafetyTick :=
  if dcfg.emergencyCutoffMarginW ≤ 0 then ⟨s,dispatch,[]⟩
  else
    let verdicts := s.circuits.mapVal (fun _ => judgeCircuit s dcfg.emergencyCutoffMarginW now)
    let trips := verdicts.values.filterMap Verdict.trip
    let due := s.batteries.values.filter (fun b => b.isRecoveryDue now)
    { state := { s with
        circuits := verdicts.mapVal (fun _ => Verdict.circuit)
        batteries := trips.foldl (fun t trip => t.modify trip.batteryId
          (stampTrip now trip.reason)) s.batteries }
      dispatch := dispatch.map (fun channels => (verdicts.values.flatMap Verdict.softRemediate).foldl
        (fun ch id => send ch id .standby) channels)
      calls := trips.map (fun t => ⟨.trip t.reason,t.batteryId,t.plugUrl⟩) ++
        due.map (fun b => ⟨.recover,b.id,b.plugUrl⟩) }

/-! ## What a judgement can say -/

variable {s : AppState} {dcfg : DispatcherConfig} {now : Instant} {cs : CircuitState} {margin : ℚ}

theorem overloadGrace_eq : overloadGrace = 5 := by
  norm_num [overloadGrace,emergencyCutoffGraceS]

theorem softGrace_eq : softGrace = 10 := by
  norm_num [softGrace,emergencySoftRemediationGraceS]

theorem judgeCircuit_of_not_overloaded (h : isOverloaded s margin cs = false) :
    judgeCircuit s margin now cs = { circuit := clearClocks cs } := by
  simp only [judgeCircuit, h, Bool.false_eq_true, if_false]

/-- Within the grace period only the first clock is set. -/
theorem judgeCircuit_of_grace (h : isOverloaded s margin cs = true)
    (hg : now < cs.overloadStartedAt.getD now + overloadGrace) :
    judgeCircuit s margin now cs =
      { circuit := { cs with overloadStartedAt := some (cs.overloadStartedAt.getD now) } } := by
  have hpos : (0 : ℚ) < overloadGrace := by norm_num [overloadGrace_eq]
  simp only [judgeCircuit, h, if_true, if_pos ((durationSince_lt_iff hpos _ _).mpr hg)]

/-- After it both clocks are set, and the circuit is remediated. -/
theorem judgeCircuit_of_overdue (h : isOverloaded s margin cs = true)
    (hg : cs.overloadStartedAt.getD now + overloadGrace ≤ now) :
    (judgeCircuit s margin now cs).circuit =
        { cs with
          overloadStartedAt := some (cs.overloadStartedAt.getD now)
          softRemediationStartedAt := some (cs.softRemediationStartedAt.getD now) } ∧
      (judgeCircuit s margin now cs).softRemediate =
        ((relayOnMembers s cs).filter (fun b => !b.isCut now)).map (·.id) := by
  have hpos : (0 : ℚ) < overloadGrace := by norm_num [overloadGrace_eq]
  have hover : ¬ durationSince now (cs.overloadStartedAt.getD now) < overloadGrace :=
    fun hlt => not_lt.mpr hg ((durationSince_lt_iff hpos _ _).mp hlt)
  simp only [judgeCircuit, h, if_true, if_neg hover, and_self]

/-- A battery is tripped only when both clocks have run out. -/
theorem judgeCircuit_trip {t : Trip} (h : (judgeCircuit s margin now cs).trip = some t) :
    isOverloaded s margin cs = true ∧
      (∃ o, cs.overloadStartedAt = some o ∧ o + overloadGrace ≤ now) ∧
      (∃ x, cs.softRemediationStartedAt = some x ∧ x + softGrace ≤ now) ∧
      ∃ b, worstOffender (relayOnMembers s cs) now = some b ∧ t.batteryId = b.id ∧
        t.plugUrl = b.plugUrl ∧ ∃ overFor softFor cs', t.reason =
          tripReason cs' (signedSum (relayOnMembers s cs)) margin overFor softFor := by
  have hpos : (0 : ℚ) < overloadGrace := by norm_num [overloadGrace_eq]
  have hsoft : (0 : ℚ) < softGrace := by norm_num [softGrace_eq]
  cases ho : isOverloaded s margin cs with
  | false =>
    rw [judgeCircuit_of_not_overloaded ho] at h
    cases h
  | true =>
    simp only [judgeCircuit, ho, if_true] at h
    split at h
    · cases h
    rename_i hover
    simp only at h
    split at h
    · rename_i hlong
      obtain ⟨b,hb,rfl⟩ := Option.map_eq_some_iff.mp h
      have hstart := not_lt.mp hover
      rw [le_durationSince_iff hpos] at hstart
      rw [le_durationSince_iff hsoft] at hlong
      refine ⟨rfl,?_,?_,b,hb,rfl,rfl,_,_,_,rfl⟩
      · cases hc : cs.overloadStartedAt with
        | none =>
          rw [hc, Option.getD_none] at hstart
          linarith
        | some o => exact ⟨o,rfl,by simpa [hc] using hstart⟩
      · cases hc : cs.softRemediationStartedAt with
        | none =>
          rw [hc, Option.getD_none] at hlong
          linarith
        | some x => exact ⟨x,rfl,by simpa [hc] using hlong⟩
    · cases h

/-- And one is tripped once they have. -/
theorem judgeCircuit_trips {o x : Instant} (hover : isOverloaded s margin cs = true)
    (ho : cs.overloadStartedAt = some o) (hgrace : o + overloadGrace ≤ now)
    (hx : cs.softRemediationStartedAt = some x) (hsoft : x + softGrace ≤ now) {b : BatteryState}
    (hb : worstOffender (relayOnMembers s cs) now = some b) :
    ∃ reason, (judgeCircuit s margin now cs).trip = some ⟨b.id,b.plugUrl,reason⟩ := by
  have hpos : (0 : ℚ) < overloadGrace := by norm_num [overloadGrace_eq]
  have hsoftpos : (0 : ℚ) < softGrace := by norm_num [softGrace_eq]
  have hlate : ¬ durationSince now o < overloadGrace :=
    not_lt.mpr ((le_durationSince_iff hpos _ _).mpr hgrace)
  have hlong : softGrace ≤ durationSince now x := (le_durationSince_iff hsoftpos _ _).mpr hsoft
  simp [judgeCircuit,hover,ho,hx,hlate,hlong,hb]

@[simp] theorem judgeCircuit_topology :
    (judgeCircuit s margin now cs).circuit.toCircuitTopology = cs.toCircuitTopology := by
  cases ho : isOverloaded s margin cs with
  | false => rw [judgeCircuit_of_not_overloaded ho]; rfl
  | true =>
    rcases lt_or_ge now (cs.overloadStartedAt.getD now + overloadGrace) with hg | hg
    · rw [judgeCircuit_of_grace ho hg]
    · rw [(judgeCircuit_of_overdue ho hg).1]

@[simp] theorem judgeCircuit_silentUntil :
    (judgeCircuit s margin now cs).circuit.silentUntil = cs.silentUntil := by
  cases ho : isOverloaded s margin cs with
  | false => rw [judgeCircuit_of_not_overloaded ho]; rfl
  | true =>
    rcases lt_or_ge now (cs.overloadStartedAt.getD now + overloadGrace) with hg | hg
    · rw [judgeCircuit_of_grace ho hg]
    · rw [(judgeCircuit_of_overdue ho hg).1]

/-! ## What a tick carries out -/

/-- The trip whose stamp a battery ends up with. -/
def tripFor (trips : List Trip) (id : String) : Option Trip :=
  (trips.filter (fun t => t.batteryId == id)).getLast?

def stampWith (now : Instant) (trip : Option Trip) (b : BatteryState) : BatteryState :=
  (trip.map (fun t => stampTrip now t.reason b)).getD b

theorem get?_foldl_stampTrip (trips : List Trip) (t : Table String BatteryState) (id : String) :
    (trips.foldl (fun t trip => t.modify trip.batteryId (stampTrip now trip.reason)) t).get? id =
      (t.get? id).map (stampWith now (tripFor trips id)) := by
  induction trips using List.reverseRecOn with
  | nil => cases h : t.get? id <;> simp [tripFor,stampWith,h]
  | append_singleton trips trip ih =>
    rw [List.foldl_append, List.foldl_cons, List.foldl_nil, Table.get?_modify, ih]
    by_cases hid : id = trip.batteryId
    · subst hid
      rw [if_pos rfl, Option.map_map]
      refine congrArg (fun f => Option.map f _) (funext (fun b => ?_))
      simp only [Function.comp_apply, tripFor, List.filter_append, List.filter_cons, beq_self_eq_true,
        if_true, List.filter_nil, List.getLast?_append, List.getLast?_singleton, Option.some_or,
        stampWith, Option.map_some, Option.getD_some]
      cases (trips.filter (fun t => t.batteryId == trip.batteryId)).getLast? <;> rfl
    · rw [if_neg hid]
      have hne : (trip.batteryId == id) = false := by simpa using Ne.symm hid
      simp [tripFor,hne]

theorem tripFor_mem {trips : List Trip} {id : String} {t : Trip} (h : tripFor trips id = some t) :
    t ∈ trips ∧ t.batteryId = id := by
  have hm := List.mem_filter.mp (List.mem_of_getLast? h)
  exact ⟨hm.1,by simpa using hm.2⟩

theorem tripFor_eq_none_iff {trips : List Trip} {id : String} :
    tripFor trips id = none ↔ ∀ t ∈ trips, t.batteryId ≠ id := by
  simp [tripFor]

/-- The trips of a tick. -/
def tripsOf (s : AppState) (margin : ℚ) (now : Instant) : List Trip :=
  (s.circuits.mapVal (fun _ => judgeCircuit s margin now)).values.filterMap Verdict.trip

theorem mem_tripsOf {t : Trip} : t ∈ tripsOf s margin now ↔
    ∃ c cs, s.circuits.get? c = some cs ∧ (judgeCircuit s margin now cs).trip = some t := by
  simp only [tripsOf, List.mem_filterMap, Table.mem_values_iff, Table.get?_mapVal,
    Option.map_eq_some_iff]
  constructor
  · rintro ⟨v,⟨c,cs,hc,rfl⟩,ht⟩
    exact ⟨c,cs,hc,ht⟩
  · rintro ⟨c,cs,hc,ht⟩
    exact ⟨_,⟨c,cs,hc,rfl⟩,ht⟩

section Enforce
variable {dispatch : Option Channels}

theorem enforceCircuitSafety_disabled (h : dcfg.emergencyCutoffMarginW ≤ 0) :
    enforceCircuitSafety s dcfg dispatch now = ⟨s,dispatch,[]⟩ := if_pos h

theorem enforceCircuitSafety_circuit (h : 0 < dcfg.emergencyCutoffMarginW) (c : String) :
    (enforceCircuitSafety s dcfg dispatch now).state.circuits.get? c =
      (s.circuits.get? c).map
        (fun cs => (judgeCircuit s dcfg.emergencyCutoffMarginW now cs).circuit) := by
  rw [enforceCircuitSafety, if_neg (not_le.mpr h)]
  simp [Option.map_map,Function.comp_def]

theorem enforceCircuitSafety_battery (h : 0 < dcfg.emergencyCutoffMarginW) (id : String) :
    (enforceCircuitSafety s dcfg dispatch now).state.batteries.get? id =
      (s.batteries.get? id).map
        (stampWith now (tripFor (tripsOf s dcfg.emergencyCutoffMarginW now) id)) := by
  rw [enforceCircuitSafety, if_neg (not_le.mpr h)]
  exact get?_foldl_stampTrip _ _ _

theorem enforceCircuitSafety_calls (h : 0 < dcfg.emergencyCutoffMarginW) :
    (enforceCircuitSafety s dcfg dispatch now).calls =
      (tripsOf s dcfg.emergencyCutoffMarginW now).map
        (fun t => ⟨.trip t.reason,t.batteryId,t.plugUrl⟩) ++
      (s.batteries.values.filter (fun b => b.isRecoveryDue now)).map
        (fun b => ⟨.recover,b.id,b.plugUrl⟩) := by
  rw [enforceCircuitSafety, if_neg (not_le.mpr h)]
  rfl

theorem enforceCircuitSafety_snapshot :
    (enforceCircuitSafety s dcfg dispatch now).state.snapshot = s.snapshot := by
  unfold enforceCircuitSafety
  split <;> rfl

theorem stampWith_params (trip : Option Trip) (b : BatteryState) :
    (stampWith now trip b).toBatteryParams = b.toBatteryParams := by
  cases trip <;> rfl

theorem runtimeOf_enforceCircuitSafety {cfg : Config} (hs : s.RuntimeOf cfg) :
    (enforceCircuitSafety s dcfg dispatch now).state.RuntimeOf cfg := by
  rcases le_or_gt dcfg.emergencyCutoffMarginW 0 with hm | hm
  · rw [enforceCircuitSafety_disabled hm]
    exact hs
  · refine ⟨fun id => ?_,fun c => ?_⟩
    · rw [enforceCircuitSafety_battery hm, Option.map_map, ← hs.batteries id]
      exact congrArg (fun f => Option.map f _) (funext (fun b => stampWith_params _ b))
    · rw [enforceCircuitSafety_circuit hm, Option.map_map, ← hs.circuits c]
      exact congrArg (fun f => Option.map f _) (funext (fun cs => judgeCircuit_topology))

end Enforce
end ShellyMultiplexer
