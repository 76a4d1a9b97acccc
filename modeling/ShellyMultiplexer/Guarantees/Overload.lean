import ShellyMultiplexer.Dispatcher.Safety
import ShellyMultiplexer.Dispatcher.Shares
import ShellyMultiplexer.Foundation.Runs

/-! # Trips and the overload before them

The two clocks of a circuit stand for its history: the first names a tick since which the circuit has
been over its cap and margin, the second a later one at which the remediation began. Every tick with
the cutoff enabled keeps that reading of the clocks. A tick with the cutoff disabled returns before
it looks at the circuit and leaves the clocks as they are, so they keep their meaning only when the
circuit happens to be overloaded at that tick or has no clock running.
-/
namespace ShellyMultiplexer
open Foundation

/-- What a tick of the circuit safety finds: all that is not its own doing. -/
structure SafetyInput (cfg : Config) where
  now : Instant
  dcfg : DispatcherConfig
  dispatch : Option Channels
  batteries : Table String BatteryState
  silence : String → Option Instant
  params : ∀ id, (batteries.get? id).map BatteryState.toBatteryParams =
    ((AppState.fromConfig cfg).batteries.get? id).map BatteryState.toBatteryParams

variable {cfg : Config} {s : AppState} {c : String}

def SafetyInput.observe (e : SafetyInput cfg) (s : AppState) : AppState :=
  { s with
    batteries := e.batteries
    circuits := s.circuits.mapVal (fun c cs => { cs with silentUntil := e.silence c }) }

def SafetyInput.tick (s : AppState) (e : SafetyInput cfg) : SafetyTick :=
  enforceCircuitSafety (e.observe s) e.dcfg e.dispatch e.now

def safetyStep (s : AppState) (e : SafetyInput cfg) : AppState := (e.tick s).state

/-- The signed plug sum of the relay-on members exceeds the cap and the margin of the tick. -/
def SafetyInput.OverAt (c : String) (e : SafetyInput cfg) : Prop :=
  ∃ cs, (AppState.fromConfig cfg).circuits.get? c = some cs ∧
    cs.capW + e.dcfg.emergencyCutoffMarginW <
      |signedSum (relayOnMembers { AppState.fromConfig cfg with batteries := e.batteries } cs)|

/-- The tick trips a member of the circuit. -/
def SafetyTick.TripsOn (cfg : Config) (c : String) (t : SafetyTick) : Prop :=
  ∃ cs reason id url, (AppState.fromConfig cfg).circuits.get? c = some cs ∧ id ∈ cs.memberIds ∧
    (⟨.trip reason,id,url⟩ : RelayCall) ∈ t.calls

/-- The cutoff is enabled, or the circuit has no clock running, or it is overloaded anyway. -/
def KeepsHistory (c : String) (s : AppState) (e : SafetyInput cfg) : Prop :=
  0 < e.dcfg.emergencyCutoffMarginW ∨
    (∀ cs, s.circuits.get? c = some cs → cs.overloadStartedAt = none) ∨ e.OverAt c

/-- The circuit has been over since the tick at `o`. -/
def OverSince (c : String) (o : Instant) (past : List (SafetyInput cfg)) : Prop :=
  ∃ pre e post, past = pre ++ e::post ∧ e.now = o ∧ ∀ e' ∈ e::post, e'.OverAt c

/-- The clocks of a circuit read as its history. -/
structure ClocksTell (c : String) (past : List (SafetyInput cfg)) (cs : CircuitState) : Prop where
  overload : ∀ o, cs.overloadStartedAt = some o → OverSince c o past
  soft : ∀ x, cs.softRemediationStartedAt = some x →
    ∃ o, cs.overloadStartedAt = some o ∧ o + overloadGrace ≤ x

structure HistoryKept (c : String) (past : List (SafetyInput cfg)) (s : AppState) : Prop where
  runtime : s.RuntimeOf cfg
  clocks : ∀ cs, s.circuits.get? c = some cs → ClocksTell c past cs

theorem OverSince.extend {o : Instant} {past : List (SafetyInput cfg)} (h : OverSince c o past)
    {e : SafetyInput cfg} (he : e.OverAt c) : OverSince c o (past ++ [e]) := by
  obtain ⟨pre,e₀,post,rfl,ho,hall⟩ := h
  refine ⟨pre,e₀,post ++ [e],by simp,ho,fun e' he' => ?_⟩
  rcases List.mem_append.mp (List.cons_append ▸ he' : e' ∈ (e₀::post) ++ [e]) with h | h
  · exact hall e' h
  · exact List.mem_singleton.mp h ▸ he

theorem OverSince.start {past : List (SafetyInput cfg)} {e : SafetyInput cfg} (he : e.OverAt c) :
    OverSince c e.now (past ++ [e]) :=
  ⟨past,e,[],rfl,rfl,fun _ h => List.mem_singleton.mp h ▸ he⟩

theorem runtimeOf_observe (hs : s.RuntimeOf cfg) (e : SafetyInput cfg) :
    (e.observe s).RuntimeOf cfg := by
  have h := hs.mapCircuits (fun c cs => { cs with silentUntil := e.silence c }) (fun _ _ => rfl)
  exact ⟨e.params,h.circuits⟩

theorem overAt_of_isOverloaded (hs : s.RuntimeOf cfg) (e : SafetyInput cfg) {cs : CircuitState}
    (hc : s.circuits.get? c = some cs) {cs' : CircuitState}
    (htop : cs'.toCircuitTopology = cs.toCircuitTopology)
    (h : isOverloaded (e.observe s) e.dcfg.emergencyCutoffMarginW cs' = true) : e.OverAt c := by
  have hmap := hs.circuits c
  rw [hc, Option.map_some] at hmap
  obtain ⟨cs₀,hcs₀,htop₀⟩ := Option.map_eq_some_iff.mp hmap.symm
  have hcap : cs'.capW = cs₀.capW := by
    rw [CircuitState.capW, CircuitState.capW, htop, htop₀]
  have hmembers : relayOnMembers (e.observe s) cs' = relayOnMembers
      { AppState.fromConfig cfg with batteries := e.batteries } cs₀ := by
    rw [relayOnMembers, relayOnMembers, htop, htop₀]
    rfl
  simp only [isOverloaded, Bool.and_eq_true, decide_eq_true_eq, hcap, hmembers] at h
  exact ⟨cs₀,hcs₀,h.2⟩

/-- What the judgement of a circuit does to its clocks. -/
theorem ClocksTell.judge {past : List (SafetyInput cfg)} {cs : CircuitState}
    (h : ClocksTell c past cs) {s : AppState} {margin : ℚ} {e : SafetyInput cfg}
    (hover : isOverloaded s margin cs = true → e.OverAt c) :
    ClocksTell c (past ++ [e]) (judgeCircuit s margin e.now cs).circuit := by
  cases ho : isOverloaded s margin cs with
  | false =>
    rw [judgeCircuit_of_not_overloaded ho]
    exact ⟨fun _ h => (by cases h),fun _ h => (by cases h)⟩
  | true =>
    have hsince : OverSince c (cs.overloadStartedAt.getD e.now) (past ++ [e]) := by
      cases hstart : cs.overloadStartedAt with
      | none => exact OverSince.start (hover ho)
      | some o => exact (h.overload o hstart).extend (hover ho)
    rcases lt_or_ge e.now (cs.overloadStartedAt.getD e.now + overloadGrace) with hg | hg
    · rw [judgeCircuit_of_grace ho hg]
      refine ⟨fun o hstart => ?_,fun x hx => ?_⟩
      · cases hstart
        exact hsince
      · obtain ⟨o,hstart,hle⟩ := h.soft x hx
        exact ⟨o,by rw [hstart]; rfl,hle⟩
    · rw [(judgeCircuit_of_overdue ho hg).1]
      refine ⟨fun o hstart => ?_,fun x hx => ⟨_,rfl,?_⟩⟩
      · cases hstart
        exact hsince
      · cases hsoft : cs.softRemediationStartedAt with
        | none =>
          rw [hsoft] at hx
          cases hx
          exact hg
        | some y =>
          rw [hsoft] at hx
          cases hx
          obtain ⟨o,hstart,hle⟩ := h.soft y hsoft
          rw [hstart]
          exact hle

theorem HistoryKept.step {past : List (SafetyInput cfg)} (h : HistoryKept c past s)
    {e : SafetyInput cfg} (he : KeepsHistory c s e) :
    HistoryKept c (past ++ [e]) (safetyStep s e) := by
  refine ⟨runtimeOf_enforceCircuitSafety (runtimeOf_observe h.runtime e),fun cs' hcs' => ?_⟩
  unfold safetyStep SafetyInput.tick at hcs'
  rcases le_or_gt e.dcfg.emergencyCutoffMarginW 0 with hm | hm
  · rw [enforceCircuitSafety_disabled hm] at hcs'
    simp only [SafetyInput.observe, Table.get?_mapVal] at hcs'
    obtain ⟨cs,hcs,rfl⟩ := Option.map_eq_some_iff.mp hcs'
    have hcl := h.clocks cs hcs
    rcases he with he | hnone | hover
    · exact absurd he (not_lt.mpr hm)
    · have hn := hnone cs hcs
      refine ⟨fun o ho => ?_,fun x hx => ?_⟩
      · rw [hn] at ho
        cases ho
      · obtain ⟨o,ho,-⟩ := hcl.soft x hx
        rw [hn] at ho
        cases ho
    · exact ⟨fun o ho => (hcl.overload o ho).extend hover,hcl.soft⟩
  · rw [enforceCircuitSafety_circuit hm] at hcs'
    obtain ⟨cs₁,hcs₁,rfl⟩ := Option.map_eq_some_iff.mp hcs'
    simp only [SafetyInput.observe, Table.get?_mapVal] at hcs₁
    obtain ⟨cs,hcs,rfl⟩ := Option.map_eq_some_iff.mp hcs₁
    have hcl := h.clocks cs hcs
    have hobserved : ClocksTell c past { cs with silentUntil := e.silence c } :=
      ⟨hcl.overload,hcl.soft⟩
    exact hobserved.judge (fun ho => overAt_of_isOverloaded h.runtime e hcs rfl ho)

theorem historyKept_start (hw : cfg.WellFormed) (c : String) :
    HistoryKept c ([] : List (SafetyInput cfg)) (AppState.fromConfig cfg) := by
  refine ⟨AppState.RuntimeOf.refl cfg,fun cs hcs => ?_⟩
  obtain ⟨d,-,-,rfl⟩ := (fromConfig_circuit hw).mp hcs
  exact ⟨fun _ h => (by cases h),fun _ h => (by cases h)⟩

/-- A trip of a member of the circuit comes from the judgement of that circuit. -/
theorem SafetyTick.TripsOn.judged (hw : cfg.WellFormed) (hs : s.RuntimeOf cfg)
    {e : SafetyInput cfg} (h : (e.tick s).TripsOn cfg c) :
    0 < e.dcfg.emergencyCutoffMarginW ∧ ∃ cs t, (e.observe s).circuits.get? c = some cs ∧
      (judgeCircuit (e.observe s) e.dcfg.emergencyCutoffMarginW e.now cs).trip = some t := by
  obtain ⟨cs₀,reason,id,url,hcs₀,hid,hcall⟩ := h
  unfold SafetyInput.tick at hcall
  rcases le_or_gt e.dcfg.emergencyCutoffMarginW 0 with hm | hm
  · rw [enforceCircuitSafety_disabled hm] at hcall
    cases hcall
  · have hrun := runtimeOf_observe hs e
    have hv := hrun.valid hw
    rw [enforceCircuitSafety_calls hm, List.mem_append] at hcall
    rcases hcall with hcall | hcall
    · obtain ⟨t,ht,hte⟩ := List.mem_map.mp hcall
      obtain ⟨c',cs',hc',htrip⟩ := mem_tripsOf.mp ht
      obtain ⟨-,-,-,b,hb,hbid,-,-⟩ := judgeCircuit_trip htrip
      have hmem := (List.mem_filter.mp (List.mem_filter.mp (maxBy_mem hb)).1).1
      obtain ⟨hget,hcirc⟩ := (hv.mem_lookup hc').mp hmem
      have hmap := hrun.circuits c
      rw [hcs₀, Option.map_some] at hmap
      obtain ⟨cs,hcs,htop⟩ := Option.map_eq_some_iff.mp hmap
      rw [← htop] at hid
      obtain ⟨b',hget',hcirc'⟩ := hv.member hcs hid
      have hte : t.batteryId = id := congrArg RelayCall.batteryId hte
      rw [← hte, hbid, hget] at hget'
      cases hget'
      rw [hcirc] at hcirc'
      subst hcirc'
      exact ⟨hm,cs',t,hc',htrip⟩
    · obtain ⟨b,-,hb⟩ := List.mem_map.mp hcall
      cases hb

/-- A plug is tripped only after an uninterrupted overload, in every run that keeps its history. -/
theorem trip_needs_uninterrupted_overload {isSocketAddr : String → Bool}
    (hcfg : cfg.validate isSocketAddr = .ok ()) {events : List (SafetyInput cfg)}
    (htimes : events.Pairwise (fun a b => a.now < b.now))
    (hkeep : StepsMeet safetyStep (KeepsHistory c) (AppState.fromConfig cfg) events)
    {pre post : List (SafetyInput cfg)} {e : SafetyInput cfg} (he : events = pre ++ e::post)
    (htrip : (e.tick (run safetyStep (AppState.fromConfig cfg) pre)).TripsOn cfg c) :
    ∃ e₀ ∈ pre, e₀.now + (emergencyCutoffGraceS + emergencySoftRemediationGraceS) ≤ e.now ∧
      ∀ e' ∈ pre ++ [e], e₀.now ≤ e'.now → e'.OverAt c := by
  have hw := Config.wellFormed_of_validate hcfg
  subst he
  have hkept : HistoryKept c pre (run safetyStep (AppState.fromConfig cfg) pre) :=
    run_history (HistoryKept c) (historyKept_start hw c) (fun _ _ _ h hk => h.step hk) hkeep.prefix
  obtain ⟨hm,cs₁,t,hcs₁,ht⟩ := htrip.judged hw hkept.runtime
  obtain ⟨hover,⟨o,ho,-⟩,⟨x,hx,hlong⟩,-⟩ := judgeCircuit_trip ht
  simp only [SafetyInput.observe, Table.get?_mapVal] at hcs₁
  obtain ⟨cs,hcs,rfl⟩ := Option.map_eq_some_iff.mp hcs₁
  have htell := hkept.clocks cs hcs
  obtain ⟨before,e₀,after,rfl,hstart,hall⟩ := htell.overload o ho
  obtain ⟨o',ho',hsoft⟩ := htell.soft x hx
  cases ho.symm.trans ho'
  refine ⟨e₀,by simp,?_,fun e' he' hle => ?_⟩
  · rw [overloadGrace_eq] at hsoft
    rw [softGrace_eq] at hlong
    rw [hstart, emergencyCutoffGraceS, emergencySoftRemediationGraceS]
    linarith
  · rcases List.mem_append.mp he' with he' | he'
    · rcases List.mem_append.mp he' with hb | ha
      · have hlt : e'.now < e₀.now := by
          rw [List.append_assoc, List.pairwise_append] at htimes
          exact htimes.2.2 e' hb e₀ (by simp)
        exact absurd hle (not_le.mpr hlt)
      · exact hall e' ha
    · rw [List.mem_singleton.mp he']
      exact overAt_of_isOverloaded hkept.runtime e hcs rfl hover

/-! ## Runs in the house -/

/-- A tick that finds given plug readings under a given margin. -/
def readingsAt (now margin : ℚ) (w : String → ℚ) : SafetyInput house where
  now := now
  dcfg := { house.dispatcher with emergencyCutoffMarginW := margin }
  dispatch := none
  batteries := (AppState.measured house {} (plugged w)).batteries
  silence := fun _ => none
  params := (runtimeOf_plugged house {} w).batteries

/-- Both garage batteries discharge at full power. -/
def garageOver (now : ℚ) : SafetyInput house := readingsAt now 500 (fun _ => 2500)

theorem trip_needs_uninterrupted_overload_house :
    let pre := [garageOver 0,garageOver 6]
    ((garageOver 16).tick (run safetyStep (AppState.fromConfig house) pre)).TripsOn house "garage" ∧
      ∃ e₀ ∈ pre, e₀.now + (emergencyCutoffGraceS + emergencySoftRemediationGraceS) ≤ 16 ∧
        ∀ e' ∈ pre ++ [garageOver 16], e₀.now ≤ e'.now → e'.OverAt "garage" := by
  intro pre
  have htrip : ((garageOver 16).tick (run safetyStep (AppState.fromConfig house) pre)).TripsOn
      house "garage" :=
    ⟨((AppState.fromConfig house).circuits.get? "garage").get (by decide +kernel),
      "circuit garage over cap: |5000 W| > 2530 W + 500 W margin for 16.0s " ++
        "(soft remediation didn't help after 10.0s)","b","http://plug",by simp,by decide +kernel,
      by decide +kernel⟩
  have htimes : (pre ++ [garageOver 16]).Pairwise (fun a b => a.now < b.now) := by decide +kernel
  have hkeep : StepsMeet safetyStep (KeepsHistory "garage") (AppState.fromConfig house)
      (pre ++ [garageOver 16]) := by
    intro before e after he
    have hmem : e ∈ pre ++ [garageOver 16] := by simp [he]
    have hmargin : ∀ e ∈ pre ++ [garageOver 16], 0 < e.dcfg.emergencyCutoffMarginW := by
      decide +kernel
    exact Or.inl (hmargin e hmem)
  exact ⟨htrip,trip_needs_uninterrupted_overload house_valid htimes hkeep rfl htrip⟩

/-- The cutoff is switched off while the garage recovers; ten seconds into the next overload a plug
is tripped. -/
theorem trip_after_interrupted_overload :
    let pre := [garageOver 0,readingsAt 5 0 (fun _ => 0),garageOver 20]
    { house with dispatcher := { house.dispatcher with emergencyCutoffMarginW := 0 } }.validate
        (fun _ => true) = .ok () ∧
      (pre ++ [garageOver 30]).Pairwise (fun a b => a.now < b.now) ∧
      ((garageOver 30).tick (run safetyStep (AppState.fromConfig house) pre)).TripsOn
        house "garage" ∧
      ¬ ∃ e₀ ∈ pre, e₀.now + (emergencyCutoffGraceS + emergencySoftRemediationGraceS) ≤ 30 ∧
        ∀ e' ∈ pre ++ [garageOver 30], e₀.now ≤ e'.now → e'.OverAt "garage" := by
  intro pre
  refine ⟨by decide +kernel,by decide +kernel,
    ⟨((AppState.fromConfig house).circuits.get? "garage").get (by decide +kernel),
      "circuit garage over cap: |5000 W| > 2530 W + 500 W margin for 30.0s " ++
        "(soft remediation didn't help after 10.0s)","b","http://plug",by simp,by decide +kernel,
      by decide +kernel⟩,?_⟩
  have hrecovered : ¬ (readingsAt 5 0 (fun _ => 0)).OverAt "garage" := by
    rintro ⟨cs,hcs,hlt⟩
    have hcs' : (AppState.fromConfig house).circuits.get? "garage" =
      some (((AppState.fromConfig house).circuits.get? "garage").get (by decide +kernel)) := by simp
    cases hcs.symm.trans hcs'
    revert hlt
    decide +kernel
  rintro ⟨e₀,he₀,hold,hall⟩
  have hearly : ∀ e₀ ∈ pre, e₀.now + (emergencyCutoffGraceS + emergencySoftRemediationGraceS) ≤ 30 →
      e₀.now ≤ 5 := by decide +kernel
  exact hrecovered (hall _ (by simp [pre]) (hearly e₀ he₀ hold))

end ShellyMultiplexer
