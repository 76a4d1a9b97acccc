import ShellyMultiplexer.Foundation.Adjacent
import ShellyMultiplexer.Guarantees.Overload

/-! # Trips in time

An overload that lasts does not go unanswered: within the two grace periods and twice the time from
one tick to the next, a battery of the circuit is tripped.
-/
namespace ShellyMultiplexer
open Foundation

/-- Some batteries of the circuit have their relay on, and none of them is marked as cut. -/
def SafetyInput.NoneCut {cfg : Config} (c : String) (e : SafetyInput cfg) : Prop :=
  ∀ cs, (AppState.fromConfig cfg).circuits.get? c = some cs →
    relayOnMembers { AppState.fromConfig cfg with batteries := e.batteries } cs ≠ [] ∧
      ∀ b ∈ relayOnMembers { AppState.fromConfig cfg with batteries := e.batteries } cs,
        b.isCut e.now = false

/-- A tick of the overload: the cutoff is enabled, the circuit is over, and all of its batteries can
be tripped. -/
structure SafetyInput.Overdrawn {cfg : Config} (c : String) (e : SafetyInput cfg) : Prop where
  enabled : 0 < e.dcfg.emergencyCutoffMarginW
  overAt : e.OverAt c
  uncut : e.NoneCut c

/-! ## The offender -/

/-- Whenever there is a sum, some battery draws in its direction. -/
theorem exists_offender {members : List BatteryState} {now : Instant}
    (hsum : signedSum members ≠ 0) (hcut : ∀ b ∈ members, b.isCut now = false) :
    ∃ b, worstOffender members now = some b := by
  refine Option.ne_none_iff_exists'.mp (fun hnone => hsum ?_)
  rw [worstOffender, maxBy_eq_none_iff, List.filter_eq_nil_iff] at hnone
  have hagainst : ∀ w ∈ members.filterMap BatteryState.lastPlugW,
      signum w = signum (signedSum members) → w = 0 := by
    intro w hw hsign
    obtain ⟨b,hb,hplug⟩ := List.mem_filterMap.mp hw
    by_contra hne
    exact hnone b hb (by simp [hcut b hb,hplug,hsign,hne])
  rcases lt_trichotomy (signedSum members) 0 with hneg | hzero | hpos
  · refine absurd (List.sum_nonneg (fun w hw => ?_)) (not_le.mpr hneg)
    rcases lt_or_ge w 0 with hw' | hw'
    · exact (hagainst w hw (by rw [signum_of_neg hw', signum_of_neg hneg])).ge
    · exact hw'
  · exact hzero
  · refine absurd ((List.sum_le_card_nsmul _ 0 (fun w hw => ?_)).trans_eq (by simp))
      (not_le.mpr hpos)
    rcases lt_or_ge w 0 with hw' | hw'
    · exact hw'.le
    · exact (hagainst w hw (by rw [signum_of_nonneg hw', signum_of_nonneg hpos.le])).le

variable {cfg : Config} {s : AppState} {c : String}

/-- A tick of the overload finds the circuit overloaded, with an offender among its members. -/
theorem SafetyInput.Overdrawn.judged (hw : cfg.WellFormed) (hs : s.RuntimeOf cfg)
    {e : SafetyInput cfg} (he : e.Overdrawn c) : ∃ cs b, s.circuits.get? c = some cs ∧
      isOverloaded (e.observe s) e.dcfg.emergencyCutoffMarginW
        { cs with silentUntil := e.silence c } = true ∧
      b ∈ (e.observe s).lookup cs.memberIds ∧ worstOffender
        (relayOnMembers (e.observe s) { cs with silentUntil := e.silence c }) e.now = some b := by
  obtain ⟨cs₀,hcs₀,hover⟩ := he.overAt
  obtain ⟨hsome,hcut⟩ := he.uncut cs₀ hcs₀
  have hmap := hs.circuits c
  rw [hcs₀, Option.map_some] at hmap
  obtain ⟨cs,hcs,htop⟩ := Option.map_eq_some_iff.mp hmap
  have hmembers : relayOnMembers (e.observe s) { cs with silentUntil := e.silence c } =
      relayOnMembers { AppState.fromConfig cfg with batteries := e.batteries } cs₀ := by
    rw [relayOnMembers, relayOnMembers, htop]
    rfl
  have hcap : CircuitState.capW { cs with silentUntil := e.silence c } = cs₀.capW := by
    rw [CircuitState.capW, CircuitState.capW, htop]
  have hcap_nonneg : 0 ≤ cs₀.capW := by
    refine ((AppState.RuntimeOf.refl cfg).valid hw).capW_nonneg hcs₀ (fun hnone => hsome ?_)
    rw [relayOnMembers, AppState.lookup, hnone]
    rfl
  have hsum : signedSum (relayOnMembers
      { AppState.fromConfig cfg with batteries := e.batteries } cs₀) ≠ 0 := by
    have henabled := he.enabled
    exact abs_pos.mp (by linarith)
  obtain ⟨b,hb⟩ := exists_offender hsum hcut
  refine ⟨cs,b,hcs,?_,?_,by rw [hmembers]; exact hb⟩
  · simp only [isOverloaded, Bool.and_eq_true, decide_eq_true_eq, hcap, hmembers]
    exact ⟨by simpa using hsome,hover⟩
  · rw [← hmembers] at hb
    exact (List.mem_filter.mp (List.mem_filter.mp (maxBy_mem hb)).1).1

/-! ## The clocks over the overload -/

/-- An overload keeps the clocks that run and starts the others in their turn. -/
theorem judgeCircuit_clocks (s : AppState) (margin : ℚ) (now : Instant) (cs : CircuitState) :
    ((judgeCircuit s margin now cs).circuit.overloadStartedAt,
      (judgeCircuit s margin now cs).circuit.softRemediationStartedAt) =
    if isOverloaded s margin cs then
      (some (cs.overloadStartedAt.getD now),
        if now < cs.overloadStartedAt.getD now + overloadGrace then cs.softRemediationStartedAt
        else some (cs.softRemediationStartedAt.getD now))
    else (none,none) := by
  cases hover : isOverloaded s margin cs with
  | false =>
    rw [judgeCircuit_of_not_overloaded hover]
    rfl
  | true =>
    rw [if_pos rfl]
    split
    · rename_i hgrace
      rw [judgeCircuit_of_grace hover hgrace]
    · rename_i hgrace
      rw [(judgeCircuit_of_overdue hover (not_lt.mp hgrace)).1]

theorem safetyStep_circuit (s : AppState) (e : SafetyInput cfg) (c : String) :
    (safetyStep s e).circuits.get? c = (s.circuits.get? c).map (fun cs =>
      if e.dcfg.emergencyCutoffMarginW ≤ 0 then { cs with silentUntil := e.silence c }
      else (judgeCircuit (e.observe s) e.dcfg.emergencyCutoffMarginW e.now
        { cs with silentUntil := e.silence c }).circuit) := by
  unfold safetyStep SafetyInput.tick
  split
  · rename_i hm
    rw [enforceCircuitSafety_disabled hm, SafetyInput.observe, Table.get?_mapVal]
  · rename_i hm
    rw [enforceCircuitSafety_circuit (not_le.mp hm)]
    simp only [SafetyInput.observe,Table.get?_mapVal,Option.map_map]
    rfl

/-- Clocks show the times of ticks. -/
structure ClocksRun (c : String) (past : List (SafetyInput cfg)) (s : AppState) : Prop where
  runtime : s.RuntimeOf cfg
  overload : ∀ cs o, s.circuits.get? c = some cs → cs.overloadStartedAt = some o →
    ∃ e ∈ past, e.now = o
  soft : ∀ cs x, s.circuits.get? c = some cs → cs.softRemediationStartedAt = some x →
    ∃ e ∈ past, e.now = x

theorem ClocksRun.step {past : List (SafetyInput cfg)} (h : ClocksRun c past s)
    (e : SafetyInput cfg) : ClocksRun c (past ++ [e]) (safetyStep s e) := by
  have hgetD : ∀ (clock : Option Instant) (y : Instant), clock.getD e.now = y →
      (∀ y, clock = some y → ∃ e' ∈ past, e'.now = y) → ∃ e' ∈ past ++ [e], e'.now = y := by
    intro clock y hy hclock
    cases clock with
    | none => exact ⟨e,by simp,hy⟩
    | some z =>
      obtain ⟨e',he',hz⟩ := hclock z rfl
      exact ⟨e',List.mem_append_left _ he',hz.trans hy⟩
  have hkeep : ∀ y, (∃ e' ∈ past, e'.now = y) → ∃ e' ∈ past ++ [e], e'.now = y :=
    fun y ⟨e',he',hy⟩ => ⟨e',List.mem_append_left _ he',hy⟩
  refine ⟨runtimeOf_enforceCircuitSafety (runtimeOf_observe h.runtime e),?_,?_⟩
  · intro cs' o hcs' ho
    rw [safetyStep_circuit] at hcs'
    obtain ⟨cs,hcs,rfl⟩ := Option.map_eq_some_iff.mp hcs'
    split at ho
    · exact hkeep o (h.overload cs o hcs ho)
    · have hclocks := congrArg Prod.fst (judgeCircuit_clocks (e.observe s)
        e.dcfg.emergencyCutoffMarginW e.now { cs with silentUntil := e.silence c })
      rw [ho] at hclocks
      split at hclocks
      · exact hgetD _ o (Option.some.inj hclocks).symm (h.overload cs · hcs)
      · cases hclocks
  · intro cs' x hcs' hx
    rw [safetyStep_circuit] at hcs'
    obtain ⟨cs,hcs,rfl⟩ := Option.map_eq_some_iff.mp hcs'
    split at hx
    · exact hkeep x (h.soft cs x hcs hx)
    · have hclocks := congrArg Prod.snd (judgeCircuit_clocks (e.observe s)
        e.dcfg.emergencyCutoffMarginW e.now { cs with silentUntil := e.silence c })
      rw [hx] at hclocks
      split at hclocks
      · dsimp only at hclocks
        split at hclocks
        · exact hkeep x (h.soft cs x hcs hclocks.symm)
        · exact hgetD _ x (Option.some.inj hclocks).symm (h.soft cs · hcs)
      · cases hclocks

theorem clocksRun_run (cfg : Config) (c : String) (events : List (SafetyInput cfg))
    (hw : cfg.WellFormed) :
    ClocksRun c events (run safetyStep (AppState.fromConfig cfg) events) := by
  refine run_past (ClocksRun c) ⟨AppState.RuntimeOf.refl cfg,?_,?_⟩ (fun _ _ e h => h.step e) events
  · intro cs o hcs ho
    obtain ⟨d,-,-,rfl⟩ := (fromConfig_circuit hw).mp hcs
    cases ho
  · intro cs x hcs hx
    obtain ⟨d,-,-,rfl⟩ := (fromConfig_circuit hw).mp hcs
    cases hx

/-- An overload that a tick at `first` has found, as the clocks show it at `now`. -/
structure Escalates (c : String) (first now : Instant) (spacing : Duration) (s : AppState)
    (cs : CircuitState) : Prop where
  circuit : s.circuits.get? c = some cs
  started : ∃ o, cs.overloadStartedAt = some o ∧ o ≤ first
  soft : first + overloadGrace ≤ now →
    ∃ x, cs.softRemediationStartedAt = some x ∧ x ≤ first + overloadGrace + spacing

/-- The clocks after a tick of the overload. -/
theorem SafetyInput.Overdrawn.clocks (hw : cfg.WellFormed) (hs : s.RuntimeOf cfg)
    {e : SafetyInput cfg} (he : e.Overdrawn c) {cs : CircuitState}
    (hcs : s.circuits.get? c = some cs) : ∃ cs', (safetyStep s e).circuits.get? c = some cs' ∧
      cs'.overloadStartedAt = some (cs.overloadStartedAt.getD e.now) ∧
      cs'.softRemediationStartedAt =
        if e.now < cs.overloadStartedAt.getD e.now + overloadGrace then cs.softRemediationStartedAt
        else some (cs.softRemediationStartedAt.getD e.now) := by
  obtain ⟨cs₀,-,hcs₀,hover,-,-⟩ := he.judged hw hs
  cases hcs.symm.trans hcs₀
  have hclocks := judgeCircuit_clocks (e.observe s) e.dcfg.emergencyCutoffMarginW e.now
    { cs with silentUntil := e.silence c }
  rw [if_pos hover, Prod.mk.injEq] at hclocks
  refine ⟨_,?_,hclocks⟩
  rw [safetyStep_circuit, hcs, Option.map_some, if_neg (not_le.mpr he.enabled)]

theorem Escalates.start (hw : cfg.WellFormed) {past : List (SafetyInput cfg)}
    (h : ClocksRun c past s) {e : SafetyInput cfg} (he : e.Overdrawn c)
    (hpast : ∀ e' ∈ past, e'.now ≤ e.now) (spacing : Duration) :
    ∃ cs, Escalates c e.now e.now spacing (safetyStep s e) cs := by
  obtain ⟨cs,-,hcs,-⟩ := he.judged hw h.runtime
  obtain ⟨cs',hcs',hstarted,-⟩ := he.clocks hw h.runtime hcs
  have hgrace : (0 : ℚ) < overloadGrace := by norm_num [overloadGrace_eq]
  refine ⟨cs',hcs',⟨_,hstarted,?_⟩,fun hno => absurd hno (by linarith)⟩
  cases ho : cs.overloadStartedAt with
  | none => exact le_rfl
  | some o =>
    obtain ⟨e',he',rfl⟩ := h.overload cs o hcs ho
    exact hpast e' he'

/-- The remediation begins at the first tick after the grace period. -/
theorem Escalates.step (hw : cfg.WellFormed) {past : List (SafetyInput cfg)}
    (h : ClocksRun c past s) {first before : Instant} {spacing : Duration} {cs : CircuitState}
    (hesc : Escalates c first before spacing s cs) {e : SafetyInput cfg} (he : e.Overdrawn c)
    (hpast : ∀ e' ∈ past, e'.now ≤ e.now) (hspacing : e.now ≤ before + spacing) :
    ∃ cs', Escalates c first e.now spacing (safetyStep s e) cs' := by
  obtain ⟨cs',hcs',hstarted,hsoft⟩ := he.clocks hw h.runtime hesc.circuit
  obtain ⟨o,ho,hle⟩ := hesc.started
  rw [ho, Option.getD_some] at hstarted hsoft
  refine ⟨cs',hcs',⟨o,hstarted,hle⟩,fun hover => ?_⟩
  rw [if_neg (not_lt.mpr (by linarith))] at hsoft
  refine ⟨_,hsoft,?_⟩
  rcases le_or_gt (first + overloadGrace) before with hearly | hnew
  · obtain ⟨x,hx,hxle⟩ := hesc.soft hearly
    rw [hx]
    exact hxle
  · cases hx : cs.softRemediationStartedAt with
    | none =>
      rw [Option.getD_none]
      linarith
    | some x =>
      obtain ⟨e',he',rfl⟩ := h.soft cs x hesc.circuit hx
      have hbefore := hpast e' he'
      rw [Option.getD_some]
      linarith

/-! ## The trip -/

/-- Over an overload that has escalated far enough the tick trips. -/
theorem SafetyInput.Overdrawn.trips (hw : cfg.WellFormed) (hs : s.RuntimeOf cfg)
    {e : SafetyInput cfg} (he : e.Overdrawn c) {cs : CircuitState} {o x : Instant}
    (hcs : s.circuits.get? c = some cs) (ho : cs.overloadStartedAt = some o)
    (hgrace : o + overloadGrace ≤ e.now) (hx : cs.softRemediationStartedAt = some x)
    (hsoft : x + softGrace ≤ e.now) : (e.tick s).TripsOn cfg c := by
  obtain ⟨cs₁,b,hcs₁,hover,hb,hworst⟩ := he.judged hw hs
  cases hcs.symm.trans hcs₁
  obtain ⟨reason,htrip⟩ := judgeCircuit_trips hover ho hgrace hx hsoft hworst
  have hmap := hs.circuits c
  rw [hcs, Option.map_some] at hmap
  obtain ⟨cs₀,hcs₀,htop⟩ := Option.map_eq_some_iff.mp hmap.symm
  have hv := (runtimeOf_observe hs e).valid hw
  have hobserved : (e.observe s).circuits.get? c = some { cs with silentUntil := e.silence c } := by
    rw [SafetyInput.observe, Table.get?_mapVal, hcs]
    rfl
  obtain ⟨id,hid,hget⟩ := List.mem_filterMap.mp hb
  refine ⟨cs₀,reason,b.id,b.plugUrl,hcs₀,?_,?_⟩
  · rw [hv.id_eq hget, htop]
    exact hid
  · rw [SafetyInput.tick, enforceCircuitSafety_calls he.enabled]
    exact List.mem_append_left _ (List.mem_map_of_mem (mem_tripsOf.mpr ⟨c,_,hobserved,htrip⟩))

/-- Whatever went before: once a circuit is over at every tick, and for longer than both grace
periods and the time from one tick to the next, one of these ticks trips a battery of the circuit,
at the latest a second such time later. -/
theorem overload_trips_in_time {isSocketAddr : String → Bool}
    (hcfg : cfg.validate isSocketAddr = .ok ()) {pre rest : List (SafetyInput cfg)}
    {first : SafetyInput cfg} (htimes : (pre ++ first::rest).Pairwise (fun a b => a.now ≤ b.now))
    (hover : ∀ e ∈ first::rest, e.Overdrawn c) {spacing : Duration} (hpos : 0 ≤ spacing)
    (hspacing : ∀ p ∈ adjacent (first::rest), p.2.now ≤ p.1.now + spacing)
    (hlong : ∃ e ∈ rest,
      first.now + (emergencyCutoffGraceS + emergencySoftRemediationGraceS) + spacing ≤ e.now) :
    ∃ before e after, first::rest = before ++ e::after ∧
      e.now ≤ first.now + (emergencyCutoffGraceS + emergencySoftRemediationGraceS) + 2 * spacing ∧
      (e.tick (run safetyStep (AppState.fromConfig cfg) (pre ++ before))).TripsOn cfg c := by
  have hw := Config.wellFormed_of_validate hcfg
  have hgraces : emergencyCutoffGraceS + emergencySoftRemediationGraceS =
      overloadGrace + softGrace := by
    rw [overloadGrace_eq, softGrace_eq, emergencyCutoffGraceS, emergencySoftRemediationGraceS]
  have hgrace : (0 : ℚ) < overloadGrace := by norm_num [overloadGrace_eq]
  have hsoft : (0 : ℚ) < softGrace := by norm_num [softGrace_eq]
  have hpast : ∀ before e after, first::rest = before ++ e::after →
      ∀ e' ∈ pre ++ before, e'.now ≤ e.now := by
    intro before e after he e' he'
    rw [he, ← List.append_assoc, List.pairwise_append] at htimes
    exact htimes.2.2 e' he' e List.mem_cons_self
  have hnext : ∀ before a b after, first::rest = before ++ a::b::after →
      b.now ≤ a.now + spacing := fun before a b after he =>
    hspacing (a,b) (he ▸ mem_adjacent before a b after)
  have hclocks := fun events => clocksRun_run cfg c events hw
  -- along the overload the clocks escalate, tick by tick
  have hescalates : ∀ before e after, first::rest = before ++ e::after → ∃ cs, Escalates c first.now
      e.now spacing (run safetyStep (AppState.fromConfig cfg) (pre ++ before ++ [e])) cs := by
    intro before
    induction before using List.reverseRecOn with
    | nil =>
      intro e after he
      obtain ⟨rfl,-⟩ := List.cons.inj he
      rw [run_concat]
      exact Escalates.start hw (hclocks _) (hover _ List.mem_cons_self) (hpast [] _ _ he) spacing
    | append_singleton before d ih =>
      intro e after he
      have hsplit : first::rest = before ++ d::e::after := by rw [he]; simp
      obtain ⟨cs,hesc⟩ := ih d (e::after) hsplit
      rw [run_concat, ← List.append_assoc]
      refine Escalates.step hw (hclocks _) hesc (hover e (by rw [he]; simp)) ?_
        (hnext before d e after hsplit)
      rw [List.append_assoc]
      exact hpast _ e after he
  obtain ⟨before,d,e,after,hsplit,hd,he⟩ := exists_crossing SafetyInput.now
    (first.now + (overloadGrace + softGrace) + spacing) (by linarith) (hgraces ▸ hlong)
  have hsoon := hnext before d e after hsplit
  obtain ⟨cs,hcs,⟨o,ho,hole⟩,hremediated⟩ := hescalates before d (e::after) hsplit
  obtain ⟨x,hx,hxle⟩ := hremediated (by linarith)
  have hover_e : e.Overdrawn c := hover e (by rw [hsplit]; simp)
  refine ⟨before ++ [d],e,after,by rw [hsplit]; simp,by rw [hgraces]; linarith,?_⟩
  rw [← List.append_assoc]
  exact hover_e.trips hw (hclocks _).runtime hcs ho (by linarith) hx (by linarith)

theorem garageOver_overdrawn (now : ℚ) : (garageOver now).Overdrawn "garage" := by
  have hgarage : (AppState.fromConfig house).circuits.get? "garage" =
      some (((AppState.fromConfig house).circuits.get? "garage").get (by decide +kernel)) := by simp
  have huncut : ∀ b ∈ (garageOver 0).batteries.values, b.plugCutUntil = none := by decide +kernel
  refine ⟨by norm_num [garageOver,readingsAt],⟨_,hgarage,?_⟩,fun cs hcs => ⟨?_,fun b hb => ?_⟩⟩
  · show _ + (garageOver 0).dcfg.emergencyCutoffMarginW < |signedSum (relayOnMembers
      { AppState.fromConfig house with batteries := (garageOver 0).batteries } _)|
    decide +kernel
  · cases hgarage.symm.trans hcs
    show relayOnMembers
      { AppState.fromConfig house with batteries := (garageOver 0).batteries } _ ≠ []
    decide +kernel
  · obtain ⟨id,-,hget⟩ := List.mem_filterMap.mp (List.mem_filter.mp hb).1
    have hnone := huncut b ((Table.mem_values_iff _ _).mpr ⟨id,hget⟩)
    simp [BatteryState.isCut,hnone]

/-- The garage stays over, with a tick every four seconds. -/
def garageStaysOver : List (SafetyInput house) :=
  [garageOver 4,garageOver 8,garageOver 12,garageOver 16,garageOver 20]

theorem overload_trips_in_time_house : ∃ before e after,
    garageOver 0::garageStaysOver = before ++ e::after ∧
      e.now ≤ 0 + (emergencyCutoffGraceS + emergencySoftRemediationGraceS) + 2 * 4 ∧
      (e.tick (run safetyStep (AppState.fromConfig house) ([] ++ before))).TripsOn house
        "garage" := by
  have hover : ∀ e ∈ garageOver 0::garageStaysOver, e.Overdrawn "garage" := by
    simp only [garageStaysOver,List.mem_cons,List.not_mem_nil,or_false]
    rintro e (rfl | rfl | rfl | rfl | rfl | rfl)
    all_goals exact garageOver_overdrawn _
  exact overload_trips_in_time house_valid (by decide +kernel) hover (by norm_num)
    (by decide +kernel) ⟨garageOver 20,by simp [garageStaysOver],by decide +kernel⟩

end ShellyMultiplexer
