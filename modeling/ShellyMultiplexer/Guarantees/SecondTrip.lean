import ShellyMultiplexer.Dispatcher.Plugs
import ShellyMultiplexer.Guarantees.RelayCuts

/-! # Second trips

Whose reading counts towards an overload is decided by the relay state that the polls store, who is
tripped by the record of the cut. A poll that was answered before the relay opened makes the two
disagree, and a healthy battery is tripped for the power of one that is already cut.
-/
namespace ShellyMultiplexer
open Foundation

/-- A tick that trips a battery does not count the reading of one whose cut is still running. -/
def CountsNoCut (sys : PlugSystem) : PlugEvent → Prop
  | .tick live t => ∀ c cs trip, 0 < live.dispatcher.emergencyCutoffMarginW →
      sys.app.circuits.get? c = some cs →
      (judgeCircuit sys.app live.dispatcher.emergencyCutoffMarginW t.safety cs).trip = some trip →
        ∀ b ∈ relayOnMembers sys.app cs, b.lastPlugW.isSome → b.isCut t.safety = false
  | .poll _ _ _ => True
  | .answer _ _ => True
  | .manualReset _ => True
  | .world _ _ => True

/-- When a tick trips a battery, nothing but an open relay has been stored last for the members
that are cut, since they were. -/
def ConfirmedOpen (sys : PlugSystem) : PlugEvent → Prop
  | .tick live t => ∀ c cs trip, 0 < live.dispatcher.emergencyCutoffMarginW →
      sys.app.circuits.get? c = some cs →
      (judgeCircuit sys.app live.dispatcher.emergencyCutoffMarginW t.safety cs).trip = some trip →
        ∀ id ∈ cs.memberIds, ∀ b, sys.app.batteries.get? id = some b → b.lastPlugW.isSome →
          b.isCut t.safety = true → sys.stored id = none ∨ sys.stored id = some (some false)
  | .poll _ _ _ => True
  | .answer _ _ => True
  | .manualReset _ => True
  | .world _ _ => True

/-- As long as a cut is on record, the relay state is the stored one or that of the stamp. -/
structure PlugInv (cfg : Config) (sys : PlugSystem) : Prop where
  runtime : sys.app.RuntimeOf cfg
  recorded : ∀ id b, sys.app.batteries.get? id = some b → b.plugCutUntil.isSome →
    b.plugRelayState = (sys.stored id).getD (some false)

variable {sun : Sunrise} {cfg : Config} {sys : PlugSystem} {id : String} {b b' : BatteryState}

theorem PlugInv.poll (h : PlugInv cfg sys) (pid : String) (reply : Except String SwitchStatus)
    (now : Instant) (hb' : (plugStep sun sys (.poll pid reply now)).app.batteries.get? id = some b')
    (hcut : b'.plugCutUntil.isSome) :
    b'.plugRelayState = ((plugStep sun sys (.poll pid reply now)).stored id).getD (some false) := by
  rw [plugStep_poll_get?] at hb'
  simp only [plugStep]
  by_cases hid : id = pid
  · subst hid
    rw [if_pos rfl] at hb'
    obtain ⟨b,hb,rfl⟩ := Option.map_eq_some_iff.mp hb'
    rw [pollPlug_plugCutUntil] at hcut
    cases hreply : fetchStatus reply with
    | ok reading =>
      dsimp only
      rw [Function.update_self]
      rfl
    | error e => exact h.recorded id b hb hcut
  · rw [if_neg hid] at hb'
    have hold := h.recorded id b' hb' hcut
    cases hreply : fetchStatus reply with
    | ok reading =>
      dsimp only
      rw [Function.update_of_ne hid]
      exact hold
    | error e => exact hold

/-- An answer that keeps the record of a cut stores a closed relay or nothing. -/
theorem settle_recorded {kind : CallKind} {outcome : Except String Unit}
    (hcut : (settle kind outcome b).plugCutUntil.isSome) : b.plugCutUntil.isSome ∧
      (settle kind outcome b).plugRelayState =
        if outcome.isOk ∧ kind.on then some true else b.plugRelayState := by
  cases kind with
  | trip reason =>
    cases outcome with
    | ok u => exact ⟨hcut,rfl⟩
    | error e => cases hcut
  | nightCut =>
    cases outcome with
    | ok u => exact ⟨hcut,rfl⟩
    | error e => cases hcut
  | recover =>
    cases outcome with
    | ok u => cases hcut
    | error e => exact ⟨hcut,rfl⟩
  | manualReset =>
    cases outcome with
    | ok u => cases hcut
    | error e => exact ⟨hcut,rfl⟩
  | nightRestore => cases outcome <;> exact ⟨hcut,rfl⟩

theorem PlugInv.answer (h : PlugInv cfg sys) (call : RelayCall) (outcome : Except String Unit)
    (hb' : (plugStep sun sys (.answer call outcome)).app.batteries.get? id = some b')
    (hcut : b'.plugCutUntil.isSome) :
    b'.plugRelayState = ((plugStep sun sys (.answer call outcome)).stored id).getD (some false) := by
  by_cases hcall : call ∈ sys.relays.pending
  · rw [plugStep_answer_get? outcome hcall] at hb'
    simp only [plugStep,hcall,true_and]
    by_cases hid : id = call.batteryId
    · subst hid
      rw [if_pos rfl] at hb'
      obtain ⟨b,hb,rfl⟩ := Option.map_eq_some_iff.mp hb'
      obtain ⟨hold,hstate⟩ := settle_recorded hcut
      rw [hstate]
      split
      · rw [Function.update_self]
        rfl
      · exact h.recorded _ b hb hold
    · rw [if_neg hid] at hb'
      have hold := h.recorded id b' hb' hcut
      split
      · rw [Function.update_of_ne hid]
        exact hold
      · exact hold
  · rw [plugStep_answer_of_settled outcome hcall] at hb' ⊢
    exact h.recorded id b' hb' hcut

theorem PlugInv.step (hw : cfg.WellFormed) (h : PlugInv cfg sys) (e : PlugEvent) :
    PlugInv cfg (plugStep sun sys e) := by
  refine ⟨runtimeOf_plugStep h.runtime e,fun id b' hb' hcut => ?_⟩
  cases e with
  | poll pid reply now => exact h.poll pid reply now hb' hcut
  | answer call outcome => exact h.answer call outcome hb' hcut
  | tick live t =>
    obtain ⟨b,hb⟩ := (runtimeOf_plugStep h.runtime _).battery_exists h.runtime hb'
    have hstate := tick_recorded (h.runtime.valid hw) hb hb' hcut
    simp only [plugStep]
    split at hstate
    · rename_i hopens
      rw [if_pos hopens, hstate]
      rfl
    · rename_i hopens
      subst hstate
      rw [if_neg hopens]
      exact h.recorded id b' hb hcut
  | manualReset mid =>
    rw [plugStep_manualReset_app] at hb'
    exact h.recorded id b' hb' hcut
  | world batteries silence =>
    rw [plugStep_world_get?] at hb'
    obtain ⟨b,hb,rfl⟩ := Option.map_eq_some_iff.mp hb'
    rw [keepPlug_relay hb]
    exact h.recorded id b hb hcut

theorem PlugInv.start (hw : cfg.WellFormed) : PlugInv cfg (PlugSystem.start cfg) := by
  refine ⟨AppState.RuntimeOf.refl cfg,fun id b hb hcut => ?_⟩
  obtain ⟨e,-,-,rfl⟩ := (fromConfig_battery hw).mp hb
  cases hcut

/-- A member whose cut is on record counts unless its relay is known to be open. -/
theorem PlugInv.counted_iff (h : PlugInv cfg sys) (hb : sys.app.batteries.get? id = some b)
    (hcut : b.plugCutUntil.isSome) : b.plugRelayState.getD true = false ↔
      sys.stored id = none ∨ sys.stored id = some (some false) := by
  rw [h.recorded id b hb hcut]
  rcases sys.stored id with _ | _ | _ | _ <;> simp

theorem countsNoCut_iff (h : PlugInv cfg sys) (e : PlugEvent) :
    CountsNoCut sys e ↔ ConfirmedOpen sys e := by
  cases e with
  | poll => rfl
  | answer => rfl
  | manualReset => rfl
  | world => rfl
  | tick live t =>
    have hsome : ∀ {b : BatteryState}, b.isCut t.safety = true → b.plugCutUntil.isSome := by
      intro b hb
      cases hu : b.plugCutUntil with
      | none => simp [BatteryState.isCut,hu] at hb
      | some u => rfl
    constructor
    · intro hcounts c cs trip hm hc htrip id hid b hb hread hcut
      rw [← h.counted_iff hb (hsome hcut)]
      by_contra hon
      have hmem : b ∈ relayOnMembers sys.app cs :=
        List.mem_filter.mpr ⟨List.mem_filterMap.mpr ⟨id,hid,hb⟩,by simpa using hon⟩
      rw [hcounts c cs trip hm hc htrip b hmem hread] at hcut
      cases hcut
    · intro hopen c cs trip hm hc htrip b hmem hread
      obtain ⟨hlookup,hon⟩ := List.mem_filter.mp hmem
      obtain ⟨id,hid,hb⟩ := List.mem_filterMap.mp hlookup
      by_contra hcut
      have hcut := Bool.not_eq_false _ ▸ hcut
      rw [(h.counted_iff hb (hsome hcut)).mpr (hopen c cs trip hm hc htrip id hid b hb hread hcut)]
        at hon
      cases hon

/-- No trip counts a battery that is cut exactly when, for the members that are, nothing but an
open relay has been stored last. -/
theorem counts_no_cut_iff {isSocketAddr : String → Bool}
    (hcfg : cfg.validate isSocketAddr = .ok ()) (sun : Sunrise) (events : List PlugEvent) :
    StepsMeet (plugStep sun) CountsNoCut (PlugSystem.start cfg) events ↔
      StepsMeet (plugStep sun) ConfirmedOpen (PlugSystem.start cfg) events := by
  have hw := Config.wellFormed_of_validate hcfg
  exact stepsMeet_congr (PlugInv cfg) (.start hw) (fun _ e h => h.step hw e)
    (fun _ e h => countsNoCut_iff h e)

/-! ## A trip in the garage -/

theorem confirmedOpen_of_uncut {live : Config} {t : TickTimes}
    (h : sys.app.batteries.values.all (fun b => !b.isCut t.safety) = true) :
    ConfirmedOpen sys (.tick live t) := by
  intro c cs trip _ _ _ id _ b hb _ hcut
  have huncut := List.all_eq_true.mp h b ((Table.mem_values_iff _ _).mpr ⟨id,hb⟩)
  rw [hcut] at huncut
  cases huncut

theorem confirmedOpen_of_no_trip {live : Config} {t : TickTimes}
    (h : tickTrips sys.app live t = []) : ConfirmedOpen sys (.tick live t) := by
  intro c cs trip hm hc htrip
  rw [tickTrips, if_neg (not_le.mpr hm)] at h
  have hmem := mem_tripsOf.mpr ⟨c,cs,hc,htrip⟩
  rw [h] at hmem
  cases hmem

def plugTickAt (now : Instant) : PlugEvent := .tick house ⟨now,now,0,now,now⟩

/-- The plug sees a battery discharge at full power, its relay closed. -/
def dischargeRead (id : String) (now : Instant) : PlugEvent :=
  .poll id (.ok ⟨some (-2500),some true⟩) now

/-- Both garage batteries discharge at full power until the second is tripped. -/
def garageTripped : List PlugEvent :=
  [dischargeRead "a" 0,dischargeRead "b" 0,plugTickAt 0,plugTickAt 6,plugTickAt 16]

/-- The next poll of the tripped plug reports the open relay. -/
theorem counts_no_cut_house : StepsMeet (plugStep noSun) CountsNoCut (PlugSystem.start house)
    (garageTripped ++ [.poll "b" (.ok ⟨some 0,some false⟩) 17,plugTickAt 18]) := by
  refine (counts_no_cut_iff house_valid noSun _).mpr (stepsMeet_cons.mpr ⟨trivial,
    stepsMeet_cons.mpr ⟨trivial,stepsMeet_cons.mpr ⟨?_,stepsMeet_cons.mpr ⟨?_,
      stepsMeet_cons.mpr ⟨?_,stepsMeet_cons.mpr ⟨trivial,stepsMeet_cons.mpr
        ⟨?_,stepsMeet_nil _ _ _⟩⟩⟩⟩⟩⟩⟩)
  · exact confirmedOpen_of_no_trip (by decide +kernel)
  · exact confirmedOpen_of_no_trip (by decide +kernel)
  · exact confirmedOpen_of_uncut (by decide +kernel)
  · exact confirmedOpen_of_no_trip (by decide +kernel)

/-- A poll that was answered before the relay opened is stored after the trip; the next tick trips
the other battery, which alone is within the cap. -/
theorem healthy_battery_tripped : house.validate (fun _ => true) = .ok () ∧
    (tickTrips (run (plugStep noSun) (PlugSystem.start house)
      (garageTripped ++ [dischargeRead "b" 17])).app house ⟨18,18,0,18,18⟩).map Trip.batteryId =
        ["a"] ∧
    ¬ StepsMeet (plugStep noSun) CountsNoCut (PlugSystem.start house)
      (garageTripped ++ [dischargeRead "b" 17,plugTickAt 18]) := by
  refine ⟨house_valid,by decide +kernel,fun h => ?_⟩
  have hcounts := h (garageTripped ++ [dischargeRead "b" 17]) (plugTickAt 18) [] (by simp)
  let s := (run (plugStep noSun) (PlugSystem.start house)
    (garageTripped ++ [dischargeRead "b" 17])).app
  have hc : s.circuits.get? "garage" = some ((s.circuits.get? "garage").get (by decide +kernel)) :=
    (Option.some_get _).symm
  have hb : s.batteries.get? "b" = some ((s.batteries.get? "b").get (by decide +kernel)) :=
    (Option.some_get _).symm
  have huncut := hcounts "garage" _ _ (by decide +kernel) hc (Option.some_get
    (by decide +kernel)).symm ((s.batteries.get? "b").get (by decide +kernel)) (by decide +kernel)
      (by decide +kernel)
  revert huncut
  decide +kernel

end ShellyMultiplexer
