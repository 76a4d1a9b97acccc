import ShellyMultiplexer.Guarantees.SecondTrip

/-! # Failed trips

The handler of a failed trip clears the record of the cut but not the relay state that was stamped
with it. Until a poll or a close that succeeds stores another one, the battery is neither counted
nor tripped again.
-/
namespace ShellyMultiplexer
open Foundation

/-- The event stores no relay state for the battery. -/
def StoresNothing (id : String) (sys : PlugSystem) : PlugEvent → Prop
  | .tick _ _ => True
  | .poll pid reply _ => pid = id → (fetchStatus reply).isOk = false
  | .answer call outcome => call ∈ sys.relays.pending → call.batteryId = id →
      ¬ (outcome.isOk = true ∧ call.kind.on = true)
  | .manualReset _ => True
  | .world _ _ => True

/-- The safety check goes by an open relay. -/
def HidesBattery (id : String) (sys : PlugSystem) : Prop :=
  ∀ b, sys.app.batteries.get? id = some b → b.plugRelayState = some false

variable {sun : Sunrise} {cfg : Config} {sys : PlugSystem} {id : String} {b : BatteryState}

theorem settle_keeps_open {kind : CallKind} {outcome : Except String Unit}
    (h : b.plugRelayState = some false) (hkeep : ¬ (outcome.isOk = true ∧ kind.on = true)) :
    (settle kind outcome b).plugRelayState = some false := by
  cases kind <;> cases outcome <;> first | exact h | exact absurd ⟨rfl,rfl⟩ hkeep

theorem pollPlug_error_relay {now : Instant} {outcome : Except String (ℚ × Option Bool)}
    (h : outcome.isOk = false) : (pollPlug now outcome b).plugRelayState = b.plugRelayState := by
  cases outcome with
  | ok reading => cases h
  | error e => rfl

theorem HidesBattery.step (h : HidesBattery id sys) (e : PlugEvent) (he : StoresNothing id sys e) :
    HidesBattery id (plugStep sun sys e) := by
  intro b' hb'
  cases e with
  | tick live t =>
    have hget : (plugStep sun sys (.tick live t)).app.batteries.get? id =
        (beforeStep sun sys.app live none t).state.batteries.get? id := rfl
    rw [hget] at hb'
    obtain ⟨b,hb,-⟩ := Option.map_eq_some_iff.mp (beforeStep_battery id ▸ hb')
    exact tick_keeps_open hb hb' (Or.inl (h b hb))
  | poll pid reply now =>
    rw [plugStep_poll_get?] at hb'
    by_cases hid : id = pid
    · rw [if_pos hid] at hb'
      obtain ⟨b,hb,rfl⟩ := Option.map_eq_some_iff.mp hb'
      rw [pollPlug_error_relay (he hid.symm)]
      exact h b hb
    · rw [if_neg hid] at hb'
      exact h b' hb'
  | answer call outcome =>
    by_cases hcall : call ∈ sys.relays.pending
    · rw [plugStep_answer_get? outcome hcall] at hb'
      by_cases hid : id = call.batteryId
      · rw [if_pos hid] at hb'
        obtain ⟨b,hb,rfl⟩ := Option.map_eq_some_iff.mp hb'
        exact settle_keeps_open (h b hb) (he hcall hid.symm)
      · rw [if_neg hid] at hb'
        exact h b' hb'
    · rw [plugStep_answer_of_settled outcome hcall] at hb'
      exact h b' hb'
  | manualReset mid =>
    rw [plugStep_manualReset_app] at hb'
    exact h b' hb'
  | world batteries silence =>
    rw [plugStep_world_get?] at hb'
    obtain ⟨b,hb,rfl⟩ := Option.map_eq_some_iff.mp hb'
    rw [keepPlug_relay hb]
    exact h b hb

/-- A battery with an open relay is in no overload sum, and in no trip. -/
theorem HidesBattery.uncounted (h : HidesBattery id sys) (hv : sys.app.Valid)
    (cs : CircuitState) : ∀ b ∈ relayOnMembers sys.app cs, b.id ≠ id := by
  rintro b hmem rfl
  obtain ⟨hlookup,hon⟩ := List.mem_filter.mp hmem
  obtain ⟨k,-,hb⟩ := List.mem_filterMap.mp hlookup
  have hid := hv.id_eq hb
  subst hid
  rw [h b hb] at hon
  cases hon

theorem HidesBattery.untripped (h : HidesBattery id sys) (hv : sys.app.Valid) (live : Config)
    (t : TickTimes) : ∀ trip ∈ tickTrips sys.app live t, trip.batteryId ≠ id := by
  intro trip htrip hid
  unfold tickTrips at htrip
  split at htrip
  · cases htrip
  · obtain ⟨c,cs,hc,hjudge⟩ := mem_tripsOf.mp htrip
    obtain ⟨-,-,-,b,hworst,hbid,-⟩ := judgeCircuit_trip hjudge
    have hmem := (List.mem_filter.mp (maxBy_mem hworst)).1
    exact h.uncounted hv cs b hmem (hbid.symm.trans hid)

/-- Whatever happens after a failed trip, short of a relay state that is stored for the battery: no
later tick counts it or trips it. -/
theorem failed_trip_hidden {isSocketAddr : String → Bool}
    (hcfg : cfg.validate isSocketAddr = .ok ()) (hs : sys.app.RuntimeOf cfg) (sun : Sunrise)
    {live : Config} {t : TickTimes} {trip : Trip} (htrip : trip ∈ tickTrips sys.app live t)
    (e : String) {waiting later : List PlugEvent}
    (hstores : StepsMeet (plugStep sun) (StoresNothing trip.batteryId)
      (plugStep sun sys (.tick live t))
      (waiting ++ .answer ⟨.trip trip.reason,trip.batteryId,trip.plugUrl⟩ (.error e)::later)) :
    let after := (run (plugStep sun) (plugStep sun sys (.tick live t))
      (waiting ++ .answer ⟨.trip trip.reason,trip.batteryId,trip.plugUrl⟩ (.error e)::later)).app
    (∀ c cs, after.circuits.get? c = some cs →
        ∀ b ∈ relayOnMembers after cs, b.id ≠ trip.batteryId) ∧
      ∀ live' t', ∀ trip' ∈ tickTrips after live' t', trip'.batteryId ≠ trip.batteryId := by
  intro after
  have hw := Config.wellFormed_of_validate hcfg
  have hstart : HidesBattery trip.batteryId (plugStep sun sys (.tick live t)) := by
    intro b' hb'
    have hget : (plugStep sun sys (.tick live t)).app.batteries.get? trip.batteryId =
        (beforeStep sun sys.app live none t).state.batteries.get? trip.batteryId := rfl
    rw [hget] at hb'
    obtain ⟨b,hb,-⟩ := Option.map_eq_some_iff.mp (beforeStep_battery trip.batteryId ▸ hb')
    exact tick_keeps_open hb hb'
      (Or.inr (fun hnone => tripFor_eq_none_iff.mp hnone trip htrip rfl))
  have hhides : HidesBattery trip.batteryId _ :=
    run_inv (HidesBattery trip.batteryId) hstart (fun _ e h he => h.step e he) hstores
  have hv : after.Valid := (runtimeOf_plugRun (runtimeOf_plugStep hs (.tick live t)) sun _).valid hw
  exact ⟨fun _ cs _ => hhides.uncounted hv cs,fun live' t' => hhides.untripped hv live' t'⟩

/-! ## A plug that cannot be reached -/

def garageOverdue : PlugSystem := run (plugStep noSun) (PlugSystem.start house)
  [dischargeRead "a" 0,dischargeRead "b" 0,plugTickAt 0,plugTickAt 6]

def garageTrip : Trip :=
  (tickTrips garageOverdue.app house ⟨16,16,0,16,16⟩).head (by decide +kernel)

/-- Neither the call nor the next poll gets through. -/
def unreachable : List PlugEvent :=
  [] ++ .answer ⟨.trip garageTrip.reason,garageTrip.batteryId,garageTrip.plugUrl⟩
    (.error "timeout")::[.poll "b" (.error "timeout") 17]

theorem failed_trip_hidden_garage :
    garageTrip ∈ tickTrips garageOverdue.app house ⟨16,16,0,16,16⟩ ∧
    ∀ trip ∈ tickTrips (run (plugStep noSun) (plugStep noSun garageOverdue (plugTickAt 16))
      unreachable).app house ⟨18,18,0,18,18⟩, trip.batteryId ≠ garageTrip.batteryId := by
  have hs : garageOverdue.app.RuntimeOf house :=
    runtimeOf_plugRun (AppState.RuntimeOf.refl house) noSun _
  refine ⟨List.head_mem _,
    (failed_trip_hidden house_valid hs noSun (List.head_mem _) "timeout" ?_).2 house _⟩
  exact stepsMeet_cons.mpr ⟨fun _ _ h => (by cases h.1),stepsMeet_cons.mpr ⟨fun _ => rfl,
    stepsMeet_nil _ _ _⟩⟩

/-- The plug still shows full power and nothing is recorded as cut, but nobody is tripped. -/
theorem failed_trip_forgotten : house.validate (fun _ => true) = .ok () ∧
    garageTrip.batteryId = "b" ∧
    let after := (run (plugStep noSun) (plugStep noSun garageOverdue (plugTickAt 16))
      unreachable).app
    (after.batteries.get? "b").map (fun b => (b.lastPlugW,b.plugCutUntil)) =
        some (some 2500,none) ∧
      tickTrips after house ⟨18,18,0,18,18⟩ = [] ∧
      ((after.circuits.get? "garage").map (relayOnMembers after)).map (List.map (·.id)) =
        some ["a"] :=
  ⟨house_valid,by decide +kernel,by decide +kernel,by decide +kernel,by decide +kernel⟩

end ShellyMultiplexer
