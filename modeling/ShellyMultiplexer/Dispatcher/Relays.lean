import ShellyMultiplexer.Dispatcher.Tick
import ShellyMultiplexer.Foundation.Runs

/-! # Relays over time

A call of `set_relay` is answered at some later point, after any number of ticks and other answers.
The system is the runtime state, the calls still in flight, and which relays the dispatcher has
opened without a close that succeeded since.
-/
namespace ShellyMultiplexer
open Foundation

structure RelaySystem where
  app : AppState
  pending : List RelayCall
  opened : String → Bool

def RelaySystem.start (cfg : Config) : RelaySystem := ⟨AppState.fromConfig cfg,[],fun _ => false⟩

inductive RelayEvent
  | tick (live : Config) (times : TickTimes)
  /-- An outstanding call is answered, an error with its text. -/
  | answer (call : RelayCall) (outcome : Except String Unit)
  /-- Pollers and writers report on the batteries; the cut is not theirs to change. -/
  | measure (world : String → BatteryState) (silence : String → Option Instant)
  | manualReset (batteryId : String)

def clearCut (b : BatteryState) : BatteryState :=
  { b with plugCutUntil := none, plugCutReason := none, plugRelayState := some true }

/-- What the task of a call does to its battery once the call is answered. -/
def settle (kind : CallKind) (outcome : Except String Unit) (b : BatteryState) : BatteryState :=
  match kind, outcome with
  | .trip _, .ok () => b
  | .trip _, .error e =>
    { b with plugCutUntil := none, plugCutReason := some ("cutoff failed: " ++ e) }
  | .nightCut, .ok () => b
  | .nightCut, .error e =>
    { b with plugCutUntil := none, plugCutReason := some ("night cutoff failed: " ++ e) }
  | .recover, .ok () => clearCut b
  | .manualReset, .ok () => clearCut b
  | .nightRestore, .ok () => { b with plugRelayState := some true }
  | .recover, .error _ => b
  | .manualReset, .error _ => b
  | .nightRestore, .error _ => b

/-- A battery as reported, with its configuration and its cut as they were. -/
def reportedBattery (world : String → BatteryState) (id : String) (b : BatteryState) :
    BatteryState :=
  { world id with
    toBatteryParams := b.toBatteryParams
    plugCutUntil := b.plugCutUntil
    plugCutReason := b.plugCutReason }

def openedAfter (opened : String → Bool) (call : RelayCall) (outcome : Except String Unit) :
    String → Bool :=
  if outcome.isOk then Function.update opened call.batteryId (!call.kind.on) else opened

def answered (sys : RelaySystem) (call : RelayCall) (outcome : Except String Unit) : RelaySystem where
  app := { sys.app with
    batteries := sys.app.batteries.modify call.batteryId (settle call.kind outcome) }
  pending := sys.pending.erase call
  opened := openedAfter sys.opened call outcome

def relayStep (sun : Sunrise) (sys : RelaySystem) : RelayEvent → RelaySystem
  | .tick live times =>
    let after := beforeStep sun sys.app live none times
    { sys with app := after.state, pending := sys.pending ++ after.calls }
  | .answer call outcome =>
    if call ∈ sys.pending then answered sys call outcome else sys
  | .measure world silence =>
    { sys with app := { sys.app with
        batteries := sys.app.batteries.mapVal (reportedBattery world)
        circuits := sys.app.circuits.mapVal (fun c cs => { cs with silentUntil := silence c }) } }
  | .manualReset id =>
    match sys.app.batteries.get? id with
    | some b =>
      if b.plugCutUntil.isSome then
        { sys with pending := sys.pending ++ [⟨.manualReset,id,b.plugUrl⟩] }
      else sys
    | none => sys

/-! ## What a tick does to the relays -/

variable {sun : Sunrise} {s : AppState} {live : Config} {t : TickTimes}

/-- The night that the cutoff goes by; none when it is disabled or knows no sunrise. -/
def tickNight (sun : Sunrise) (live : Config) (t : TickTimes) : Option Night :=
  if live.dispatcher.nightCutoffEnabled then nightAt sun live.location t.utc else none

/-- The batteries whose recovery sweep is due; none when the cutoff is disabled. -/
def tickRecoveries (s : AppState) (live : Config) (t : TickTimes) : List BatteryState :=
  if live.dispatcher.emergencyCutoffMarginW ≤ 0 then []
  else s.batteries.values.filter (fun b => b.isRecoveryDue t.safety)

/-- The batteries that the night cutoff goes over. -/
def afterSafety (s : AppState) (live : Config) (t : TickTimes) : List BatteryState :=
  (enforceCircuitSafety s live.dispatcher none t.safety).state.batteries.values

theorem nightOutcome_eq (b : BatteryState) :
    nightOutcome live.dispatcher live.location sun t.utc t.night b =
      ((tickNight sun live t).map (fun night => judgeNight live.dispatcher night t.night b)).getD b := by
  unfold nightOutcome tickNight
  split <;> rfl

theorem beforeStep_calls : (beforeStep sun s live none t).calls =
    ((tickTrips s live t).map (fun trip => ⟨.trip trip.reason,trip.batteryId,trip.plugUrl⟩) ++
      (tickRecoveries s live t).map (fun b => ⟨.recover,b.id,b.plugUrl⟩)) ++
    (((afterSafety s live t).filter (fun b => (tickNight sun live t).any
        (fun night => isNightCutDue live.dispatcher night b))).map
          (fun b => ⟨.nightCut,b.id,b.plugUrl⟩) ++
      ((afterSafety s live t).filter (fun b => (tickNight sun live t).any
        (fun night => isNightRestoreDue live.dispatcher night b))).map
          (fun b => ⟨.nightRestore,b.id,b.plugUrl⟩)) := by
  unfold beforeStep
  dsimp only
  congr 1
  · rcases le_or_gt live.dispatcher.emergencyCutoffMarginW 0 with hm | hm
    · rw [enforceCircuitSafety_disabled hm, tickTrips, tickRecoveries, if_pos hm, if_pos hm]
      rfl
    · rw [enforceCircuitSafety_calls hm, tickTrips, tickRecoveries, if_neg (not_le.mpr hm),
        if_neg (not_le.mpr hm)]
  · unfold enforceNightCutoff tickNight
    cases he : live.dispatcher.nightCutoffEnabled with
    | false => simp
    | true =>
      cases hn : nightAt sun live.location t.utc with
      | none => simp
      | some night => simp [afterSafety]

/-- The reason of a trip is not taken for that of a night cut. -/
theorem startsWith_tripReason (cs : CircuitState) (sum margin : ℚ) (overFor softFor : Duration) :
    startsWith (tripReason cs sum margin overFor softFor) nightPrefix = false := by
  have htext : ∀ text : String, toString text = text := fun _ => rfl
  simp [startsWith,nightPrefix,tripReason,htext,List.isPrefixOf]

/-! ## What a tick asks of the relays -/

/-- Both clocks of an overloaded circuit have run out, and the battery is its worst offender. -/
def TripDue (s : AppState) (live : Config) (t : TickTimes) (id : String) : Prop :=
  0 < live.dispatcher.emergencyCutoffMarginW ∧ ∃ c cs b, s.circuits.get? c = some cs ∧
    isOverloaded s live.dispatcher.emergencyCutoffMarginW cs = true ∧
    (∃ o, cs.overloadStartedAt = some o ∧ o + overloadGrace ≤ t.safety) ∧
    (∃ x, cs.softRemediationStartedAt = some x ∧ x + softGrace ≤ t.safety) ∧
    worstOffender (relayOnMembers s cs) t.safety = some b ∧ b.id = id

def CutDue (sun : Sunrise) (live : Config) (t : TickTimes) (b : BatteryState) : Prop :=
  ∃ night, tickNight sun live t = some night ∧ isNightCutDue live.dispatcher night b = true

def RestoreDue (sun : Sunrise) (live : Config) (t : TickTimes) (b : BatteryState) : Prop :=
  ∃ night, tickNight sun live t = some night ∧ isNightRestoreDue live.dispatcher night b = true

theorem tripDue_of_mem {trip : Trip} (h : trip ∈ tickTrips s live t) :
    TripDue s live t trip.batteryId ∧ startsWith trip.reason nightPrefix = false := by
  unfold tickTrips at h
  split at h
  · cases h
  · rename_i hm
    obtain ⟨c,cs,hc,htrip⟩ := mem_tripsOf.mp h
    obtain ⟨hover,hstart,hsoft,b,hb,hid,-,overFor,softFor,cs',hreason⟩ := judgeCircuit_trip htrip
    refine ⟨⟨not_le.mp hm,c,cs,b,hc,hover,hstart,hsoft,hb,hid.symm⟩,?_⟩
    rw [hreason]
    exact startsWith_tripReason cs' _ _ _ _

theorem tripDue_iff {id : String} :
    TripDue s live t id ↔ ∃ trip, tripFor (tickTrips s live t) id = some trip := by
  constructor
  · rintro ⟨hm,c,cs,b,hc,hover,⟨o,ho,hold⟩,⟨x,hx,hlong⟩,hb,hid⟩
    obtain ⟨reason,htrip⟩ := judgeCircuit_trips hover ho hold hx hlong hb
    refine Option.ne_none_iff_exists'.mp (fun hnone => ?_)
    refine tripFor_eq_none_iff.mp hnone ⟨b.id,b.plugUrl,reason⟩ ?_ hid
    rw [tickTrips, if_neg (not_le.mpr hm)]
    exact mem_tripsOf.mpr ⟨c,cs,hc,htrip⟩
  · rintro ⟨trip,htrip⟩
    obtain ⟨hmem,rfl⟩ := tripFor_mem htrip
    exact (tripDue_of_mem hmem).1

theorem judgeNight_of_not_due {night : Night} {now : Instant} {b : BatteryState}
    (hc : isNightCutDue live.dispatcher night b = false)
    (hr : isNightRestoreDue live.dispatcher night b = false) :
    judgeNight live.dispatcher night now b = b := by
  rw [judgeNight, hc, hr, if_neg Bool.false_ne_true, if_neg Bool.false_ne_true]

/-- A battery that has just been tripped is left alone by the night cutoff. -/
theorem nightOutcome_stampTrip {now : Instant} {reason : String} {b : BatteryState}
    (h : startsWith reason nightPrefix = false) :
    nightOutcome live.dispatcher live.location sun t.utc t.night (stampTrip now reason b) =
      stampTrip now reason b := by
  rw [nightOutcome_eq]
  cases tickNight sun live t with
  | none => rfl
  | some night =>
    simp only [Option.map_some, Option.getD_some]
    apply judgeNight_of_not_due
    · simp [isNightCutDue,stampTrip]
    · simp [isNightRestoreDue,BatteryState.cutForNight,stampTrip,h]

theorem mem_afterSafety (hv : s.Valid) {b' : BatteryState}
    (h : b' ∈ afterSafety s live t) : ∃ b, s.batteries.get? b'.id = some b ∧
      b' = stampWith t.safety (tripFor (tickTrips s live t) b'.id) b := by
  obtain ⟨id,hid⟩ := (Table.mem_values_iff _ _).mp h
  rw [enforceCircuitSafety_stamps] at hid
  obtain ⟨b,hb,rfl⟩ := Option.map_eq_some_iff.mp hid
  have hbid : (stampWith t.safety (tripFor (tickTrips s live t) id) b).id = id := by
    rw [stampWith_params]
    exact hv.id_eq hb
  rw [hbid]
  exact ⟨b,hb,rfl⟩

/-- Neither branch of the night cutoff applies to a battery that has just been tripped. -/
theorem not_due_of_trip {night : Night} {id : String} {trip : Trip} {b : BatteryState}
    (h : tripFor (tickTrips s live t) id = some trip) :
    isNightCutDue live.dispatcher night (stampWith t.safety (some trip) b) = false ∧
      isNightRestoreDue live.dispatcher night (stampWith t.safety (some trip) b) = false := by
  have hreason := (tripDue_of_mem (tripFor_mem h).1).2
  constructor
  · simp [isNightCutDue,stampWith,stampTrip]
  · simp [isNightRestoreDue,BatteryState.cutForNight,stampWith,stampTrip,hreason]

theorem mem_night_filter (hv : s.Valid) {due : Night → BatteryState → Bool}
    (hdue : ∀ night trip id b, tripFor (tickTrips s live t) id = some trip →
      due night (stampWith t.safety (some trip) b) = false) {b : BatteryState}
    (h : b ∈ (afterSafety s live t).filter
      (fun b => (tickNight sun live t).any (fun night => due night b))) :
    s.batteries.get? b.id = some b ∧ tripFor (tickTrips s live t) b.id = none ∧
      ∃ night, tickNight sun live t = some night ∧ due night b = true := by
  obtain ⟨hmem,hany⟩ := List.mem_filter.mp h
  obtain ⟨b₀,hb₀,heq⟩ := mem_afterSafety hv hmem
  cases hn : tickNight sun live t with
  | none => simp [hn] at hany
  | some night =>
    rw [hn, Option.any_some] at hany
    cases htrip : tripFor (tickTrips s live t) b.id with
    | some trip =>
      rw [htrip] at heq
      rw [heq, hdue night trip b.id b₀ htrip] at hany
      cases hany
    | none =>
      rw [htrip] at heq
      exact ⟨heq ▸ hb₀,rfl,night,rfl,hany⟩

/-- A tick cuts a battery that it trips or that is due for the night, may restore another one, and
leaves the rest as they are. -/
theorem tick_battery_cases {id : String} {b b' : BatteryState} (hb : s.batteries.get? id = some b)
    (hb' : (beforeStep sun s live none t).state.batteries.get? id = some b') :
    ((tripFor (tickTrips s live t) id ≠ none ∨ CutDue sun live t b) ∧
      b'.plugCutUntil.isSome ∧ b'.plugRelayState = some false) ∨
    (¬ (tripFor (tickTrips s live t) id ≠ none ∨ CutDue sun live t b) ∧
      (RestoreDue sun live t b ∧ b' = { b with plugCutUntil := none, plugCutReason := none } ∨
        b' = b)) := by
  rw [beforeStep_battery, hb, Option.map_some] at hb'
  obtain rfl := Option.some.inj hb'
  cases htrip : tripFor (tickTrips s live t) id with
  | some trip =>
    have hout : nightOutcome live.dispatcher live.location sun t.utc t.night
        (stampWith t.safety (some trip) b) = stampTrip t.safety trip.reason b :=
      nightOutcome_stampTrip (tripDue_of_mem (tripFor_mem htrip).1).2
    rw [hout]
    exact Or.inl ⟨Or.inl (by simp),rfl,rfl⟩
  | none =>
    have hstamp : stampWith t.safety none b = b := rfl
    have hiff : (none : Option Trip) ≠ none ∨ CutDue sun live t b ↔ CutDue sun live t b :=
      or_iff_right (fun h => h rfl)
    rw [hstamp, nightOutcome_eq, hiff]
    cases hn : tickNight sun live t with
    | none =>
      refine Or.inr ⟨?_,Or.inr rfl⟩
      rintro ⟨night,hnight,-⟩
      cases hn.symm.trans hnight
    | some night =>
      rw [Option.map_some, Option.getD_some]
      cases hcut : isNightCutDue live.dispatcher night b with
      | true =>
        rw [judgeNight, if_pos hcut]
        exact Or.inl ⟨⟨night,hn,hcut⟩,rfl,rfl⟩
      | false =>
        have hnot : ¬ CutDue sun live t b := by
          rintro ⟨night',hnight,hdue⟩
          cases hn.symm.trans hnight
          cases hcut.symm.trans hdue
        refine Or.inr ⟨hnot,?_⟩
        cases hrestore : isNightRestoreDue live.dispatcher night b with
        | true =>
          refine Or.inl ⟨⟨night,hn,hrestore⟩,?_⟩
          rw [judgeNight, hcut, if_neg Bool.false_ne_true, if_pos hrestore]
        | false => exact Or.inr (judgeNight_of_not_due hcut hrestore)

/-- The calls of a tick: opens that are due, closes by the sweep, and closes in the morning. -/
theorem tick_call_cases (hv : s.Valid) {call : RelayCall}
    (h : call ∈ (beforeStep sun s live none t).calls) :
    ∃ b, s.batteries.get? call.batteryId = some b ∧
      ((call.kind.on = false ∧
        (tripFor (tickTrips s live t) call.batteryId ≠ none ∨ CutDue sun live t b)) ∨
      (call.kind = .recover ∧ 0 < live.dispatcher.emergencyCutoffMarginW ∧
        b.isRecoveryDue t.safety = true) ∨
      (call.kind = .nightRestore ∧ RestoreDue sun live t b)) := by
  rw [beforeStep_calls] at h
  rcases List.mem_append.mp h with h | h
  · rcases List.mem_append.mp h with h | h
    · obtain ⟨trip,htrip,rfl⟩ := List.mem_map.mp h
      obtain ⟨-,c,cs,b,hc,-,-,-,hb,hid⟩ := (tripDue_of_mem htrip).1
      have hmem := (List.mem_filter.mp (List.mem_filter.mp (maxBy_mem hb)).1).1
      refine ⟨b,hid ▸ ((hv.mem_lookup hc).mp hmem).1,Or.inl ⟨rfl,Or.inl (fun hnone => ?_)⟩⟩
      exact tripFor_eq_none_iff.mp hnone trip htrip rfl
    · obtain ⟨b,hb,rfl⟩ := List.mem_map.mp h
      unfold tickRecoveries at hb
      split at hb
      · cases hb
      · rename_i hm
        obtain ⟨hmem,hdue⟩ := List.mem_filter.mp hb
        exact ⟨b,hv.mem_values.mp hmem,Or.inr (Or.inl ⟨rfl,not_le.mp hm,hdue⟩)⟩
  · rcases List.mem_append.mp h with h | h
    · obtain ⟨b,hb,rfl⟩ := List.mem_map.mp h
      obtain ⟨hget,-,hdue⟩ := mem_night_filter hv (fun _ _ _ _ htrip => (not_due_of_trip htrip).1) hb
      exact ⟨b,hget,Or.inl ⟨rfl,Or.inr hdue⟩⟩
    · obtain ⟨b,hb,rfl⟩ := List.mem_map.mp h
      obtain ⟨hget,-,hdue⟩ := mem_night_filter hv (fun _ _ _ _ htrip => (not_due_of_trip htrip).2) hb
      exact ⟨b,hget,Or.inr (Or.inr ⟨rfl,hdue⟩)⟩

/-- A tick asks for an open relay exactly when it trips the battery or cuts it for the night. -/
theorem tick_opens_iff (hv : s.Valid) {id : String} {b : BatteryState}
    (hb : s.batteries.get? id = some b) :
    (∃ call ∈ (beforeStep sun s live none t).calls, call.batteryId = id ∧ call.kind.on = false) ↔
      tripFor (tickTrips s live t) id ≠ none ∨ CutDue sun live t b := by
  constructor
  · rintro ⟨call,hcall,rfl,hoff⟩
    obtain ⟨b',hb',⟨-,hdue⟩ | ⟨hkind,-⟩ | ⟨hkind,-⟩⟩ := tick_call_cases hv hcall
    · cases hb.symm.trans hb'
      exact hdue
    · rw [hkind] at hoff
      cases hoff
    · rw [hkind] at hoff
      cases hoff
  · intro h
    rw [beforeStep_calls]
    cases htrip : tripFor (tickTrips s live t) id with
    | some trip =>
      obtain ⟨hmem,htid⟩ := tripFor_mem htrip
      exact ⟨_,List.mem_append_left _ (List.mem_append_left _ (List.mem_map_of_mem hmem)),htid,rfl⟩
    | none =>
      obtain ⟨night,hn,hcut⟩ := h.resolve_left (fun hne => hne htrip)
      have hmem : b ∈ afterSafety s live t := by
        refine (Table.mem_values_iff _ _).mpr ⟨id,?_⟩
        rw [enforceCircuitSafety_stamps, htrip, hb, Option.map_some]
        rfl
      have hfilter : b ∈ (afterSafety s live t).filter (fun b => (tickNight sun live t).any
          (fun night => isNightCutDue live.dispatcher night b)) :=
        List.mem_filter.mpr ⟨hmem,by rw [hn]; exact hcut⟩
      exact ⟨_,List.mem_append_right _ (List.mem_append_left _ (List.mem_map_of_mem hfilter)),
        hv.id_eq hb,rfl⟩

theorem settle_params (kind : CallKind) (outcome : Except String Unit) (b : BatteryState) :
    (settle kind outcome b).toBatteryParams = b.toBatteryParams := by
  cases kind <;> cases outcome <;> rfl

end ShellyMultiplexer
