import ShellyMultiplexer.Dispatcher.Relays
import ShellyMultiplexer.Plug.Poller

/-! # Relays among plug polls

A poll stores what its plug has said at some earlier point, so it can overtake a call of `set_relay`
that is still on its way. Next to the relays the system remembers which relay state was stored last
since the cut of a battery was stamped.
-/
namespace ShellyMultiplexer
open Foundation

structure PlugSystem where
  relays : RelaySystem
  stored : String → Option (Option Bool)

def PlugSystem.start (cfg : Config) : PlugSystem := ⟨RelaySystem.start cfg,fun _ => none⟩

def PlugSystem.app (sys : PlugSystem) : AppState := sys.relays.app

inductive PlugEvent
  | tick (live : Config) (times : TickTimes)
  | poll (batteryId : String) (reply : Except String SwitchStatus) (now : Instant)
  | answer (call : RelayCall) (outcome : Except String Unit)
  | manualReset (batteryId : String)
  /-- The other pollers and the writers report on the batteries. -/
  | world (batteries : String → BatteryState) (silence : String → Option Instant)

/-- The tick asks a plug to open its relay. -/
def opensRelay (calls : List RelayCall) (id : String) : Bool :=
  calls.any (fun call => decide (call.batteryId = id) && !call.kind.on)

/-- A report of the others, with everything that a plug poll writes as it was. -/
def keepPlug (s : AppState) (batteries : String → BatteryState) (id : String) : BatteryState :=
  match s.batteries.get? id with
  | some b => { batteries id with
      lastPlugW := b.lastPlugW
      lastPlugAt := b.lastPlugAt
      lastPlugMovementAt := b.lastPlugMovementAt
      plugRelayState := b.plugRelayState
      plugOverheadWSmoothed := b.plugOverheadWSmoothed }
  | none => batteries id

def plugStep (sun : Sunrise) (sys : PlugSystem) : PlugEvent → PlugSystem
  | .tick live t =>
    { relays := relayStep sun sys.relays (.tick live t)
      stored := fun id => if opensRelay (beforeStep sun sys.app live none t).calls id then none
        else sys.stored id }
  | .poll id reply now =>
    { relays := { sys.relays with app := { sys.app with
        batteries := sys.app.batteries.modify id (pollPlug now (fetchStatus reply)) } }
      stored := match fetchStatus reply with
        | .ok (_,relayOn) => Function.update sys.stored id (some relayOn)
        | .error _ => sys.stored }
  | .answer call outcome =>
    { relays := relayStep sun sys.relays (.answer call outcome)
      stored := if call ∈ sys.relays.pending ∧ outcome.isOk ∧ call.kind.on
        then Function.update sys.stored call.batteryId (some (some true)) else sys.stored }
  | .manualReset id => { sys with relays := relayStep sun sys.relays (.manualReset id) }
  | .world batteries silence =>
    { sys with relays := relayStep sun sys.relays (.measure (keepPlug sys.app batteries) silence) }

variable {sun : Sunrise} {sys : PlugSystem} {s : AppState} {live : Config} {t : TickTimes}
variable {cfg : Config} {b b' : BatteryState} {id : String}

theorem reportedBattery_eq {world : String → BatteryState} (hworld : world id = b')
    (hp : b'.toBatteryParams = b.toBatteryParams) (hu : b'.plugCutUntil = b.plugCutUntil)
    (hr : b'.plugCutReason = b.plugCutReason) : reportedBattery world id b = b' := by
  rw [reportedBattery, hworld, ← hp, ← hu, ← hr]

/-- Rewriting one battery is a report on all of them. -/
theorem modify_eq_reported (t : Table String BatteryState) (id : String) (d : BatteryState)
    (f : BatteryState → BatteryState) (hp : ∀ b, (f b).toBatteryParams = b.toBatteryParams)
    (hu : ∀ b, (f b).plugCutUntil = b.plugCutUntil)
    (hr : ∀ b, (f b).plugCutReason = b.plugCutReason) :
    t.mapVal (reportedBattery (fun k => ((t.modify id f).get? k).getD d)) = t.modify id f := by
  refine Table.mapVal_congr (fun k b hb => ?_)
  have hk : (t.modify id f).get? k = some (if k = id then f b else b) := by
    rw [Table.modify, Table.get?_mapVal, hb, Option.map_some]
  refine reportedBattery_eq (by rw [hk, Option.getD_some]) ?_ ?_ ?_
  · split
    · exact hp b
    · rfl
  · split
    · exact hu b
    · rfl
  · split
    · exact hr b
    · rfl

/-- To the relays a poll is a report that leaves the cut alone. -/
theorem plugStep_refines (sun : Sunrise) (sys : PlugSystem) (e : PlugEvent) :
    ∃ e', (plugStep sun sys e).relays = relayStep sun sys.relays e' := by
  cases e with
  | tick live t => exact ⟨.tick live t,rfl⟩
  | answer call outcome => exact ⟨.answer call outcome,rfl⟩
  | manualReset id => exact ⟨.manualReset id,rfl⟩
  | world batteries silence => exact ⟨.measure _ silence,rfl⟩
  | poll id reply now =>
    refine ⟨.measure (fun k => ((sys.relays.app.batteries.modify id (pollPlug now
        (fetchStatus reply))).get? k).getD (BatteryState.fromConfig (wallBattery id id id) false 0))
      (fun c => (sys.relays.app.circuits.get? c).bind CircuitState.silentUntil),?_⟩
    have hcircuits : sys.relays.app.circuits.mapVal (fun c cs => { cs with
        silentUntil := (sys.relays.app.circuits.get? c).bind CircuitState.silentUntil }) =
          sys.relays.app.circuits :=
      Table.mapVal_eq_self (fun c cs hcs => by rw [hcs, Option.bind_some])
    have hbatteries := modify_eq_reported sys.relays.app.batteries id
      (BatteryState.fromConfig (wallBattery id id id) false 0) (pollPlug now (fetchStatus reply))
      (fun _ => pollPlug_params) (fun _ => pollPlug_plugCutUntil) (fun _ => pollPlug_plugCutReason)
    simp only [plugStep,relayStep,PlugSystem.app]
    rw [hbatteries, hcircuits]

theorem plugRun_refines (sun : Sunrise) (cfg : Config) (events : List PlugEvent) :
    ∃ events', (run (plugStep sun) (PlugSystem.start cfg) events).relays =
      run (relayStep sun) (RelaySystem.start cfg) events' := by
  induction events using List.reverseRecOn with
  | nil => exact ⟨[],rfl⟩
  | append_singleton past e ih =>
    obtain ⟨past',hpast⟩ := ih
    obtain ⟨e',he⟩ := plugStep_refines sun (run (plugStep sun) (PlugSystem.start cfg) past) e
    exact ⟨past' ++ [e'],by rw [run_concat, run_concat, he, hpast]⟩

/-! ## What a step stores -/

theorem runtimeOf_relayStep {relays : RelaySystem} (hs : relays.app.RuntimeOf cfg)
    (e : RelayEvent) : (relayStep sun relays e).app.RuntimeOf cfg := by
  cases e with
  | tick live t => exact runtimeOf_beforeStep hs sun live none t
  | answer call outcome =>
    simp only [relayStep]
    split
    · refine hs.mapBatteries _ (fun id b => ?_)
      split
      · exact settle_params _ _ b
      · rfl
    · exact hs
  | measure world silence =>
    exact (hs.mapBatteries (reportedBattery world) (fun _ _ => rfl)).mapCircuits _ (fun _ _ => rfl)
  | manualReset id =>
    simp only [relayStep]
    split
    · split <;> exact hs
    · exact hs

theorem runtimeOf_plugStep (hs : sys.app.RuntimeOf cfg) (e : PlugEvent) :
    (plugStep sun sys e).app.RuntimeOf cfg := by
  obtain ⟨e',he⟩ := plugStep_refines sun sys e
  rw [PlugSystem.app, he]
  exact runtimeOf_relayStep hs e'

theorem runtimeOf_plugRun (hs : sys.app.RuntimeOf cfg) (sun : Sunrise) (events : List PlugEvent) :
    (run (plugStep sun) sys events).app.RuntimeOf cfg := by
  induction events using List.reverseRecOn with
  | nil => exact hs
  | append_singleton past e ih =>
    rw [run_concat]
    exact runtimeOf_plugStep ih e

theorem plugStep_poll_get? (pid : String) (reply : Except String SwitchStatus) (now : Instant) :
    (plugStep sun sys (.poll pid reply now)).app.batteries.get? id =
      if id = pid then (sys.app.batteries.get? id).map (pollPlug now (fetchStatus reply))
        else sys.app.batteries.get? id := Table.get?_modify _ _ _ _

theorem plugStep_answer_get? {call : RelayCall} (outcome : Except String Unit)
    (hcall : call ∈ sys.relays.pending) :
    (plugStep sun sys (.answer call outcome)).app.batteries.get? id =
      if id = call.batteryId then (sys.app.batteries.get? id).map (settle call.kind outcome)
        else sys.app.batteries.get? id := by
  simp only [plugStep,relayStep,PlugSystem.app,if_pos hcall,answered]
  exact Table.get?_modify _ _ _ _

/-- Only an outstanding call is answered. -/
theorem plugStep_answer_of_settled {call : RelayCall} (outcome : Except String Unit)
    (hcall : call ∉ sys.relays.pending) : plugStep sun sys (.answer call outcome) = sys := by
  simp only [plugStep,relayStep,hcall,false_and,if_false]

theorem plugStep_manualReset_app (mid : String) :
    (plugStep sun sys (.manualReset mid)).app = sys.app := by
  simp only [plugStep,relayStep,PlugSystem.app]
  split
  · split <;> rfl
  · rfl

theorem plugStep_world_get? (batteries : String → BatteryState)
    (silence : String → Option Instant) :
    (plugStep sun sys (.world batteries silence)).app.batteries.get? id =
      (sys.app.batteries.get? id).map (reportedBattery (keepPlug sys.app batteries) id) :=
  Table.get?_mapVal _ _ _

theorem keepPlug_relay {batteries : String → BatteryState} (hb : s.batteries.get? id = some b) :
    (reportedBattery (keepPlug s batteries) id b).plugRelayState = b.plugRelayState := by
  simp only [reportedBattery,keepPlug,hb]

theorem opensRelay_iff {calls : List RelayCall} :
    opensRelay calls id = true ↔ ∃ call ∈ calls, call.batteryId = id ∧ call.kind.on = false := by
  simp [opensRelay]

/-- A tick asks for an open relay when it trips the battery or cuts it for the night. -/
theorem tick_opensRelay_iff (sun : Sunrise) (live : Config) (t : TickTimes) (hv : s.Valid)
    (hb : s.batteries.get? id = some b) :
    opensRelay (beforeStep sun s live none t).calls id = true ↔
      tripFor (tickTrips s live t) id ≠ none ∨ CutDue sun live t b :=
  opensRelay_iff.trans (tick_opens_iff hv hb)

/-- What a tick leaves of a battery that is recorded as cut afterwards. -/
theorem tick_recorded (hv : s.Valid) (hb : s.batteries.get? id = some b)
    (hb' : (beforeStep sun s live none t).state.batteries.get? id = some b')
    (hcut : b'.plugCutUntil.isSome) :
    if opensRelay (beforeStep sun s live none t).calls id then b'.plugRelayState = some false
      else b' = b := by
  have hopens := tick_opensRelay_iff sun live t hv hb
  rcases tick_battery_cases hb hb' with ⟨hdue,-,hrelay⟩ | ⟨hno,⟨-,rfl⟩ | rfl⟩
  · rw [if_pos (hopens.mpr hdue)]
    exact hrelay
  · -- a restore would have cleared the record
    cases hcut
  · rw [if_neg (fun h => hno (hopens.mp h))]

/-- The tick leaves a relay recorded as open so, and so does tripping the battery. -/
theorem tick_keeps_open (hb : s.batteries.get? id = some b)
    (hb' : (beforeStep sun s live none t).state.batteries.get? id = some b')
    (h : b.plugRelayState = some false ∨ tripFor (tickTrips s live t) id ≠ none) :
    b'.plugRelayState = some false := by
  rcases tick_battery_cases hb hb' with ⟨-,-,hrelay⟩ | ⟨hno,⟨-,rfl⟩ | rfl⟩
  · exact hrelay
  · exact h.resolve_right (fun htrip => hno (Or.inl htrip))
  · exact h.resolve_right (fun htrip => hno (Or.inl htrip))

end ShellyMultiplexer
