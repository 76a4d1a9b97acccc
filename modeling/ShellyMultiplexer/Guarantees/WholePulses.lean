import ShellyMultiplexer.Dispatcher.PulseLoop

/-! # Whole pulses

The gate of the tick looks at all batteries on circuits that are not silent and is evaluated some
steps before the pulses are queued. It stays true until then: polls only take samples, and nobody
else ends a silence.
-/
namespace ShellyMultiplexer
open Foundation

namespace PulseRecord

/-- The records that change what is left of a pulse. -/
def portion : PulseRecord → Option (PortionEvent ℚ)
  | armed delta => some (.loaded delta)
  | dropped => some .dropped
  | muted => none
  | reached => none
  | drained value _ => some (.taken value)

def isArmed : PulseRecord → Bool
  | armed _ => true
  | dropped => false
  | muted => false
  | reached => false
  | drained _ _ => false

/-- The value of a poll, except zero. -/
def drainedValue : PulseRecord → Option ℚ
  | armed _ => none
  | dropped => none
  | muted => none
  | reached => none
  | drained value _ => if value = 0 then none else some value

end PulseRecord

/-- The log of a battery and what is left of its pulse. -/
def TracksPulse (log : List PulseRecord) (b : BatteryState) : Prop :=
  Portions.Tracks pulseCount (log.filterMap PulseRecord.portion) ⟨b.pendingPulseW,b.pulseRemaining⟩

structure PulseInv (sys : PulseSystem) : Prop where
  silent : ∀ id, sys.app.batteries.get? id = none → sys.log id = []
  tracks : ∀ id b, sys.app.batteries.get? id = some b → TracksPulse (sys.log id) b
  /-- Past the gate, a battery that the tick may load has nothing left. -/
  gate : ∀ now, sys.phase.passedGate = some now → ∀ id b, sys.app.batteries.get? id = some b →
    sys.app.circuitMuted now b.circuit = false → b.pulseRemaining = 0

variable {sys : PulseSystem} {e : PulseEvent} {now clock : Instant} {b b' : BatteryState}
variable {log : List PulseRecord} {s : AppState} {dcfg : DispatcherConfig} {deltas : Table String ℚ} {cfg : Config}

/-! ## One step -/

theorem TracksPulse.keep (h : TracksPulse log b) (hp : b'.pendingPulseW = b.pendingPulseW)
    (hr : b'.pulseRemaining = b.pulseRemaining) : TracksPulse log b' := by
  rw [TracksPulse, hp, hr]
  exact h

theorem TracksPulse.concat {r : PulseRecord} {e : PortionEvent ℚ} (hr : r.portion = some e)
    (h : Portions.Tracks pulseCount (log.filterMap PulseRecord.portion ++ [e])
      ⟨b.pendingPulseW,b.pulseRemaining⟩) : TracksPulse (log ++ [r]) b := by
  rw [TracksPulse, List.filterMap_append]
  simpa [hr] using h

theorem TracksPulse.skip {r : PulseRecord} (hr : r.portion = none) (h : TracksPulse log b) :
    TracksPulse (log ++ [r]) b := by
  have hnil : [r].filterMap PulseRecord.portion = [] := by simp [hr]
  rw [TracksPulse, List.filterMap_append, hnil, List.append_nil]
  exact h

theorem TracksPulse.queue (h : TracksPulse log b)
    (hgate : s.circuitMuted now b.circuit = false → b.pulseRemaining = 0) :
    TracksPulse (log ++ queueRecord s now deltas b) (queuePulse s now deltas b) := by
  have hreached : TracksPulse (log ++ [.reached]) b := h.skip rfl
  unfold queueRecord queuePulse
  by_cases hm : s.circuitMuted now b.circuit = true
  · rw [if_pos hm, if_pos hm]
    split
    · have hsplit : log ++ [PulseRecord.reached,.dropped] = (log ++ [.reached]) ++ [.dropped] := by
        simp
      rw [hsplit]
      exact .concat rfl (hreached.drop 0)
    · rename_i hzero
      have hr : b.pulseRemaining = 0 := Nat.eq_zero_of_not_pos hzero
      rw [TracksPulse, hr] at hreached
      exact hreached.forget 0
  · have hr := hgate (Bool.eq_false_iff.mpr hm)
    rw [if_neg hm, if_neg hm]
    dsimp only
    split
    · exact hreached
    · rename_i hlarge
      have hdelta : (deltas.get? b.id).getD 0 ≠ 0 := by
        intro hz
        rw [hz, abs_zero] at hlarge
        exact hlarge (by norm_num [writeDeadbandW])
      have hsplit : log ++ [PulseRecord.reached,.armed ((deltas.get? b.id).getD 0)] =
          (log ++ [.reached]) ++ [.armed ((deltas.get? b.id).getD 0)] := by simp
      rw [hsplit]
      rw [TracksPulse, hr] at hreached
      exact .concat rfl (hreached.load hdelta)

theorem TracksPulse.drain (h : TracksPulse log b) (silent : Bool) :
    TracksPulse (log ++ [.drained (drainPulse now b).1 silent]) (drainPulse now b).2 := by
  refine .concat rfl ?_
  cases hr : b.pulseRemaining with
  | zero =>
    obtain ⟨hvalue,hleft,hpending⟩ := drainPulse_of_empty hr now
    rw [TracksPulse, hr] at h
    rw [hvalue, hleft, hpending]
    exact h.miss
  | succ n =>
    obtain ⟨hvalue,hleft,hpending⟩ := drainPulse_of_pending hr now
    rw [TracksPulse, hr] at h
    rw [hvalue, hleft]
    exact h.take hpending

theorem PulseInv.step_silent (h : PulseInv sys) (e : PulseEvent) (id : String)
    (hid : (pulseStep sys e).app.batteries.get? id = none) : (pulseStep sys e).log id = [] := by
  cases pulseStep_moved sys e id with
  | absent hnone _ hlog => rw [hlog, h.silent id hnone]
  | present b c records _ hc => rw [hc] at hid; cases hid

theorem PulseInv.step_tracks (h : PulseInv sys) (e : PulseEvent) (id : String) (b' : BatteryState)
    (hb' : (pulseStep sys e).app.batteries.get? id = some b') :
    TracksPulse ((pulseStep sys e).log id) b' := by
  cases pulseStep_moved sys e id with
  | absent _ hnone _ => rw [hnone] at hb'; cases hb'
  | present b c records hb hc _ hlog hmove =>
    rw [hc] at hb'
    cases hb'
    rw [hlog]
    have htracks := h.tracks id b hb
    cases hmove with
    | keep hp hr =>
      rw [List.append_nil]
      exact htracks.keep hp hr
    | mute hp hr => exact (htracks.keep hp hr).skip rfl
    | queue now clock deltas _ hphase hq =>
      rw [hq]
      exact htracks.queue (fun hm => h.gate now (by rw [hphase]; rfl) id b hb hm)
    | drain now clock _ _ hd =>
      rw [hd]
      exact htracks.drain _

theorem pulseRemaining_eq_zero_of_settled
    (h : anyPulseInFlight s dcfg now clock = false) {id : String}
    (hb : s.batteries.get? id = some b) (hm : s.circuitMuted now b.circuit = false) :
    b.pulseRemaining = 0 := by
  have hall := List.any_eq_false.mp h b ((Table.mem_values_iff _ _).mpr ⟨id,hb⟩)
  rw [hm] at hall
  by_contra hr
  apply hall
  rw [BatteryState.pulseSettled, if_pos (Nat.pos_of_ne_zero hr)]
  rfl

/-- Whatever runs between two functions of the tick takes samples at most. -/
theorem PulseInv.gate_frame (h : PulseInv sys) (he : ∀ clock, e ≠ .proceed clock)
    (hphase : (pulseStep sys e).phase = sys.phase)
    (hsilent : (pulseStep sys e).app.circuitMuted = sys.app.circuitMuted) (now : Instant)
    (hnow : (pulseStep sys e).phase.passedGate = some now) (id : String) (b' : BatteryState)
    (hb' : (pulseStep sys e).app.batteries.get? id = some b')
    (hm : (pulseStep sys e).app.circuitMuted now b'.circuit = false) : b'.pulseRemaining = 0 := by
  rw [hphase] at hnow
  rw [hsilent] at hm
  cases pulseStep_moved sys e id with
  | absent _ hnone _ => rw [hnone] at hb'; cases hb'
  | present b c records hb hc hparams _ hmove =>
    rw [hc] at hb'
    cases hb'
    rw [hparams] at hm
    have hr := h.gate now hnow id b hb hm
    cases hmove with
    | keep _ hkeep => rw [hkeep, hr]
    | mute _ hkeep => rw [hkeep, hr]
    | queue _ clock _ hproceed _ _ => exact absurd hproceed (he clock)
    | drain now _ _ _ hd => rw [hd, (drainPulse_of_empty hr now).2.1]

theorem circuitMuted_congr {s' : AppState} (h : s'.circuits = s.circuits) :
    s'.circuitMuted = s.circuitMuted := by
  funext now c
  rw [AppState.circuitMuted, h, AppState.circuitMuted]

/-- The gate itself, and what the tick does after it. -/
theorem PulseInv.gate_proceed (h : PulseInv sys) (clock now : Instant)
    (hnow : (sys.proceed clock).phase.passedGate = some now) (id : String) (b : BatteryState)
    (hb : (sys.proceed clock).app.batteries.get? id = some b)
    (hm : (sys.proceed clock).app.circuitMuted now b.circuit = false) : b.pulseRemaining = 0 := by
  rw [PulseSystem.proceed] at hnow hb hm
  cases hphase : sys.phase with
  | idle => simp only [hphase] at hnow; cases hnow
  | fresh dcfg start => simp only [hphase] at hnow; cases hnow
  | classified dcfg start =>
    simp only [hphase] at hnow hb hm
    split at hnow
    · cases hnow
    · rename_i hflight
      cases hnow
      exact pulseRemaining_eq_zero_of_settled (Bool.eq_false_iff.mpr hflight) hb hm
  | opened dcfg start =>
    simp only [hphase] at hnow hb hm
    split at hnow
    · cases hnow
      exact h.gate now (by rw [hphase]; rfl) id b hb hm
    · cases hnow
  | computed start deltas => simp only [hphase] at hnow; cases hnow
  | ended => simp only [hphase] at hnow; cases hnow

theorem PulseInv.step_gate (h : PulseInv sys) (e : PulseEvent) (now : Instant)
    (hnow : (pulseStep sys e).phase.passedGate = some now) (id : String) (b' : BatteryState)
    (hb' : (pulseStep sys e).app.batteries.get? id = some b')
    (hm : (pulseStep sys e).app.circuitMuted now b'.circuit = false) : b'.pulseRemaining = 0 := by
  cases e with
  | tick dcfg start =>
    by_cases hidle : sys.phase = .idle
    · rw [pulseStep_tick hidle] at hnow
      dsimp only at hnow
      split at hnow <;> cases hnow
    · rw [pulseStep_tick_of_busy hidle] at hnow hb' hm
      exact h.gate now hnow id b' hb' hm
  | proceed clock => exact h.gate_proceed clock now hnow id b' hb' hm
  | request peer start =>
    refine h.gate_frame (fun _ hp => by cases hp) ?_ (circuitMuted_congr ?_) now hnow id b' hb' hm
    · simp only [pulseStep]
      split <;> rfl
    · simp only [pulseStep]
      split
      · exact stampPoll_circuits _
      · rfl
  | drain batteryId start clock =>
    refine h.gate_frame (fun _ hp => by cases hp) ?_ (circuitMuted_congr ?_) now hnow id b' hb' hm
    · simp only [pulseStep]
      split <;> rfl
    · simp only [pulseStep]
      split
      · exact drainPoll_circuits _
      · rfl
  | world batteries circuits snapshot =>
    refine h.gate_frame (fun _ hp => by cases hp) rfl ?_ now hnow id b' hb' hm
    funext t c
    simp only [AppState.circuitMuted,pulseStep,Table.get?_mapVal,Option.map_map]
    rfl

theorem PulseInv.step (h : PulseInv sys) (e : PulseEvent) : PulseInv (pulseStep sys e) :=
  ⟨h.step_silent e,h.step_tracks e,h.step_gate e⟩

theorem PulseInv.start (cfg : Config) : PulseInv (PulseSystem.start cfg) := by
  refine ⟨fun _ _ => rfl,fun id b hb => ?_,fun now hnow => nomatch hnow⟩
  have hempty : b.pendingPulseW = 0 ∧ b.pulseRemaining = 0 := by
    refine Table.of_get?_foldl_insert (P := fun b : BatteryState => b.pendingPulseW = 0 ∧
      b.pulseRemaining = 0) (fun k v hv => ?_) (fun a => ?_) hb
    · rw [Table.get?_empty] at hv
      cases hv
    · exact ⟨rfl,rfl⟩
  rw [TracksPulse, hempty.1, hempty.2]
  exact .empty 0

theorem pulseInv_run (cfg : Config) (events : List PulseEvent) :
    PulseInv (run pulseStep (PulseSystem.start cfg) events) :=
  foldl_inv pulseStep PulseInv events _ (.start cfg) (fun _ e _ h => h.step e)

/-! ## Between two arming events -/

theorem filterMap_takenValue (records : List PulseRecord) :
    (records.filterMap PulseRecord.portion).filterMap PortionEvent.takenValue =
      records.filterMap PulseRecord.drainedValue := by
  rw [List.filterMap_filterMap]
  refine List.filterMap_congr (fun r _ => ?_)
  cases r <;> rfl

/-- What the polls of a battery get between two arming events is the first pulse: the whole of it,
unless the rest was dropped. -/
theorem pulses_whole (cfg : Config) (events : List PulseEvent) (id : String)
    {past between after : List PulseRecord} {delta next : ℚ}
    (hlog : (run pulseStep (PulseSystem.start cfg) events).log id =
      past ++ .armed delta::between ++ .armed next::after)
    (hb : ∀ r ∈ between, r.isArmed = false) :
    (∀ value ∈ between.filterMap PulseRecord.drainedValue, value = delta) ∧
      (between.filterMap PulseRecord.drainedValue).length ≤ pulseCount ∧
      (.dropped ∉ between →
        (between.filterMap PulseRecord.drainedValue).length = pulseCount) := by
  have hinv := pulseInv_run cfg events
  obtain ⟨q,hq⟩ : ∃ q, Portions.After pulseCount
      (((run pulseStep (PulseSystem.start cfg) events).log id).filterMap PulseRecord.portion) q := by
    cases hid : (run pulseStep (PulseSystem.start cfg) events).app.batteries.get? id with
    | none =>
      rw [hinv.silent id hid]
      exact ⟨⟨0,0⟩,.empty 0⟩
    | some b =>
      obtain ⟨q,hq,-⟩ := hinv.tracks id b hid
      exact ⟨q,hq⟩
  rw [hlog, List.filterMap_append, List.filterMap_append] at hq
  change Portions.After pulseCount (past.filterMap PulseRecord.portion ++
    .loaded delta::between.filterMap PulseRecord.portion ++
      .loaded next::after.filterMap PulseRecord.portion) q at hq
  have hloads : ∀ p ∈ between.filterMap PulseRecord.portion, p.isLoaded = false := by
    intro p hp
    obtain ⟨r,hr,hrp⟩ := List.mem_filterMap.mp hp
    have hunarmed := hb r hr
    cases r with
    | armed d => cases hunarmed
    | dropped => cases hrp; rfl
    | muted => cases hrp
    | reached => cases hrp
    | drained v silent => cases hrp; rfl
  obtain ⟨hsame,hbounded,hcomplete⟩ := hq.between hloads
  rw [filterMap_takenValue] at hsame hbounded hcomplete
  refine ⟨hsame,hbounded,fun hno => hcomplete (fun hdrop => hno ?_)⟩
  obtain ⟨r,hr,hrp⟩ := List.mem_filterMap.mp hdrop
  cases r with
  | armed d => cases hrp
  | dropped => exact hr
  | muted => cases hrp
  | reached => cases hrp
  | drained v silent => cases hrp

/-! ## A house whose batteries take their pulses -/

def pulseTick (now : Instant) : List PulseEvent :=
  .tick pulseHouse.dispatcher now::List.replicate 4 (.proceed now)

def pollsOf (id : String) (peer : IpAddr) (now : Instant) : List PulseEvent :=
  (List.replicate pulseCount [PulseEvent.request peer now,.drain (some id) now now]).flatten

/-- The plugs and the grid meter are read, each plug at its own time. -/
def meters (plug grid : ℚ) (readAt : String → Instant) (now : Instant) : PulseEvent :=
  .world (fun id => { reported plug 50 id with
    lastPlugAt := some (readAt id)
    lastPlugMovementAt := some (readAt id) })
    (fun _ => { config := { id := "", fuseAmps := 0 }, memberIds := [] }) ⟨some grid,some now⟩

/-- The house imports a kilowatt, and half of it once the batteries have reacted. -/
def twoPulses : List PulseEvent :=
  meters 0 1000 (fun _ => 0) 0::pulseTick 0 ++ pollsOf "a" "10.0.0.1" 1 ++
    pollsOf "b" "10.0.0.2" 1 ++ pollsOf "c" "10.0.0.3" 1 ++
      meters 330 500 (fun _ => 12) 12::pulseTick 12

theorem pulses_whole_house :
    (run pulseStep (PulseSystem.start pulseHouse) twoPulses).log "a" = [.reached] ++
      .armed 330::[.drained 330 false,.drained 330 false,.drained 330 false,.reached] ++
        .armed (490 / 3)::[] ∧
    ([PulseRecord.drained 330 false,.drained 330 false,.drained 330 false,.reached].filterMap
      PulseRecord.drainedValue).length = pulseCount := by
  have hlog : (run pulseStep (PulseSystem.start pulseHouse) twoPulses).log "a" = [.reached] ++
      .armed 330::[.drained 330 false,.drained 330 false,.drained 330 false,.reached] ++
        .armed (490 / 3)::[] := by decide +kernel
  exact ⟨hlog,(pulses_whole pulseHouse twoPulses "a" hlog (by decide)).2.2 (by decide)⟩

end ShellyMultiplexer
