import ShellyMultiplexer.Guarantees.WholePulses

/-! # The gate and batteries that do not ask

The timeout of a pulse runs from the poll that takes its last sample. As long as a battery leaves
samples, it keeps the gate of the whole fleet closed, however long ago its pulse was armed.
-/
namespace ShellyMultiplexer
open Foundation

/-- What has happened to the last pulse of a battery. -/
structure ArmedPulse where
  armedAt : Instant
  /-- The polls answered since then, each with the time at which it came in. -/
  polls : List Instant := []
  /-- A tick has found the circuit silent when it came to the queue. -/
  dropped : Bool := false
  deriving DecidableEq

inductive PulseMark
  | armed (t : Instant)
  | dropped
  | polled (t : Instant)

namespace ArmedPulse

def mark : Option ArmedPulse → PulseMark → Option ArmedPulse
  | _,.armed t => some { armedAt := t }
  | last,.dropped => last.map (fun p => { p with dropped := true })
  | last,.polled t => last.map (fun p => { p with polls := p.polls ++ [t] })

/-- The samples left, and when the last one was taken. -/
def progress : Option ArmedPulse → ℕ × Option Instant
  | none => (0,none)
  | some p =>
    if p.dropped then (0,none) else (pulseCount - p.polls.length,p.polls[pulseCount - 1]?)

end ArmedPulse

def queueMark (s : AppState) (now clock : Instant) (deltas : Table String ℚ) (b : BatteryState) :
    Option PulseMark :=
  if s.circuitMuted now b.circuit then some .dropped
  else if |(deltas.get? b.id).getD 0| < writeDeadbandW then none
  else some (.armed clock)

local instance : LawfulBEq (Option String × Instant) := inferInstance

def pulseMark (sys : PulseSystem) (id : String) (b : BatteryState) : PulseEvent → Option PulseMark
  | .tick _ _ => none
  | .proceed clock =>
    match sys.phase with
    | .computed now deltas => queueMark sys.app now clock deltas b
    | _ => none
  | .request _ _ => none
  | .drain batteryId now _ =>
    if (batteryId,now) ∈ sys.admitted ∧ batteryId = some id then some (.polled now) else none
  | .world _ _ _ => none

/-- The dispatcher and its polls, with the last pulse of every battery. -/
structure GateSystem where
  pulses : PulseSystem
  last : String → Option ArmedPulse := fun _ => none

def GateSystem.start (cfg : Config) : GateSystem where
  pulses := PulseSystem.start cfg

def gateStep (g : GateSystem) (e : PulseEvent) : GateSystem where
  pulses := pulseStep g.pulses e
  last id := (((g.pulses.app.batteries.get? id).bind (fun b => pulseMark g.pulses id b e)).map
    (ArmedPulse.mark (g.last id))).getD (g.last id)

/-- The battery by itself keeps `any_pulse_in_flight` true. -/
def blocksGate (s : AppState) (dcfg : DispatcherConfig) (now clock : Instant) (b : BatteryState) :
    Bool :=
  !s.circuitMuted now b.circuit && !b.pulseSettled clock plugStableDurationS dcfg.settleTimeoutS

/-- The battery has an open circuit, and the timeout has passed since its pulse was armed. -/
structure Overdue (g : GateSystem) (dcfg : DispatcherConfig) (now clock : Instant) (id : String)
    (b : BatteryState) (p : ArmedPulse) : Prop where
  battery : g.pulses.app.batteries.get? id = some b
  last : g.last id = some p
  audible : g.pulses.app.circuitMuted now b.circuit = false
  late : dcfg.settleTimeoutS ≤ durationSince clock p.armedAt

/-- Once the timeout has passed since its pulse was armed, the battery does not block the gate. -/
def ReleasesGate (g : GateSystem) (dcfg : DispatcherConfig) (now clock : Instant) (id : String) :
    Prop :=
  ∀ b p, Overdue g dcfg now clock id b p → blocksGate g.pulses.app dcfg now clock b = false

/-- The pulse was dropped, or as many polls as it has samples were answered; the last of these lies
back the timeout, or the plug has moved after it and come to rest. -/
def PolledOut (dcfg : DispatcherConfig) (clock : Instant) (b : BatteryState) (p : ArmedPulse) :
    Prop :=
  p.dropped = true ∨ ∃ done, p.polls[pulseCount - 1]? = some done ∧
    (dcfg.settleTimeoutS ≤ durationSince clock done ∨ ∃ moved, b.lastPlugMovementAt = some moved ∧
      done ≤ moved ∧ plugStableDurationS ≤ durationSince clock moved)

def TracksProgress (last : Option ArmedPulse) (b : BatteryState) : Prop :=
  (b.pulseRemaining,b.lastPulseCompletedAt) = ArmedPulse.progress last

def GateInv (g : GateSystem) : Prop :=
  ∀ id b, g.pulses.app.batteries.get? id = some b → TracksProgress (g.last id) b

variable {g : GateSystem} {dcfg : DispatcherConfig} {now clock : Instant} {id : String}
variable {b b' : BatteryState} {p : ArmedPulse} {last : Option ArmedPulse} {s : AppState}
variable {deltas : Table String ℚ} {cfg : Config}

/-! ## The last pulse and what is left of it -/

theorem TracksProgress.remaining (h : TracksProgress last b) :
    b.pulseRemaining = (ArmedPulse.progress last).1 := congrArg Prod.fst h

theorem TracksProgress.completedAt (h : TracksProgress last b) :
    b.lastPulseCompletedAt = (ArmedPulse.progress last).2 := congrArg Prod.snd h

theorem TracksProgress.keep (h : TracksProgress last b)
    (hr : b'.pulseRemaining = b.pulseRemaining)
    (hc : b'.lastPulseCompletedAt = b.lastPulseCompletedAt) : TracksProgress last b' := by
  rw [TracksProgress, hr, hc]
  exact h

theorem progress_dropped (last : Option ArmedPulse) :
    ArmedPulse.progress (ArmedPulse.mark last .dropped) = (0,none) := by
  cases last <;> simp [ArmedPulse.mark,ArmedPulse.progress]

theorem TracksProgress.queue (h : TracksProgress last b) (now clock : Instant)
    (deltas : Table String ℚ) :
    TracksProgress (((queueMark s now clock deltas b).map (ArmedPulse.mark last)).getD last)
      (queuePulse s now deltas b) := by
  unfold queueMark queuePulse
  by_cases hm : s.circuitMuted now b.circuit = true
  · simp only [hm,if_true,Option.map_some,Option.getD_some,TracksProgress]
    exact (progress_dropped last).symm
  · simp only [hm,if_false,Bool.false_eq_true]
    split
    · exact h
    · rfl

theorem drainPulse_progress (now : Instant) (b : BatteryState) :
    ((drainPulse now b).2.pulseRemaining,(drainPulse now b).2.lastPulseCompletedAt) =
      (b.pulseRemaining - 1,if b.pulseRemaining = 1 then some now else b.lastPulseCompletedAt) := by
  unfold drainPulse
  split
  · split
    · simp [show b.pulseRemaining = 1 by omega]
    · simp [show b.pulseRemaining ≠ 1 by omega]
  · simp [show b.pulseRemaining = 0 by omega]

/-- The poll after the last but one takes the last sample. -/
theorem progress_polled (last : Option ArmedPulse) (t : Instant) :
    ArmedPulse.progress (ArmedPulse.mark last (.polled t)) =
      ((ArmedPulse.progress last).1 - 1,
        if (ArmedPulse.progress last).1 = 1 then some t else (ArmedPulse.progress last).2) := by
  cases last with
  | none => rfl
  | some p =>
    by_cases hd : p.dropped = true
    · simp [ArmedPulse.mark,ArmedPulse.progress,hd]
    · simp only [ArmedPulse.mark,ArmedPulse.progress,Option.map_some,hd,if_false,
        Bool.false_eq_true,List.length_append,List.length_singleton,Nat.sub_sub]
      refine congrArg _ ?_
      by_cases hone : pulseCount - p.polls.length = 1
      · have hlast : pulseCount - 1 = p.polls.length := by
          simp only [pulseCount] at hone ⊢
          omega
        simp [hone,hlast]
      · rw [if_neg hone]
        rcases Nat.lt_or_ge (pulseCount - 1) p.polls.length with hlt | hge
        · exact List.getElem?_append_left hlt
        · have hnone : p.polls[pulseCount - 1]? = none := List.getElem?_eq_none hge
          rw [hnone]
          refine List.getElem?_eq_none ?_
          simp only [pulseCount,List.length_append,List.length_singleton] at hone hge ⊢
          omega

theorem TracksProgress.drain (h : TracksProgress last b) (now : Instant) :
    TracksProgress (ArmedPulse.mark last (.polled now)) (drainPulse now b).2 := by
  rw [TracksProgress, drainPulse_progress, progress_polled, ← h]

/-! ## Runs -/

theorem detectPulseOutcome_completedAt (b : BatteryState) :
    (detectPulseOutcome dcfg now b).lastPulseCompletedAt = b.lastPulseCompletedAt :=
  detectPulseOutcome_inv BatteryState.lastPulseCompletedAt (fun _ v => by cases v <;> rfl) b

theorem pulseMark_of_leaves {sys : PulseSystem} {e : PulseEvent} (h : LeavesPulse sys id e)
    (b : BatteryState) : pulseMark sys id b e = none := by
  cases e with
  | proceed clock =>
    obtain ⟨-,hqueue⟩ := h
    unfold pulseMark
    cases hphase : sys.phase with
    | computed now deltas => exact absurd hphase (hqueue now deltas)
    | _ => rfl
  | drain batteryId now clock => exact if_neg h
  | _ => rfl

/-- A step takes every battery along with its last pulse. -/
theorem GateInv.step (h : GateInv g) (e : PulseEvent) : GateInv (gateStep g e) := by
  intro id b' hb'
  obtain ⟨b,hb,hchange⟩ := pulseStep_change hb'
  have htracks := h id b hb
  simp only [gateStep,hb,Option.bind_some]
  cases hchange with
  | classified dcfg now clock hphase =>
    simp only [pulseMark,hphase,Option.map_none,Option.getD_none]
    exact htracks.keep (detectPulseOutcome_pulse b).2 (detectPulseOutcome_completedAt b)
  | queued now clock deltas hphase =>
    simp only [pulseMark,hphase]
    exact htracks.queue now clock deltas
  | drained now clock hadmitted =>
    rw [pulseMark, if_pos ⟨hadmitted,rfl⟩]
    exact htracks.drain now
  | kept e b' hleaves hsame =>
    rw [pulseMark_of_leaves hleaves]
    exact htracks.keep hsame.remaining hsame.completedAt

theorem GateInv.start (cfg : Config) : GateInv (GateSystem.start cfg) := by
  intro id b hb
  refine Table.of_get?_foldl_insert (P := TracksProgress none) (fun k v hv => ?_) (fun a => ?_) hb
  · rw [Table.get?_empty] at hv
    cases hv
  · exact rfl

theorem gateInv_run (cfg : Config) (events : List PulseEvent) :
    GateInv (run gateStep (GateSystem.start cfg) events) :=
  foldl_inv gateStep GateInv events _ (.start cfg) (fun _ e _ h => h.step e)

theorem gateSystem_pulses (cfg : Config) (events : List PulseEvent) :
    (run gateStep (GateSystem.start cfg) events).pulses =
      run pulseStep (PulseSystem.start cfg) events := by
  induction events using List.reverseRecOn with
  | nil => rfl
  | append_singleton events e ih =>
    rw [run_concat, run_concat, ← ih]
    rfl

/-! ## Who blocks the gate -/

theorem anyPulseInFlight_eq_false_iff :
    anyPulseInFlight s dcfg now clock = false ↔
      ∀ id b, s.batteries.get? id = some b → blocksGate s dcfg now clock b = false := by
  constructor
  · intro h id b hb
    exact Bool.eq_false_iff.mpr (List.any_eq_false.mp h b ((Table.mem_values_iff _ _).mpr ⟨id,hb⟩))
  · intro h
    refine List.any_eq_false.mpr (fun b hb => ?_)
    obtain ⟨id,hid⟩ := (Table.mem_values_iff _ _).mp hb
    exact Bool.eq_false_iff.mp (h id b hid)

theorem pulseSettled_iff (stableS timeoutS : ℚ) :
    b.pulseSettled clock stableS timeoutS = true ↔ b.pulseRemaining = 0 ∧
      ∀ done, b.lastPulseCompletedAt = some done → timeoutS ≤ durationSince clock done ∨
        ∃ moved, b.lastPlugMovementAt = some moved ∧ done ≤ moved ∧
          stableS ≤ durationSince clock moved := by
  unfold BatteryState.pulseSettled
  split
  · rename_i hr
    simp [hr.ne']
  · rename_i hr
    have hzero : b.pulseRemaining = 0 := Nat.eq_zero_of_not_pos hr
    cases hc : b.lastPulseCompletedAt with
    | none => simp [hzero]
    | some done =>
      by_cases ht : timeoutS ≤ durationSince clock done
      · simp [hzero,ht]
      · cases hm : b.lastPlugMovementAt <;> simp [hzero,ht]

/-- A battery whose pulse was armed has settled when its polls are over. -/
theorem pulseSettled_iff_polledOut (h : TracksProgress (some p) b) :
    b.pulseSettled clock plugStableDurationS dcfg.settleTimeoutS = true ↔
      PolledOut dcfg clock b p := by
  rw [pulseSettled_iff, PolledOut, h.remaining, h.completedAt, ArmedPulse.progress]
  by_cases hd : p.dropped = true
  · simp [hd]
  · rcases Nat.lt_or_ge (pulseCount - 1) p.polls.length with hlt | hge
    · have hzero : pulseCount - p.polls.length = 0 := by omega
      simp [hd,hzero,List.getElem?_eq_getElem hlt]
    · have hleft : pulseCount - p.polls.length ≠ 0 := by
        simp only [pulseCount] at hge ⊢
        omega
      simp [hd,hleft,List.getElem?_eq_none hge]

theorem blocksGate_iff_of_tracks (h : TracksProgress (some p) b)
    (haudible : s.circuitMuted now b.circuit = false) :
    blocksGate s dcfg now clock b = false ↔ PolledOut dcfg clock b p := by
  rw [← pulseSettled_iff_polledOut h, blocksGate, haudible]
  simp

/-- A battery that was never sent a pulse does not block the gate. -/
theorem blocksGate_of_unarmed (h : TracksProgress none b) :
    blocksGate s dcfg now clock b = false := by
  have hsettled : b.pulseSettled clock plugStableDurationS dcfg.settleTimeoutS = true :=
    (pulseSettled_iff _ _).mpr ⟨h.remaining,fun done hdone =>
      nomatch h.completedAt.symm.trans hdone⟩
  rw [blocksGate, hsettled]
  simp

/-- In every state of every run, a battery lets the gate open in time exactly when it has polled
out its pulse. -/
theorem releases_gate_iff (cfg : Config) (events : List PulseEvent) (dcfg : DispatcherConfig)
    (now clock : Instant) (id : String) :
    ReleasesGate (run gateStep (GateSystem.start cfg) events) dcfg now clock id ↔
      ∀ b p, Overdue (run gateStep (GateSystem.start cfg) events) dcfg now clock id b p →
        PolledOut dcfg clock b p := by
  refine forall_congr' (fun b => forall_congr' (fun p => imp_congr_right (fun h => ?_)))
  have htracks := gateInv_run cfg events id b h.battery
  rw [h.last] at htracks
  exact blocksGate_iff_of_tracks htracks h.audible

/-- When all pulses are overdue, the tick passes the gate exactly when every battery on an open
circuit has polled out. -/
theorem gate_opens_iff (cfg : Config) (events : List PulseEvent) (dcfg : DispatcherConfig)
    (now clock : Instant)
    (hlate : ∀ id p, (run gateStep (GateSystem.start cfg) events).last id = some p →
      dcfg.settleTimeoutS ≤ durationSince clock p.armedAt) :
    anyPulseInFlight (run gateStep (GateSystem.start cfg) events).pulses.app dcfg now clock =
        false ↔
      ∀ id b p, Overdue (run gateStep (GateSystem.start cfg) events) dcfg now clock id b p →
        PolledOut dcfg clock b p := by
  rw [anyPulseInFlight_eq_false_iff]
  constructor
  · intro h id
    exact (releases_gate_iff cfg events dcfg now clock id).mp (fun b p hb => h id b hb.battery)
  · intro h id b hb
    cases hlast : (run gateStep (GateSystem.start cfg) events).last id with
    | none => exact blocksGate_of_unarmed (hlast ▸ gateInv_run cfg events id b hb)
    | some p =>
      by_cases hm : (run gateStep (GateSystem.start cfg) events).pulses.app.circuitMuted now
          b.circuit = true
      · simp [blocksGate,hm]
      · exact (releases_gate_iff cfg events dcfg now clock id).mpr (h id) b p
          ⟨hb,hlast,Bool.eq_false_iff.mpr hm,hlate id p hlast⟩

/-! ## A battery without a network -/

/-- Two batteries take their pulses; the third never asks. A minute later, all meters being read, a
tick looks for pulses in flight. -/
def silentBattery : List PulseEvent :=
  meters 0 1000 (fun _ => 0) 0::pulseTick 0 ++ pollsOf "a" "10.0.0.1" 1 ++
    pollsOf "b" "10.0.0.2" 1 ++
      [meters 0 1000 (fun _ => 60) 60,.tick pulseHouse.dispatcher 60,.proceed 60]

def silentFleet : GateSystem := run gateStep (GateSystem.start pulseHouse) silentBattery

/-- The gate is closed because of that battery alone. -/
theorem silent_battery_blocks_the_fleet : pulseHouse.validate (fun _ => true) = .ok () ∧
    (∀ b ∈ silentFleet.pulses.app.batteries.values,
      blocksGate silentFleet.pulses.app pulseHouse.dispatcher 60 60 b = (b.id == "c")) ∧
    silentFleet.last "c" = some { armedAt := 0 } ∧
    ¬ ReleasesGate silentFleet pulseHouse.dispatcher 60 60 "c" := by
  have hlast : silentFleet.last "c" = some { armedAt := 0 } := by decide +kernel
  refine ⟨pulseHouse_valid,by decide +kernel,hlast,fun h => ?_⟩
  have hc : (silentFleet.pulses.app.batteries.get? "c").map (fun b =>
      (silentFleet.pulses.app.circuitMuted 60 b.circuit,
        blocksGate silentFleet.pulses.app pulseHouse.dispatcher 60 60 b)) = some (false,true) := by
    decide +kernel
  obtain ⟨b,hb,hpair⟩ := Option.map_eq_some_iff.mp hc
  obtain ⟨haudible,hblocks⟩ := Prod.mk.inj hpair
  rw [h b _ ⟨hb,hlast,haudible,by decide +kernel⟩] at hblocks
  cases hblocks

end ShellyMultiplexer
