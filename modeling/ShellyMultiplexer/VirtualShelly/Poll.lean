import ShellyMultiplexer.Model.State

/-! # Polls of the virtual meter

A battery asks the virtual meter for a reading. On a silent circuit it gets no answer; otherwise it
takes one sample of its pulse, or zero when none is left.
-/
namespace ShellyMultiplexer
open Foundation

def isPollMuted (s : AppState) (batteryId : Option String) (now : Instant) : Bool :=
  match batteryId with
  | some bid => ((s.batteries.get? bid).map (fun b => s.circuitMuted now b.circuit)).getD false
  | none => false

def stampPoll (s : AppState) (batteryId : Option String) (now : Instant) : AppState :=
  match batteryId with
  | some bid => { s with
      batteries := s.batteries.modify bid (fun b => { b with lastMarstekPollAt := some now }) }
  | none => s

/-- The value of the answer, and what is left of the pulse. -/
def drainPulse (now : Instant) (b : BatteryState) : ℚ × BatteryState :=
  if 0 < b.pulseRemaining then
    if b.pulseRemaining - 1 = 0 then
      (b.pendingPulseW,{ b with
        lastMarstekPollAt := some now
        pulseRemaining := b.pulseRemaining - 1
        pendingPulseW := 0
        lastPulseCompletedAt := some now })
    else
      (b.pendingPulseW,{ b with
        lastMarstekPollAt := some now
        pulseRemaining := b.pulseRemaining - 1 })
  else (0,{ b with lastMarstekPollAt := some now })

def drainPoll (s : AppState) (batteryId : Option String) (now : Instant) : ℚ × AppState :=
  match batteryId with
  | some bid =>
    (((s.batteries.get? bid).map (fun b => (drainPulse now b).1)).getD 0,{ s with
      batteries := s.batteries.modify bid (fun b => (drainPulse now b).2) })
  | none => (0,s)

/-- A poll from one address, answered with a value or not at all. -/
def handleRequest (s : AppState) (peer : IpAddr) (now : Instant) : Option ℚ × AppState :=
  let batteryId := s.byAddr.get? peer
  if isPollMuted s batteryId now then (none,stampPoll s batteryId now)
  else
    let (value,s) := drainPoll s batteryId now
    (some value,s)

variable {s : AppState} {now : Instant} {b : BatteryState}

@[simp] theorem drainPulse_params : (drainPulse now b).2.toBatteryParams = b.toBatteryParams := by
  unfold drainPulse
  split
  · split <;> rfl
  · rfl

theorem drainPulse_of_empty (h : b.pulseRemaining = 0) (now : Instant) :
    (drainPulse now b).1 = 0 ∧ (drainPulse now b).2.pulseRemaining = 0 ∧
      (drainPulse now b).2.pendingPulseW = b.pendingPulseW := by
  have hn : ¬ 0 < b.pulseRemaining := h.not_gt
  rw [drainPulse, if_neg hn]
  exact ⟨rfl,h,rfl⟩

theorem drainPulse_of_pending {n : ℕ} (h : b.pulseRemaining = n + 1) (now : Instant) :
    (drainPulse now b).1 = b.pendingPulseW ∧ (drainPulse now b).2.pulseRemaining = n ∧
      (0 < n → (drainPulse now b).2.pendingPulseW = b.pendingPulseW) := by
  have hpos : 0 < b.pulseRemaining := h ▸ Nat.succ_pos n
  have hleft : b.pulseRemaining - 1 = n := by rw [h, Nat.add_sub_cancel]
  rw [drainPulse, if_pos hpos]
  split
  · rename_i hn
    exact ⟨rfl,hleft,fun hlt => absurd (hleft.symm.trans hn) hlt.ne'⟩
  · exact ⟨rfl,hleft,fun _ => rfl⟩

@[simp] theorem stampPoll_circuits (batteryId : Option String) :
    (stampPoll s batteryId now).circuits = s.circuits := by
  cases batteryId <;> rfl

@[simp] theorem drainPoll_circuits (batteryId : Option String) :
    (drainPoll s batteryId now).2.circuits = s.circuits := by
  cases batteryId <;> rfl

/-- A muted poll takes nothing. -/
theorem stampPoll_get? (batteryId : Option String) (id : String) :
    (stampPoll s batteryId now).batteries.get? id = (s.batteries.get? id).map (fun b =>
      if batteryId = some id then { b with lastMarstekPollAt := some now } else b) := by
  cases batteryId with
  | none => simp [stampPoll]
  | some bid =>
    rw [stampPoll, Table.get?_modify]
    by_cases h : id = bid
    · simp [h]
    · simp [h,Ne.symm h]

theorem drainPoll_get? (batteryId : Option String) (id : String) :
    (drainPoll s batteryId now).2.batteries.get? id = (s.batteries.get? id).map (fun b =>
      if batteryId = some id then (drainPulse now b).2 else b) := by
  cases batteryId with
  | none => simp [drainPoll]
  | some bid =>
    rw [drainPoll, Table.get?_modify]
    by_cases h : id = bid
    · simp [h]
    · simp [h,Ne.symm h]

end ShellyMultiplexer
