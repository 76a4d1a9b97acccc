import ShellyMultiplexer.Model.State

/-! # Plug polls

Every plug is asked for its power and, if it says so, the state of its relay. What it measures into
the load counts as charging.
-/
namespace ShellyMultiplexer

structure SwitchStatus where
  apower : Option ℚ
  output : Option Bool
  deriving DecidableEq

/-- `reply` is the error of the request, of its status or of its body, or the parsed body. -/
def fetchStatus (reply : Except String SwitchStatus) : Except String (ℚ × Option Bool) :=
  match reply with
  | .error e => .error e
  | .ok body =>
    match body.apower with
    | some apower => .ok (apower,body.output)
    | none => .error "plug omitted apower"

/-- The moving average of what the plug shows beyond the commanded power. The sign of the negated
reading is the negated sign of the reading, also at zero. -/
def smoothOverhead (apower : ℚ) (b : BatteryState) : Option ℚ :=
  match b.lastModbusSetpointW with
  | some cmd =>
    if 50 ≤ |cmd| ∧ -signum apower = signum cmd then
      let instant := -apower - cmd
      some (match b.plugOverheadWSmoothed with
        | some prev => 3 / 10 * instant + 7 / 10 * prev
        | none => instant)
    else b.plugOverheadWSmoothed
  | none => b.plugOverheadWSmoothed

def recordReading (now : Instant) (apower : ℚ) (relayOn : Option Bool) (b : BatteryState) :
    BatteryState :=
  let signedW := -apower
  let moved := (b.lastPlugW.map (fun prev => decide (plugStableW < |signedW - prev|))).getD true
  { b with
    lastPlugMovementAt := if moved then some now else b.lastPlugMovementAt
    lastPlugW := some signedW
    lastPlugAt := some now
    plugRelayState := relayOn
    plugOverheadWSmoothed := smoothOverhead apower b
    lastError := if (b.lastError.map (fun e => startsWith e "plug ")).getD false then none
      else b.lastError }

def recordFailure (e : String) (b : BatteryState) : BatteryState :=
  { b with lastError := some ("plug unreachable: " ++ e) }

/-- One pass of the poll loop of a battery. -/
def pollPlug (now : Instant) (outcome : Except String (ℚ × Option Bool)) (b : BatteryState) :
    BatteryState :=
  match outcome with
  | .ok (apower,relayOn) => recordReading now apower relayOn b
  | .error e => recordFailure e b

variable {now : Instant} {outcome : Except String (ℚ × Option Bool)} {b : BatteryState}

@[simp] theorem pollPlug_params : (pollPlug now outcome b).toBatteryParams = b.toBatteryParams := by
  cases outcome <;> rfl

/-- A poll knows nothing of the cut. -/
@[simp] theorem pollPlug_plugCutUntil : (pollPlug now outcome b).plugCutUntil = b.plugCutUntil := by
  cases outcome <;> rfl

@[simp] theorem pollPlug_plugCutReason :
    (pollPlug now outcome b).plugCutReason = b.plugCutReason := by
  cases outcome <;> rfl

end ShellyMultiplexer
