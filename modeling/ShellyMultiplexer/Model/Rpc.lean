import ShellyMultiplexer.Model.Json

/-! # Messages of the meter

The real meter and the virtual one speak the same protocol. What is decoded is more lenient than
what is sent.
-/
namespace ShellyMultiplexer

structure RequestFrame where
  id : Option Int64 := none
  src : Option String := none
  method : String

structure RpcError where
  code : ℤ
  message : String

structure ResponseFrame where
  id : Option Int64 := none
  src : String := ""
  dst : Option String := none
  result : Option Json := none
  error : Option RpcError := none

/-- Every reading is optional, since older firmware leaves some out. -/
structure EmStatusIncoming where
  id : ℤ := 0
  aCurrent : Option ℚ := none
  aVoltage : Option ℚ := none
  aActPower : Option ℚ := none
  aAprtPower : Option ℚ := none
  aPf : Option ℚ := none
  aFreq : Option ℚ := none
  bCurrent : Option ℚ := none
  bVoltage : Option ℚ := none
  bActPower : Option ℚ := none
  bAprtPower : Option ℚ := none
  bPf : Option ℚ := none
  bFreq : Option ℚ := none
  cCurrent : Option ℚ := none
  cVoltage : Option ℚ := none
  cActPower : Option ℚ := none
  cAprtPower : Option ℚ := none
  cPf : Option ℚ := none
  cFreq : Option ℚ := none
  nCurrent : Option ℚ := none
  totalCurrent : Option ℚ := none
  totalActPower : Option ℚ := none
  totalAprtPower : Option ℚ := none
  deriving DecidableEq

def emStatusFields : List String :=
  ["id","a_current","a_voltage","a_act_power","a_aprt_power","a_pf","a_freq",
    "b_current","b_voltage","b_act_power","b_aprt_power","b_pf","b_freq",
    "c_current","c_voltage","c_act_power","c_aprt_power","c_pf","c_freq",
    "n_current","total_current","total_act_power","total_aprt_power"]

def EmStatusIncoming.fromJson (v : Json) : Except String EmStatusIncoming := do
  let field ← v.structFields emStatusFields
  return {
    id := ← Json.defaultI32 (field "id")
    aCurrent := ← Json.optF64 (field "a_current")
    aVoltage := ← Json.optF64 (field "a_voltage")
    aActPower := ← Json.optF64 (field "a_act_power")
    aAprtPower := ← Json.optF64 (field "a_aprt_power")
    aPf := ← Json.optF64 (field "a_pf")
    aFreq := ← Json.optF64 (field "a_freq")
    bCurrent := ← Json.optF64 (field "b_current")
    bVoltage := ← Json.optF64 (field "b_voltage")
    bActPower := ← Json.optF64 (field "b_act_power")
    bAprtPower := ← Json.optF64 (field "b_aprt_power")
    bPf := ← Json.optF64 (field "b_pf")
    bFreq := ← Json.optF64 (field "b_freq")
    cCurrent := ← Json.optF64 (field "c_current")
    cVoltage := ← Json.optF64 (field "c_voltage")
    cActPower := ← Json.optF64 (field "c_act_power")
    cAprtPower := ← Json.optF64 (field "c_aprt_power")
    cPf := ← Json.optF64 (field "c_pf")
    cFreq := ← Json.optF64 (field "c_freq")
    nCurrent := ← Json.optF64 (field "n_current")
    totalCurrent := ← Json.optF64 (field "total_current")
    totalActPower := ← Json.optF64 (field "total_act_power")
    totalAprtPower := ← Json.optF64 (field "total_aprt_power") }

/-- What the virtual meter sends: the same readings, and the errors of every phase. -/
structure EmStatus extends EmStatusIncoming where
  aErrors : List String := []
  bErrors : List String := []
  cErrors : List String := []
  nErrors : List String := []
  userCalibratedPhase : List String := []
  errors : List String := []

/-- A list that is left out when it is empty. -/
def Json.skipEmpty (name : String) (items : List String) : List (String × Json) :=
  if items.isEmpty then [] else [(name,.arr (items.map .str))]

def EmStatus.toJson (s : EmStatus) : Json := .obj (
  [("id",.int s.id),
    ("a_current",.ofOptF64 s.aCurrent),("a_voltage",.ofOptF64 s.aVoltage),
    ("a_act_power",.ofOptF64 s.aActPower),("a_aprt_power",.ofOptF64 s.aAprtPower),
    ("a_pf",.ofOptF64 s.aPf),("a_freq",.ofOptF64 s.aFreq)] ++
  Json.skipEmpty "a_errors" s.aErrors ++
  [("b_current",.ofOptF64 s.bCurrent),("b_voltage",.ofOptF64 s.bVoltage),
    ("b_act_power",.ofOptF64 s.bActPower),("b_aprt_power",.ofOptF64 s.bAprtPower),
    ("b_pf",.ofOptF64 s.bPf),("b_freq",.ofOptF64 s.bFreq)] ++
  Json.skipEmpty "b_errors" s.bErrors ++
  [("c_current",.ofOptF64 s.cCurrent),("c_voltage",.ofOptF64 s.cVoltage),
    ("c_act_power",.ofOptF64 s.cActPower),("c_aprt_power",.ofOptF64 s.cAprtPower),
    ("c_pf",.ofOptF64 s.cPf),("c_freq",.ofOptF64 s.cFreq)] ++
  Json.skipEmpty "c_errors" s.cErrors ++
  [("n_current",.ofOptF64 s.nCurrent)] ++
  Json.skipEmpty "n_errors" s.nErrors ++
  [("total_current",.ofOptF64 s.totalCurrent),("total_act_power",.ofOptF64 s.totalActPower),
    ("total_aprt_power",.ofOptF64 s.totalAprtPower)] ++
  Json.skipEmpty "user_calibrated_phase" s.userCalibratedPhase ++
  Json.skipEmpty "errors" s.errors)

end ShellyMultiplexer
