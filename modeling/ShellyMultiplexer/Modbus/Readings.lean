import ShellyMultiplexer.Modbus.Packing
import ShellyMultiplexer.Modbus.Refresh
import ShellyMultiplexer.Modbus.Writer

/-! # What the dispatcher reads

Besides the refresh of the cache, the writer reads single values for the dispatcher: the state of
charge and the battery power on its own connection, and the cutoffs of the battery management once
at startup. Each read has its own idea of the scale.
-/
namespace ShellyMultiplexer
open Foundation

/-- The firmware has the cutoff registers. -/
def MarstekModel.supportsBmsCutoffs : MarstekModel → Bool
  | .venusEV1V2 => true
  | _ => false

def regChargingCutoff : UInt16 := 44000

def regDischargingCutoff : UInt16 := 44001

def readBatteryPowerOn (register : UInt16) (isInt32 : Bool)
    (regs : Except String (List UInt16)) : Except String ℚ :=
  match regs with
  | .error e => .error e
  | .ok words =>
    if isInt32 then
      match words with
      | hi::lo::_ => .ok ((combineWords hi lo).toInt32.toInt : ℚ)
      | _ => .error s!"modbus reg {register}: expected 2 registers, got {words.length}"
    else
      match words with
      | raw::_ => .ok (raw.toInt16.toInt : ℚ)
      | [] => .error s!"modbus reg {register}: empty response"

def readSingle (register : UInt16) (reply : WireReply) : Except String UInt16 :=
  match readHoldingOn register reply with
  | .error e => .error e
  | .ok [] => .error s!"modbus reg {register}: empty response"
  | .ok (raw::_) => .ok raw

/-- The closure `scale` of `read_bms_cutoffs`: above a hundred the word counts tenths. -/
def cutoffPct (raw : UInt16) : Option ℚ :=
  let v := if 100 < raw then (raw.toNat : ℚ) / 10 else raw.toNat
  if 0 ≤ v ∧ v ≤ 100 then some v else none

def readBmsCutoffs (charging discharging : WireReply) : Except String BmsCutoffs := do
  let charging ← readSingle regChargingCutoff charging
  let discharging ← readSingle regDischargingCutoff discharging
  .ok ⟨cutoffPct charging,cutoffPct discharging⟩

/-- The cutoffs that `init_dispatch_on` ends with. -/
def initCutoffs (model : MarstekModel) (charging discharging : WireReply) : BmsCutoffs :=
  if model.supportsBmsCutoffs then
    match readBmsCutoffs charging discharging with
    | .ok cutoffs => cutoffs
    | .error _ => {}
  else {}

/-! ## Replies over fixed contents -/

/-- The inverter answers from its registers, or not at all. -/
def Answers (contents : RegisterCache) (register : UInt16) (reply : WireReply) : Prop :=
  ∀ words, reply = .words words → Stores contents register words

variable {contents : RegisterCache} {register : UInt16} {reply : WireReply}

theorem Answers.stores {words : List UInt16} (h : Answers contents register reply)
    (hread : readHoldingOn register reply = .ok words) : Stores contents register words :=
  h words (readHoldingOn_ok hread)

/-- The answer to a read of one register. -/
theorem Answers.single {w : UInt16} (h : contents.get? register = some w) :
    Answers contents register (.words [w]) := by
  rintro words ⟨⟩ i
  have hzero : register + UInt16.ofNat i = register := by
    rw [Fin.val_eq_zero i]
    exact UInt16.add_zero register
  rw [hzero, h]
  simp

theorem readSingle_ok (h : Answers contents register reply) {raw : UInt16}
    (hread : readSingle register reply = .ok raw) : contents.get? register = some raw := by
  unfold readSingle at hread
  split at hread
  · cases hread
  · cases hread
  · rename_i w rest hwords
    cases hread
    exact (h.stores hwords).first

theorem readBmsCutoffs_ok {charging discharging : WireReply}
    (hc : Answers contents regChargingCutoff charging)
    (hd : Answers contents regDischargingCutoff discharging) {cutoffs : BmsCutoffs}
    (hread : readBmsCutoffs charging discharging = .ok cutoffs) : ∃ c d,
      contents.get? regChargingCutoff = some c ∧ contents.get? regDischargingCutoff = some d ∧
      cutoffs = ⟨cutoffPct c,cutoffPct d⟩ := by
  unfold readBmsCutoffs at hread
  cases hcread : readSingle regChargingCutoff charging with
  | error e =>
    rw [hcread] at hread
    cases hread
  | ok c =>
    cases hdread : readSingle regDischargingCutoff discharging with
    | error e =>
      rw [hcread, hdread] at hread
      cases hread
    | ok d =>
      rw [hcread, hdread] at hread
      cases hread
      exact ⟨c,d,readSingle_ok hc hcread,readSingle_ok hd hdread,rfl⟩

end ShellyMultiplexer
