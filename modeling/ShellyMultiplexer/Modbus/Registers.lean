import ShellyMultiplexer.Soc.Sources

/-! # The registers of an inverter

Each model lists the registers of its two tiers, one by one; a field of several registers stands
there register by register.
-/
namespace ShellyMultiplexer

inductive Tier
  | fast
  | slow
  deriving DecidableEq, Repr

def Tier.debug : Tier → String
  | fast => "Fast"
  | slow => "Slow"

def venusEV1V2Fast : List UInt16 :=
  [32100,32101,32102,32103,32104,32200,32201,32202,32203,32204,32300,32301,32302,32303,35000,35001,
    35002,35100,36000,36001,36100,36101,36102,36103,42000,42010,42011,42020,42021]

def venusEV1V2Slow : List UInt16 :=
  [31100,31101,31102,31000,31001,31002,31003,31004,31005,31006,31007,31008,31009,31200,31201,31202,
    31203,31204,31205,31206,31207,31208,31209,30800,30801,30802,30803,30804,30805,30402,30403,
    30404,30405,30406,30407,30300,30301,30302,30303,32105,33000,33001,33002,33003,33004,33005,
    33006,33007,33008,33009,33010,33011,35010,35011,37007,37008,41010,41100,41200,43000,43100,
    43101,43102,43103,43104,43105,43106,43107,43108,43109,43110,43111,43112,43113,43114,43115,
    43116,43117,43118,43119,43120,43121,43122,43123,43124,43125,43126,43127,43128,43129,44000,
    44001,44002,44003,44100]

def venusEV3Fast : List UInt16 :=
  [30001,30006,30100,30101,34002,32200,37004,32204,32300,32301,32302,35000,35001,35002,35100,42000,
    42010,42011,42020,42021]

def venusEV3Slow : List UInt16 :=
  [30200,30202,30204,31000,31001,31002,31003,31004,31005,31006,31007,31008,31009,30350,30351,30352,
    30353,30354,30355,30304,30305,30306,30307,30308,30309,30300,30301,30302,30303,32105,34003,
    33000,33001,33002,33003,33004,33005,33006,33007,33008,33009,33010,33011,35010,35011,37007,
    37008,34018,34019,34020,34021,34022,34023,34024,34025,34026,34027,34028,34029,34030,34031,
    34032,34033,41100,41200,44002,44003,43000,43100,43101,43102,43103,43104,43105,43106,43107,
    43108,43109,43110,43111,43112,43113,43114,43115,43116,43117,43118,43119,43120,43121,43122,
    43123,43124,43125,43126,43127,43128,43129]

def venusDFast : List UInt16 :=
  [30001,30006,30100,30101,32104,32200,32204,37004,32300,32301,32302,30020,30021,30022,30023,30024,
    30025,30026,30027,30037,30038,30039,30040,35000,35001,35002,35100,42000,42010,42011,42020,
    42021]

def venusDSlow : List UInt16 :=
  [30200,30202,30204,31000,31001,31002,31003,31004,31005,31006,31007,31008,31009,30350,30351,30352,
    30353,30354,30355,30304,30305,30306,30307,30308,30309,30300,30301,30302,30303,32105,34003,
    33000,33001,33002,33003,33004,33005,33006,33007,33008,33009,33010,33011,35010,35011,37007,
    37008,34018,34019,34020,34021,34022,34023,34024,34025,34026,34027,34028,34029,34030,41100,
    41200,44002,44003,43000,43100,43101,43102,43103,43104,43105,43106,43107,43108,43109,43110,
    43111,43112,43113,43114,43115,43116,43117,43118,43119,43120,43121,43122,43123,43124,43125,
    43126,43127,43128,43129]

def venusAFast : List UInt16 :=
  [30001,30006,30100,30101,32104,34002,34102,34202,34302,34402,34502,32200,32204,37004,32300,32301,
    32302,30020,30021,30022,30023,30024,30025,30026,30027,30037,30038,30039,30040,35000,35001,
    35002,35100,42000,42010,42011,42020,42021]

def venusASlow : List UInt16 :=
  [30200,30202,30204,31000,31001,31002,31003,31004,31005,31006,31007,31008,31009,30350,30351,30352,
    30353,30354,30355,30304,30305,30306,30307,30308,30309,30300,30301,30302,30303,32105,34003,
    33000,33001,33002,33003,33004,33005,33006,33007,33008,33009,33010,33011,35010,35011,37007,
    37008,34018,34019,34020,34021,34022,34023,34024,34025,34026,34027,34028,34029,34030,34118,
    34119,34120,34121,34122,34123,34124,34125,34126,34127,34128,34129,34130,34218,34219,34220,
    34221,34222,34223,34224,34225,34226,34227,34228,34229,34230,34318,34319,34320,34321,34322,
    34323,34324,34325,34326,34327,34328,34329,34330,34418,34419,34420,34421,34422,34423,34424,
    34425,34426,34427,34428,34429,34430,34518,34519,34520,34521,34522,34523,34524,34525,34526,
    34527,34528,34529,34530,41100,41200,44002,44003,43000,43100,43101,43102,43103,43104,43105,
    43106,43107,43108,43109,43110,43111,43112,43113,43114,43115,43116,43117,43118,43119,43120,
    43121,43122,43123,43124,43125,43126,43127,43128,43129]

namespace MarstekModel

def fastRegisters : MarstekModel → List UInt16
  | .venusEV1V2 => venusEV1V2Fast
  | .venusEV3 => venusEV3Fast
  | .venusD => venusDFast
  | .venusA => venusAFast

def slowRegisters : MarstekModel → List UInt16
  | .venusEV1V2 => venusEV1V2Slow
  | .venusEV3 => venusEV3Slow
  | .venusD => venusDSlow
  | .venusA => venusASlow

def tierRegisters (model : MarstekModel) : Tier → List UInt16
  | .fast => model.fastRegisters
  | .slow => model.slowRegisters

def batteryPowerRegister : MarstekModel → UInt16
  | .venusEV1V2 => 32102
  | _ => 30001

/-- The power spans two registers. -/
def batteryPowerIsInt32 : MarstekModel → Bool
  | .venusEV1V2 => true
  | _ => false

/-- The high words of the fields that span two registers: the powers of the first two generations
and the energy counters. -/
def twoRegisterFields : MarstekModel → List UInt16
  | .venusEV1V2 => [32102,32202,32302,33000,33002,33004,33006,33008,33010]
  | _ => [33000,33002,33004,33006,33008,33010]

/-- Both words of a field belong to one tier. -/
theorem twoRegisterFields_tier (model : MarstekModel) (tier : Tier) {hi : UInt16}
    (hmem : hi ∈ model.twoRegisterFields) :
    hi ∈ model.tierRegisters tier ↔ hi + 1 ∈ model.tierRegisters tier := by
  have hall : model.twoRegisterFields.all (fun hi => decide
      (hi ∈ model.tierRegisters tier ↔ hi + 1 ∈ model.tierRegisters tier)) = true := by
    cases model <;> cases tier <;> decide +kernel
  exact of_decide_eq_true (List.all_eq_true.mp hall hi hmem)

end MarstekModel

/-- Two words, the high one first. -/
def combineWords (hi lo : UInt16) : UInt32 := hi.toUInt32 <<< 16 ||| lo.toUInt32

example : (combineWords 0xFFFF 0xFFFD).toInt32.toInt = -3 ∧
    (combineWords 0xFFFF 5).toInt32.toInt = -65531 := by decide

end ShellyMultiplexer
