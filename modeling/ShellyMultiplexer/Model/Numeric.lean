import Mathlib.Algebra.Order.Floor.Ring
import Mathlib.Data.Rat.Floor
import Mathlib.Tactic.NormNum
import ShellyMultiplexer.Foundation.Clamp

/-! # Numbers, clocks and text

An `f64` is modelled by a rational number without rounding, so there is no NaN, no infinity and no
negative zero. The monotonic clock counts seconds; a difference of two instants saturates at zero.
-/
namespace ShellyMultiplexer
open Foundation

abbrev Instant := ℚ
abbrev Duration := ℚ

def durationSince (now earlier : Instant) : Duration := max (now - earlier) 0

/-- `f64::clamp`; it panics on an empty window. -/
def f64Clamp (x lo hi : ℚ) : Option ℚ :=
  if lo ≤ hi then some (if x < lo then lo else if hi < x then hi else x) else none

def signum (x : ℚ) : ℚ := if 0 ≤ x then 1 else -1

/-- `f64::copysign` for a non-negative magnitude. -/
def copysign (magnitude sign : ℚ) : ℚ := signum sign * |magnitude|

/-- `f64::round`: ties go away from zero. -/
def f64Round (x : ℚ) : ℤ := if 0 ≤ x then ⌊x + 1 / 2⌋ else ⌈x - 1 / 2⌉

/-- The saturating conversion `as u16`. -/
def toU16 (x : ℚ) : UInt16 := UInt16.ofNat (min ⌊x⌋.toNat 65535)

theorem f64Clamp_eq_some {x lo hi : ℚ} (h : lo ≤ hi) : f64Clamp x lo hi = some (clampTo lo hi x) := by
  rw [f64Clamp, if_pos h, clampTo_eq_ite lo hi x h]

theorem f64Clamp_eq_none_iff {x lo hi : ℚ} : f64Clamp x lo hi = none ↔ hi < lo := by
  simp [f64Clamp]

theorem le_durationSince_iff {d : ℚ} (hd : 0 < d) (now t : Instant) :
    d ≤ durationSince now t ↔ t + d ≤ now := by
  rw [durationSince, le_max_iff, or_iff_left (not_le.mpr hd), le_sub_iff_add_le, add_comm]

theorem durationSince_lt_iff {d : ℚ} (hd : 0 < d) (now t : Instant) :
    durationSince now t < d ↔ now < t + d := by
  rw [← not_le, le_durationSince_iff hd, not_le]

theorem signum_of_nonneg {x : ℚ} (h : 0 ≤ x) : signum x = 1 := if_pos h
theorem signum_of_neg {x : ℚ} (h : x < 0) : signum x = -1 := if_neg (not_le.mpr h)

theorem toNat_toU16 {x : ℚ} (h : x ≤ 65535) : (toU16 x).toNat = ⌊x⌋.toNat := by
  have hf : ⌊x⌋ ≤ 65535 := by
    have := (Int.floor_le x).trans h
    exact_mod_cast this
  rw [toU16, min_eq_left (by omega), UInt16.toNat_ofNat']
  omega

theorem toU16_le {x : ℚ} (h0 : 0 ≤ x) (h : x ≤ 65535) : ((toU16 x).toNat : ℚ) ≤ x := by
  rw [toNat_toU16 h]
  have hf : ((⌊x⌋.toNat : ℤ) : ℚ) = (⌊x⌋ : ℚ) := by
    rw [Int.toNat_of_nonneg (Int.floor_nonneg.mpr h0)]
  calc ((⌊x⌋.toNat : ℕ) : ℚ) = (⌊x⌋ : ℚ) := by exact_mod_cast hf
    _ ≤ x := Int.floor_le x

/-! ## Printed numbers -/

def digitsAfterPoint (digits n : ℕ) : String :=
  let text := toString n
  String.ofList (List.replicate (digits - text.length) '0') ++ text

/-- Round to the nearest integer, ties to even. -/
def roundHalfEven (x : ℚ) : ℤ :=
  let down := ⌊x⌋
  let rest := x - down
  if rest < 1 / 2 then down
  else if 1 / 2 < rest then down + 1
  else if down % 2 = 0 then down else down + 1

/-- The text of `{:.digits}`. -/
def formatFixed (digits : ℕ) (x : ℚ) : String :=
  let scaled := (roundHalfEven (|x| * 10 ^ digits)).toNat
  let whole := toString (scaled / 10 ^ digits)
  (if x < 0 then "-" else "") ++ whole ++
    (if digits = 0 then "" else "." ++ digitsAfterPoint digits (scaled % 10 ^ digits))

/-- The text of `{}`: the decimal expansion, which ends for every number a configuration holds. -/
def displayF64 (x : ℚ) : String :=
  let digits := ((List.range 18).find? (fun k => x.den ∣ 10 ^ k)).getD 17
  formatFixed digits x

example : formatFixed 0 (5 / 2) = "2" ∧ formatFixed 1 (-29 / 4) = "-7.2" ∧
    displayF64 (1 / 8) = "0.125" := by decide +kernel

/-! ## Text -/

/-- The characters that `str::trim` removes. -/
def isWhiteSpace (c : Char) : Bool :=
  let n := c.toNat
  (9 ≤ n && n ≤ 13) || n == 0x20 || n == 0x85 || n == 0xA0 || n == 0x1680 ||
    (0x2000 ≤ n && n ≤ 0x200A) || n == 0x2028 || n == 0x2029 || n == 0x202F || n == 0x205F ||
    n == 0x3000

/-- `s.trim().is_empty()`. -/
def isBlank (s : String) : Bool := s.toList.all isWhiteSpace

def startsWith (s pre : String) : Bool := pre.toList.isPrefixOf s.toList

/-- `s.trim_end_matches('/')`. -/
def trimEndSlashes (s : String) : String :=
  String.ofList (s.toList.reverse.dropWhile (· = '/')).reverse

end ShellyMultiplexer
