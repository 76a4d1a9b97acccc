import Mathlib.Data.Int.Log
import ShellyMultiplexer.Model.Numeric

/-! # Floating-point values

Where a number comes from outside, it may be no number at all. The two zeros are one value here.
-/
namespace ShellyMultiplexer

inductive F64
  | nan
  | negInf
  | finite (x : ℚ)
  | posInf
  deriving DecidableEq, Repr

namespace F64

def neg : F64 → F64
  | nan => nan
  | negInf => posInf
  | finite x => finite (-x)
  | posInf => negInf

/-- `<=`, which does not hold of NaN. -/
def le : F64 → F64 → Bool
  | nan, _ => false
  | _, nan => false
  | negInf, _ => true
  | _, posInf => true
  | finite x, finite y => decide (x ≤ y)
  | _, _ => false

def lt (x y : F64) : Bool := x.le y && !y.le x

/-- `f64::clamp` of a number; it panics on a bound that is NaN and on an empty window. A window
around a single infinity has no number to return. -/
def clampBetween (x : ℚ) : F64 → F64 → Option ℚ
  | finite lo, finite hi => f64Clamp x lo hi
  | negInf, finite hi => some (min x hi)
  | finite lo, posInf => some (max lo x)
  | negInf, posInf => some x
  | _, _ => none

/-- The text of `{}`. -/
def display : F64 → String
  | nan => "NaN"
  | negInf => "-inf"
  | finite x => displayF64 x
  | posInf => "inf"

@[simp] theorem finite_le_finite (x y : ℚ) : (finite x).le (finite y) = decide (x ≤ y) := rfl
@[simp] theorem nan_le (x : F64) : nan.le x = false := rfl
@[simp] theorem le_nan (x : F64) : x.le nan = false := by cases x <;> rfl

@[simp] theorem finite_lt_finite (x y : ℚ) : (finite x).lt (finite y) = decide (x < y) := by
  rw [lt, finite_le_finite, finite_le_finite, Bool.eq_iff_iff, Bool.and_eq_true, Bool.not_eq_true',
    decide_eq_true_eq, decide_eq_false_iff_not, decide_eq_true_eq, lt_iff_le_not_ge]

@[simp] theorem clampBetween_finite (x lo hi : ℚ) :
    clampBetween x (finite lo) (finite hi) = f64Clamp x lo hi := rfl

/-- The nearest value, ties to even; a magnitude beyond the largest finite one becomes infinite. -/
def round (x : ℚ) : F64 :=
  if x = 0 then finite 0
  else
    let ulp : ℚ := 2 ^ (max (Int.log 2 |x|) (-1022) - 52)
    let magnitude := roundHalfEven (|x| / ulp) * ulp
    if 2 ^ 1024 ≤ magnitude then (if x < 0 then negInf else posInf)
    else finite (if x < 0 then -magnitude else magnitude)

/-- Membership in `0.0..=100.0`, where no comparison with NaN holds. -/
def IsPercent : F64 → Prop
  | finite x => 0 ≤ x ∧ x ≤ 100
  | _ => False

instance : DecidablePred IsPercent
  | nan => isFalse not_false
  | negInf => isFalse not_false
  | finite x => inferInstanceAs (Decidable (0 ≤ x ∧ x ≤ 100))
  | posInf => isFalse not_false

/-! ## Text -/

def digitsValue (digits : List Char) : ℕ :=
  digits.foldl (fun n c => n * 10 + (c.toNat - '0'.toNat)) 0

/-- A decimal number with `fraction` of its digits behind the point. -/
def ofDecimal (digits : List Char) (fraction : ℕ) (exponent : ℤ) : F64 :=
  round (digitsValue digits * 10 ^ (exponent - fraction))

/-- An optional sign. -/
def splitSign : List Char → Bool × List Char
  | '-'::rest => (true,rest)
  | '+'::rest => (false,rest)
  | rest => (false,rest)

/-- Digits with an optional point, at least one digit, and an optional exponent. -/
def parseDecimal (text : List Char) : Option F64 :=
  let (whole,rest) := text.span Char.isDigit
  let (fraction,rest) := match rest with
    | '.'::rest => rest.span Char.isDigit
    | rest => ([],rest)
  if whole.isEmpty && fraction.isEmpty then none
  else match rest with
    | [] => some (ofDecimal (whole ++ fraction) fraction.length 0)
    | c::rest =>
      let (negative,digits) := splitSign rest
      if (c == 'e' || c == 'E') && !digits.isEmpty && digits.all Char.isDigit then
        let exponent : ℤ := digitsValue digits
        some (ofDecimal (whole ++ fraction) fraction.length (if negative then -exponent else exponent))
      else none

/-- `str::parse::<f64>`. -/
def parse (s : String) : Option F64 :=
  let (negative,text) := splitSign s.toList
  let word := text.map Char.toLower
  let value :=
    if word = "inf".toList ∨ word = "infinity".toList then some posInf
    else if word = "nan".toList then some nan
    else parseDecimal text
  value.map (fun v => if negative then v.neg else v)

example : parse "55.5" = some (finite (111 / 2)) ∧ parse "-Inf" = some negInf ∧ parse "1e400" =
    some posInf ∧ parse "." = none ∧ parse "unavailable" = none := by decide +kernel

end F64
end ShellyMultiplexer
