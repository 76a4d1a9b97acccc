import Mathlib.Algebra.Order.Field.Rat
import Mathlib.Data.Rat.Cast.Defs

/-! # JSON values

What a parsed message looks like. An integer and a number with a fraction or an exponent are told
apart, as the decoders do.
-/
namespace ShellyMultiplexer

inductive Json
  | null
  | bool (b : Bool)
  | int (n : ℤ)
  | float (x : ℚ)
  | str (s : String)
  | arr (items : List Json)
  | obj (fields : List (String × Json))

namespace Json

/-- The field of an object; the last one of a name counts. -/
def get? (v : Json) (name : String) : Option Json :=
  match v with
  | obj fields => fields.reverse.lookup name
  | _ => none

def asF64 : Json → Option ℚ
  | int n => some n
  | float x => some x
  | _ => none

def asStr : Json → Option String
  | str s => some s
  | _ => none

def ofOptF64 : Option ℚ → Json
  | none => null
  | some x => float x

/-- An `Option<f64>`: it may be missing or null. -/
def optF64 : Option Json → Except String (Option ℚ)
  | none => .ok none
  | some null => .ok none
  | some (int n) => .ok (some n)
  | some (float x) => .ok (some x)
  | some _ => .error "invalid type, expected f64"

/-- An `i32` with a default of zero: it may be missing, and it may not be null. -/
def defaultI32 : Option Json → Except String ℤ
  | none => .ok 0
  | some (int n) =>
    if -2 ^ 31 ≤ n ∧ n < 2 ^ 31 then .ok n else .error "invalid value, expected i32"
  | some _ => .error "invalid type, expected i32"

/-- The fields of a struct: an object names them, and an array lists all of them in order. -/
def structFields (names : List String) (v : Json) : Except String (String → Option Json) :=
  match v with
  | obj _ => .ok v.get?
  | arr items =>
    if items.length = names.length then .ok (fun name => (names.zip items).lookup name)
    else .error s!"invalid length {items.length}"
  | _ => .error "invalid type, expected a struct"

end Json
end ShellyMultiplexer
