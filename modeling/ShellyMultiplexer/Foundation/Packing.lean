import Mathlib.Data.List.Basic
import Mathlib.Data.Nat.Bitwise

/-! # Packing

A list is laid out in pairs, with padding where the last pairs have no element left. Two numbers are
joined into one, the high part first, and taken apart again.
-/
namespace Foundation
variable {α : Type*}

/-- The first `2 n` places of a list in pairs, filled up with padding. -/
def pairUp (pad : α) : ℕ → List α → List (α × α)
  | 0,_ => []
  | n + 1,l => (l.headD pad,l.tail.headD pad)::pairUp pad n l.tail.tail

variable {pad : α} {n : ℕ} {l : List α}

@[simp] theorem length_pairUp (pad : α) (n : ℕ) (l : List α) : (pairUp pad n l).length = n := by
  induction n generalizing l with
  | zero => rfl
  | succ n ih => rw [pairUp, List.length_cons, ih]

theorem flatMap_pairUp_nil (pad : α) (n : ℕ) :
    (pairUp pad n []).flatMap (fun p => [p.1,p.2]) = List.replicate (2 * n) pad := by
  induction n with
  | zero => rfl
  | succ n ih =>
    rw [pairUp, List.flatMap_cons, List.tail_nil, List.tail_nil, ih]
    rfl

/-- The pairs hold the list and nothing but padding behind it. -/
theorem flatMap_pairUp (pad : α) (h : l.length ≤ 2 * n) :
    (pairUp pad n l).flatMap (fun p => [p.1,p.2]) =
      l ++ List.replicate (2 * n - l.length) pad := by
  induction n generalizing l with
  | zero =>
    obtain rfl := List.length_eq_zero_iff.mp (Nat.le_zero.mp h)
    rfl
  | succ n ih =>
    match l with
    | [] => exact flatMap_pairUp_nil pad (n + 1)
    | [a] =>
      rw [pairUp, List.flatMap_cons, List.tail_cons, List.tail_nil, flatMap_pairUp_nil]
      rfl
    | a::b::l =>
      have hl : l.length ≤ 2 * n := by simpa [Nat.mul_succ] using h
      have hn : 2 * (n + 1) - (a::b::l).length = 2 * n - l.length := by
        simp only [List.length_cons]
        omega
      rw [pairUp, List.flatMap_cons, List.tail_cons, List.tail_cons, ih hl, hn]
      rfl

theorem of_mem_pairUp {P : α → Prop} (hpad : P pad) (hl : ∀ a ∈ l, P a) {p : α × α}
    (hp : p ∈ pairUp pad n l) : P p.1 ∧ P p.2 := by
  have hhead : ∀ l : List α, (∀ a ∈ l, P a) → P (l.headD pad) := by
    intro l hl
    cases l with
    | nil => exact hpad
    | cons a l => exact hl a List.mem_cons_self
  induction n generalizing l with
  | zero => cases hp
  | succ n ih =>
    have htail : ∀ a ∈ l.tail, P a := fun a ha => hl a (List.mem_of_mem_tail ha)
    rcases List.mem_cons.mp hp with rfl | hp
    · exact ⟨hhead l hl,hhead l.tail htail⟩
    · exact ih (fun a ha => htail a (List.mem_of_mem_tail ha)) hp

/-! ## Two numbers in one -/

variable {lo w : ℕ}

theorem shiftLeft_or_eq (hi : ℕ) (h : lo < 2 ^ w) : hi <<< w ||| lo = hi * 2 ^ w + lo := by
  rw [← Nat.shiftLeft_add_eq_or_of_lt h, Nat.shiftLeft_eq]

theorem shiftLeft_or_shiftRight (hi : ℕ) (h : lo < 2 ^ w) : (hi <<< w ||| lo) >>> w = hi := by
  rw [shiftLeft_or_eq hi h, Nat.shiftRight_eq_div_pow, add_comm,
    Nat.add_mul_div_right _ _ (Nat.two_pow_pos w), Nat.div_eq_of_lt h, zero_add]

theorem shiftLeft_or_mod (hi : ℕ) (h : lo < 2 ^ w) : (hi <<< w ||| lo) % 2 ^ w = lo := by
  rw [shiftLeft_or_eq hi h, Nat.mul_add_mod_self_right, Nat.mod_eq_of_lt h]

theorem split_join (n w : ℕ) : (n >>> w) <<< w ||| n % 2 ^ w = n := by
  rw [shiftLeft_or_eq _ (Nat.mod_lt n (Nat.two_pow_pos w)), Nat.shiftRight_eq_div_pow,
    Nat.div_add_mod']

end Foundation
