import Mathlib.Order.Monotone.Basic
import Mathlib.Algebra.Order.Group.Int
import Mathlib.Data.Int.ConditionallyCompleteOrder
import Mathlib.Data.Int.SuccPred
import Mathlib.Order.Bounds.Basic

/-! # Intervals one after the other

A sequence of intervals, indexed by the integers, each of which ends before the next one begins.
-/
namespace Foundation

structure Intervals (α : Type*) [Preorder α] where
  start : ℤ → α
  finish : ℤ → α
  start_lt_finish : ∀ d, start d < finish d
  finish_lt_start : ∀ d, finish d < start (d + 1)

namespace Intervals
variable {α : Type*} [Preorder α] (I : Intervals α)

def Covers (d : ℤ) (t : α) : Prop := I.start d ≤ t ∧ t < I.finish d

/-- No interval covers the point. -/
def Gap (t : α) : Prop := ∀ d, ¬ I.Covers d t

/-- The first interval that begins after the point begins here. -/
def NextStart (t x : α) : Prop := IsLeast {y | t < y ∧ ∃ d, I.start d = y} x

theorem start_strictMono : StrictMono I.start :=
  strictMono_int_of_lt_succ fun d => (I.start_lt_finish d).trans (I.finish_lt_start d)

theorem finish_strictMono : StrictMono I.finish :=
  strictMono_int_of_lt_succ fun d => (I.finish_lt_start d).trans (I.start_lt_finish (d + 1))

variable {I}

/-- Between two neighbours nothing is covered. -/
theorem gap_of_between {d : ℤ} {t : α} (hlo : I.finish d ≤ t) (hhi : t < I.start (d + 1)) :
    I.Gap t := by
  rintro e ⟨hstart,hfinish⟩
  rcases lt_or_ge d e with hde | hed
  · have hle : I.start (d + 1) ≤ I.start e := I.start_strictMono.monotone hde
    exact lt_irrefl _ ((hhi.trans_le hle).trans_le hstart)
  · have hle : I.finish e ≤ I.finish d := I.finish_strictMono.monotone hed
    exact lt_irrefl _ ((hfinish.trans_le hle).trans_le hlo)

theorem nextStart_of_between {d : ℤ} {t : α} (hlo : I.start d ≤ t) (hhi : t < I.start (d + 1)) :
    I.NextStart t (I.start (d + 1)) := by
  refine ⟨⟨hhi,d + 1,rfl⟩,?_⟩
  rintro y ⟨hty,e,rfl⟩
  have hde : d < e := by
    by_contra hed
    have hle : I.start e ≤ I.start d := I.start_strictMono.monotone (not_lt.mp hed)
    exact lt_irrefl _ ((hty.trans_le hle).trans_le hlo)
  exact I.start_strictMono.monotone hde

end Intervals
end Foundation
