import ShellyMultiplexer.Foundation.Clamp
import Mathlib.Algebra.BigOperators.Group.List.Basic
import Mathlib.Algebra.BigOperators.Group.List.Lemmas
import Mathlib.Algebra.Order.BigOperators.Group.Finset
import Mathlib.Algebra.Order.BigOperators.Group.List
import Mathlib.Algebra.Order.Group.Unbundled.Basic
import Mathlib.Data.List.Nodup

/-! # Sums over lists

A list of distinct elements carries sums like a finite set does; these rules split such a sum and
move signs through it.
-/
namespace Foundation
variable {α M : Type*}

/-- A sum over distinct keys splits at any part of them. -/
theorem sum_map_eq_add_filter {κ : Type*} [DecidableEq κ] [AddCommMonoid M] {keys part : List κ}
    (hk : keys.Nodup) (hp : part.Nodup) (hsub : part ⊆ keys) (g : κ → M) :
    (keys.map g).sum = (part.map g).sum + ((keys.filter (· ∉ part)).map g).sum := by
  have hin : (keys.filter (· ∈ part)).Perm part :=
    (List.perm_ext_iff_of_nodup (hk.filter _) hp).mpr (fun k => by
      simpa using fun h => hsub h)
  have hsplit := (List.filter_append_perm (fun k => decide (k ∈ part)) keys).symm
  rw [(hsplit.map g).sum_eq, List.map_append, List.sum_append, (hin.map g).sum_eq]
  simp only [decide_not]

/-- Leaving out terms that are zero. -/
theorem sum_map_filter_of_zero [AddCommMonoid M] (l : List α) (p : α → Bool) {f : α → M}
    (h : ∀ a ∈ l, p a = false → f a = 0) : ((l.filter p).map f).sum = (l.map f).sum := by
  induction l with
  | nil => rfl
  | cons a l ih =>
    have hl := ih (fun b hb => h b (List.mem_cons_of_mem _ hb))
    cases hp : p a with
    | true => rw [List.filter_cons_of_pos hp, List.map_cons, List.map_cons, List.sum_cons, hl,
        List.sum_cons]
    | false => rw [List.filter_cons_of_neg (by simp [hp]), hl, List.map_cons, List.sum_cons,
        h a List.mem_cons_self hp, zero_add]

theorem sum_map_neg [AddCommGroup M] (l : List α) (f : α → M) :
    (l.map (fun a => -f a)).sum = -(l.map f).sum := by
  rw [List.sum_neg, List.map_map]
  rfl

/-- A sum without positive terms lies below each of its terms. -/
theorem sum_map_le_of_nonpos [AddCommGroup M] [PartialOrder M] [IsOrderedAddMonoid M] {l : List α}
    {f : α → M} (h : ∀ a ∈ l, f a ≤ 0) {a : α} (ha : a ∈ l) : (l.map f).sum ≤ f a := by
  have hneg : ∀ x ∈ l.map (fun a => -f a), 0 ≤ x := by
    intro x hx
    obtain ⟨b,hb,rfl⟩ := List.mem_map.mp hx
    exact neg_nonneg.mpr (h b hb)
  have hsingle := List.single_le_sum hneg (-f a) (List.mem_map_of_mem ha)
  rw [sum_map_neg] at hsingle
  exact neg_le_neg_iff.mp hsingle

/-- A term of a total that is scaled under a cap does not fall when it grows and the others, all of
its sign, shrink. -/
theorem capFactor_mul_term_le {K : Type*} [Field K] [LinearOrder K] [IsStrictOrderedRing K]
    [DecidableEq α] {l : List α} (hl : l.Nodup) {f g : α → K} {cap : K} (h : 0 ≤ cap) (other : K)
    {a : α} (ha : a ∈ l) (hg : 0 ≤ g a) (hle : g a ≤ f a)
    (hrest : ∀ x ∈ l, x ≠ a → 0 ≤ f x ∧ f x ≤ g x) :
    capFactor cap (max |(l.map g).sum| other) * g a ≤
      capFactor cap (max |(l.map f).sum| other) * f a := by
  have hothers : ∀ x ∈ l.erase a, 0 ≤ f x ∧ f x ≤ g x := fun x hx =>
    hrest x (List.mem_of_mem_erase hx) (hl.mem_erase_iff.mp hx).1
  have hf : 0 ≤ ((l.erase a).map f).sum := by
    refine List.sum_nonneg (fun y hy => ?_)
    obtain ⟨x,hx,rfl⟩ := List.mem_map.mp hy
    exact (hothers x hx).1
  have hfg : ((l.erase a).map f).sum ≤ ((l.erase a).map g).sum :=
    List.sum_le_sum (fun x hx => (hothers x hx).2)
  rw [← List.sum_map_erase f ha, ← List.sum_map_erase g ha,
    abs_of_nonneg (add_nonneg hg (hf.trans hfg)), abs_of_nonneg (add_nonneg (hg.trans hle) hf)]
  exact capFactor_mul_le h hf hfg hg hle

/-! ## Parts of a finite sum -/

section Parts
variable [AddCommGroup M] [LinearOrder M] [IsOrderedAddMonoid M] {part whole : Finset α}

/-- Any part of a sum keeps a bound that the positive terms keep among themselves, and the negative
terms too. -/
theorem abs_sum_le_of_signs {f : α → M} {cap : M} (hsub : part ⊆ whole)
    (hpos : ∑ a ∈ whole, max (f a) 0 ≤ cap) (hneg : ∑ a ∈ whole, max (-f a) 0 ≤ cap) :
    |∑ a ∈ part, f a| ≤ cap := by
  have hone : ∀ g : α → M, ∑ a ∈ part, g a ≤ ∑ a ∈ whole, max (g a) 0 := fun g =>
    (Finset.sum_le_sum (fun a _ => le_max_left (g a) 0)).trans
      (Finset.sum_le_sum_of_subset_of_nonneg hsub (fun a _ _ => le_max_right (g a) 0))
  refine abs_le'.mpr ⟨(hone f).trans hpos,?_⟩
  rw [← Finset.sum_neg_distrib]
  exact (hone _).trans hneg

/-- Terms that are each off by an error at most are off by so many errors together. -/
theorem abs_sum_le_add_nsmul {f g : α → M} {error : M} (h : ∀ a ∈ part, |g a - f a| ≤ error) :
    |∑ a ∈ part, g a| ≤ |∑ a ∈ part, f a| + part.card • error := by
  have hoff : |∑ a ∈ part, (g a - f a)| ≤ part.card • error :=
    (Finset.abs_sum_le_sum_abs _ _).trans (Finset.sum_le_card_nsmul _ _ _ h)
  rw [Finset.sum_sub_distrib] at hoff
  calc |∑ a ∈ part, g a| = |∑ a ∈ part, f a + (∑ a ∈ part, g a - ∑ a ∈ part, f a)| := by
        rw [add_sub_cancel]
    _ ≤ |∑ a ∈ part, f a| + part.card • error := (abs_add_le _ _).trans (by gcongr)

end Parts

end Foundation
