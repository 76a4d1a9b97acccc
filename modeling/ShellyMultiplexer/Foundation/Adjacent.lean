import Mathlib.Algebra.BigOperators.Group.List.Basic
import Mathlib.Algebra.Order.BigOperators.Group.List
import Mathlib.Tactic.Abel

/-! # Neighbours in a list

The pairs of neighbours of a list that grows at its end, and sums of differences over them.
-/
namespace Foundation
variable {α G : Type*}

def adjacent : List α → List (α × α)
  | a::b::rest => (a,b)::adjacent (b::rest)
  | _ => []

/-- A new element at the end is next to the last one, if there is one. -/
theorem adjacent_concat (l : List α) (b : α) :
    adjacent (l ++ [b]) = adjacent l ++ (l.getLast?.map (fun a => (a,b))).toList := by
  induction l with
  | nil => rfl
  | cons a rest ih =>
    cases rest with
    | nil => rfl
    | cons c rest =>
      rw [List.cons_append, List.cons_append, adjacent, ← List.cons_append, ih, adjacent,
        List.getLast?_cons_cons]
      rfl

theorem sum_adjacent_concat [AddMonoid G] (f : α × α → G) (l : List α) (b : α) :
    ((adjacent (l ++ [b])).map f).sum =
      ((adjacent l).map f).sum + (l.getLast?.map (fun a => f (a,b))).getD 0 := by
  rw [adjacent_concat, List.map_append, List.sum_append]
  cases l.getLast? with
  | none => rfl
  | some a => simp

theorem mem_adjacent (before : List α) (a b : α) (after : List α) :
    (a,b) ∈ adjacent (before ++ a::b::after) := by
  induction before with
  | nil => exact List.mem_cons_self
  | cons c before ih =>
    cases before with
    | nil => exact List.mem_cons_of_mem _ ih
    | cons d before => exact List.mem_cons_of_mem _ ih

theorem mem_of_mem_adjacent {l : List α} {p : α × α} (h : p ∈ adjacent l) : p.2 ∈ l := by
  induction l with
  | nil => cases h
  | cons a rest ih =>
    cases rest with
    | nil => cases h
    | cons b rest =>
      rw [adjacent] at h
      rcases List.mem_cons.mp h with rfl | h
      · exact List.mem_cons_of_mem _ List.mem_cons_self
      · exact List.mem_cons_of_mem _ (ih h)

theorem pairwise_adjacent {R : α → α → Prop} {l : List α} (h : l.Pairwise R) :
    ∀ p ∈ adjacent l, R p.1 p.2 := by
  induction l with
  | nil => simp [adjacent]
  | cons a rest ih =>
    cases rest with
    | nil => simp [adjacent]
    | cons b rest =>
      intro p hp
      rw [adjacent] at hp
      rcases List.mem_cons.mp hp with rfl | hp
      · exact (List.pairwise_cons.mp h).1 b List.mem_cons_self
      · exact ih (List.pairwise_cons.mp h).2 p hp

/-- The differences of neighbours add up to the difference between the ends. -/
theorem sum_adjacent_sub [AddCommGroup G] (f : α → G) (a : α) (rest : List α) :
    ((adjacent (a::rest)).map (fun p => f p.2 - f p.1)).sum =
      f ((a::rest).getLast (List.cons_ne_nil a rest)) - f a := by
  induction rest generalizing a with
  | nil => simp [adjacent]
  | cons b rest ih =>
    rw [adjacent, List.map_cons, List.sum_cons, ih b, List.getLast_cons_cons]
    abel

/-- A list that starts below a threshold and reaches it crosses it between two neighbours. -/
theorem exists_crossing {K : Type*} [LinearOrder K] (f : α → K) (threshold : K) {a : α}
    {rest : List α} (ha : f a < threshold) (h : ∃ b ∈ rest, threshold ≤ f b) :
    ∃ before x y after, a::rest = before ++ x::y::after ∧ f x < threshold ∧ threshold ≤ f y := by
  induction rest generalizing a with
  | nil =>
    obtain ⟨b,hb,-⟩ := h
    cases hb
  | cons b rest ih =>
    rcases le_or_gt threshold (f b) with hb | hb
    · exact ⟨[],a,b,rest,rfl,ha,hb⟩
    · obtain ⟨d,hd,hle⟩ := h
      have hrest : ∃ d ∈ rest, threshold ≤ f d := by
        rcases List.mem_cons.mp hd with rfl | hd
        · exact absurd hle (not_le.mpr hb)
        · exact ⟨d,hd,hle⟩
      obtain ⟨before,x,y,after,he,hx,hy⟩ := ih hb hrest
      exact ⟨a::before,x,y,after,by rw [he]; rfl,hx,hy⟩

end Foundation
