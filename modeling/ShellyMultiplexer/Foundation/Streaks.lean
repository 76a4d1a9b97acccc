import Mathlib.Data.List.Basic

/-! # Failures in a row

A loop that gives up after `limit` failures in a row, every success starting the count anew. It goes
on exactly as long as no `limit` failures have followed one another.
-/
namespace Foundation
variable {α : Type*} {limit streak : ℕ} {failures : List Bool}

/-- The elements that the loop gets to, `streak` failures being behind it already. -/
def visited (limit : ℕ) (fails : α → Bool) : ℕ → List α → List α
  | _, [] => []
  | streak, a::rest =>
    a::(if fails a then
      if streak + 1 < limit then visited limit fails (streak + 1) rest else []
    else visited limit fails 0 rest)

/-- No `limit` failures follow one another, `streak` of them before the first outcome; `true` is a
failure. -/
def Endures (limit streak : ℕ) (failures : List Bool) : Prop :=
  ¬ List.replicate limit true <:+: List.replicate streak true ++ failures

theorem endures_nil (h : streak < limit) : Endures limit streak [] := by
  intro hin
  have hlen := hin.length_le
  simp only [List.append_nil, List.length_replicate] at hlen
  exact absurd h (Nat.not_lt.mpr hlen)

theorem endures_of_no_failure (h : 0 < limit) (hall : ∀ failed ∈ failures, failed = false) :
    Endures limit 0 failures := by
  intro hin
  have hmem : true ∈ List.replicate limit true := List.mem_replicate.mpr ⟨Nat.ne_of_gt h,rfl⟩
  cases hall true (hin.subset hmem)

theorem no_streak_ahead (h : streak < limit) :
    ¬ List.replicate limit true <+: List.replicate streak true ++ false::failures := by
  intro hp
  have hat := hp.getElem (i := streak) (by simpa using h)
  simp at hat

/-- A success parts the failures before it from those after it. -/
theorem endures_success (h : streak < limit) :
    Endures limit streak (false::failures) ↔ Endures limit 0 failures := by
  refine not_congr ?_
  rw [List.replicate_zero, List.nil_append]
  induction streak with
  | zero => exact List.infix_cons_iff.trans (or_iff_right (no_streak_ahead h))
  | succ streak ih =>
    have hno : ¬ List.replicate limit true <+: List.replicate (streak + 1) true ++ false::failures :=
      no_streak_ahead h
    rw [List.replicate_succ, List.cons_append] at hno ⊢
    rw [List.infix_cons_iff, or_iff_right hno, ih (Nat.lt_of_succ_lt h)]

theorem endures_failure (h : streak < limit) : Endures limit streak (true::failures) ↔
    streak + 1 < limit ∧ Endures limit (streak + 1) failures := by
  have hshift : List.replicate streak true ++ true::failures =
      List.replicate (streak + 1) true ++ failures := by
    rw [List.replicate_succ', List.append_assoc]
    rfl
  have hlonger : Endures limit streak (true::failures) ↔ Endures limit (streak + 1) failures := by
    rw [Endures, hshift]
    exact Iff.rfl
  refine hlonger.trans ⟨fun hend => ⟨?_,hend⟩,And.right⟩
  by_contra hge
  have hfull : limit = streak + 1 := Nat.le_antisymm (Nat.not_lt.mp hge) h
  rw [hfull] at hend
  exact hend List.infix_append_left

theorem mem_visited_iff {fails : α → Bool} {l : List α} {a : α} (h : streak < limit) :
    a ∈ visited limit fails streak l ↔
      ∃ before after, l = before ++ a::after ∧ Endures limit streak (before.map fails) := by
  induction l generalizing streak with
  | nil => simp [visited]
  | cons b rest ih =>
    have hsplit : (∃ before after, b::rest = before ++ a::after ∧
        Endures limit streak (before.map fails)) ↔ a = b ∨ ∃ before after,
          rest = before ++ a::after ∧ Endures limit streak (fails b::before.map fails) := by
      constructor
      · rintro ⟨before,after,he,hend⟩
        cases before with
        | nil => exact Or.inl (List.cons.inj he).1.symm
        | cons c before =>
          obtain ⟨hc,hrest⟩ := List.cons.inj he
          exact Or.inr ⟨before,after,hrest,hc ▸ hend⟩
      · rintro (rfl | ⟨before,after,hrest,hend⟩)
        · exact ⟨[],rest,rfl,endures_nil h⟩
        · exact ⟨b::before,after,by rw [hrest, List.cons_append],hend⟩
    rw [hsplit, visited, List.mem_cons]
    refine or_congr_right ?_
    cases fails b with
    | false => simp only [Bool.false_eq_true, if_false, endures_success h, ih (Nat.zero_lt_of_lt h)]
    | true =>
      simp only [if_true, endures_failure h]
      split
      · rename_i hlt
        simp only [ih hlt, hlt, true_and]
      · rename_i hge
        simp [hge]

end Foundation
