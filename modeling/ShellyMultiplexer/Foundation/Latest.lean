import ShellyMultiplexer.Foundation.Runs

/-! # The latest of what a run gives

A step of a run may give a value, depending on the state it starts from. A cell that takes over
whatever is given, and is left alone otherwise, holds the latest value.
-/
namespace Foundation
variable {σ ε ω : Type*}

/-- A step of the run has given the value, and no step after it has given any. -/
inductive Latest (step : σ → ε → σ) (gives : σ → ε → ω → Prop) (start : σ) : List ε → ω → Prop
  | given {past : List ε} {e : ε} {o : ω} :
      gives (run step start past) e o → Latest step gives start (past ++ [e]) o
  | kept {past : List ε} {e : ε} {o : ω} : Latest step gives start past o →
      (∀ other, ¬ gives (run step start past) e other) → Latest step gives start (past ++ [e]) o

variable {step : σ → ε → σ} {gives : σ → ε → ω → Prop} {start : σ} {past events : List ε} {e : ε}
variable {o : ω}

theorem not_latest_nil : ¬ Latest step gives start [] o := by
  intro h
  generalize hnil : ([] : List ε) = events at h
  cases h <;> exact absurd hnil.symm (List.append_ne_nil_of_right_ne_nil _ (List.cons_ne_nil _ _))

theorem latest_concat_iff : Latest step gives start (past ++ [e]) o ↔
    gives (run step start past) e o ∨
      Latest step gives start past o ∧ ∀ other, ¬ gives (run step start past) e other := by
  constructor
  · intro h
    generalize hlast : past ++ [e] = events at h
    cases h with
    | given hgive =>
      obtain ⟨rfl,he⟩ := List.append_inj' hlast rfl
      obtain rfl := (List.cons.inj he).1
      exact Or.inl hgive
    | kept h hno =>
      obtain ⟨rfl,he⟩ := List.append_inj' hlast rfl
      obtain rfl := (List.cons.inj he).1
      exact Or.inr ⟨h,hno⟩
  · rintro (hgive | ⟨h,hno⟩)
    · exact .given hgive
    · exact .kept h hno

/-- The latest value has been given by some step. -/
theorem Latest.exists_gives (h : Latest step gives start events o) : ∃ pre e post,
    events = pre ++ e::post ∧ gives (run step start pre) e o := by
  induction h with
  | given hgive => exact ⟨_,_,[],rfl,hgive⟩
  | @kept past e o _ _ ih =>
    obtain ⟨pre,a,post,rfl,hgive⟩ := ih
    exact ⟨pre,a,post ++ [e],by simp,hgive⟩

/-- A cell holds the latest value when it takes over what a step gives, and keeps what it has
whenever the step gives nothing. -/
theorem cell_eq_some_iff (cell : σ → Option ω) (P : σ → Prop) (h0 : P start)
    (hP : ∀ s e, P s → P (step s e)) (hempty : cell start = none)
    (hnew : ∀ s e o, P s → gives s e o → cell (step s e) = some o)
    (hkeep : ∀ s e, P s → (∀ o, ¬ gives s e o) → cell (step s e) = cell s) (events : List ε) (o : ω) :
    cell (run step start events) = some o ↔ Latest step gives start events o := by
  induction events using List.reverseRecOn with
  | nil =>
    rw [run_nil, hempty]
    exact iff_of_false (by simp) not_latest_nil
  | append_singleton past e ih =>
    have hinv := run_always P h0 hP past
    rw [run_concat, latest_concat_iff]
    by_cases hgives : ∃ other, gives (run step start past) e other
    · obtain ⟨other,hother⟩ := hgives
      rw [hnew _ e other hinv hother]
      constructor
      · rintro ⟨⟩
        exact Or.inl hother
      · rintro (h | ⟨-,hno⟩)
        · exact (hnew _ e other hinv hother).symm.trans (hnew _ e o hinv h)
        · exact absurd hother (hno other)
    · have hno : ∀ other, ¬ gives (run step start past) e other :=
        fun other hother => hgives ⟨other,hother⟩
      rw [hkeep _ e hinv hno, ih, or_iff_right (hno o), and_iff_left hno]

end Foundation
