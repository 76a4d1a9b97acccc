import ShellyMultiplexer.Foundation.Runs

/-! # What a run gives out

Every step of a run may give something out, depending on the state it starts from.
-/
namespace Foundation
variable {σ ε ω : Type*}

/-- What the steps of a run give out, one after the other. -/
def outputs (step : σ → ε → σ) (out : σ → ε → List ω) : σ → List ε → List ω
  | _, [] => []
  | s, e::rest => out s e ++ outputs step out (step s e) rest

variable {step : σ → ε → σ} {out : σ → ε → List ω} {start : σ}

theorem outputs_append (first second : List ε) : outputs step out start (first ++ second) =
    outputs step out start first ++ outputs step out (run step start first) second := by
  induction first generalizing start with
  | nil => rfl
  | cons e rest ih =>
    rw [List.cons_append, outputs, outputs, ih, List.append_assoc]
    rfl

@[simp] theorem outputs_concat (past : List ε) (e : ε) : outputs step out start (past ++ [e]) =
    outputs step out start past ++ out (run step start past) e := by
  rw [outputs_append, outputs, outputs, List.append_nil]

/-- Whatever is given out is given out by one of the steps. -/
theorem mem_outputs_iff {events : List ε} {o : ω} : o ∈ outputs step out start events ↔
    ∃ pre e post, events = pre ++ e::post ∧ o ∈ out (run step start pre) e := by
  constructor
  · intro h
    induction events generalizing start with
    | nil => cases h
    | cons e rest ih =>
      rcases List.mem_append.mp h with h | h
      · exact ⟨[],e,rest,rfl,h⟩
      · obtain ⟨pre,a,post,rfl,ha⟩ := ih h
        exact ⟨e::pre,a,post,rfl,ha⟩
  · rintro ⟨pre,e,post,rfl,h⟩
    rw [outputs_append, outputs]
    exact List.mem_append_right _ (List.mem_append_left _ h)

/-- The rule for a state that remembers something of what has been given out. -/
theorem outputs_inv (P : List ω → σ → Prop) (h0 : P [] start)
    (hstep : ∀ log s e, P log s → P (log ++ out s e) (step s e)) (events : List ε) :
    P (outputs step out start events) (run step start events) := by
  induction events using List.reverseRecOn with
  | nil => exact h0
  | append_singleton past e ih =>
    rw [outputs_concat, run_concat]
    exact hstep _ _ e ih

end Foundation
