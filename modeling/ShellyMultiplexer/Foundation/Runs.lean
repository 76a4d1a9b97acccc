import Mathlib.Data.List.Basic
import Mathlib.Data.List.Induction

/-! # Runs of an event-driven system

A run feeds a list of events to a step function. A condition on the steps may depend on the state a
step starts from; an invariant may depend on the events seen so far.
-/
namespace Foundation
variable {σ ε : Type*}

def run (step : σ → ε → σ) (start : σ) (events : List ε) : σ := events.foldl step start

/-- Every step of the run meets the condition in the state it starts from. -/
def StepsMeet (step : σ → ε → σ) (cond : σ → ε → Prop) (start : σ) (events : List ε) : Prop :=
  ∀ pre e post, events = pre ++ e::post → cond (run step start pre) e

@[simp] theorem run_nil (step : σ → ε → σ) (start : σ) : run step start [] = start := rfl

theorem run_append (step : σ → ε → σ) (start : σ) (first second : List ε) :
    run step start (first ++ second) = run step (run step start first) second :=
  List.foldl_append

@[simp] theorem run_concat (step : σ → ε → σ) (start : σ) (events : List ε) (e : ε) :
    run step start (events ++ [e]) = step (run step start events) e := by
  rw [run_append]
  rfl

theorem StepsMeet.prefix {step : σ → ε → σ} {cond : σ → ε → Prop} {start : σ}
    {first second : List ε} (h : StepsMeet step cond start (first ++ second)) :
    StepsMeet step cond start first := by
  intro pre e post he
  exact h pre e (post ++ second) (by simp [he])

theorem StepsMeet.suffix {step : σ → ε → σ} {cond : σ → ε → Prop} {start : σ}
    {first second : List ε} (h : StepsMeet step cond start (first ++ second)) :
    StepsMeet step cond (run step start first) second := by
  intro pre e post he
  rw [← run_append]
  exact h (first ++ pre) e post (by rw [he, List.append_assoc])

theorem StepsMeet.last {step : σ → ε → σ} {cond : σ → ε → Prop} {start : σ}
    {events : List ε} {e : ε} (h : StepsMeet step cond start (events ++ [e])) :
    cond (run step start events) e := h events e [] rfl

theorem StepsMeet.concat {step : σ → ε → σ} {cond : σ → ε → Prop} {start : σ}
    {events : List ε} {e : ε} (h : StepsMeet step cond start events)
    (he : cond (run step start events) e) : StepsMeet step cond start (events ++ [e]) := by
  intro pre a post hsplit
  rcases List.eq_nil_or_concat post with rfl | ⟨rest,b,rfl⟩
  · obtain ⟨rfl,ha⟩ := List.append_inj' hsplit rfl
    rw [← (List.cons.inj ha).1]
    exact he
  · have hlast : events ++ [e] = (pre ++ a::rest) ++ [b] := by rw [hsplit]; simp
    obtain ⟨rfl,-⟩ := List.append_inj' hlast rfl
    exact h pre a rest rfl

theorem stepsMeet_nil (step : σ → ε → σ) (cond : σ → ε → Prop) (start : σ) :
    StepsMeet step cond start [] := by
  intro pre e post h
  simp at h

theorem stepsMeet_cons {step : σ → ε → σ} {cond : σ → ε → Prop} {start : σ} {e : ε}
    {events : List ε} : StepsMeet step cond start (e::events) ↔
      cond start e ∧ StepsMeet step cond (step start e) events := by
  constructor
  · intro h
    refine ⟨h [] e events rfl,fun pre a post he => ?_⟩
    exact h (e::pre) a post (by rw [he]; rfl)
  · rintro ⟨hfirst,hrest⟩ pre a post he
    cases pre with
    | nil =>
      cases he
      exact hfirst
    | cons b pre =>
      obtain ⟨hb,htail⟩ := List.cons.inj he
      subst hb
      exact hrest pre a post htail

/-- An invariant over the history: it holds at the start and every step that meets the condition
extends it. -/
theorem run_history {step : σ → ε → σ} {cond : σ → ε → Prop} {start : σ}
    (P : List ε → σ → Prop) (h0 : P [] start)
    (hstep : ∀ past s e, P past s → cond s e → P (past ++ [e]) (step s e))
    {events : List ε} (hc : StepsMeet step cond start events) : P events (run step start events) := by
  induction events using List.reverseRecOn with
  | nil => exact h0
  | append_singleton past e ih =>
    rw [run_concat]
    exact hstep past _ e (ih hc.prefix) hc.last

/-- An invariant of the state alone. -/
theorem run_inv {step : σ → ε → σ} {cond : σ → ε → Prop} {start : σ} (P : σ → Prop)
    (h0 : P start) (hstep : ∀ s e, P s → cond s e → P (step s e))
    {events : List ε} (hc : StepsMeet step cond start events) : P (run step start events) :=
  run_history (fun _ => P) h0 (fun _ s e => hstep s e) hc

/-- An invariant over the history that every step extends. -/
theorem run_past {step : σ → ε → σ} {start : σ} (P : List ε → σ → Prop) (h0 : P [] start)
    (hstep : ∀ past s e, P past s → P (past ++ [e]) (step s e)) (events : List ε) :
    P events (run step start events) := by
  have hall : StepsMeet step (fun _ _ => True) start events := fun _ _ _ _ => trivial
  exact run_history P h0 (fun past s e h _ => hstep past s e h) hall

/-- An invariant of the state that every step keeps. -/
theorem run_always {step : σ → ε → σ} {start : σ} (P : σ → Prop) (h0 : P start)
    (hstep : ∀ s e, P s → P (step s e)) (events : List ε) : P (run step start events) :=
  run_past (fun _ => P) h0 (fun _ => hstep) events

/-- A condition that is exact for a property of the states, over an invariant: the property holds
all along a run if and only if every step meets the condition. -/
theorem run_exact {step : σ → ε → σ} {cond : σ → ε → Prop} {start : σ} (P Q : σ → Prop)
    (h0 : P start) (hstep : ∀ s e, P s → cond s e → P (step s e)) (hPQ : ∀ s, P s → Q s)
    (hexact : ∀ s e, P s → Q (step s e) → cond s e) {events : List ε} :
    (∀ pre post, events = pre ++ post → Q (run step start pre)) ↔
      StepsMeet step cond start events := by
  constructor
  · intro hQ
    induction events using List.reverseRecOn with
    | nil => exact stepsMeet_nil _ _ _
    | append_singleton past e ih =>
      have hpast : StepsMeet step cond start past :=
        ih (fun pre post he => hQ pre (post ++ [e]) (by rw [he, List.append_assoc]))
      have hend := hQ (past ++ [e]) [] (List.append_nil _).symm
      rw [run_concat] at hend
      exact hpast.concat (hexact _ e (run_inv P h0 hstep hpast) hend)
  · rintro hc pre post rfl
    exact hPQ _ (run_inv P h0 hstep hc.prefix)

/-- Two conditions that agree over an invariant are met by the same runs. -/
theorem stepsMeet_congr {step : σ → ε → σ} {first second : σ → ε → Prop} {start : σ} (P : σ → Prop)
    (h0 : P start) (hstep : ∀ s e, P s → P (step s e))
    (hiff : ∀ s e, P s → (first s e ↔ second s e)) {events : List ε} :
    StepsMeet step first start events ↔ StepsMeet step second start events := by
  have hinv : ∀ past, P (run step start past) := by
    intro past
    induction past using List.reverseRecOn with
    | nil => exact h0
    | append_singleton past e ih =>
      rw [run_concat]
      exact hstep _ e ih
  exact forall_congr' (fun pre => forall_congr' (fun e => forall_congr' (fun _ =>
    imp_congr_right (fun _ => hiff _ e (hinv pre)))))

end Foundation
