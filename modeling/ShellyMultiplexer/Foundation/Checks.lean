import Mathlib.Data.List.Basic

/-! # Sequences of checks

A checker rejects its input with the message of the first check that fails. The rules turn an
accepted input into the facts that its checks stand for.
-/
namespace Foundation
universe u
variable {α ε : Type*} {β γ : Type u}

def reject (bad : Prop) [Decidable bad] (message : ε) : Except ε Unit :=
  if bad then .error message else .ok ()

@[simp] theorem reject_eq_ok_iff {bad : Prop} [Decidable bad] {message : ε} {u : Unit} :
    reject bad message = .ok u ↔ ¬ bad := by
  unfold reject
  split <;> simp_all

theorem bind_eq_ok_iff {x : Except ε β} {f : β → Except ε γ} {r : γ} :
    x >>= f = .ok r ↔ ∃ a, x = .ok a ∧ f a = .ok r := by
  cases x with
  | error e => simp [bind,Except.bind]
  | ok a => simp [bind,Except.bind]

/-- Each body of an accepting loop was run once and accepted. -/
theorem foldlM_eq_ok {f : β → α → Except ε β} {l : List α} {init r : β}
    (h : l.foldlM f init = .ok r) {pre : List α} {a : α} {post : List α} (hl : l = pre ++ a::post) :
    ∃ acc acc', pre.foldlM f init = .ok acc ∧ f acc a = .ok acc' := by
  subst hl
  rw [List.foldlM_append, bind_eq_ok_iff] at h
  obtain ⟨acc,hpre,hrest⟩ := h
  rw [List.foldlM_cons, bind_eq_ok_iff] at hrest
  obtain ⟨acc',ha,-⟩ := hrest
  exact ⟨acc,acc',hpre,ha⟩

/-- A loop that collects a key of every element and rejects keys it has seen accepts only distinct
keys. -/
theorem foldlM_seen {κ : Type*} {f : γ → α → Except ε γ} (seen : γ → List κ) (key : α → κ)
    (hf : ∀ acc a acc', f acc a = .ok acc' → key a ∉ seen acc ∧ seen acc' = key a::seen acc)
    {l : List α} {init r : γ} (hi : (seen init).Nodup) (h : l.foldlM f init = .ok r) :
    (l.map key).Nodup ∧ ∀ a ∈ l, key a ∉ seen init := by
  induction l generalizing init with
  | nil => simp
  | cons a l ih =>
    rw [List.foldlM_cons, bind_eq_ok_iff] at h
    obtain ⟨acc,ha,hl⟩ := h
    obtain ⟨hnot,hs⟩ := hf _ _ _ ha
    obtain ⟨hn,hout⟩ := ih (hs ▸ List.nodup_cons.mpr ⟨hnot,hi⟩) hl
    have hout' : ∀ b ∈ l, key b ≠ key a ∧ key b ∉ seen init := by
      intro b hb
      have := hout b hb
      rw [hs, List.mem_cons, not_or] at this
      exact this
    refine ⟨?_,?_⟩
    · rw [List.map_cons, List.nodup_cons]
      refine ⟨?_,hn⟩
      rintro hm
      obtain ⟨b,hb,he⟩ := List.mem_map.mp hm
      exact (hout' b hb).1 he
    · intro b hb
      rcases List.mem_cons.mp hb with rfl | hb
      · exact hnot
      · exact (hout' b hb).2

end Foundation
