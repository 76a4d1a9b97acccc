import Mathlib.Data.List.Infix

/-! # Sequences with unreliable replies

An action may take effect although its reply is lost. A sequence goes on as long as every action is
acknowledged, and each state it passes through is where one of its prefixes leads.
-/
namespace Foundation

/-- An acknowledged action has taken effect; one that is reported failed may have. -/
structure Replies (α ε : Type*) where
  reply : α → Except ε Unit
  applied : α → Bool
  applied_of_ok : ∀ a, (reply a).isOk = true → applied a = true

/-- The states after each action, the last of them, and the reply that ended the sequence. -/
structure Passage (σ ε : Type*) where
  moments : List σ
  last : σ
  result : Except ε Unit

variable {σ α β ε : Type*}

def Replies.comap (r : Replies α ε) (f : β → α) : Replies β ε :=
  ⟨fun b => r.reply (f b),fun b => r.applied (f b),fun b => r.applied_of_ok (f b)⟩

def passThrough (act : σ → α → σ) (r : Replies α ε) (s : σ) : List α → Passage σ ε
  | [] => ⟨[],s,.ok ()⟩
  | a::rest =>
    let after := if r.applied a then act s a else s
    match r.reply a with
    | .ok () =>
      let further := passThrough act r after rest
      ⟨after::further.moments,further.last,further.result⟩
    | .error e => ⟨[after],after,.error e⟩

/-- The actions that take effect. -/
def effected (r : Replies α ε) : List α → List α
  | [] => []
  | a::rest =>
    if (r.reply a).isOk then a::effected r rest else if r.applied a then [a] else []

/-- A stage that has reached an action has gone through everything before it. -/
theorem prefix_of_mem {before after done : List α} {a : α} (hd : done <+: before ++ a::after)
    (hb : a ∉ before) (ha : a ∈ done) : before ++ [a] <+: done := by
  have hreach : before ++ [a] <+: before ++ a::after := ⟨after,by simp⟩
  rcases List.prefix_or_prefix_of_prefix hd hreach with h | h
  · rcases List.prefix_concat_iff.mp h with rfl | h
    · exact List.prefix_refl _
    · exact absurd (h.subset ha) hb
  · exact h

section Passing
variable {act : σ → α → σ} {r : Replies α ε} {s : σ} {actions : List α} {a : α}

theorem effected_cons_of_ok (h : (r.reply a).isOk = true) (rest : List α) :
    effected r (a::rest) = a::effected r rest := by simp only [effected,h,if_true]

theorem effected_isPrefix (r : Replies α ε) (actions : List α) : effected r actions <+: actions := by
  induction actions with
  | nil => exact List.prefix_refl _
  | cons a rest ih =>
    rw [effected]
    split
    · exact List.cons_prefix_cons.mpr ⟨rfl,ih⟩
    · split
      · exact ⟨rest,rfl⟩
      · exact List.nil_prefix

theorem passThrough_cons_of_ok (h : (r.reply a).isOk = true) (rest : List α) :
    passThrough act r s (a::rest) =
      ⟨act s a::(passThrough act r (act s a) rest).moments,
        (passThrough act r (act s a) rest).last,(passThrough act r (act s a) rest).result⟩ := by
  have happ := r.applied_of_ok a h
  cases hr : r.reply a with
  | ok u => simp only [passThrough,hr,happ,if_true]
  | error e =>
    rw [hr] at h
    cases h

theorem passThrough_cons_of_error {e : ε} (h : r.reply a = .error e) (rest : List α) :
    passThrough act r s (a::rest) =
      ⟨[if r.applied a then act s a else s],if r.applied a then act s a else s,.error e⟩ := by
  simp only [passThrough,h]

theorem effected_cons_of_error {e : ε} (h : r.reply a = .error e) (rest : List α) :
    effected r (a::rest) = if r.applied a then [a] else [] := by
  simp [effected,h,Except.isOk,Except.toBool]

/-- The sequence ends where the actions that took effect lead. -/
theorem passThrough_last :
    (passThrough act r s actions).last = (effected r actions).foldl act s := by
  induction actions generalizing s with
  | nil => rfl
  | cons a rest ih =>
    cases hr : r.reply a with
    | ok u =>
      have hok : (r.reply a).isOk = true := by rw [hr]; rfl
      rw [passThrough_cons_of_ok hok, effected_cons_of_ok hok, List.foldl_cons]
      exact ih
    | error e =>
      rw [passThrough_cons_of_error hr, effected_cons_of_error hr]
      split <;> rfl

theorem passThrough_moment {m : σ} (hm : m ∈ (passThrough act r s actions).moments) :
    ∃ done, done <+: effected r actions ∧ m = done.foldl act s := by
  induction actions generalizing s with
  | nil => cases hm
  | cons a rest ih =>
    cases hr : r.reply a with
    | ok u =>
      have hok : (r.reply a).isOk = true := by rw [hr]; rfl
      rw [passThrough_cons_of_ok hok] at hm
      rw [effected_cons_of_ok hok]
      rcases List.mem_cons.mp hm with rfl | hm
      · exact ⟨[a],⟨effected r rest,rfl⟩,rfl⟩
      · obtain ⟨done,hdone,rfl⟩ := ih hm
        exact ⟨a::done,List.cons_prefix_cons.mpr ⟨rfl,hdone⟩,rfl⟩
    | error e =>
      rw [passThrough_cons_of_error hr] at hm
      rw [effected_cons_of_error hr]
      refine ⟨_,List.prefix_refl _,?_⟩
      rw [List.mem_singleton.mp hm]
      split <;> rfl

/-- Every stage of what took effect is passed through. -/
theorem mem_passThrough {done : List α} (h : done <+: effected r actions) (hne : done ≠ []) :
    done.foldl act s ∈ (passThrough act r s actions).moments := by
  induction actions generalizing s done with
  | nil => exact absurd (List.prefix_nil.mp h) hne
  | cons a rest ih =>
    cases hr : r.reply a with
    | ok u =>
      have hok : (r.reply a).isOk = true := by rw [hr]; rfl
      rw [effected_cons_of_ok hok] at h
      rw [passThrough_cons_of_ok hok]
      cases done with
      | nil => exact absurd rfl hne
      | cons b done =>
        obtain ⟨rfl,hdone⟩ := List.cons_prefix_cons.mp h
        by_cases hd : done = []
        · subst hd
          exact List.mem_cons_self
        · exact List.mem_cons_of_mem _ (ih hdone hd)
    | error e =>
      rw [effected_cons_of_error hr] at h
      rw [passThrough_cons_of_error hr]
      split at h
      · rename_i happ
        obtain rfl | rfl : done = [] ∨ done = [a] := by
          rcases List.prefix_cons_iff.mp h with hd | ⟨t,rfl,ht⟩
          · exact Or.inl hd
          · exact Or.inr (by rw [List.prefix_nil.mp ht])
        · exact absurd rfl hne
        · simp [happ]
      · exact absurd (List.prefix_nil.mp h) hne

theorem passThrough_isOk : (passThrough act r s actions).result.isOk = true ↔
    ∀ a ∈ actions, (r.reply a).isOk = true := by
  induction actions generalizing s with
  | nil => simp [passThrough,Except.isOk,Except.toBool]
  | cons a rest ih =>
    cases hr : r.reply a with
    | ok u =>
      have hok : (r.reply a).isOk = true := by rw [hr]; rfl
      rw [passThrough_cons_of_ok hok, List.forall_mem_cons, and_iff_right hok]
      exact ih
    | error e =>
      rw [passThrough_cons_of_error hr, List.forall_mem_cons, hr]
      simp [Except.isOk,Except.toBool]

theorem effected_eq_self (h : ∀ a ∈ actions, (r.reply a).isOk = true) :
    effected r actions = actions := by
  induction actions with
  | nil => rfl
  | cons a rest ih =>
    rw [effected_cons_of_ok (h a List.mem_cons_self)]
    exact congrArg _ (ih (fun b hb => h b (List.mem_cons_of_mem _ hb)))

end Passing
end Foundation
