import Mathlib.Data.List.Infix
import Mathlib.Data.List.Induction
import Mathlib.Tactic.Common

/-! # Equal portions

A holder is loaded with a fixed number of equal portions, which are taken one by one or dropped
together. Loading waits until nothing is left, so what is taken between two loads is the first
load: all of it, unless the rest was dropped.
-/
namespace Foundation
variable {ν : Type*}

structure Portions (ν : Type*) where
  value : ν
  left : ℕ

inductive PortionEvent (ν : Type*)
  | loaded (v : ν)
  | taken (v : ν)
  | dropped
  deriving DecidableEq

namespace PortionEvent

def isLoaded : PortionEvent ν → Bool
  | loaded _ => true
  | taken _ => false
  | dropped => false

/-- The values taken, except zeros. -/
def takenValue [Zero ν] [DecidableEq ν] : PortionEvent ν → Option ν
  | loaded _ => none
  | taken v => if v = 0 then none else some v
  | dropped => none

end PortionEvent

section Log
variable [Zero ν]

/-- What each event does; taking from an empty holder gives zero. -/
inductive Portions.Step (count : ℕ) : Portions ν → PortionEvent ν → Portions ν → Prop
  | load (w v : ν) : v ≠ 0 → Step count ⟨w,0⟩ (.loaded v) ⟨v,count⟩
  | take (v : ν) (n : ℕ) : Step count ⟨v,n + 1⟩ (.taken v) ⟨v,n⟩
  | miss (v : ν) : Step count ⟨v,0⟩ (.taken 0) ⟨v,0⟩
  | drop (v : ν) (n : ℕ) : Step count ⟨v,n⟩ .dropped ⟨v,0⟩

/-- The states that a log of events leads to, from an empty holder on. -/
inductive Portions.After (count : ℕ) : List (PortionEvent ν) → Portions ν → Prop
  | empty (v : ν) : After count [] ⟨v,0⟩
  | snoc {log : List (PortionEvent ν)} {p q : Portions ν} {e : PortionEvent ν} :
      After count log p → Step count p e q → After count (log ++ [e]) q

variable {count : ℕ} {log more : List (PortionEvent ν)} {p q : Portions ν} {e : PortionEvent ν}

namespace Portions.After

theorem concat_iff : Portions.After count (log ++ [e]) q ↔
    ∃ p, Portions.After count log p ∧ Portions.Step count p e q := by
  constructor
  · intro h
    generalize hl : log ++ [e] = l at h
    cases h with
    | empty v => exact absurd hl (by simp)
    | snoc hlog hstep =>
      obtain ⟨rfl,he⟩ := List.append_inj' hl rfl
      obtain rfl := (List.cons.inj he).1
      exact ⟨_,hlog,hstep⟩
  · rintro ⟨p,hlog,hstep⟩
    exact hlog.snoc hstep

theorem of_append (h : Portions.After count (log ++ more) q) :
    ∃ p, Portions.After count log p := by
  induction more using List.reverseRecOn generalizing q with
  | nil => exact ⟨q,by rwa [List.append_nil] at h⟩
  | append_singleton more e ih =>
    rw [← List.append_assoc] at h
    obtain ⟨p,hp,-⟩ := concat_iff.mp h
    exact ih hp

/-- A holder that is not empty holds a value other than zero. -/
theorem value_ne_zero (h : Portions.After count log p) (hp : 0 < p.left) : p.value ≠ 0 := by
  induction h with
  | empty v => exact absurd hp (lt_irrefl 0)
  | snoc _ hstep ih =>
    cases hstep with
    | load w v hv => exact hv
    | take v n => exact ih (Nat.succ_pos n)
    | miss v => exact absurd hp (lt_irrefl 0)
    | drop v n => exact absurd hp (lt_irrefl 0)

end Portions.After

/-- A holder whose value only matters while something is left. -/
def Portions.Tracks (count : ℕ) (log : List (PortionEvent ν)) (p : Portions ν) : Prop :=
  ∃ q, Portions.After count log q ∧ q.left = p.left ∧ (0 < p.left → q.value = p.value)

namespace Portions.Tracks
variable {v w : ν} {n : ℕ}

theorem empty (v : ν) : Portions.Tracks count [] ⟨v,0⟩ := ⟨⟨v,0⟩,.empty v,rfl,fun _ => rfl⟩

theorem load (h : Portions.Tracks count log ⟨w,0⟩) (hv : v ≠ 0) :
    Portions.Tracks count (log ++ [.loaded v]) ⟨v,count⟩ := by
  obtain ⟨⟨u,n⟩,hq,hn,-⟩ := h
  obtain rfl : n = 0 := hn
  exact ⟨⟨v,count⟩,hq.snoc (.load u v hv),rfl,fun _ => rfl⟩

theorem take (h : Portions.Tracks count log ⟨v,n + 1⟩) (hw : 0 < n → w = v) :
    Portions.Tracks count (log ++ [.taken v]) ⟨w,n⟩ := by
  obtain ⟨⟨u,m⟩,hq,hm,hu⟩ := h
  obtain rfl : m = n + 1 := hm
  obtain rfl : u = v := hu (Nat.succ_pos n)
  exact ⟨⟨u,n⟩,hq.snoc (.take u n),rfl,fun hn => (hw hn).symm⟩

theorem miss (h : Portions.Tracks count log ⟨v,0⟩) :
    Portions.Tracks count (log ++ [.taken 0]) ⟨v,0⟩ := by
  obtain ⟨⟨u,m⟩,hq,hm,-⟩ := h
  obtain rfl : m = 0 := hm
  exact ⟨⟨u,0⟩,hq.snoc (.miss u),rfl,fun hn => absurd hn (lt_irrefl 0)⟩

theorem drop (h : Portions.Tracks count log p) (w : ν) :
    Portions.Tracks count (log ++ [.dropped]) ⟨w,0⟩ := by
  obtain ⟨⟨u,m⟩,hq,-,-⟩ := h
  exact ⟨⟨u,0⟩,hq.snoc (.drop u m),rfl,fun hn => absurd hn (lt_irrefl 0)⟩

theorem value_ne_zero (h : Portions.Tracks count log p) (hp : 0 < p.left) : p.value ≠ 0 := by
  obtain ⟨q,hq,hleft,hvalue⟩ := h
  rw [← hvalue hp]
  exact hq.value_ne_zero (hleft ▸ hp)

theorem forget (h : Portions.Tracks count log ⟨v,0⟩) (w : ν) :
    Portions.Tracks count log ⟨w,0⟩ := by
  obtain ⟨q,hq,hn,-⟩ := h
  exact ⟨q,hq,hn,fun hlt => absurd hlt (lt_irrefl 0)⟩

end Portions.Tracks

variable [DecidableEq ν]

/-- What has been taken since the last load. -/
structure Portions.Since (count : ℕ) (v : ν) (past : List (PortionEvent ν)) (p : Portions ν) :
    Prop where
  same : ∀ w ∈ past.filterMap PortionEvent.takenValue, w = v
  bounded : (past.filterMap PortionEvent.takenValue).length + p.left ≤ count
  complete : PortionEvent.dropped ∉ past → (past.filterMap PortionEvent.takenValue).length + p.left = count
  value : p.value = v

/-- Short of a load, each event keeps to the load in force. -/
theorem Portions.Since.step {v : ν} (hv : v ≠ 0) (h : Portions.Since count v more p)
    (hstep : Portions.Step count p e q) (he : e.isLoaded = false) :
    Portions.Since count v (more ++ [e]) q := by
  obtain ⟨hsame,hbounded,hcomplete,hvalue⟩ := h
  cases hstep with
  | load w u hu => cases he
  | take u n =>
    -- one portion of the load in force
    obtain rfl : u = v := hvalue
    have htaken : (more ++ [PortionEvent.taken u]).filterMap PortionEvent.takenValue =
        more.filterMap PortionEvent.takenValue ++ [u] := by
      simp [PortionEvent.takenValue,hv]
    constructor
    · rw [htaken]
      intro w hw
      rcases List.mem_append.mp hw with hw | hw
      · exact hsame w hw
      · exact List.mem_singleton.mp hw
    · rw [htaken, List.length_append, List.length_singleton]
      simp only at hbounded ⊢
      omega
    · intro hno
      have hc := hcomplete (fun hm => hno (List.mem_append_left _ hm))
      rw [htaken, List.length_append, List.length_singleton]
      simp only at hc ⊢
      omega
    · rfl
  | miss u =>
    have htaken : (more ++ [PortionEvent.taken 0]).filterMap PortionEvent.takenValue =
        more.filterMap PortionEvent.takenValue := by simp [PortionEvent.takenValue]
    refine ⟨htaken ▸ hsame,htaken ▸ hbounded,fun hno => ?_,hvalue⟩
    rw [htaken]
    exact hcomplete (fun hm => hno (List.mem_append_left _ hm))
  | drop u n =>
    have htaken : (more ++ [PortionEvent.dropped]).filterMap PortionEvent.takenValue =
        more.filterMap PortionEvent.takenValue := by simp [PortionEvent.takenValue]
    refine ⟨htaken ▸ hsame,?_,fun hno => absurd (by simp) hno,hvalue⟩
    rw [htaken]
    simp only at hbounded ⊢
    omega

theorem Portions.After.since {v : ν} (h : Portions.After count (log ++ .loaded v::more) q)
    (hmore : ∀ e ∈ more, e.isLoaded = false) : v ≠ 0 ∧ Portions.Since count v more q := by
  induction more using List.reverseRecOn generalizing q with
  | nil =>
    obtain ⟨p,-,hstep⟩ := Portions.After.concat_iff.mp h
    cases hstep with
    | load w _ hv => exact ⟨hv,⟨by simp,by simp,by simp,rfl⟩⟩
  | append_singleton more e ih =>
    rw [← List.cons_append, ← List.append_assoc] at h
    obtain ⟨p,hp,hstep⟩ := Portions.After.concat_iff.mp h
    obtain ⟨hv,hsince⟩ := ih hp (fun a ha => hmore a (List.mem_append_left _ ha))
    exact ⟨hv,hsince.step hv hstep (hmore e (List.mem_append_right _ List.mem_cons_self))⟩

/-- Between two loads everything taken is the first load, and all of it unless the rest was
dropped. -/
theorem Portions.After.between {between after : List (PortionEvent ν)} {v w : ν}
    (h : Portions.After count (log ++ .loaded v::between ++ .loaded w::after) q)
    (hb : ∀ e ∈ between, e.isLoaded = false) :
    (∀ u ∈ between.filterMap PortionEvent.takenValue, u = v) ∧
      (between.filterMap PortionEvent.takenValue).length ≤ count ∧
      (.dropped ∉ between → (between.filterMap PortionEvent.takenValue).length = count) := by
  have hsplit : log ++ .loaded v::between ++ .loaded w::after =
      ((log ++ .loaded v::between) ++ [.loaded w]) ++ after := by simp
  rw [hsplit] at h
  obtain ⟨r,hr⟩ := h.of_append
  obtain ⟨p,hp,hstep⟩ := Portions.After.concat_iff.mp hr
  obtain ⟨-,hsince⟩ := hp.since hb
  -- the second load finds the holder empty
  cases hstep with
  | load u _ hu => exact ⟨hsince.same,hsince.bounded,hsince.complete⟩

end Log
end Foundation
