import Mathlib.Data.List.TakeWhile
import Mathlib.Logic.Function.Basic

/-! # Interrupted writes

A sequence of writes to the cells of a store runs until one of them is refused. It leaves behind
what its writes up to there have put into their cells; what the refused write and the rest of the
sequence were to do is lost.
-/
namespace Foundation

structure Write (κ ν : Type*) where
  cell : κ
  value : ν
  deriving DecidableEq

variable {κ ν ε : Type*}

/-- The writes before the first that is refused. The replies are given by cell, so a sequence is to
write each cell once. -/
def landed (reply : κ → Except ε Unit) (writes : List (Write κ ν)) : List (Write κ ν) :=
  writes.takeWhile (fun w => (reply w.cell).isOk)

section Landed
variable {reply : κ → Except ε Unit} {writes before : List (Write κ ν)} {w : Write κ ν}

theorem landed_cons (h : (reply w.cell).isOk = true) :
    landed reply (w::writes) = w::landed reply writes :=
  List.takeWhile_cons_of_pos (p := fun w : Write κ ν => (reply w.cell).isOk) h

theorem landed_refused (h : ¬ (reply w.cell).isOk = true) : landed reply (w::writes) = [] :=
  List.takeWhile_cons_of_neg (p := fun w : Write κ ν => (reply w.cell).isOk) h

theorem mem_of_mem_landed (h : w ∈ landed reply writes) : w ∈ writes :=
  (List.takeWhile_sublist _).subset h

theorem landed_eq_self (h : ∀ w ∈ writes, (reply w.cell).isOk = true) :
    landed reply writes = writes := List.takeWhile_eq_self_iff.mpr h

/-- When the last write has landed, all have. -/
theorem isOk_of_last_landed (hw : w ∉ before) (h : w ∈ landed reply (before ++ [w])) :
    ∀ a ∈ before ++ [w], (reply a.cell).isOk = true := by
  induction before with
  | nil =>
    intro a ha
    cases List.mem_singleton.mp ha
    by_contra hno
    rw [List.nil_append, landed_refused hno] at h
    cases h
  | cons b rest ih =>
    by_cases hb : (reply b.cell).isOk = true
    · rw [List.cons_append, landed_cons hb] at h
      have hrest := (List.mem_cons.mp h).resolve_left (fun he => hw (he ▸ List.mem_cons_self))
      intro a ha
      rcases List.mem_cons.mp ha with rfl | ha
      · exact hb
      · exact ih (fun hm => hw (List.mem_cons_of_mem _ hm)) hrest a ha
    · rw [List.cons_append, landed_refused hb] at h
      cases h

end Landed

section Store
variable [DecidableEq κ]

def writeAll (store : κ → ν) : List (Write κ ν) → κ → ν
  | [] => store
  | w::rest => writeAll (Function.update store w.cell w.value) rest

def writeUntil (reply : κ → Except ε Unit) (store : κ → ν) :
    List (Write κ ν) → (κ → ν) × Except ε Unit
  | [] => (store,.ok ())
  | w::rest =>
    match reply w.cell with
    | .ok () => writeUntil reply (Function.update store w.cell w.value) rest
    | .error e => (store,.error e)

variable {store : κ → ν} {reply : κ → Except ε Unit} {writes more : List (Write κ ν)}

theorem writeAll_append :
    writeAll store (writes ++ more) = writeAll (writeAll store writes) more := by
  induction writes generalizing store with
  | nil => rfl
  | cons w rest ih => exact ih

/-- A cell keeps its value under writes that do not change it. -/
theorem writeAll_eq {k : κ} {v : ν} (hk : store k = v)
    (h : ∀ w ∈ writes, w.cell = k → w.value = v) : writeAll store writes k = v := by
  induction writes generalizing store with
  | nil => exact hk
  | cons w rest ih =>
    refine ih ?_ (fun a ha => h a (List.mem_cons_of_mem _ ha))
    by_cases hw : w.cell = k
    · subst hw
      rw [Function.update_self]
      exact h w List.mem_cons_self rfl
    · rw [Function.update_of_ne (Ne.symm hw)]
      exact hk

/-- Writes that agree on every cell are all there at the end. -/
theorem writeAll_of_mem (hagree : ∀ w ∈ writes, ∀ a ∈ writes, a.cell = w.cell → a.value = w.value)
    {w : Write κ ν} (hw : w ∈ writes) : writeAll store writes w.cell = w.value := by
  obtain ⟨before,after,rfl⟩ := List.append_of_mem hw
  rw [writeAll_append, writeAll]
  refine writeAll_eq (Function.update_self _ _ _) (fun a ha => hagree w hw a ?_)
  exact List.mem_append_right _ (List.mem_cons_of_mem _ ha)

theorem writeUntil_store :
    (writeUntil reply store writes).1 = writeAll store (landed reply writes) := by
  induction writes generalizing store with
  | nil => rfl
  | cons w rest ih =>
    cases hr : reply w.cell with
    | ok u =>
      rw [landed_cons (by rw [hr]; rfl)]
      simpa only [writeUntil,writeAll,hr] using ih
    | error e =>
      rw [landed_refused (by rw [hr]; exact Bool.false_ne_true)]
      simp only [writeUntil,writeAll,hr]

theorem writeUntil_isOk : (writeUntil reply store writes).2.isOk = true ↔
    ∀ w ∈ writes, (reply w.cell).isOk = true := by
  induction writes generalizing store with
  | nil => simp [writeUntil,Except.isOk,Except.toBool]
  | cons w rest ih =>
    cases hr : reply w.cell with
    | ok u => simpa [writeUntil,hr,Except.isOk,Except.toBool] using ih
    | error e => simp [writeUntil,hr,Except.isOk,Except.toBool]

end Store

end Foundation
