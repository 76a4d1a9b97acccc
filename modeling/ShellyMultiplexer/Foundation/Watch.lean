import Mathlib.Data.List.Basic

/-! # Channels that keep the latest value

A sender overwrites the value of the channel whether or not the one before was seen. The receiver
is woken once for any number of values, and reads the value that is there when it gets to it. So it
may miss values and meet one twice, but it never meets an older one after a newer one.
-/
namespace Foundation
variable {α : Type*}

structure Watch (α : Type*) where
  value : α
  /-- A value has come in since the receiver was last woken. -/
  unseen : Bool := false

namespace Watch

def send (_ : Watch α) (v : α) : Watch α := ⟨v,true⟩

def see (w : Watch α) : Watch α := { w with unseen := false }

@[simp] theorem value_send (w : Watch α) (v : α) : (w.send v).value = v := rfl
@[simp] theorem unseen_send (w : Watch α) (v : α) : (w.send v).unseen = true := rfl
@[simp] theorem value_see (w : Watch α) : w.see.value = w.value := rfl
@[simp] theorem unseen_see (w : Watch α) : w.see.unseen = false := rfl

end Watch

/-- What can be read while a list of values grows: at any time, the last value so far. -/
inductive Samples : List α → List α → Prop
  | start (v : α) : Samples [v] []
  | send {sent reads : List α} (v : α) : Samples sent reads → Samples (sent ++ [v]) reads
  | read {sent reads : List α} {v : α} :
      Samples sent reads → sent.getLast? = some v → Samples sent (reads ++ [v])

namespace Samples
variable {sent reads : List α}

theorem sent_ne_nil (h : Samples sent reads) : sent ≠ [] := by
  induction h with
  | start v => exact List.cons_ne_nil _ _
  | send v h ih => exact List.append_ne_nil_of_right_ne_nil _ (List.cons_ne_nil _ _)
  | read h hlast ih => exact ih

/-- The last read can be left out. -/
theorem dropLast (h : Samples sent reads) : Samples sent reads.dropLast := by
  induction h with
  | start v => exact start v
  | send v h ih => exact ih.send v
  | read h hlast ih =>
    rw [List.dropLast_concat]
    exact h

/-- The reads go through the values in their order. -/
theorem exists_positions (h : Samples sent reads) : ∃ positions : List ℕ,
    positions.Pairwise (· ≤ ·) ∧ (∀ i ∈ positions, i < sent.length) ∧
      positions.map (fun i => sent[i]?) = reads.map some := by
  induction h with
  | start v => exact ⟨[],List.Pairwise.nil,by simp,rfl⟩
  | send v h ih =>
    obtain ⟨positions,hsorted,hlt,hmap⟩ := ih
    refine ⟨positions,hsorted,fun i hi => ?_,?_⟩
    · rw [List.length_append]
      exact Nat.lt_add_right _ (hlt i hi)
    · rw [← hmap]
      exact List.map_congr_left (fun i hi => List.getElem?_append_left (hlt i hi))
  | @read sent reads v h hlast ih =>
    obtain ⟨positions,hsorted,hlt,hmap⟩ := ih
    have hpos : 0 < sent.length := List.length_pos_of_ne_nil h.sent_ne_nil
    refine ⟨positions ++ [sent.length - 1],?_,fun i hi => ?_,?_⟩
    · -- no position lies behind the last one
      refine List.pairwise_append.mpr ⟨hsorted,List.pairwise_singleton _ _,fun i hi j hj => ?_⟩
      rw [List.mem_singleton.mp hj]
      exact Nat.le_sub_one_of_lt (hlt i hi)
    · rcases List.mem_append.mp hi with hi | hi
      · exact hlt i hi
      · rw [List.mem_singleton.mp hi]
        omega
    · rw [List.map_append, List.map_append, hmap, List.map_singleton, List.map_singleton,
        ← List.getLast?_eq_getElem?, hlast]

end Samples
end Foundation
