import Mathlib.Data.List.Nodup
import Mathlib.Data.List.Dedup

/-! # Finite maps with an iteration order

A table is a list of entries with distinct keys. The order of the list is the order in which a loop
over the map meets its entries; a lookup does not depend on it.
-/
namespace Foundation

structure Table (κ ν : Type*) where
  entries : List (κ × ν)
  nodup : (entries.map Prod.fst).Nodup

namespace Table
variable {κ ν μ : Type*}

def keys (t : Table κ ν) : List κ := t.entries.map Prod.fst
def values (t : Table κ ν) : List ν := t.entries.map Prod.snd
def empty : Table κ ν := ⟨[],List.nodup_nil⟩

/-- Visit every entry once and replace its value; keys and order stay. -/
def mapVal (t : Table κ ν) (f : κ → ν → μ) : Table κ μ :=
  ⟨t.entries.map (fun e => (e.1,f e.1 e.2)),by simpa [Function.comp_def] using t.nodup⟩

def filter (t : Table κ ν) (q : ν → Bool) : Table κ ν :=
  ⟨t.entries.filter (fun e => q e.2),t.nodup.sublist (List.filter_sublist.map _)⟩

theorem values_filter (t : Table κ ν) (q : ν → Bool) : (t.filter q).values = t.values.filter q := by
  rw [values, values, filter, List.filter_map]
  rfl

variable [DecidableEq κ]

def get? (t : Table κ ν) (k : κ) : Option ν :=
  (t.entries.find? (fun e => decide (e.1 = k))).map Prod.snd

/-- Update in place, and only when the key is present. -/
def modify (t : Table κ ν) (k : κ) (f : ν → ν) : Table κ ν :=
  t.mapVal (fun j v => if j = k then f v else v)

def insert (t : Table κ ν) (k : κ) (v : ν) : Table κ ν :=
  if h : k ∈ t.keys then t.modify k (fun _ => v)
  else ⟨(k,v)::t.entries,List.nodup_cons.mpr ⟨h,t.nodup⟩⟩

omit [DecidableEq κ] in
@[simp] theorem keys_mapVal (t : Table κ ν) (f : κ → ν → μ) : (t.mapVal f).keys = t.keys := by
  simp [keys,mapVal,Function.comp_def]

@[simp] theorem keys_modify (t : Table κ ν) (k : κ) (f : ν → ν) : (t.modify k f).keys = t.keys :=
  keys_mapVal t _

omit [DecidableEq κ] in
theorem values_mapVal (t : Table κ ν) (f : ν → μ) :
    (t.mapVal (fun _ => f)).values = t.values.map f := by
  simp [values,mapVal,Function.comp_def]

omit [DecidableEq κ] in
theorem ext_entries {t u : Table κ ν} (h : t.entries = u.entries) : t = u := by
  cases t
  cases u
  cases h
  rfl

theorem get?_eq_some_iff (t : Table κ ν) (k : κ) (v : ν) :
    t.get? k = some v ↔ (k,v) ∈ t.entries := by
  obtain ⟨es,hn⟩ := t
  induction es with
  | nil => simp [get?]
  | cons e es ih =>
    obtain ⟨j,w⟩ := e
    simp only [List.map_cons, List.nodup_cons] at hn
    have hi := ih hn.2
    simp only [get?] at hi ⊢
    by_cases hj : j = k
    · subst hj
      have hv : (j,v) ∉ es := fun h => hn.1 (List.mem_map.mpr ⟨(j,v),h,rfl⟩)
      simp [hv, eq_comm]
    · simp [hj, hi, Ne.symm hj]

/-- Two tables look up alike exactly when they list the same entries, in whatever order. -/
theorem entries_perm_iff {t u : Table κ ν} :
    t.entries.Perm u.entries ↔ ∀ k, t.get? k = u.get? k := by
  have hmem : ∀ t : Table κ ν, t.entries.Nodup := fun t => List.Nodup.of_map _ t.nodup
  rw [List.perm_ext_iff_of_nodup (hmem t) (hmem u)]
  constructor
  · intro h k
    refine Option.ext (fun v => ?_)
    rw [get?_eq_some_iff, get?_eq_some_iff, h]
  · rintro h ⟨k,v⟩
    rw [← get?_eq_some_iff, ← get?_eq_some_iff, h]

theorem mem_keys_iff (t : Table κ ν) (k : κ) : k ∈ t.keys ↔ ∃ v, t.get? k = some v := by
  simp [keys,get?_eq_some_iff]

theorem get?_eq_none_iff (t : Table κ ν) (k : κ) : t.get? k = none ↔ k ∉ t.keys := by
  rw [mem_keys_iff, Option.eq_none_iff_forall_ne_some]
  simp

theorem mem_values_iff (t : Table κ ν) (v : ν) : v ∈ t.values ↔ ∃ k, t.get? k = some v := by
  simp [values,get?_eq_some_iff]

@[simp] theorem get?_empty (k : κ) : (empty : Table κ ν).get? k = none := rfl

@[simp] theorem get?_mapVal (t : Table κ ν) (f : κ → ν → μ) (k : κ) :
    (t.mapVal f).get? k = (t.get? k).map (f k) := by
  obtain ⟨es,hn⟩ := t
  induction es with
  | nil => rfl
  | cons e es ih =>
    obtain ⟨j,w⟩ := e
    have hi := ih (List.nodup_cons.mp hn).2
    simp only [get?,mapVal] at hi ⊢
    by_cases hj : j = k
    · subst hj
      simp
    · simpa [List.find?_cons, hj] using hi

theorem get?_modify (t : Table κ ν) (j k : κ) (f : ν → ν) :
    (t.modify j f).get? k = if k = j then (t.get? k).map f else t.get? k := by
  rw [modify, get?_mapVal]
  split <;> simp

@[simp] theorem get?_modify_self (t : Table κ ν) (k : κ) (f : ν → ν) :
    (t.modify k f).get? k = (t.get? k).map f := by simp [get?_modify]

theorem get?_modify_of_ne (t : Table κ ν) {j k : κ} (f : ν → ν) (h : k ≠ j) :
    (t.modify j f).get? k = t.get? k := by simp [get?_modify,h]

theorem mapVal_congr {t : Table κ ν} {f g : κ → ν → μ}
    (h : ∀ k v, t.get? k = some v → f k v = g k v) : t.mapVal f = t.mapVal g := by
  refine ext_entries (List.map_congr_left (fun e he => ?_))
  rw [h e.1 e.2 ((get?_eq_some_iff t e.1 e.2).mpr he)]

omit [DecidableEq κ] in
theorem mapVal_mapVal {ξ : Type*} (t : Table κ ν) (f : κ → ν → μ) (g : κ → μ → ξ) :
    (t.mapVal f).mapVal g = t.mapVal (fun k v => g k (f k v)) :=
  ext_entries (by simp [mapVal,Function.comp_def])

theorem mapVal_eq_self {t : Table κ ν} {f : κ → ν → ν}
    (h : ∀ k v, t.get? k = some v → f k v = v) : t.mapVal f = t := by
  rw [mapVal_congr (g := fun _ v => v) h]
  exact ext_entries (List.map_id _)

theorem modify_eq_self (t : Table κ ν) {k : κ} {f : ν → ν}
    (h : ∀ v, t.get? k = some v → f v = v) : t.modify k f = t := by
  refine mapVal_eq_self (fun j v hv => ?_)
  split
  · rename_i hj
    exact h v (hj ▸ hv)
  · rfl

theorem get?_insert (t : Table κ ν) (j k : κ) (v : ν) :
    (t.insert j v).get? k = if k = j then some v else t.get? k := by
  unfold insert
  split
  · rename_i h
    obtain ⟨w,hw⟩ := (mem_keys_iff t j).mp h
    rw [get?_modify]
    split
    · rename_i hk
      simp [hk,hw]
    · rfl
  · by_cases hk : k = j
    · simp [get?,hk]
    · simp [get?,hk,Ne.symm hk]

@[simp] theorem get?_insert_self (t : Table κ ν) (k : κ) (v : ν) :
    (t.insert k v).get? k = some v := by simp [get?_insert]

theorem get?_insert_of_ne (t : Table κ ν) {j k : κ} (v : ν) (h : k ≠ j) :
    (t.insert j v).get? k = t.get? k := by simp [get?_insert,h]

theorem keys_insert_of_mem (t : Table κ ν) {k : κ} (v : ν) (h : k ∈ t.keys) :
    (t.insert k v).keys = t.keys := by simp [insert,h]

omit [DecidableEq κ] in
theorem nodup_keys (t : Table κ ν) : t.keys.Nodup := t.nodup

/-- The value of every entry, read back through a lookup of its key. -/
theorem map_values_eq (t : Table κ ν) (f : ν → μ) :
    t.values.map f = t.keys.filterMap (fun k => (t.get? k).map f) := by
  have h : ∀ e ∈ t.entries, (t.get? e.1).map f = some (f e.2) := by
    intro e he
    rw [(get?_eq_some_iff t e.1 e.2).mpr he, Option.map_some]
  rw [values, keys, List.map_map, List.filterMap_map, ← List.filterMap_eq_map]
  exact List.filterMap_congr (fun e he => (h e he).symm)

/-- The values of a selection of entries, read back through lookups with a default. -/
theorem map_filter_entries (t : Table κ ν) (q : κ → Bool) (d : ν) :
    (t.entries.filter (fun e => q e.1)).map Prod.snd =
      (t.keys.filter q).map (fun k => (t.get? k).getD d) := by
  have h : ∀ e ∈ t.entries.filter (fun e => q e.1), e.2 = (t.get? e.1).getD d := by
    intro e he
    rw [(get?_eq_some_iff t e.1 e.2).mpr (List.mem_filter.mp he).1, Option.getD_some]
  rw [keys, List.filter_map, List.map_map]
  exact List.map_congr_left h

theorem map_values_getD (t : Table κ ν) (d : ν) :
    t.values = t.keys.map (fun k => (t.get? k).getD d) := by
  have h := map_filter_entries t (fun _ => true) d
  simpa [values] using h

theorem get?_filter (t : Table κ ν) (q : ν → Bool) (k : κ) :
    (t.filter q).get? k = (t.get? k).filter q := by
  refine Option.ext (fun v => ?_)
  rw [get?_eq_some_iff, filter, List.mem_filter, Option.filter_eq_some_iff, get?_eq_some_iff]

/-- Updating each of several keys once. -/
theorem get?_foldl_modify (t : Table κ ν) (ks : List κ) (hks : ks.Nodup) (f : ν → ν) (k : κ) :
    (ks.foldl (fun t j => t.modify j f) t).get? k =
      if k ∈ ks then (t.get? k).map f else t.get? k := by
  induction ks generalizing t with
  | nil => simp
  | cons j ks ih =>
    obtain ⟨hj,hn⟩ := List.nodup_cons.mp hks
    rw [List.foldl_cons, ih _ hn, get?_modify]
    by_cases hk : k = j
    · subst hk
      simp [hj]
    · simp [hk]

/-- Writing each of several keys, every key with its own value. -/
theorem get?_foldl_insert (t : Table κ ν) (ks : List κ) (v : κ → ν) (k : κ) :
    (ks.foldl (fun t j => t.insert j (v j)) t).get? k =
      if k ∈ ks then some (v k) else t.get? k := by
  induction ks generalizing t with
  | nil => simp
  | cons j ks ih =>
    rw [List.foldl_cons, ih, get?_insert]
    by_cases hk : k = j
    · subst hk
      simp
    · simp [hk]

theorem keys_foldl_insert (t : Table κ ν) (ks : List κ) (v : κ → ν) (hks : ks ⊆ t.keys) :
    (ks.foldl (fun t j => t.insert j (v j)) t).keys = t.keys := by
  induction ks generalizing t with
  | nil => rfl
  | cons j ks ih =>
    obtain ⟨hj,hks⟩ := List.cons_subset.mp hks
    have hk := keys_insert_of_mem t (v j) hj
    rw [List.foldl_cons, ih (t.insert j (v j)) (by rwa [hk]), hk]

@[simp] theorem keys_foldl_modify (t : Table κ ν) (ks : List κ) (f : ν → ν) :
    (ks.foldl (fun t j => t.modify j f) t).keys = t.keys := by
  induction ks generalizing t with
  | nil => rfl
  | cons j ks ih => rw [List.foldl_cons, ih, keys_modify]

/-- Writing the entries of a list with distinct keys. -/
theorem get?_foldl_insert_entries {α : Type*} (t : Table κ ν) (l : List α) (key : α → κ)
    (val : α → ν) (hn : (l.map key).Nodup) (k : κ) (v : ν) :
    (l.foldl (fun t a => t.insert (key a) (val a)) t).get? k = some v ↔
      (∃ a ∈ l, key a = k ∧ val a = v) ∨ (k ∉ l.map key ∧ t.get? k = some v) := by
  induction l generalizing t with
  | nil => simp
  | cons a l ih =>
    obtain ⟨ha,hl⟩ := List.nodup_cons.mp hn
    rw [List.foldl_cons, ih _ hl, get?_insert]
    by_cases hk : k = key a
    · subst hk
      simp only [List.map_cons, List.mem_cons, true_or, not_true_eq_false, false_and, or_false,
        if_true, Option.some.injEq]
      constructor
      · rintro (⟨b,hb,he,-⟩ | ⟨-,hv⟩)
        · exact absurd (List.mem_map.mpr ⟨b,hb,he⟩) ha
        · exact ⟨a,Or.inl rfl,rfl,hv⟩
      · rintro ⟨b,rfl | hb,he,hv⟩
        · exact Or.inr ⟨ha,hv⟩
        · exact absurd (List.mem_map.mpr ⟨b,hb,he⟩) ha
    · simp [hk,Ne.symm hk]

/-- What holds of every value written holds of every value of the result. -/
theorem of_get?_foldl_insert {α : Type*} {P : ν → Prop} {l : List α} {key : α → κ} {val : α → ν}
    {t : Table κ ν} (ht : ∀ k v, t.get? k = some v → P v) (hval : ∀ a, P (val a)) {k : κ} {v : ν}
    (h : (l.foldl (fun t a => t.insert (key a) (val a)) t).get? k = some v) : P v := by
  induction l generalizing t with
  | nil => exact ht k v h
  | cons a l ih =>
    refine ih (fun j w hw => ?_) h
    rw [get?_insert] at hw
    split at hw
    · cases hw
      exact hval a
    · exact ht j w hw

end Table
end Foundation
