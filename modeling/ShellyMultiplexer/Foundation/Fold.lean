import Mathlib.Data.List.Basic
import Mathlib.Data.List.Induction
import Mathlib.Order.Lattice

/-! # Rules for folds

A loop is a fold. The rules carry an invariant through a loop that may fail, through the part of a
list already visited, and through updates that touch disjoint parts of the state.
-/
namespace Foundation
variable {α β κ ν : Type*}

/-- A loop whose body always succeeds and keeps an invariant of the visited part succeeds. -/
theorem foldlM_prefix (f : β → α → Option β) (P : List α → β → Prop) (l : List α) (init : β)
    (h0 : P [] init)
    (hstep : ∀ pre a post acc, l = pre ++ a::post → P pre acc →
      ∃ acc', f acc a = some acc' ∧ P (pre ++ [a]) acc') :
    ∃ r, l.foldlM f init = some r ∧ P l r := by
  suffices h : ∀ post pre acc, l = pre ++ post → P pre acc →
      ∃ r, post.foldlM f acc = some r ∧ P l r by
    simpa using h l [] init rfl h0
  intro post
  induction post with
  | nil =>
    intro pre acc hl hp
    rw [List.append_nil] at hl
    exact ⟨acc,rfl,hl ▸ hp⟩
  | cons a post ih =>
    intro pre acc hl hp
    obtain ⟨acc',ha,hp'⟩ := hstep pre a post acc hl hp
    obtain ⟨r,hr,hP⟩ := ih (pre ++ [a]) acc' (by simpa using hl) hp'
    exact ⟨r,by rw [List.foldlM_cons, ha]; exact hr,hP⟩

/-- Where no key comes twice, the present one has not come before. -/
theorem key_notMem_before {key : α → κ} {l pre post : List α} {a : α} (hn : (l.map key).Nodup)
    (hl : l = pre ++ a::post) : key a ∉ pre.map key := by
  rw [hl, List.map_append, List.map_cons] at hn
  exact fun h => (List.nodup_append.mp hn).2.2 _ h _ List.mem_cons_self rfl

/-- A loop whose body always succeeds and keeps an invariant succeeds and keeps it. -/
theorem foldlM_total (f : β → α → Option β) (P : β → Prop) (l : List α) (init : β) (h0 : P init)
    (hstep : ∀ acc, ∀ a ∈ l, P acc → ∃ acc', f acc a = some acc' ∧ P acc') :
    ∃ r, l.foldlM f init = some r ∧ P r :=
  foldlM_prefix f (fun _ => P) l init h0 (by
    intro pre a post acc hl hp
    exact hstep acc a (by simp [hl]) hp)

/-- Every state that a successful loop passes through keeps an invariant of its body. -/
theorem foldlM_inv (f : β → α → Option β) (P : β → Prop) {l : List α} {init r : β}
    (h : l.foldlM f init = some r) (h0 : P init)
    (hstep : ∀ acc a acc', a ∈ l → P acc → f acc a = some acc' → P acc') : P r := by
  induction l generalizing init with
  | nil =>
    cases h
    exact h0
  | cons a l ih =>
    rw [List.foldlM_cons] at h
    obtain ⟨acc',ha,hr⟩ := Option.bind_eq_some_iff.mp h
    exact ih hr (hstep init a acc' List.mem_cons_self h0 ha)
      (fun acc b acc'' hb => hstep acc b acc'' (List.mem_cons_of_mem _ hb))

/-- A loop that comes to an element on which its body fails fails. -/
theorem foldlM_eq_none {f : β → α → Option β} {l : List α} {a : α} (ha : a ∈ l)
    (hf : ∀ acc, f acc a = none) (init : β) : l.foldlM f init = none := by
  refine Option.eq_none_iff_forall_ne_some.mpr (fun r hr => ?_)
  induction l generalizing init with
  | nil => cases ha
  | cons b l ih =>
    rw [List.foldlM_cons] at hr
    obtain ⟨acc,hb,hrest⟩ := Option.bind_eq_some_iff.mp hr
    cases ha with
    | head =>
      rw [hf init] at hb
      cases hb
    | tail _ ha => exact ih ha acc hrest

theorem foldl_inv (f : β → α → β) (P : β → Prop) (l : List α) (init : β) (h0 : P init)
    (hstep : ∀ acc, ∀ a ∈ l, P acc → P (f acc a)) : P (l.foldl f init) := by
  induction l generalizing init with
  | nil => exact h0
  | cons a l ih =>
    exact ih (f init a) (hstep init a List.mem_cons_self h0)
      (fun acc b hb => hstep acc b (List.mem_cons_of_mem _ hb))

/-- A loop whose body always succeeds is a plain one. -/
theorem foldlM_eq_foldl {f : β → α → Option β} {g : β → α → β} {l : List α}
    (h : ∀ acc, ∀ a ∈ l, f acc a = some (g acc a)) (init : β) :
    l.foldlM f init = some (l.foldl g init) := by
  induction l generalizing init with
  | nil => rfl
  | cons a l ih =>
    rw [List.foldlM_cons, h init a List.mem_cons_self]
    exact ih (fun acc b hb => h acc b (List.mem_cons_of_mem _ hb)) (g init a)

/-- Two bodies that agree under an invariant of one of them make the same loop. -/
theorem foldlM_congr (f g : β → α → Option β) (P : β → Prop) (l : List α) (init : β)
    (h0 : P init) (hfg : ∀ acc, ∀ a ∈ l, P acc → f acc a = g acc a)
    (hstep : ∀ acc acc', ∀ a ∈ l, P acc → g acc a = some acc' → P acc') :
    l.foldlM f init = l.foldlM g init := by
  induction l generalizing init with
  | nil => rfl
  | cons a l ih =>
    rw [List.foldlM_cons, List.foldlM_cons, hfg init a List.mem_cons_self h0]
    cases hg : g init a with
    | none => rfl
    | some acc =>
      exact ih acc (hstep init acc a List.mem_cons_self h0 hg)
        (fun acc b hb => hfg acc b (List.mem_cons_of_mem _ hb))
        (fun acc acc' b hb => hstep acc acc' b (List.mem_cons_of_mem _ hb))

theorem foldl_congr (f g : β → α → β) (P : β → Prop) (l : List α) (init : β) (h0 : P init)
    (hfg : ∀ acc, ∀ a ∈ l, P acc → f acc a = g acc a)
    (hstep : ∀ acc, ∀ a ∈ l, P acc → P (g acc a)) : l.foldl f init = l.foldl g init := by
  induction l generalizing init with
  | nil => rfl
  | cons a l ih =>
    rw [List.foldl_cons, List.foldl_cons, hfg init a List.mem_cons_self h0]
    exact ih (g init a) (hstep init a List.mem_cons_self h0)
      (fun acc b hb => hfg acc b (List.mem_cons_of_mem _ hb))
      (fun acc b hb => hstep acc b (List.mem_cons_of_mem _ hb))

/-- Two loops whose bodies succeed together and keep a relation end in related states. -/
theorem foldlM_map_rel {α' β' : Type*} (f : β → α → Option β) (f' : β' → α' → Option β')
    (g : α → α') (R : β → β' → Prop) (l : List α) {init : β} {init' : β'} (h0 : R init init')
    (hstep : ∀ acc acc', ∀ a ∈ l, R acc acc' →
      ∃ r r', f acc a = some r ∧ f' acc' (g a) = some r' ∧ R r r') :
    ∃ r r', l.foldlM f init = some r ∧ (l.map g).foldlM f' init' = some r' ∧ R r r' := by
  induction l generalizing init init' with
  | nil => exact ⟨init,init',rfl,rfl,h0⟩
  | cons a l ih =>
    obtain ⟨acc,acc',ha,ha',hacc⟩ := hstep init init' a List.mem_cons_self h0
    obtain ⟨r,r',hr,hr',hrel⟩ := ih hacc
      (fun acc acc' b hb => hstep acc acc' b (List.mem_cons_of_mem _ hb))
    refine ⟨r,r',?_,?_,hrel⟩
    · rw [List.foldlM_cons, ha]
      exact hr
    · rw [List.map_cons, List.foldlM_cons, ha']
      exact hr'

/-- The last of the elements that no other one exceeds, as an iterator's `max_by` picks it. -/
def maxBy (greater : α → α → Bool) : List α → Option α
  | [] => none
  | a::l => some (l.foldl (fun x y => if greater x y then x else y) a)

theorem maxBy_mem {greater : α → α → Bool} {l : List α} {a : α} (h : maxBy greater l = some a) :
    a ∈ l := by
  cases l with
  | nil => cases h
  | cons b l =>
    cases h
    refine foldl_inv _ (· ∈ b::l) l b List.mem_cons_self (fun acc c hc hacc => ?_)
    split
    · exact hacc
    · exact List.mem_cons_of_mem _ hc

theorem maxBy_eq_none_iff {greater : α → α → Bool} {l : List α} :
    maxBy greater l = none ↔ l = [] := by
  cases l <;> simp [maxBy]

theorem maxBy_congr {greater greater' : α → α → Bool} {l : List α}
    (h : ∀ a ∈ l, ∀ b ∈ l, greater a b = greater' a b) : maxBy greater l = maxBy greater' l := by
  cases l with
  | nil => rfl
  | cons a l =>
    refine congrArg some (foldl_congr _ _ (· ∈ a::l) l a List.mem_cons_self ?_ ?_)
    · intro acc b hb hacc
      rw [h acc hacc b (List.mem_cons_of_mem _ hb)]
    · intro acc b hb hacc
      split
      · exact hacc
      · exact List.mem_cons_of_mem _ hb

/-- What no earlier element exceeds, and what exceeds every later one, is picked. -/
theorem maxBy_append_cons {greater : α → α → Bool} {pre post : List α} {a : α}
    (hpre : ∀ x ∈ pre, greater x a = false) (hpost : ∀ x ∈ post, greater a x = true) :
    maxBy greater (pre ++ a::post) = some a := by
  have hstay : post.foldl (fun x y => if greater x y then x else y) a = a :=
    foldl_inv _ (· = a) post a rfl (fun acc y hy hacc => by rw [hacc, if_pos (hpost y hy)])
  cases pre with
  | nil => exact congrArg some hstay
  | cons b pre =>
    have hmem : pre.foldl (fun x y => if greater x y then x else y) b ∈ b::pre :=
      maxBy_mem (show maxBy greater (b::pre) = some _ from rfl)
    rw [List.cons_append, maxBy, List.foldl_append, List.foldl_cons,
      if_neg (Bool.eq_false_iff.mp (hpre _ hmem)), hstay]

/-- Where the comparison comes from a linear order, the pick is of this kind. -/
theorem exists_of_maxBy {K : Type*} [LinearOrder K] {greater : α → α → Bool} {key : α → K}
    (hg : ∀ a b, greater a b = true ↔ key b < key a) {l : List α} {a : α}
    (h : maxBy greater l = some a) : ∃ pre post, l = pre ++ a::post ∧
      (∀ x ∈ pre, greater x a = false) ∧ ∀ x ∈ post, greater a x = true := by
  have hle : ∀ x y, greater x y = false ↔ key x ≤ key y := fun x y => by
    rw [← not_lt, ← hg, Bool.not_eq_true]
  cases l with
  | nil => cases h
  | cons b l =>
    cases h
    induction l using List.reverseRecOn with
    | nil => exact ⟨[],[],rfl,by simp,by simp⟩
    | append_singleton l c ih =>
      obtain ⟨pre,post,hl,hpre,hpost⟩ := ih
      rw [List.foldl_append, List.foldl_cons, List.foldl_nil, ← List.cons_append, hl]
      generalize l.foldl (fun x y => if greater x y then x else y) b = m at hpre hpost ⊢
      by_cases hm : greater m c = true
      · rw [if_pos hm]
        refine ⟨pre,post ++ [c],by simp,hpre,fun x hx => ?_⟩
        rcases List.mem_append.mp hx with hx | hx
        · exact hpost x hx
        · exact List.mem_singleton.mp hx ▸ hm
      · rw [if_neg hm]
        have hmc := (hle m c).mp (Bool.eq_false_iff.mpr hm)
        refine ⟨pre ++ m::post,[],rfl,fun x hx => (hle x c).mpr ?_,by simp⟩
        rcases List.mem_append.mp hx with hx | hx
        · exact ((hle x m).mp (hpre x hx)).trans hmc
        · rcases List.mem_cons.mp hx with rfl | hx
          · exact hmc
          · exact ((hg m x).mp (hpost x hx)).le.trans hmc

/-- Updates with pairwise disjoint supports do not disturb each other: on its own support each one
acts as if it were alone, and outside all supports nothing moves. -/
theorem foldl_disjoint (look : β → κ → ν) (f : β → α → β) (support : α → κ → Prop) (l : List α)
    (hframe : ∀ a ∈ l, ∀ acc k, ¬ support a k → look (f acc a) k = look acc k)
    (hlocal : ∀ a ∈ l, ∀ acc acc', (∀ j, support a j → look acc j = look acc' j) →
      ∀ k, support a k → look (f acc a) k = look (f acc' a) k)
    (hdis : l.Pairwise (fun a b => ∀ k, support a k → ¬ support b k)) (init : β) :
    (∀ a ∈ l, ∀ k, support a k → look (l.foldl f init) k = look (f init a) k) ∧
      (∀ k, (∀ a ∈ l, ¬ support a k) → look (l.foldl f init) k = look init k) := by
  induction l generalizing init with
  | nil => simp
  | cons a l ih =>
    obtain ⟨ha,hl⟩ := List.pairwise_cons.mp hdis
    have ham : a ∈ a::l := List.mem_cons_self
    obtain ⟨hin,hout⟩ := ih (fun b hb => hframe b (List.mem_cons_of_mem _ hb))
      (fun b hb => hlocal b (List.mem_cons_of_mem _ hb)) hl (f init a)
    refine ⟨?_,?_⟩
    · intro b hb k hk
      rcases List.mem_cons.mp hb with rfl | hb
      · exact hout k (fun c hc => ha c hc k hk)
      · rw [List.foldl_cons, hin b hb k hk]
        exact hlocal b (List.mem_cons_of_mem _ hb) _ _
          (fun j hj => hframe a ham init j (fun hj' => ha b hb j hj' hj)) k hk
    · intro k hk
      rw [List.foldl_cons, hout k (fun b hb => hk b (List.mem_cons_of_mem _ hb))]
      exact hframe a ham init k (hk a ham)

/-- The order of such updates does not matter, nor what the start has apart from the look. -/
theorem foldl_disjoint_perm (look : β → κ → ν) (f : β → α → β) (support : α → κ → Prop)
    {l l' : List α} (hperm : l.Perm l')
    (hframe : ∀ a ∈ l, ∀ acc k, ¬ support a k → look (f acc a) k = look acc k)
    (hlocal : ∀ a ∈ l, ∀ acc acc', (∀ j, support a j → look acc j = look acc' j) →
      ∀ k, support a k → look (f acc a) k = look (f acc' a) k)
    (hdis : l.Pairwise (fun a b => ∀ k, support a k → ¬ support b k)) {init init' : β}
    (h0 : ∀ k, look init k = look init' k) (k : κ) :
    look (l.foldl f init) k = look (l'.foldl f init') k := by
  have hdis' : l'.Pairwise (fun a b => ∀ k, support a k → ¬ support b k) :=
    (hperm.pairwise_iff (fun h k hk hk' => h k hk' hk)).mp hdis
  obtain ⟨hin,hout⟩ := foldl_disjoint look f support l hframe hlocal hdis init
  obtain ⟨hin',hout'⟩ := foldl_disjoint look f support l'
    (fun a ha => hframe a (hperm.mem_iff.mpr ha)) (fun a ha => hlocal a (hperm.mem_iff.mpr ha))
    hdis' init'
  by_cases hk : ∃ a ∈ l, support a k
  · obtain ⟨a,ha,hak⟩ := hk
    rw [hin a ha k hak, hin' a (hperm.mem_iff.mp ha) k hak]
    exact hlocal a ha init init' (fun j _ => h0 j) k hak
  · rw [hout k (fun a ha hak => hk ⟨a,ha,hak⟩),
      hout' k (fun a ha hak => hk ⟨a,hperm.mem_iff.mpr ha,hak⟩), h0 k]

/-- The plain bodies behind updates that might fail and do not. -/
theorem exists_total (look : β → κ → ν) (f : β → α → Option β) (support : α → κ → Prop)
    (l : List α)
    (hframe : ∀ a ∈ l, ∀ acc, ∃ acc', f acc a = some acc' ∧
      ∀ k, ¬ support a k → look acc' k = look acc k)
    (hlocal : ∀ a ∈ l, ∀ acc₁ acc₂ r₁ r₂, (∀ j, support a j → look acc₁ j = look acc₂ j) →
      f acc₁ a = some r₁ → f acc₂ a = some r₂ → ∀ k, support a k → look r₁ k = look r₂ k) :
    ∃ total : β → α → β, (∀ acc, ∀ a ∈ l, f acc a = some (total acc a)) ∧
      (∀ a ∈ l, ∀ acc k, ¬ support a k → look (total acc a) k = look acc k) ∧
      ∀ a ∈ l, ∀ acc acc', (∀ j, support a j → look acc j = look acc' j) →
        ∀ k, support a k → look (total acc a) k = look (total acc' a) k := by
  let total : β → α → β := fun acc a => (f acc a).getD acc
  have htotal : ∀ acc, ∀ a ∈ l, f acc a = some (total acc a) := by
    intro acc a ha
    obtain ⟨acc',hacc,-⟩ := hframe a ha acc
    simp only [total, hacc, Option.getD_some]
  refine ⟨total,htotal,fun a ha acc k hk => ?_,fun a ha acc acc' h =>
    hlocal a ha acc acc' _ _ h (htotal acc a ha) (htotal acc' a ha)⟩
  obtain ⟨acc',hacc,hout⟩ := hframe a ha acc
  rw [← hout k hk, Option.some.inj ((htotal acc a ha).symm.trans hacc)]

/-- The same for updates that might fail and do not. -/
theorem foldlM_disjoint (look : β → κ → ν) (f : β → α → Option β) (support : α → κ → Prop)
    (l : List α)
    (hframe : ∀ a ∈ l, ∀ acc, ∃ acc', f acc a = some acc' ∧
      ∀ k, ¬ support a k → look acc' k = look acc k)
    (hlocal : ∀ a ∈ l, ∀ acc₁ acc₂ r₁ r₂, (∀ j, support a j → look acc₁ j = look acc₂ j) →
      f acc₁ a = some r₁ → f acc₂ a = some r₂ → ∀ k, support a k → look r₁ k = look r₂ k)
    (hdis : l.Pairwise (fun a b => ∀ k, support a k → ¬ support b k)) (init : β) :
    ∃ r, l.foldlM f init = some r ∧ ∀ a ∈ l, ∃ r', f init a = some r' ∧
      ∀ k, support a k → look r k = look r' k := by
  obtain ⟨total,htotal,hout,hlook⟩ := exists_total look f support l hframe hlocal
  obtain ⟨hin,-⟩ := foldl_disjoint look total support l hout hlook hdis init
  exact ⟨_,foldlM_eq_foldl htotal init,fun a ha => ⟨_,htotal init a ha,hin a ha⟩⟩

theorem foldlM_disjoint_perm (look : β → κ → ν) (f : β → α → Option β) (support : α → κ → Prop)
    {l l' : List α} (hperm : l.Perm l')
    (hframe : ∀ a ∈ l, ∀ acc, ∃ acc', f acc a = some acc' ∧
      ∀ k, ¬ support a k → look acc' k = look acc k)
    (hlocal : ∀ a ∈ l, ∀ acc₁ acc₂ r₁ r₂, (∀ j, support a j → look acc₁ j = look acc₂ j) →
      f acc₁ a = some r₁ → f acc₂ a = some r₂ → ∀ k, support a k → look r₁ k = look r₂ k)
    (hdis : l.Pairwise (fun a b => ∀ k, support a k → ¬ support b k)) {init init' : β}
    (h0 : ∀ k, look init k = look init' k) :
    ∃ r r', l.foldlM f init = some r ∧ l'.foldlM f init' = some r' ∧ ∀ k, look r k = look r' k := by
  obtain ⟨total,htotal,hout,hin⟩ := exists_total look f support l hframe hlocal
  exact ⟨_,_,foldlM_eq_foldl htotal init,
    foldlM_eq_foldl (fun acc a ha => htotal acc a (hperm.mem_iff.mpr ha)) init',
    foldl_disjoint_perm look total support hperm hout hin hdis h0⟩

/-- A loop that collects one value for each entry stops at the first entry without a value. -/
theorem mapM_eq_some_iff {f : α → Option β} {l : List α} {r : List β} :
    l.mapM f = some r ↔ l.map f = r.map some := by
  induction l generalizing r with
  | nil => cases r <;> simp
  | cons a l ih =>
    rw [List.mapM_cons, List.map_cons]
    cases r with
    | nil => simp [Option.bind_eq_some_iff]
    | cons b r =>
      simp only [Option.bind_eq_bind, Option.bind_eq_some_iff, Option.pure_def, Option.some.injEq,
        List.cons.injEq, List.map_cons, ← ih]
      constructor
      · rintro ⟨c,hc,cs,hcs,rfl,rfl⟩
        exact ⟨hc,hcs⟩
      · rintro ⟨hb,hr⟩
        exact ⟨b,hb,r,hr,rfl,rfl⟩

theorem mapM_isSome_iff {f : α → Option β} {l : List α} :
    (l.mapM f).isSome ↔ ∀ a ∈ l, (f a).isSome := by
  induction l with
  | nil => simp
  | cons a l ih =>
    rw [List.mapM_cons, List.forall_mem_cons, ← ih]
    cases f a <;> simp [Option.isSome_iff_exists, Option.bind_eq_some_iff]

theorem mapM_range_eq_some_iff {n : ℕ} {f : ℕ → Option β} {r : List β} :
    (List.range n).mapM f = some r ↔ r.length = n ∧ ∀ k b, r[k]? = some b → f k = some b := by
  rw [mapM_eq_some_iff]
  constructor
  · intro h
    have hlen : r.length = n := by simpa using (congrArg List.length h).symm
    refine ⟨hlen,fun k b hb => ?_⟩
    have hk : k < n := hlen ▸ (List.getElem?_eq_some_iff.mp hb).1
    have hat := congrArg (fun l => l[k]?) h
    simpa [hk,hb] using hat
  · rintro ⟨rfl,h⟩
    refine List.ext_getElem (by simp) (fun k hk _ => ?_)
    have hlt : k < r.length := by simpa using hk
    rw [List.getElem_map, List.getElem_map, List.getElem_range]
    exact h k _ (List.getElem?_eq_getElem hlt)

end Foundation
