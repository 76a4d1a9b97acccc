import Mathlib.Algebra.BigOperators.Field
import Mathlib.Algebra.BigOperators.Group.Finset.Basic
import Mathlib.Algebra.Order.BigOperators.Group.Finset
import ShellyMultiplexer.Foundation.Clamp

/-! # Weighted filling of bounded vessels

A demand is poured over members in proportion to their weights. Every member is clamped into its
own window, saturated members drop out, and what they left over is poured over the others in the
next round.
-/
namespace Foundation
variable {ι K : Type*} [Field K] [LinearOrder K] [IsStrictOrderedRing K]

/-- Windows contain zero and weights are non-negative, so a round can only fill up. -/
structure Filling (ι K : Type*) [Field K] [LinearOrder K] where
  members : Finset ι
  weight : ι → K
  lower : ι → K
  upper : ι → K
  demand : K
  slack : K
  weight_nonneg : ∀ i ∈ members, 0 ≤ weight i
  lower_nonpos : ∀ i ∈ members, lower i ≤ 0
  upper_nonneg : ∀ i ∈ members, 0 ≤ upper i

structure Level (ι K : Type*) where
  share : ι → K
  active : Finset ι

namespace Filling
variable [DecidableEq ι] (p : Filling ι K)

def empty : Level ι K := ⟨fun _ => 0,p.members⟩
def remaining (l : Level ι K) : K := p.demand - ∑ i ∈ p.members, l.share i
def totalWeight (l : Level ι K) : K := ∑ i ∈ l.active, p.weight i

def proposal (l : Level ι K) (i : ι) : K :=
  l.share i + p.remaining l * p.weight i / p.totalWeight l

def pour (l : Level ι K) (i : ι) : K :=
  if i ∈ l.active then clampTo (p.lower i) (p.upper i) (p.proposal l i) else l.share i

def saturated (l : Level ι K) : Finset ι :=
  l.active.filter (fun i => p.slack < |p.pour l i - p.proposal l i|)

def Done (l : Level ι K) : Prop :=
  l.active = ∅ ∨ |p.remaining l| < p.slack ∨ p.totalWeight l ≤ 0

instance (l : Level ι K) : Decidable (p.Done l) := inferInstanceAs (Decidable (_ ∨ _ ∨ _))

def fill : ℕ → Level ι K → Level ι K
  | 0, l => l
  | n + 1, l =>
    if p.Done l then l
    else if p.saturated l = ∅ then ⟨p.pour l,l.active⟩
    else fill n ⟨p.pour l,l.active \ p.saturated l⟩

omit [IsStrictOrderedRing K] in
/-- One induction over the rounds serves every invariant of the pouring. -/
theorem fill_induct (P : Level ι K → Prop)
    (hstep : ∀ l, P l → ¬ p.Done l → P ⟨p.pour l,l.active \ p.saturated l⟩) (n : ℕ)
    {l : Level ι K} (hl : P l) : P (p.fill n l) := by
  induction n generalizing l with
  | zero => exact hl
  | succ n ih =>
    rw [fill]
    split
    · exact hl
    · rename_i hd
      have hnext := hstep l hl hd
      split
      · rename_i hsat
        rwa [hsat, Finset.sdiff_empty] at hnext
      · exact ih hnext

omit [IsStrictOrderedRing K] in
/-- Invariants that do not care which members drop out. -/
theorem fill_inv (P : Level ι K → Prop)
    (hstep : ∀ l a, P l → ¬ p.Done l → a ⊆ l.active → P ⟨p.pour l,a⟩) (n : ℕ) {l : Level ι K}
    (hl : P l) : P (p.fill n l) :=
  p.fill_induct P (fun l h hd => hstep l _ h hd Finset.sdiff_subset) n hl

def Sized (l : Level ι K) : Prop :=
  l.active ⊆ p.members ∧ (∀ i ∈ p.members, p.lower i ≤ l.share i ∧ l.share i ≤ p.upper i) ∧
    ∀ i ∉ p.members, l.share i = 0

omit [IsStrictOrderedRing K] [DecidableEq ι] in
theorem empty_sized : p.Sized p.empty :=
  ⟨subset_rfl,fun i hi => ⟨p.lower_nonpos i hi,p.upper_nonneg i hi⟩,fun _ _ => rfl⟩

omit [IsStrictOrderedRing K] in
theorem pour_sized {l : Level ι K} (h : p.Sized l) {a : Finset ι} (ha : a ⊆ l.active) :
    p.Sized ⟨p.pour l,a⟩ := by
  obtain ⟨hm,hw,ho⟩ := h
  refine ⟨ha.trans hm,fun i hi => ?_,fun i hi => ?_⟩
  · by_cases hia : i ∈ l.active
    · simp only [pour, if_pos hia]
      exact ⟨le_clampTo _ _ _,clampTo_le ((p.lower_nonpos i hi).trans (p.upper_nonneg i hi)) _⟩
    · simpa only [pour, if_neg hia] using hw i hi
  · have hia : i ∉ l.active := fun hia => hi (hm hia)
    simp only [pour, if_neg hia]
    exact ho i hi

omit [IsStrictOrderedRing K] in
/-- Every member stays in its own window. -/
theorem fill_sized (n : ℕ) : p.Sized (p.fill n p.empty) :=
  p.fill_inv p.Sized (fun _ _ h _ ha => p.pour_sized h ha) n p.empty_sized

omit [IsStrictOrderedRing K] in
/-- What one round would hand out without clamping is exactly what remains. -/
theorem sum_proposal {l : Level ι K} (hm : l.active ⊆ p.members) (hw : 0 < p.totalWeight l) :
    ∑ i ∈ p.members, (if i ∈ l.active then p.proposal l i else l.share i) = p.demand := by
  have hsplit : ∀ i ∈ p.members, (if i ∈ l.active then p.proposal l i else l.share i) =
      l.share i + if i ∈ l.active then p.remaining l * p.weight i / p.totalWeight l else 0 := by
    intro i _
    split
    · rfl
    · rw [add_zero]
  have hpart : ∑ i ∈ p.members,
      (if i ∈ l.active then p.remaining l * p.weight i / p.totalWeight l else 0) =
        p.remaining l := by
    rw [← Finset.sum_filter, Finset.filter_mem_eq_inter, Finset.inter_eq_right.mpr hm,
      ← Finset.sum_div, ← Finset.mul_sum]
    exact mul_div_cancel_right₀ _ hw.ne'
  rw [Finset.sum_congr rfl hsplit, Finset.sum_add_distrib, hpart, remaining]
  ring

/-- The state of a pouring with a non-negative demand: nothing is poured backwards and the total
does not overshoot. -/
def Forward (l : Level ι K) : Prop :=
  p.Sized l ∧ (∀ i ∈ p.members, 0 ≤ l.share i) ∧ 0 ≤ p.remaining l

omit [DecidableEq ι] in
theorem share_le_proposal {l : Level ι K} (h : p.Forward l) (hw : 0 < p.totalWeight l) {i : ι}
    (hi : i ∈ p.members) : l.share i ≤ p.proposal l i :=
  le_add_of_nonneg_right (div_nonneg (mul_nonneg h.2.2 (p.weight_nonneg i hi)) hw.le)

theorem share_le_pour {l : Level ι K} (h : p.Forward l) (hw : 0 < p.totalWeight l) {i : ι}
    (hi : i ∈ p.members) : l.share i ≤ p.pour l i := by
  unfold pour
  split
  · exact (le_min (p.share_le_proposal h hw hi) (h.1.2.1 i hi).2).trans (le_max_right _ _)
  · exact le_rfl

theorem pour_forward {l : Level ι K} (h : p.Forward l) (hd : ¬ p.Done l) {a : Finset ι}
    (ha : a ⊆ l.active) : p.Forward ⟨p.pour l,a⟩ := by
  have hw : 0 < p.totalWeight l := not_le.mp (fun hw => hd (Or.inr (Or.inr hw)))
  refine ⟨p.pour_sized h.1 ha,fun i hi => (h.2.1 i hi).trans (p.share_le_pour h hw hi),?_⟩
  have hle : ∑ i ∈ p.members, p.pour l i ≤
      ∑ i ∈ p.members, (if i ∈ l.active then p.proposal l i else l.share i) := by
    refine Finset.sum_le_sum (fun i hi => ?_)
    unfold pour
    split
    · exact clampTo_le_self (p.lower_nonpos i hi)
        ((h.2.1 i hi).trans (p.share_le_proposal h hw hi))
    · exact le_rfl
  rw [p.sum_proposal h.1.1 hw] at hle
  exact sub_nonneg.mpr hle

omit [IsStrictOrderedRing K] [DecidableEq ι] in
theorem empty_forward (hp : 0 ≤ p.demand) : p.Forward p.empty :=
  ⟨p.empty_sized,fun _ _ => le_rfl,by simpa [remaining,empty] using hp⟩

/-- A non-negative demand is never exceeded and never pushes a member the other way. -/
theorem fill_forward (hp : 0 ≤ p.demand) (n : ℕ) : p.Forward (p.fill n p.empty) :=
  p.fill_inv p.Forward (fun _ _ h hd ha => p.pour_forward h hd ha) n (p.empty_forward hp)

omit [IsStrictOrderedRing K] in
theorem fill_succ_of_not_done (n : ℕ) {l : Level ι K} (hd : ¬ p.Done l) :
    ∃ m a, a ⊆ l.active ∧ p.fill (n + 1) l = p.fill m ⟨p.pour l,a⟩ := by
  rw [fill, if_neg hd]
  split
  · exact ⟨0,l.active,subset_rfl,rfl⟩
  · exact ⟨n,_,Finset.sdiff_subset,rfl⟩

theorem fill_mono (n : ℕ) {l : Level ι K} (h : p.Forward l) {i : ι} (hi : i ∈ p.members) :
    l.share i ≤ (p.fill n l).share i :=
  (p.fill_inv (fun m => p.Forward m ∧ l.share i ≤ m.share i)
    (fun _ _ hm hd ha => ⟨p.pour_forward hm.1 hd ha,
      hm.2.trans (p.share_le_pour hm.1 (not_le.mp (fun hw => hd (Or.inr (Or.inr hw)))) hi)⟩)
    n ⟨h,le_rfl⟩).2

omit [IsStrictOrderedRing K] [DecidableEq ι] in
theorem remaining_empty : p.remaining p.empty = p.demand := by simp [remaining,empty]

omit [IsStrictOrderedRing K] [DecidableEq ι] in
theorem empty_not_done (hs : p.slack ≤ |p.demand|) (hw : 0 < p.totalWeight p.empty) :
    ¬ p.Done p.empty := by
  rintro (hnone | hsmall | hweightless)
  · rw [totalWeight, hnone, Finset.sum_empty] at hw
    exact lt_irrefl 0 hw
  · rw [remaining_empty] at hsmall
    exact absurd hsmall (not_lt.mpr hs)
  · exact absurd hweightless (not_le.mpr hw)

/-- What the first round pours is kept. -/
theorem pour_empty_le_fill (hp : 0 ≤ p.demand) (hs : p.slack ≤ p.demand)
    (hw : 0 < p.totalWeight p.empty) (n : ℕ) {i : ι} (hi : i ∈ p.members) :
    p.pour p.empty i ≤ (p.fill (n + 1) p.empty).share i := by
  have hd := p.empty_not_done (hs.trans (le_abs_self _)) hw
  obtain ⟨m,a,ha,he⟩ := p.fill_succ_of_not_done n hd
  rw [he]
  exact p.fill_mono m (p.pour_forward (p.empty_forward hp) hd ha) hi

omit [IsStrictOrderedRing K] [DecidableEq ι] in
theorem proposal_empty (i : ι) :
    p.proposal p.empty i = p.demand * p.weight i / p.totalWeight p.empty := by
  rw [proposal, remaining_empty, empty, zero_add]

/-- A demand that is worth pouring reaches every member with weight and room. -/
theorem fill_pos (hp : 0 < p.demand) (hs : p.slack ≤ p.demand) (n : ℕ) {i : ι}
    (hi : i ∈ p.members) (hw : 0 < p.weight i) (hu : 0 < p.upper i) :
    0 < (p.fill (n + 1) p.empty).share i := by
  have ht : 0 < p.totalWeight p.empty :=
    hw.trans_le (Finset.single_le_sum (f := p.weight) p.weight_nonneg hi)
  refine lt_of_lt_of_le ?_ (p.pour_empty_le_fill hp.le hs ht n hi)
  have hprop : 0 < p.proposal p.empty i := by
    rw [proposal_empty]
    exact div_pos (mul_pos hp hw) ht
  rw [pour, if_pos (show i ∈ p.empty.active from hi)]
  exact (clampTo_pos_iff _ _ _).mpr (Or.inr ⟨hprop,hu⟩)

/-- A demand whose part for a member reaches beyond its window fills the member up at once. -/
theorem fill_eq_upper (hp : 0 < p.demand) (hs : p.slack ≤ p.demand) (n : ℕ) {i : ι}
    (hi : i ∈ p.members)
    (hlarge : p.upper i ≤ p.demand * p.weight i / p.totalWeight p.empty) :
    (p.fill (n + 1) p.empty).share i = p.upper i := by
  obtain ⟨-,hu⟩ := (p.fill_sized (n + 1)).2.1 i hi
  refine le_antisymm hu ?_
  rcases (p.upper_nonneg i hi).eq_or_lt with hz | hpos
  · rw [← hz]
    exact (p.fill_forward hp.le (n + 1)).2.1 i hi
  have ht : 0 < p.totalWeight p.empty := by
    refine lt_of_le_of_ne (Finset.sum_nonneg p.weight_nonneg) (fun h0 => ?_)
    rw [← h0, div_zero] at hlarge
    exact absurd hpos (not_lt.mpr hlarge)
  refine le_trans ?_ (p.pour_empty_le_fill hp.le hs ht n hi)
  rw [← proposal_empty] at hlarge
  rw [pour, if_pos (show i ∈ p.empty.active from hi), clampTo, min_eq_right hlarge]
  exact le_max_right _ _

/-! ## Demands that fit -/

theorem pour_saturated {l : Level ι K} (h : p.Forward l) (hw : 0 < p.totalWeight l)
    (hs : 0 ≤ p.slack) {i : ι} (hi : i ∈ p.saturated l) : p.pour l i = p.upper i := by
  obtain ⟨hia,hfar⟩ := Finset.mem_filter.mp hi
  have him := h.1.1 hia
  have hprop : 0 ≤ p.proposal l i := (h.2.1 i him).trans (p.share_le_proposal h hw him)
  rw [pour, if_pos hia] at hfar ⊢
  have hover : p.upper i < p.proposal l i := by
    by_contra hle
    rw [clampTo_eq_self ((p.lower_nonpos i him).trans hprop) (not_lt.mp hle), sub_self,
      abs_zero] at hfar
    exact absurd hfar (not_lt.mpr hs)
  rw [clampTo, min_eq_right hover.le,
    max_eq_right ((p.lower_nonpos i him).trans (p.upper_nonneg i him))]

/-- What the windows can hold of the demand. -/
def deliverable : K := clampTo (∑ i ∈ p.members, p.lower i) (∑ i ∈ p.members, p.upper i) p.demand

omit [DecidableEq ι] in
theorem deliverable_of_nonneg (hp : 0 ≤ p.demand) :
    p.deliverable = min p.demand (∑ i ∈ p.members, p.upper i) :=
  max_eq_right ((Finset.sum_nonpos p.lower_nonpos).trans
    (le_min hp (Finset.sum_nonneg p.upper_nonneg)))

omit [DecidableEq ι] in
theorem sum_share_le_deliverable (hp : 0 ≤ p.demand) {l : Level ι K} (h : p.Forward l) :
    ∑ i ∈ p.members, l.share i ≤ p.deliverable := by
  rw [p.deliverable_of_nonneg hp]
  exact le_min (sub_nonneg.mp h.2.2) (Finset.sum_le_sum (fun i hi => (h.1.2.1 i hi).2))

omit [DecidableEq ι] in
theorem deliverable_le_of_full (hp : 0 ≤ p.demand) {l : Level ι K}
    (hfull : ∀ i ∈ p.members, p.upper i ≤ l.share i) :
    p.deliverable - ∑ i ∈ p.members, l.share i ≤ 0 := by
  rw [p.deliverable_of_nonneg hp]
  exact sub_nonpos.mpr ((min_le_right _ _).trans (Finset.sum_le_sum hfull))

omit [DecidableEq ι] in
theorem deliverable_sub_le (hp : 0 ≤ p.demand) (l : Level ι K) :
    p.deliverable - ∑ i ∈ p.members, l.share i ≤ p.remaining l := by
  rw [p.deliverable_of_nonneg hp]
  exact sub_le_sub_right (min_le_left _ _) _

/-- What a round without saturation leaves over is within the slack of every member. -/
theorem remaining_le_of_unsaturated {l : Level ι K} (h : p.Forward l) (hw : 0 < p.totalWeight l)
    (hs : 0 ≤ p.slack) (hsat : p.saturated l = ∅) (a : Finset ι) :
    p.remaining ⟨p.pour l,a⟩ ≤ p.members.card * p.slack := by
  have hterm : ∀ i ∈ p.members,
      (if i ∈ l.active then p.proposal l i else l.share i) - p.pour l i ≤ p.slack := by
    intro i _
    by_cases hia : i ∈ l.active
    · have hnear : ¬ p.slack < |p.pour l i - p.proposal l i| := by
        intro hfar
        have hmem : i ∈ p.saturated l := Finset.mem_filter.mpr ⟨hia,hfar⟩
        rw [hsat] at hmem
        exact Finset.notMem_empty i hmem
      rw [if_pos hia]
      calc p.proposal l i - p.pour l i ≤ |p.proposal l i - p.pour l i| := le_abs_self _
        _ = |p.pour l i - p.proposal l i| := abs_sub_comm _ _
        _ ≤ p.slack := not_lt.mp hnear
    · rw [if_neg hia, pour, if_neg hia, sub_self]
      exact hs
  have hsum := p.sum_proposal h.1.1 hw
  calc p.remaining ⟨p.pour l,a⟩
      = ∑ i ∈ p.members, ((if i ∈ l.active then p.proposal l i else l.share i) - p.pour l i) := by
        rw [Finset.sum_sub_distrib, hsum]
        rfl
    _ ≤ p.members.card • p.slack := Finset.sum_le_card_nsmul _ _ _ hterm
    _ = p.members.card * p.slack := nsmul_eq_mul _ _

/-- A filling that is done has handed out what the windows can hold of the demand. -/
theorem deliverable_sub_le_of_done (hs : 0 ≤ p.slack) (hp : 0 ≤ p.demand)
    (hweight : ∀ i ∈ p.members, 0 < p.upper i → 0 < p.weight i) {l : Level ι K}
    (h : p.Forward l) (hout : ∀ i ∈ p.members, i ∉ l.active → l.share i = p.upper i)
    (hd : p.Done l) :
    p.deliverable - ∑ i ∈ p.members, l.share i ≤ p.members.card * p.slack := by
  have hnonneg : (0 : K) ≤ p.members.card * p.slack := mul_nonneg (Nat.cast_nonneg _) hs
  rcases hd with hempty | hsmall | hweightless
  · refine (p.deliverable_le_of_full hp (fun i hi => (hout i hi ?_).ge)).trans hnonneg
    rw [hempty]
    exact Finset.notMem_empty i
  · rcases p.members.eq_empty_or_nonempty with hm | hm
    · refine (p.deliverable_le_of_full hp (fun i hi => ?_)).trans hnonneg
      rw [hm] at hi
      exact absurd hi (Finset.notMem_empty i)
    · have hone : (1 : K) ≤ p.members.card := Nat.one_le_cast.mpr hm.card_pos
      calc p.deliverable - ∑ i ∈ p.members, l.share i ≤ p.remaining l :=
            p.deliverable_sub_le hp l
        _ ≤ p.slack := (le_abs_self _).trans hsmall.le
        _ ≤ p.members.card * p.slack := le_mul_of_one_le_left hs hone
  · -- an active member without weight has no room either
    refine (p.deliverable_le_of_full hp (fun i hi => ?_)).trans hnonneg
    by_cases hia : i ∈ l.active
    · have hwi : ¬ 0 < p.weight i := fun hwi => not_lt.mpr hweightless (hwi.trans_le
        (Finset.single_le_sum (f := p.weight)
          (fun j hj => p.weight_nonneg j (h.1.1 hj)) hia))
      exact (not_lt.mp (fun hu => hwi (hweight i hi hu))).trans (h.2.1 i hi)
    · exact (hout i hi hia).ge

/-- With a round for every active member, what the windows can hold of the demand is handed out:
each round either fills a member up or leaves nothing worth pouring. -/
theorem deliverable_sub_fill_le (hs : 0 ≤ p.slack) (hp : 0 ≤ p.demand)
    (hweight : ∀ i ∈ p.members, 0 < p.upper i → 0 < p.weight i) (n : ℕ) {l : Level ι K}
    (h : p.Forward l) (hout : ∀ i ∈ p.members, i ∉ l.active → l.share i = p.upper i)
    (hcard : l.active.card ≤ n) :
    p.deliverable - ∑ i ∈ p.members, (p.fill n l).share i ≤ p.members.card * p.slack := by
  induction n generalizing l with
  | zero =>
    have hempty : l.active = ∅ := Finset.card_eq_zero.mp (Nat.le_zero.mp hcard)
    exact p.deliverable_sub_le_of_done hs hp hweight h hout (.inl hempty)
  | succ n ih =>
    rw [fill]
    by_cases hd : p.Done l
    · rw [if_pos hd]
      exact p.deliverable_sub_le_of_done hs hp hweight h hout hd
    · have hw : 0 < p.totalWeight l := not_le.mp (fun hw => hd (Or.inr (Or.inr hw)))
      rw [if_neg hd]
      by_cases hsat : p.saturated l = ∅
      · rw [if_pos hsat]
        exact (p.deliverable_sub_le hp _).trans
          (p.remaining_le_of_unsaturated h hw hs hsat l.active)
      · rw [if_neg hsat]
        refine ih (p.pour_forward h hd Finset.sdiff_subset) (fun i hi hia => ?_) ?_
        · by_cases hact : i ∈ l.active
          · have hmem : i ∈ p.saturated l := by
              by_contra hn
              exact hia (Finset.mem_sdiff.mpr ⟨hact,hn⟩)
            exact p.pour_saturated h hw hs hmem
          · simp only [pour, if_neg hact]
            exact hout i hi hact
        · have hlt : (l.active \ p.saturated l).card < l.active.card :=
            Finset.card_lt_card (Finset.sdiff_ssubset (Finset.filter_subset _ _)
              (Finset.nonempty_iff_ne_empty.mpr hsat))
          exact Nat.le_of_lt_succ (hlt.trans_le hcard)

/-! ## The larger of two members -/

/-- The member has at least the share of the other, and drops out only when it is full. -/
def Ahead (i j : ι) (l : Level ι K) : Prop :=
  l.share j ≤ l.share i ∧ (i ∈ l.active ∨ l.share i = p.upper i)

theorem pour_eq_min {l : Level ι K} (h : p.Forward l) (hw : 0 < p.totalWeight l) {i : ι}
    (hi : i ∈ l.active) : p.pour l i = min (p.proposal l i) (p.upper i) := by
  have him := h.1.1 hi
  have hprop : 0 ≤ p.proposal l i := (h.2.1 i him).trans (p.share_le_proposal h hw him)
  rw [pour, if_pos hi]
  exact max_eq_right ((p.lower_nonpos i him).trans (le_min hprop (p.upper_nonneg i him)))

omit [DecidableEq ι] in
theorem proposal_le_proposal {l : Level ι K} (h : p.Forward l) (hw : 0 < p.totalWeight l)
    {i j : ι} (hshare : l.share j ≤ l.share i) (hweight : p.weight j ≤ p.weight i) :
    p.proposal l j ≤ p.proposal l i :=
  add_le_add hshare (div_le_div_of_nonneg_right (mul_le_mul_of_nonneg_left hweight h.2.2) hw.le)

theorem pour_ahead (hs : 0 ≤ p.slack) {l : Level ι K} (h : p.Forward l) (hd : ¬ p.Done l)
    {i j : ι} (hi : i ∈ p.members) (hj : j ∈ p.members) (hweight : p.weight j ≤ p.weight i)
    (hupper : p.upper j ≤ p.upper i) (ha : p.Ahead i j l) :
    p.Ahead i j ⟨p.pour l,l.active \ p.saturated l⟩ := by
  have hw : 0 < p.totalWeight l := not_le.mp (fun hw => hd (Or.inr (Or.inr hw)))
  obtain ⟨hshare,hfull⟩ := ha
  by_cases hact : i ∈ l.active
  · refine ⟨?_,?_⟩
    · by_cases hjact : j ∈ l.active
      · show p.pour l j ≤ p.pour l i
        rw [p.pour_eq_min h hw hact, p.pour_eq_min h hw hjact]
        exact min_le_min (p.proposal_le_proposal h hw hshare hweight) hupper
      · show p.pour l j ≤ p.pour l i
        have hkeep : p.pour l j = l.share j := if_neg hjact
        rw [hkeep]
        exact hshare.trans (p.share_le_pour h hw hi)
    · by_cases hsat : i ∈ p.saturated l
      · exact Or.inr (p.pour_saturated h hw hs hsat)
      · exact Or.inl (Finset.mem_sdiff.mpr ⟨hact,hsat⟩)
  · have hkeep : p.pour l i = l.share i := if_neg hact
    have hup : p.pour l i = p.upper i := hkeep.trans (hfull.resolve_left hact)
    refine ⟨?_,Or.inr hup⟩
    have hjup := ((p.pour_sized h.1 (Finset.Subset.refl _)).2.1 j hj).2
    calc p.pour l j ≤ p.upper j := hjup
      _ ≤ p.upper i := hupper
      _ = p.pour l i := hup.symm

/-- The member with more weight and more room is never behind. -/
theorem fill_share_le (hs : 0 ≤ p.slack) (hp : 0 ≤ p.demand) (n : ℕ) {i j : ι}
    (hi : i ∈ p.members) (hj : j ∈ p.members) (hweight : p.weight j ≤ p.weight i)
    (hupper : p.upper j ≤ p.upper i) :
    (p.fill n p.empty).share j ≤ (p.fill n p.empty).share i :=
  (p.fill_induct (fun l => p.Forward l ∧ p.Ahead i j l)
    (fun _ h hd => ⟨p.pour_forward h.1 hd Finset.sdiff_subset,
      p.pour_ahead hs h.1 hd hi hj hweight hupper h.2⟩)
    n ⟨p.empty_forward hp,le_rfl,Or.inl hi⟩).2.1

/-- The same vessels seen from the other side of zero. -/
def mirror : Filling ι K where
  members := p.members
  weight := p.weight
  lower := fun i => -p.upper i
  upper := fun i => -p.lower i
  demand := -p.demand
  slack := p.slack
  weight_nonneg := p.weight_nonneg
  lower_nonpos := fun i hi => neg_nonpos.mpr (p.upper_nonneg i hi)
  upper_nonneg := fun i hi => neg_nonneg.mpr (p.lower_nonpos i hi)

end Filling

def Level.mirror (l : Level ι K) : Level ι K := ⟨fun i => -l.share i,l.active⟩

namespace Filling
variable [DecidableEq ι] (p : Filling ι K)

omit [DecidableEq ι] in
theorem mirror_remaining (l : Level ι K) :
    p.mirror.remaining l.mirror = -p.remaining l := by
  simp only [remaining, mirror, Level.mirror, Finset.sum_neg_distrib]
  ring

omit [DecidableEq ι] in
theorem mirror_proposal (l : Level ι K) (i : ι) :
    p.mirror.proposal l.mirror i = -p.proposal l i := by
  have ht : p.mirror.totalWeight l.mirror = p.totalWeight l := rfl
  rw [proposal, proposal, mirror_remaining, ht]
  simp only [mirror, Level.mirror]
  ring

theorem mirror_pour {l : Level ι K} (hm : l.active ⊆ p.members) :
    p.mirror.pour l.mirror = fun i => -p.pour l i := by
  funext i
  have ha : l.mirror.active = l.active := rfl
  simp only [pour, ha]
  split
  · rename_i hi
    rw [mirror_proposal]
    exact clampTo_neg _ _ _ ((p.lower_nonpos i (hm hi)).trans (p.upper_nonneg i (hm hi)))
  · rfl

omit [DecidableEq ι] in
theorem mirror_done (l : Level ι K) : p.mirror.Done l.mirror ↔ p.Done l := by
  rw [Done, Done, mirror_remaining, abs_neg]
  rfl

theorem mirror_saturated {l : Level ι K} (hm : l.active ⊆ p.members) :
    p.mirror.saturated l.mirror = p.saturated l := by
  refine Finset.filter_congr (fun i _ => ?_)
  rw [mirror_pour p hm, mirror_proposal, ← neg_sub', abs_neg]
  rfl

theorem mirror_fill (n : ℕ) {l : Level ι K} (hm : l.active ⊆ p.members) :
    p.mirror.fill n l.mirror = (p.fill n l).mirror := by
  induction n generalizing l with
  | zero => rfl
  | succ n ih =>
    have hpour : ∀ a, (⟨p.mirror.pour l.mirror,a⟩ : Level ι K) =
        (⟨p.pour l,a⟩ : Level ι K).mirror := by
      intro a
      rw [mirror_pour p hm]
      rfl
    simp only [fill, mirror_done, mirror_saturated p hm, hpour]
    split
    · rfl
    · split
      · rfl
      · exact ih (Finset.sdiff_subset.trans hm)

theorem mirror_share (n : ℕ) (i : ι) :
    (p.mirror.fill n p.mirror.empty).share i = -(p.fill n p.empty).share i := by
  have he : p.mirror.empty = p.empty.mirror := by simp [empty,Level.mirror,mirror]
  rw [he, mirror_fill p n subset_rfl]
  rfl

theorem mirror_sum_share (n : ℕ) :
    ∑ i ∈ p.members, (p.mirror.fill n p.mirror.empty).share i =
      -∑ i ∈ p.members, (p.fill n p.empty).share i := by
  rw [← Finset.sum_neg_distrib]
  exact Finset.sum_congr rfl (fun i _ => p.mirror_share n i)

/-- A demand of either sign moves every member in its own direction only. -/
theorem fill_nonpos (hp : p.demand ≤ 0) (n : ℕ) {i : ι} (hi : i ∈ p.members) :
    (p.fill n p.empty).share i ≤ 0 := by
  have h := (p.mirror.fill_forward (neg_nonneg.mpr hp) n).2.1 i hi
  rw [mirror_share] at h
  exact neg_nonneg.mp h

theorem fill_nonneg (hp : 0 ≤ p.demand) (n : ℕ) {i : ι} (hi : i ∈ p.members) :
    0 ≤ (p.fill n p.empty).share i := (p.fill_forward hp n).2.1 i hi

theorem fill_neg (hp : p.demand < 0) (hs : p.slack ≤ -p.demand) (n : ℕ) {i : ι}
    (hi : i ∈ p.members) (hw : 0 < p.weight i) (hl : p.lower i < 0) :
    (p.fill (n + 1) p.empty).share i < 0 := by
  have h := p.mirror.fill_pos (neg_pos.mpr hp) hs n hi hw (neg_pos.mpr hl)
  rw [mirror_share] at h
  exact neg_pos.mp h

theorem fill_eq_lower (hp : p.demand < 0) (hs : p.slack ≤ -p.demand) (n : ℕ) {i : ι}
    (hi : i ∈ p.members)
    (hlarge : -p.lower i ≤ -p.demand * p.weight i / p.totalWeight p.empty) :
    (p.fill (n + 1) p.empty).share i = p.lower i := by
  have h := p.mirror.fill_eq_upper (neg_pos.mpr hp) hs n hi hlarge
  rw [mirror_share] at h
  exact neg_injective h

/-- What is handed out lies between nothing and the demand. -/
theorem abs_sum_fill_le (n : ℕ) :
    |∑ i ∈ p.members, (p.fill n p.empty).share i| ≤ |p.demand| := by
  rcases le_total 0 p.demand with hp | hp
  · obtain ⟨-,hn,hr⟩ := p.fill_forward hp n
    rw [abs_of_nonneg (Finset.sum_nonneg hn), abs_of_nonneg hp]
    exact sub_nonneg.mp hr
  · obtain ⟨-,hn,hr⟩ := p.mirror.fill_forward (neg_nonneg.mpr hp) n
    have hs := p.mirror_sum_share n
    have hn' : 0 ≤ ∑ i ∈ p.members, (p.mirror.fill n p.mirror.empty).share i :=
      Finset.sum_nonneg hn
    rw [← abs_neg, ← abs_neg p.demand, ← hs, abs_of_nonneg hn',
      abs_of_nonneg (neg_nonneg.mpr hp)]
    exact sub_nonneg.mp hr

omit [DecidableEq ι] in
theorem mirror_deliverable : p.mirror.deliverable = -p.deliverable := by
  have h := clampTo_neg (∑ i ∈ p.members, p.lower i) (∑ i ∈ p.members, p.upper i) p.demand
    ((Finset.sum_nonpos p.lower_nonpos).trans (Finset.sum_nonneg p.upper_nonneg))
  rw [deliverable, deliverable, ← h]
  simp only [mirror, Finset.sum_neg_distrib]

theorem fill_share_le_of_nonpos (hs : 0 ≤ p.slack) (hp : p.demand ≤ 0) (n : ℕ) {i j : ι}
    (hi : i ∈ p.members) (hj : j ∈ p.members) (hweight : p.weight j ≤ p.weight i)
    (hlower : p.lower i ≤ p.lower j) :
    (p.fill n p.empty).share i ≤ (p.fill n p.empty).share j := by
  have h := p.mirror.fill_share_le hs (neg_nonneg.mpr hp) n hi hj hweight (neg_le_neg hlower)
  rw [mirror_share, mirror_share] at h
  exact neg_le_neg_iff.mp h

/-- What the windows can hold of a demand of either sign is handed out up to the slack of every
member, given a round for each. -/
theorem abs_sum_fill_sub_deliverable_le (hs : 0 ≤ p.slack)
    (hup : 0 ≤ p.demand → ∀ i ∈ p.members, 0 < p.upper i → 0 < p.weight i)
    (hlow : p.demand < 0 → ∀ i ∈ p.members, p.lower i < 0 → 0 < p.weight i) {n : ℕ}
    (hcard : p.members.card ≤ n) :
    |∑ i ∈ p.members, (p.fill n p.empty).share i - p.deliverable| ≤
      p.members.card * p.slack := by
  have hout : ∀ q : Filling ι K, ∀ i ∈ q.members, i ∉ q.empty.active →
      q.empty.share i = q.upper i := fun _ _ hi hn => absurd hi hn
  rcases le_or_gt 0 p.demand with hp | hp
  · have hle := p.sum_share_le_deliverable hp (p.fill_forward hp n)
    rw [abs_of_nonpos (sub_nonpos.mpr hle), neg_sub]
    exact p.deliverable_sub_fill_le hs hp (hup hp) n (p.empty_forward hp) (hout p) hcard
  · have hmp : 0 ≤ p.mirror.demand := neg_nonneg.mpr hp.le
    have hle := p.mirror.sum_share_le_deliverable hmp (p.mirror.fill_forward hmp n)
    have hsum : ∑ i ∈ p.mirror.members, (p.mirror.fill n p.mirror.empty).share i =
        -∑ i ∈ p.members, (p.fill n p.empty).share i := p.mirror_sum_share n
    have h := p.mirror.deliverable_sub_fill_le hs hmp
      (fun i hi hu => hlow hp i hi (neg_pos.mp hu)) n (p.mirror.empty_forward hmp)
      (hout p.mirror) hcard
    rw [hsum, mirror_deliverable] at hle h
    rw [abs_of_nonneg (sub_nonneg.mpr (neg_le_neg_iff.mp hle))]
    calc ∑ i ∈ p.members, (p.fill n p.empty).share i - p.deliverable
        = -p.deliverable - -∑ i ∈ p.members, (p.fill n p.empty).share i := by ring
      _ ≤ p.members.card * p.slack := h

/-! ## Demands that saturate nobody -/

/-- Every member can take its part of the whole demand. -/
def Unbound : Prop :=
  ∀ i ∈ p.members, p.lower i ≤ p.demand * p.weight i / p.totalWeight p.empty ∧
    p.demand * p.weight i / p.totalWeight p.empty ≤ p.upper i

omit [IsStrictOrderedRing K] in
theorem fill_of_small (h : |p.demand| < p.slack) (n : ℕ) : p.fill n p.empty = p.empty := by
  cases n with
  | zero => rfl
  | succ n =>
    refine if_pos (Or.inr (Or.inl ?_))
    rwa [remaining_empty]

theorem fill_of_unbound (hs : 0 ≤ p.slack) (hu : p.Unbound) (hw : 0 < p.totalWeight p.empty)
    (h : p.slack ≤ |p.demand|) (n : ℕ) {i : ι} (hi : i ∈ p.members) :
    (p.fill (n + 1) p.empty).share i = p.demand * p.weight i / p.totalWeight p.empty := by
  have hpour : ∀ j ∈ p.members, p.pour p.empty j = p.proposal p.empty j := by
    intro j hj
    rw [pour, if_pos (show j ∈ p.empty.active from hj), proposal_empty]
    exact clampTo_eq_self (hu j hj).1 (hu j hj).2
  have hsat : p.saturated p.empty = ∅ := by
    refine Finset.filter_eq_empty_iff.mpr (fun j hj => ?_)
    rw [hpour j hj, sub_self, abs_zero]
    exact not_lt.mpr hs
  rw [fill, if_neg (p.empty_not_done h hw), if_pos hsat]
  exact (hpour i hi).trans (p.proposal_empty i)

/-- Then all of the demand is handed out, unless it is not worth pouring. -/
theorem sum_fill_of_unbound (hs : 0 ≤ p.slack) (hu : p.Unbound)
    (hw : 0 < p.totalWeight p.empty) (n : ℕ) :
    ∑ i ∈ p.members, (p.fill (n + 1) p.empty).share i =
      if |p.demand| < p.slack then 0 else p.demand := by
  split
  · rename_i h
    rw [p.fill_of_small h]
    exact Finset.sum_const_zero
  · rename_i h
    rw [Finset.sum_congr rfl (fun i hi => p.fill_of_unbound hs hu hw (not_lt.mp h) n hi),
      ← Finset.sum_div, ← Finset.mul_sum]
    exact mul_div_cancel_right₀ _ hw.ne'

end Filling
end Foundation
