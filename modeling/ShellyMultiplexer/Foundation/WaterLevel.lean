import ShellyMultiplexer.Foundation.WaterFill

/-! # One level for all vessels

The rounds of the pouring add up to one water level. Every member ends with its weight times that
level, or full below it, which is the max-min fair way to share what was poured.
-/
namespace Foundation
variable {ι K : Type*} [Field K] [LinearOrder K] [IsStrictOrderedRing K]

namespace Filling
variable [DecidableEq ι] (p : Filling ι K)

/-- Every member holds what is below the level, and only full ones have dropped out. -/
structure Stands (level : K) (l : Level ι K) : Prop where
  nonneg : 0 ≤ level
  share : ∀ i ∈ p.members, l.share i = min (p.upper i) (level * p.weight i)
  full : ∀ i ∈ p.members, i ∉ l.active → p.upper i ≤ level * p.weight i

omit [IsStrictOrderedRing K] [DecidableEq ι] in
theorem empty_stands : p.Stands 0 p.empty where
  nonneg := le_rfl
  share i hi := by
    rw [zero_mul, min_eq_right (p.upper_nonneg i hi)]
    rfl
  full _ hi hout := absurd hi hout

/-- A round raises the level by what remains for a unit of weight. -/
theorem pour_stands (hs : 0 ≤ p.slack) {level : K} {l : Level ι K} (h : p.Stands level l)
    (hf : p.Forward l) (hd : ¬ p.Done l) : p.Stands (level + p.remaining l / p.totalWeight l)
      ⟨p.pour l,l.active \ p.saturated l⟩ := by
  have hw : 0 < p.totalWeight l := not_le.mp (fun hw => hd (Or.inr (Or.inr hw)))
  have hrise : 0 ≤ p.remaining l / p.totalWeight l := div_nonneg hf.2.2 hw.le
  have hlevel : ∀ i ∈ p.members, level * p.weight i ≤
      (level + p.remaining l / p.totalWeight l) * p.weight i := fun i hi =>
    mul_le_mul_of_nonneg_right (le_add_of_nonneg_right hrise) (p.weight_nonneg i hi)
  have hprop : ∀ i ∈ p.members, p.proposal l i = min (p.upper i) (level * p.weight i) +
      p.remaining l / p.totalWeight l * p.weight i := by
    intro i hi
    rw [proposal, h.share i hi, mul_div_right_comm]
  refine ⟨add_nonneg h.nonneg hrise,fun i hi => ?_,fun i hi hout => ?_⟩
  · show p.pour l i = _
    by_cases hact : i ∈ l.active
    · rw [p.pour_eq_min hf hw hact, hprop i hi, min_comm, add_mul]
      rcases le_total (p.upper i) (level * p.weight i) with hfull | hroom
      · have hpart := mul_nonneg hrise (p.weight_nonneg i hi)
        rw [min_eq_left hfull, min_eq_left (le_add_of_nonneg_right hpart),
          min_eq_left (le_add_of_le_of_nonneg hfull hpart)]
      · rw [min_eq_right hroom]
    · have hfull := h.full i hi hact
      rw [pour, if_neg hact, h.share i hi, min_eq_left hfull,
        min_eq_left (hfull.trans (hlevel i hi))]
  · by_cases hact : i ∈ l.active
    · have hsat : i ∈ p.saturated l := by
        by_contra hn
        exact hout (Finset.mem_sdiff.mpr ⟨hact,hn⟩)
      have hup := p.pour_saturated hf hw hs hsat
      rw [p.pour_eq_min hf hw hact] at hup
      calc p.upper i ≤ p.proposal l i := min_eq_right_iff.mp hup
        _ ≤ level * p.weight i + p.remaining l / p.totalWeight l * p.weight i := by
          rw [hprop i hi]
          exact add_le_add_left (min_le_right _ _) _
        _ = (level + p.remaining l / p.totalWeight l) * p.weight i := (add_mul _ _ _).symm
    · exact (h.full i hi hact).trans (hlevel i hi)

theorem fill_stands (hs : 0 ≤ p.slack) (hp : 0 ≤ p.demand) (n : ℕ) :
    ∃ level, p.Stands level (p.fill n p.empty) :=
  (p.fill_induct (fun l => p.Forward l ∧ ∃ level, p.Stands level l)
    (fun _ ⟨hf,_,h⟩ hd => ⟨p.pour_forward hf hd Finset.sdiff_subset,_,p.pour_stands hs h hf hd⟩)
    n ⟨p.empty_forward hp,0,p.empty_stands⟩).2

/-- A demand of either sign leaves every member at one level, or at the end of its window. -/
theorem fill_stands_of_nonpos (hs : 0 ≤ p.slack) (hp : p.demand ≤ 0) (n : ℕ) :
    ∃ level, 0 ≤ level ∧ ∀ i ∈ p.members,
      (p.fill n p.empty).share i = max (p.lower i) (-(level * p.weight i)) := by
  obtain ⟨level,h⟩ := p.mirror.fill_stands hs (neg_nonneg.mpr hp) n
  refine ⟨level,h.nonneg,fun i hi => ?_⟩
  have hmirror := h.share i hi
  rw [p.mirror_share] at hmirror
  rw [← neg_neg ((p.fill n p.empty).share i), hmirror]
  show -min (-p.lower i) (level * p.weight i) = _
  rw [← max_neg_neg, neg_neg]

end Filling

/-! ## Fairness -/

/-- Shares at one level are max-min fair: in any way of sharing at most as much, who gets more than
here takes it from somebody who has no more for its weight. -/
theorem level_fair {members : Finset ι} {weight upper share other : ι → K} {level : K}
    (hweight : ∀ i ∈ members, 0 ≤ weight i)
    (hshare : ∀ i ∈ members, share i = min (upper i) (level * weight i))
    (hupper : ∀ i ∈ members, other i ≤ upper i)
    (hsum : ∑ i ∈ members, other i ≤ ∑ i ∈ members, share i) {i : ι} (hi : i ∈ members)
    (hmore : share i < other i) :
    ∃ j ∈ members, other j < share j ∧ share j * weight i ≤ share i * weight j := by
  have hless : ∃ j ∈ members, other j < share j := by
    by_contra hnone
    push Not at hnone
    exact absurd (Finset.sum_lt_sum hnone ⟨i,hi,hmore⟩) (not_lt.mpr hsum)
  obtain ⟨j,hj,hlt⟩ := hless
  have hroom : share i = level * weight i := by
    have hlt := hmore.trans_le (hupper i hi)
    rw [hshare i hi] at hlt ⊢
    exact min_eq_right (le_of_not_ge (fun hge => absurd (min_eq_left hge) hlt.ne))
  refine ⟨j,hj,hlt,?_⟩
  calc share j * weight i ≤ level * weight j * weight i := by
        refine mul_le_mul_of_nonneg_right ?_ (hweight i hi)
        rw [hshare j hj]
        exact min_le_right _ _
    _ = level * weight i * weight j := by ring
    _ = share i * weight j := by rw [hroom]

end Foundation
