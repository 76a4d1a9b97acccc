import Mathlib.Data.Prod.Lex
import ShellyMultiplexer.Dispatcher.Unbound

/-! # Small totals

The consolidation hands a total that nobody would dispatch to the member with the largest target,
provided that member may move in the direction of the total at all. How far it may move is not
looked at, so that the total is lost on a member whose window ends below the firmware minimum.
-/
namespace ShellyMultiplexer
open Foundation

variable {s : AppState} {dcfg : DispatcherConfig} {gridW : ℚ} {now : Instant}

/-- The battery may move in the direction of the total. -/
def HasRoom (dcfg : DispatcherConfig) (now : Instant) (total : ℚ) (b : BatteryState) : Prop :=
  b.lastPlugW.isSome ∧ if total < 0 then lowBound b dcfg now < 0 else 0 < highBound b dcfg now

/-- The battery may move in the direction of the total as far as the firmware minimum. -/
def AdmitsMinimum (dcfg : DispatcherConfig) (now : Instant) (total : ℚ) (b : BatteryState) : Prop :=
  b.lastPlugW.isSome ∧
    if total < 0 then lowBound b dcfg now ≤ -marstekMinW else marstekMinW ≤ highBound b dcfg now

instance (total : ℚ) : DecidablePred (HasRoom dcfg now total) := fun b =>
  inferInstanceAs (Decidable (b.lastPlugW.isSome ∧
    if total < 0 then lowBound b dcfg now < 0 else 0 < highBound b dcfg now))

instance (total : ℚ) : DecidablePred (AdmitsMinimum dcfg now total) := fun b =>
  inferInstanceAs (Decidable (b.lastPlugW.isSome ∧
    if total < 0 then lowBound b dcfg now ≤ -marstekMinW else marstekMinW ≤ highBound b dcfg now))

theorem AdmitsMinimum.hasRoom {total : ℚ} {b : BatteryState}
    (h : AdmitsMinimum dcfg now total b) : HasRoom dcfg now total b := by
  have hmin := marstekMinW_pos
  obtain ⟨hplug,hwin⟩ := h
  refine ⟨hplug,?_⟩
  split at hwin
  · rename_i hneg
    rw [if_pos hneg]
    linarith
  · rename_i hpos
    rw [if_neg hpos]
    linarith

/-! ## The member that takes over -/

/-- Among the members with room, the last one in the order of the circuit that no other one
outranks, reaches the firmware minimum. -/
def LargestAdmits (s : AppState) (dcfg : DispatcherConfig) (now : Instant)
    (before : Table String ℚ) (cs : CircuitState) : Prop :=
  let total := targetSum before cs.memberIds
  ∀ pre b post, (s.lookup cs.memberIds).filter (HasRoom dcfg now total ·) = pre ++ b::post →
    (∀ x ∈ pre, outranks before x b = false) → (∀ x ∈ post, outranks before b x = true) →
      AdmitsMinimum dcfg now total b

theorem consolidationPrimary_eq (t : Table String ℚ) (cs : CircuitState) :
    consolidationPrimary s dcfg now t cs = maxBy (outranks t)
      ((s.lookup cs.memberIds).filter (HasRoom dcfg now (targetSum t cs.memberIds) ·)) := by
  have hdir : signum (targetSum t cs.memberIds) < 0 ↔ targetSum t cs.memberIds < 0 := by
    rw [signum]
    split
    · rename_i h
      exact iff_of_false (by norm_num) (not_lt.mpr h)
    · rename_i h
      exact iff_of_true (by norm_num) (not_le.mp h)
  rw [consolidationPrimary]
  refine congrArg _ (List.filter_congr (fun b _ => ?_))
  simp only [hdir]
  by_cases hneg : targetSum t cs.memberIds < 0 <;> simp [HasRoom,hneg]

theorem outranks_iff (t : Table String ℚ) (a b : BatteryState) : outranks t a b = true ↔
    toLex (|(t.get? b.id).getD 0|,b.priorityWeight) <
      toLex (|(t.get? a.id).getD 0|,a.priorityWeight) := by
  rw [Prod.Lex.toLex_lt_toLex, outranks, Bool.or_eq_true, Bool.and_eq_true, beq_iff_eq,
    decide_eq_true_iff, decide_eq_true_iff, eq_comm]

theorem largestAdmits_iff {t : Table String ℚ} {cs : CircuitState} {p : BatteryState}
    (hp : consolidationPrimary s dcfg now t cs = some p) :
    LargestAdmits s dcfg now t cs ↔ AdmitsMinimum dcfg now (targetSum t cs.memberIds) p := by
  rw [consolidationPrimary_eq] at hp
  constructor
  · intro h
    obtain ⟨pre,post,hl,hpre,hpost⟩ := exists_of_maxBy (outranks_iff t) hp
    exact h pre p post hl hpre hpost
  · intro h pre b post hl hpre hpost
    rw [hl, maxBy_append_cons hpre hpost] at hp
    exact Option.some.inj hp ▸ h

/-! ## The pass on one circuit -/

/-- Some member would dispatch on its own. -/
def Dispatches (s : AppState) (t : Table String ℚ) (cs : CircuitState) : Prop :=
  ∃ b ∈ s.lookup cs.memberIds, ∃ x, t.get? b.id = some x ∧ marstekMinW ≤ |x|

instance (t : Table String ℚ) (cs : CircuitState) : Decidable (Dispatches s t cs) :=
  inferInstanceAs (Decidable (∃ b ∈ s.lookup cs.memberIds, ∃ x ∈ t.get? b.id, marstekMinW ≤ |x|))

/-- What the pass is for: a total that counts ends with a member that dispatches, provided some
member can; no target leaves its window or changes its side, and the total does not grow. -/
structure ConsolidationWorks (s : AppState) (dcfg : DispatcherConfig) (now : Instant)
    (before after : Table String ℚ) (cs : CircuitState) : Prop where
  fires : marstekMinW ≤ |targetSum before cs.memberIds| →
    (∃ b ∈ s.lookup cs.memberIds, AdmitsMinimum dcfg now (targetSum before cs.memberIds) b) →
      Dispatches s after cs
  window : ∀ b ∈ s.lookup cs.memberIds, ∃ x y, before.get? b.id = some x ∧
    after.get? b.id = some y ∧ lowBound b dcfg now ≤ y ∧ y ≤ highBound b dcfg now ∧
      (0 < x → 0 ≤ y) ∧ (x < 0 → y ≤ 0)
  total : |targetSum after cs.memberIds| ≤ |targetSum before cs.memberIds|

/-- When it succeeds: the total does not count, no member can dispatch it, some member dispatches
already, or the member with the largest target can. -/
def ConsolidationReaches (s : AppState) (dcfg : DispatcherConfig) (now : Instant)
    (before : Table String ℚ) (cs : CircuitState) : Prop :=
  marstekMinW ≤ |targetSum before cs.memberIds| →
    (∃ b ∈ s.lookup cs.memberIds, AdmitsMinimum dcfg now (targetSum before cs.memberIds) b) →
      Dispatches s before cs ∨ LargestAdmits s dcfg now before cs

section Circuit
variable {t : Table String ℚ} {c : String} {cs : CircuitState}

theorem dispatches_iff (hs : s.Valid) (hc : s.circuits.get? c = some cs) :
    Dispatches s t cs ↔ ∃ x ∈ cs.memberIds.filterMap t.get?, marstekMinW ≤ |x| := by
  constructor
  · rintro ⟨b,hb,x,hx,hbig⟩
    exact ⟨x,List.mem_filterMap.mpr ⟨b.id,hs.lookup_ids hc ▸ List.mem_map_of_mem hb,hx⟩,hbig⟩
  · rintro ⟨x,hx,hbig⟩
    obtain ⟨id,hid,hget⟩ := List.mem_filterMap.mp hx
    obtain ⟨b,hb,rfl⟩ := List.mem_map.mp ((hs.lookup_ids hc).symm ▸ hid)
    exact ⟨b,hb,x,hget,hbig⟩

/-- Windows and sides, for targets that follow proper shares before and after. -/
theorem kept_within (hs : s.Valid) {share share' : BatteryState → ℚ} (ht : Targets s now t share)
    (hp : Proper s dcfg gridW now share) {t' : Table String ℚ} (ht' : Targets s now t' share')
    (hp' : Proper s dcfg gridW now share') (hc : s.circuits.get? c = some cs) :
    ∀ b ∈ s.lookup cs.memberIds, ∃ x y, t.get? b.id = some x ∧ t'.get? b.id = some y ∧
      lowBound b dcfg now ≤ y ∧ y ≤ highBound b dcfg now ∧ (0 < x → 0 ≤ y) ∧ (x < 0 → y ≤ 0) := by
  intro b hb
  have hget := ((hs.mem_lookup hc).mp hb).1
  refine ⟨_,_,ht.get?_eq hs hget,ht'.get?_eq hs hget,?_⟩
  by_cases he : b ∈ s.eligible now
  · simp only [if_pos he]
    refine ⟨(hp'.window b he).1,(hp'.window b he).2,fun hx => ?_,fun hx => ?_⟩
    · rcases le_total 0 (desiredTotal (s.eligible now) gridW) with hd | hd
      · exact hp'.nonneg hd b he
      · exact absurd hx (not_lt.mpr (hp.nonpos hd b he))
    · rcases le_total 0 (desiredTotal (s.eligible now) gridW) with hd | hd
      · exact absurd hx (not_lt.mpr (hp.nonneg hd b he))
      · exact hp'.nonpos hd b he
  · simp only [if_neg he]
    exact ⟨(lowBound_mem (hs.sound hget) dcfg now).2,(highBound_mem (hs.sound hget) dcfg now).1,
      fun _ => le_rfl,fun _ => le_rfl⟩

/-- A circuit that the pass leaves alone. -/
theorem works_iff_of_kept (hs : s.Valid) {share : BatteryState → ℚ} (ht : Targets s now t share)
    (hp : Proper s dcfg gridW now share) (hc : s.circuits.get? c = some cs)
    (hwhy : |targetSum t cs.memberIds| < marstekMinW ∨
      (∃ x ∈ cs.memberIds.filterMap t.get?, marstekMinW ≤ |x|) ∨
      consolidationPrimary s dcfg now t cs = none) :
    ConsolidationWorks s dcfg now t t cs ↔ ConsolidationReaches s dcfg now t cs := by
  have hfires : marstekMinW ≤ |targetSum t cs.memberIds| → (∃ b ∈ s.lookup cs.memberIds,
      AdmitsMinimum dcfg now (targetSum t cs.memberIds) b) → Dispatches s t cs := by
    rintro hbig ⟨b,hb,hadmits⟩
    rcases hwhy with hsmall | hany | hnone
    · exact absurd hbig (not_le.mpr hsmall)
    · exact (dispatches_iff hs hc).mpr hany
    · rw [consolidationPrimary_eq] at hnone
      have hroom : b ∈ (s.lookup cs.memberIds).filter
          (HasRoom dcfg now (targetSum t cs.memberIds) ·) :=
        List.mem_filter.mpr ⟨hb,decide_eq_true hadmits.hasRoom⟩
      rw [maxBy_eq_none_iff.mp hnone] at hroom
      exact absurd hroom List.not_mem_nil
  exact iff_of_true ⟨hfires,kept_within hs ht hp ht hp hc,le_rfl⟩
    (fun hbig hsome => Or.inl (hfires hbig hsome))

/-- A circuit whose total one member takes over. -/
theorem works_iff_of_concentrated (hs : s.Valid) {share : BatteryState → ℚ}
    (ht : Targets s now t share) (hp : Proper s dcfg gridW now share)
    (hc : s.circuits.get? c = some cs) {p : BatteryState} {t' : Table String ℚ} {total : ℚ}
    (htotal : total = clampTo (lowBound p dcfg now) (highBound p dcfg now)
      (targetSum t cs.memberIds))
    (ht' : Targets s now t' (concentratedShare c p total share))
    (hp' : Proper s dcfg gridW now (concentratedShare c p total share)) (hpe : p ∈ s.eligible now)
    (hprim : consolidationPrimary s dcfg now t cs = some p)
    (hbig : marstekMinW ≤ |targetSum t cs.memberIds|)
    (hsmall : ∀ x ∈ cs.memberIds.filterMap t.get?, |x| < marstekMinW) :
    ConsolidationWorks s dcfg now t t' cs ↔ ConsolidationReaches s dcfg now t cs := by
  have hmin := marstekMinW_pos
  obtain ⟨hpl,hplug⟩ := consolidationPrimary_mem hprim
  have hz := hs.eligible_sound hpe
  have hlo := (lowBound_mem hz dcfg now).2
  have hhi := (highBound_mem hz dcfg now).1
  have hafter : Dispatches s t' cs ↔ LargestAdmits s dcfg now t cs := by
    rw [largestAdmits_iff hprim, AdmitsMinimum, and_iff_right hplug,
      ← le_abs_clampTo_iff hlo hhi hbig, ← htotal]
    constructor
    · rintro ⟨b,hb,x,hx,hxbig⟩
      obtain ⟨hget,hbc⟩ := (hs.mem_lookup hc).mp hb
      rw [ht'.get?_eq hs hget, Option.some.injEq, concentratedShare, if_pos hbc] at hx
      subst hx
      split at hxbig
      · split at hxbig
        · exact hxbig
        · exact absurd hxbig (by rw [abs_zero]; exact not_le.mpr hmin)
      · exact absurd hxbig (by rw [abs_zero]; exact not_le.mpr hmin)
    · intro hreach
      refine ⟨p,hpl,total,?_,hreach⟩
      rw [ht'.on p hpe, concentratedShare, if_pos ((hs.mem_lookup hc).mp hpl).2, if_pos rfl]
  have hidle : ¬ Dispatches s t cs := by
    rw [dispatches_iff hs hc]
    rintro ⟨x,hx,hxbig⟩
    exact absurd hxbig (not_le.mpr (hsmall x hx))
  constructor
  · exact fun h hb hsome => Or.inr (hafter.mp (h.fires hb hsome))
  · intro h
    refine ⟨fun hb hsome => hafter.mpr ((h hb hsome).resolve_left hidle),
      kept_within hs ht hp ht' hp' hc,?_⟩
    rw [ht'.targetSum_eq hs hc, sum_concentratedShare hs hc hpe hpl, htotal]
    exact abs_clampTo_le_abs hlo hhi _

theorem ConsolidationWorks.congr (hs : s.Valid) (hc : s.circuits.get? c = some cs)
    {t' u' : Table String ℚ} (h : ∀ id ∈ cs.memberIds, t'.get? id = u'.get? id)
    (hw : ConsolidationWorks s dcfg now t t' cs) : ConsolidationWorks s dcfg now t u' cs := by
  have hmem : ∀ b ∈ s.lookup cs.memberIds, t'.get? b.id = u'.get? b.id := fun b hb =>
    h b.id (hs.lookup_ids hc ▸ List.mem_map_of_mem hb)
  refine ⟨fun hbig hsome => ?_,fun b hb => hmem b hb ▸ hw.window b hb,
    targetSum_congr h ▸ hw.total⟩
  obtain ⟨b,hb,x,hx,hxbig⟩ := hw.fires hbig hsome
  exact ⟨b,hb,x,hmem b hb ▸ hx,hxbig⟩

end Circuit

/-! ## The whole pass -/

/-- The pass works on a circuit exactly when the member it hands the total to can dispatch. -/
theorem consolidation_works_iff {isSocketAddr : String → Bool} {cfg : Config}
    (hcfg : cfg.validate isSocketAddr = .ok ()) (hrun : s.RuntimeOf cfg) (dcfg : DispatcherConfig)
    (gridW : ℚ) (now : Instant) : ∃ before after,
      distributeTargets s dcfg gridW now = some before ∧
      consolidatedTargets s dcfg gridW now = some after ∧
      ∀ c cs, s.circuits.get? c = some cs → (ConsolidationWorks s dcfg now before after cs ↔
        ConsolidationReaches s dcfg now before cs) := by
  have hs := hrun.valid (Config.wellFormed_of_validate hcfg)
  obtain ⟨before,hbefore,ht⟩ := distributeTargets_spec hs dcfg gridW now
  obtain ⟨after,hafter,hcircuit⟩ := foldlM_consolidateCircuit hs dcfg now before
  refine ⟨before,after,hbefore,?_,fun c cs hc => ?_⟩
  · simp only [consolidatedTargets, hbefore, Option.bind_eq_bind, Option.bind_some, hafter]
  obtain ⟨t',ht',hsame⟩ := hcircuit hc
  have hp := filledShare_proper hs dcfg gridW now
  have hone : ConsolidationWorks s dcfg now before t' cs ↔
      ConsolidationReaches s dcfg now before cs := by
    rcases consolidateCircuit_cases hs ht hp hc with
      ⟨he,hwhy⟩ | ⟨p,t₂,total,htotal,he,ht₂,hp₂,hpe,hprim,hbig,hsmall⟩
    · obtain rfl := Option.some.inj (he.symm.trans ht')
      exact works_iff_of_kept hs ht hp hc hwhy
    · obtain rfl := Option.some.inj (he.symm.trans ht')
      exact works_iff_of_concentrated hs ht hp hc htotal ht₂ hp₂ hpe hprim hbig hsmall
  rw [← hone]
  exact ⟨fun h => h.congr hs hc hsame,fun h => h.congr hs hc (fun id hid => (hsame id hid).symm)⟩

/-! ## A tapered battery takes it all -/

/-- Battery `a` charges at no more than 40 W from 80 % on; `b` has no taper. -/
def taperedHouse : Config := { house with
  circuits := [{ id := "garage", fuseAmps := 11 }]
  batteries := [{ wallBattery "a" "10.0.0.1" "garage" with
      chargeTaperSocPct := some 80
      chargeTaperW := some 40 },
    wallBattery "b" "10.0.0.2" "garage"] }

theorem taperedHouse_valid : taperedHouse.validate (fun _ => true) = .ok () := by decide +kernel

/-- Half full, each of the two is to charge with 35 W. -/
def halfFull : AppState := AppState.measured taperedHouse {} (fun _ b =>
  { b with
    lastPlugW := some 0
    lastPlugAt := some 0
    socPct := some 50 })

theorem consolidation_works_garage : ∃ before after cs,
    distributeTargets halfFull taperedHouse.dispatcher (-80) 0 = some before ∧
    consolidatedTargets halfFull taperedHouse.dispatcher (-80) 0 = some after ∧
    halfFull.circuits.get? "garage" = some cs ∧
    ¬ Dispatches halfFull before cs ∧ Dispatches halfFull after cs ∧
    ConsolidationWorks halfFull taperedHouse.dispatcher 0 before after cs := by
  have hrun : halfFull.RuntimeOf taperedHouse :=
    AppState.RuntimeOf.measured taperedHouse {} _ (fun _ _ => rfl)
  obtain ⟨before,after,hbefore,hafter,hall⟩ :=
    consolidation_works_iff taperedHouse_valid hrun taperedHouse.dispatcher (-80) 0
  obtain ⟨cs,hcs⟩ := Option.isSome_iff_exists.mp
    (by decide +kernel : (halfFull.circuits.get? "garage").isSome = true)
  obtain rfl := Option.some.inj (hbefore.symm.trans (Option.some_get (by decide +kernel)).symm)
  obtain rfl := Option.some.inj (hafter.symm.trans (Option.some_get (by decide +kernel)).symm)
  obtain rfl := Option.some.inj (hcs.symm.trans (Option.some_get (by decide +kernel)).symm)
  have hworks := (hall "garage" _ hcs).mpr (fun _ _ => Or.inr
    ((largestAdmits_iff (Option.some_get (by decide +kernel)).symm).mpr (by decide +kernel)))
  exact ⟨_,_,_,hbefore,hafter,hcs,by decide +kernel,by decide +kernel,hworks⟩

/-- Battery `a` is in its taper, and `b` is a little below the level at which it counts as full. -/
def nearlyFull : AppState := AppState.measured taperedHouse {} (fun id b =>
  { b with
    lastPlugW := some 0
    lastPlugAt := some 0
    socPct := some (if id = "a" then 85 else 949 / 10) })

theorem nearlyFull_runtime : nearlyFull.RuntimeOf taperedHouse :=
  AppState.RuntimeOf.measured taperedHouse {} _ (fun _ _ => rfl)

/-- The 70 W to be charged go to `a`, which takes 40 W of them, and nothing charges at all. -/
theorem consolidation_onto_tapered_battery : ¬ ∀ (cfg : Config) (s : AppState)
    (dcfg : DispatcherConfig) (gridW : ℚ) (now : Instant),
    cfg.validate (fun _ => true) = .ok () → s.RuntimeOf cfg →
    ∀ before after, distributeTargets s dcfg gridW now = some before →
      consolidatedTargets s dcfg gridW now = some after → ∀ c cs, s.circuits.get? c = some cs →
        ConsolidationWorks s dcfg now before after cs := by
  intro h
  have hworks := h taperedHouse nearlyFull taperedHouse.dispatcher (-80) 0 taperedHouse_valid
    nearlyFull_runtime
    ((distributeTargets nearlyFull taperedHouse.dispatcher (-80) 0).get (by decide +kernel))
    ((consolidatedTargets nearlyFull taperedHouse.dispatcher (-80) 0).get (by decide +kernel))
    (Option.some_get _).symm (Option.some_get _).symm "garage"
    ((nearlyFull.circuits.get? "garage").get (by decide +kernel)) (Option.some_get _).symm
  exact absurd (hworks.fires (by decide +kernel) (by decide +kernel)) (by decide +kernel)

end ShellyMultiplexer
