import ShellyMultiplexer.Dispatcher.Shaping

/-! # Deltas of the pulse path

The same distribution as in the modbus path, turned into changes relative to the measured power and
scaled per circuit so that measured power and change together respect the cap. Each circuit has its
own common factor, and the stage that applies it reads and writes the members of that circuit only.
-/
namespace ShellyMultiplexer
open Foundation

/-- Opposing flows above the firmware minimum on a circuit that is not silent. -/
def hasConflict (s : AppState) (now : Instant) : Bool :=
  s.circuits.values.any (fun cs =>
    let plugs := (s.lookup cs.memberIds).filterMap BatteryState.lastPlugW
    !cs.isSilent now && plugs.any (fun w => marstekMinW < w) && plugs.any (fun w => w < -marstekMinW))

/-- `assigned` as this path adds it up: its map holds the eligible batteries only. -/
def assignedDeltas (targets : Table String ℚ) (_active : List BatteryState) : ℚ :=
  targets.values.sum

def pulseTargets (s : AppState) (dcfg : DispatcherConfig) (gridW : ℚ) (now : Instant) :
    Option (Table String ℚ) :=
  let eligible := s.eligible now
  let desired := desiredTotal eligible gridW
  redistribute dcfg now (weightOf dcfg now (decide (desired < 0))) assignedDeltas desired 6
    (zeroTargets eligible) eligible desired

def toDeltas (eligible : List BatteryState) (targets deltas : Table String ℚ) : Table String ℚ :=
  eligible.foldl (fun d b =>
    let plug := b.lastPlugW.getD 0
    d.insert b.id ((targets.get? b.id).getD plug - plug)) deltas

def capDeltas (s : AppState) (deltas : Table String ℚ) (cs : CircuitState) :
    Option (Table String ℚ) :=
  let members := (s.lookup cs.memberIds).filter (fun b => b.lastPlugW.isSome)
  if members.isEmpty then some deltas
  else
    let measuredSum := plugTotal members
    let deltaSum := (members.map (fun b => (deltas.get? b.id).getD 0)).sum
    let post := measuredSum + deltaSum
    let cap := cs.capW
    if cap < |post| ∧ 1 / 1000 < |deltaSum| then
      let targetPost := copysign cap post
      let rawScale := (targetPost - measuredSum) / deltaSum
      (f64Clamp rawScale 0 1).map (fun scale =>
        members.foldl (fun d b => d.modify b.id (fun x => x * scale)) deltas)
    else some deltas

def computeDeltas (s : AppState) (dcfg : DispatcherConfig) (gridW : ℚ) (now : Instant) :
    Option (Table String ℚ) :=
  let deltas := zeroTargets s.batteries.values
  let eligible := s.eligible now
  let gridCorrection := computeGridCorrection gridW (plugTotal eligible) eligible.length
  if eligible.isEmpty then some deltas
  else if |gridCorrection| < 1 / 1000 ∧ hasConflict s now = false then some deltas
  else do
    let targets ← pulseTargets s dcfg gridW now
    s.circuits.values.foldlM (capDeltas s) (toDeltas eligible targets deltas)

/-! ## The distribution -/

variable {s : AppState} {dcfg : DispatcherConfig} {gridW : ℚ} {now : Instant}

theorem assignedDeltas_eq (hs : s.Valid) {t : Table String ℚ} (active : List BatteryState)
    {share : BatteryState → ℚ} (ht : Follows (s.eligible now) (zeroTargets (s.eligible now)) t share) :
    assignedDeltas t active = ((s.eligible now).map share).sum := by
  have hsub : (s.eligible now).map (·.id) ⊆ t.keys := by
    intro k hk
    rw [ht.keys, mem_keys_zeroTargets]
    exact hk
  have hnone : t.keys.filter (· ∉ (s.eligible now).map (·.id)) = [] := by
    rw [List.filter_eq_nil_iff, ht.keys]
    intro k hk
    simpa using mem_keys_zeroTargets.mp hk
  rw [assignedDeltas, Table.map_values_getD t 0,
    sum_map_eq_add_filter t.nodup_keys (hs.eligible_ids_nodup now) hsub, hnone, ht.map_getD]
  simp

/-- The distribution of the pulse path ends with the same shares as that of the modbus path. -/
theorem pulseTargets_spec (hs : s.Valid) (dcfg : DispatcherConfig) (gridW : ℚ) (now : Instant) :
    ∃ t, pulseTargets s dcfg gridW now = some t ∧ Follows (s.eligible now)
      (zeroTargets (s.eligible now)) t (filledShare hs dcfg gridW now) :=
  redistribute_filled hs dcfg gridW now (List.Subset.refl _)
    (fun _ active _ _ ht => assignedDeltas_eq hs active ht)

/-! ## The deltas before the cap stage -/

/-- The grid needs no correction, and no circuit has to be realigned. -/
def Balanced (s : AppState) (gridW : ℚ) (now : Instant) : Prop :=
  |computeGridCorrection gridW (plugTotal (s.eligible now)) (s.eligible now).length| < 1 / 1000 ∧
    hasConflict s now = false

instance : Decidable (Balanced s gridW now) := inferInstanceAs (Decidable (_ ∧ _))

/-- The deltas the cap stage starts from. A balanced fleet returns before that stage. -/
def deltasBeforeCap (s : AppState) (dcfg : DispatcherConfig) (gridW : ℚ) (now : Instant) :
    Option (Table String ℚ) :=
  let deltas := zeroTargets s.batteries.values
  if (s.eligible now).isEmpty ∨ Balanced s gridW now then some deltas
  else (pulseTargets s dcfg gridW now).map (fun targets => toDeltas (s.eligible now) targets deltas)

/-- The change asked of a battery: none while the fleet is balanced, else the way to its share. -/
def wantedDelta (hs : s.Valid) (dcfg : DispatcherConfig) (gridW : ℚ) (now : Instant)
    (b : BatteryState) : ℚ :=
  if Balanced s gridW now then 0 else filledShare hs dcfg gridW now b - plugOf b

theorem toDeltas_follows (hs : s.Valid) {t : Table String ℚ} {share : BatteryState → ℚ}
    (ht : Follows (s.eligible now) (zeroTargets (s.eligible now)) t share) :
    Targets s now (toDeltas (s.eligible now) t (zeroTargets s.batteries.values))
      (fun b => share b - plugOf b) := by
  have hget := Table.get?_foldl_insert_entries (zeroTargets s.batteries.values) (s.eligible now)
    (·.id) (fun b => (t.get? b.id).getD (plugOf b) - plugOf b) (hs.eligible_ids_nodup now)
  refine ⟨fun b hb => ?_,fun k hk => Option.ext (fun x => ?_),?_⟩
  · refine (hget b.id _).mpr (Or.inl ⟨b,hb,rfl,?_⟩)
    rw [ht.on b hb, Option.getD_some]
  · refine (hget k x).trans ⟨?_,fun h => Or.inr ⟨hk,h⟩⟩
    rintro (⟨b,hb,rfl,-⟩ | ⟨-,h⟩)
    · exact absurd (List.mem_map_of_mem hb) hk
    · exact h
  · refine foldl_inv _ (fun d : Table String ℚ => d.keys = (zeroTargets s.batteries.values).keys)
      (s.eligible now) _ rfl (fun d b hb hd => ?_)
    rw [Table.keys_insert_of_mem _ _ (hd ▸ eligible_mem_keys s now b hb), hd]

theorem deltasBeforeCap_spec (hs : s.Valid) (dcfg : DispatcherConfig) (gridW : ℚ) (now : Instant) :
    ∃ d, deltasBeforeCap s dcfg gridW now = some d ∧
      Targets s now d (wantedDelta hs dcfg gridW now) := by
  unfold deltasBeforeCap
  dsimp only
  split
  · rename_i hearly
    refine ⟨_,rfl,fun b hb => ?_,fun _ _ => rfl,rfl⟩
    have hbal : Balanced s gridW now := hearly.resolve_left (fun he => by
      rw [List.isEmpty_iff.mp he] at hb
      exact absurd hb List.not_mem_nil)
    rw [get?_zeroTargets, if_pos (List.mem_map_of_mem (List.mem_filter.mp hb).1), wantedDelta,
      if_pos hbal]
  · rename_i hrun
    obtain ⟨t,ht,hfollows⟩ := pulseTargets_spec hs dcfg gridW now
    rw [ht, Option.map_some]
    have hwant : wantedDelta hs dcfg gridW now =
        fun b => filledShare hs dcfg gridW now b - plugOf b :=
      funext (fun b => if_neg (fun hbal => hrun (Or.inr hbal)))
    exact ⟨_,rfl,hwant ▸ toDeltas_follows hs hfollows⟩

/-! ## The cap stage -/

/-- The batteries whose power counts against the cap. -/
def measuredMembers (s : AppState) (cs : CircuitState) : List BatteryState :=
  (s.lookup cs.memberIds).filter (fun b => b.lastPlugW.isSome)

def deltaSum (deltas : Table String ℚ) (bs : List BatteryState) : ℚ :=
  (bs.map (fun b => (deltas.get? b.id).getD 0)).sum

/-- The power that the deltas lead to is over the cap, and the deltas can change it. -/
def CapEngages (s : AppState) (deltas : Table String ℚ) (cs : CircuitState) : Prop :=
  let members := measuredMembers s cs
  cs.capW < |plugTotal members + deltaSum deltas members| ∧ 1 / 1000 < |deltaSum deltas members|

instance (deltas : Table String ℚ) (cs : CircuitState) : Decidable (CapEngages s deltas cs) :=
  inferInstanceAs (Decidable (_ ∧ _))

/-- The common factor of a circuit's deltas. -/
def deltaScale (s : AppState) (deltas : Table String ℚ) (cs : CircuitState) : ℚ :=
  let measuredSum := plugTotal (measuredMembers s cs)
  let change := deltaSum deltas (measuredMembers s cs)
  if CapEngages s deltas cs then
    clampTo 0 1 ((copysign cs.capW (measuredSum + change) - measuredSum) / change)
  else 1

theorem deltaScale_mem (deltas : Table String ℚ) (cs : CircuitState) :
    0 ≤ deltaScale s deltas cs ∧ deltaScale s deltas cs ≤ 1 := by
  unfold deltaScale
  dsimp only
  split
  · exact ⟨le_clampTo _ _ _,clampTo_le zero_le_one _⟩
  · exact ⟨zero_le_one,le_rfl⟩

theorem measuredMembers_ids (hs : s.Valid) {c : String} {cs : CircuitState}
    (hc : s.circuits.get? c = some cs) :
    ((measuredMembers s cs).map (·.id)).Sublist cs.memberIds := by
  rw [← hs.lookup_ids hc]
  exact List.filter_sublist.map _

theorem deltaScale_congr (hs : s.Valid) {c : String} {cs : CircuitState}
    (hc : s.circuits.get? c = some cs) {d e : Table String ℚ}
    (h : ∀ k ∈ cs.memberIds, d.get? k = e.get? k) : deltaScale s d cs = deltaScale s e cs := by
  have hsum : deltaSum d (measuredMembers s cs) = deltaSum e (measuredMembers s cs) := by
    refine congrArg List.sum (List.map_congr_left (fun b hb => ?_))
    rw [h b.id ((measuredMembers_ids hs hc).subset (List.mem_map_of_mem hb))]
  have hiff : CapEngages s d cs ↔ CapEngages s e cs := by
    simp only [CapEngages, hsum]
  exact if_congr hiff (by rw [hsum]) rfl

theorem capDeltas_spec (hs : s.Valid) (deltas : Table String ℚ) {c : String} {cs : CircuitState}
    (hc : s.circuits.get? c = some cs) : ∃ d, capDeltas s deltas cs = some d ∧ ∀ k, d.get? k =
      if k ∈ (measuredMembers s cs).map (·.id) then (deltas.get? k).map (deltaScale s deltas cs * ·)
      else deltas.get? k := by
  have hsame : ∀ k, deltas.get? k = if k ∈ (measuredMembers s cs).map (·.id) then
      (deltas.get? k).map (1 * ·) else deltas.get? k := by simp
  unfold capDeltas
  dsimp only
  split
  · rename_i hempty
    have hnone : measuredMembers s cs = [] := List.isEmpty_iff.mp hempty
    refine ⟨deltas,rfl,?_⟩
    simp [hnone]
  · split
    · rename_i hengages
      have hscale : deltaScale s deltas cs = clampTo 0 1 _ := if_pos hengages
      rw [f64Clamp_eq_some (zero_le_one' ℚ), Option.map_some]
      refine ⟨_,rfl,fun k => ?_⟩
      have hn := (hs.members_nodup hc).sublist (measuredMembers_ids hs hc)
      have hcomm : (fun x => x * deltaScale s deltas cs) = (deltaScale s deltas cs * ·) :=
        funext (fun x => mul_comm x _)
      have hfold := Table.get?_foldl_modify deltas ((measuredMembers s cs).map (·.id)) hn
        (fun x => x * deltaScale s deltas cs) k
      rw [List.foldl_map, hscale] at hfold
      rw [← hcomm, hscale]
      exact hfold
    · rename_i hidle
      have hscale : deltaScale s deltas cs = 1 := if_neg hidle
      exact ⟨deltas,rfl,hscale.symm ▸ hsame⟩

theorem capDeltas_frame (hs : s.Valid) {c : String} {cs : CircuitState}
    (hc : s.circuits.get? c = some cs) (deltas : Table String ℚ) :
    ∃ d, capDeltas s deltas cs = some d ∧ ∀ k, ¬ k ∈ cs.memberIds → d.get? k = deltas.get? k := by
  obtain ⟨d,hd,hget⟩ := capDeltas_spec hs deltas hc
  refine ⟨d,hd,fun k hk => ?_⟩
  rw [hget, if_neg (fun h => hk ((measuredMembers_ids hs hc).subset h))]

/-- The cap stage of a circuit reads and writes the deltas of its members only. -/
theorem capDeltas_congr (hs : s.Valid) {c : String} {cs : CircuitState}
    (hc : s.circuits.get? c = some cs) {d e d' e' : Table String ℚ}
    (h : ∀ k ∈ cs.memberIds, d.get? k = e.get? k) (hd : capDeltas s d cs = some d')
    (he : capDeltas s e cs = some e') : ∀ k ∈ cs.memberIds, d'.get? k = e'.get? k := by
  obtain ⟨d₂,hd₂,hgetd⟩ := capDeltas_spec hs d hc
  obtain ⟨e₂,he₂,hgete⟩ := capDeltas_spec hs e hc
  obtain rfl := Option.some.inj (hd₂.symm.trans hd)
  obtain rfl := Option.some.inj (he₂.symm.trans he)
  intro k hk
  rw [hgetd, hgete, deltaScale_congr hs hc h, h k hk]

/-- Every circuit is scaled by its own factor, whatever the order of the circuits. -/
theorem foldlM_capDeltas (hs : s.Valid) (deltas : Table String ℚ) :
    ∃ d, s.circuits.values.foldlM (capDeltas s) deltas = some d ∧
      ∀ {c cs}, s.circuits.get? c = some cs → ∀ k ∈ cs.memberIds, d.get? k =
        if k ∈ (measuredMembers s cs).map (·.id) then
          (deltas.get? k).map (deltaScale s deltas cs * ·)
        else deltas.get? k := by
  obtain ⟨r,hr,hin⟩ := foldlM_disjoint Table.get? (capDeltas s) (fun cs k => k ∈ cs.memberIds)
    s.circuits.values
    (fun cs hcs d => by
      obtain ⟨c,hc⟩ := (Table.mem_values_iff _ _).mp hcs
      exact capDeltas_frame hs hc d)
    (fun cs hcs d e d' e' h => by
      obtain ⟨c,hc⟩ := (Table.mem_values_iff _ _).mp hcs
      exact capDeltas_congr hs hc h)
    hs.circuits_disjoint deltas
  refine ⟨r,hr,fun {c cs} hc k hk => ?_⟩
  obtain ⟨d,hd,hsame⟩ := hin cs ((Table.mem_values_iff _ _).mpr ⟨c,hc⟩)
  obtain ⟨d',hd',hget⟩ := capDeltas_spec hs deltas hc
  rw [hsame k hk, ← Option.some.inj (hd'.symm.trans hd), hget]

/-- What the cap stage makes of the deltas it starts from, battery by battery. -/
theorem computeDeltas_eq_scaled (hs : s.Valid) (dcfg : DispatcherConfig) (gridW : ℚ)
    (now : Instant) : ∃ before after, deltasBeforeCap s dcfg gridW now = some before ∧
      computeDeltas s dcfg gridW now = some after ∧
      Targets s now before (wantedDelta hs dcfg gridW now) ∧
      ∀ {c cs}, s.circuits.get? c = some cs → ∀ b ∈ s.lookup cs.memberIds, ∃ x,
        before.get? b.id = some x ∧ after.get? b.id = some (deltaScale s before cs * x) := by
  obtain ⟨before,hbefore,hwant⟩ := deltasBeforeCap_spec hs dcfg gridW now
  have hstart : ∀ {c cs}, s.circuits.get? c = some cs → ∀ b ∈ s.lookup cs.memberIds,
      before.get? b.id =
        some (if b ∈ s.eligible now then wantedDelta hs dcfg gridW now b else 0) :=
    fun hc b hb => hwant.get?_eq hs ((hs.mem_lookup hc).mp hb).1
  by_cases hearly : (s.eligible now).isEmpty ∨ Balanced s gridW now
  · have hzero : before = zeroTargets s.batteries.values :=
      (Option.some.inj (hbefore.symm.trans (if_pos hearly)))
    refine ⟨before,before,hbefore,?_,hwant,fun {c cs} hc b hb => ⟨0,?_,?_⟩⟩
    · unfold computeDeltas
      dsimp only
      rcases hearly with hnone | hbal
      · rw [if_pos hnone, hzero]
      · split
        · rw [hzero]
        · exact (if_pos hbal).trans (congrArg some hzero.symm)
    all_goals
      rw [hzero, get?_zeroTargets, if_pos (List.mem_map_of_mem
        (hs.mem_values.mpr ((hs.mem_lookup hc).mp hb).1))]
    rw [mul_zero]
  · obtain ⟨after,hafter,hcapped⟩ := foldlM_capDeltas hs before
    refine ⟨before,after,hbefore,?_,hwant,fun {c cs} hc b hb => ⟨_,hstart hc b hb,?_⟩⟩
    · obtain ⟨hsome,hcorr⟩ := not_or.mp hearly
      rw [deltasBeforeCap, if_neg hearly] at hbefore
      obtain ⟨t,ht,rfl⟩ := Option.map_eq_some_iff.mp hbefore
      unfold computeDeltas
      dsimp only
      rw [if_neg hsome, ht]
      exact (if_neg hcorr).trans hafter
    · have hmem : b.id ∈ cs.memberIds := hs.lookup_ids hc ▸ List.mem_map_of_mem hb
      rw [hcapped hc b.id hmem, hstart hc b hb]
      split
      · rw [Option.map_some]
      · rename_i hout
        have hidle : b ∉ s.eligible now := fun he => hout (List.mem_map_of_mem
          (List.mem_filter.mpr ⟨hb,(Bool.and_eq_true_iff.mp (List.mem_filter.mp he).2).2⟩))
        rw [if_neg hidle, mul_zero]

/-- The computation never fails. -/
theorem computeDeltas_isSome (hs : s.Valid) (dcfg : DispatcherConfig) (gridW : ℚ)
    (now : Instant) : ∃ d, computeDeltas s dcfg gridW now = some d := by
  obtain ⟨_,after,_,hafter,_⟩ := computeDeltas_eq_scaled hs dcfg gridW now
  exact ⟨after,hafter⟩

end ShellyMultiplexer
