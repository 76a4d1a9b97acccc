import ShellyMultiplexer.Dispatcher.Relays
import ShellyMultiplexer.Dispatcher.Shaping
import ShellyMultiplexer.Guarantees.SoftRemediation

/-! # Opened relays and their schedule

A relay that the dispatcher has opened is to keep its `plug_cut_until` until a close has succeeded.
The record is lost when it is cleared before the close is answered, or by an answer that belongs to
an earlier call. It is kept as long as a relay is opened only while nothing else is in flight for it
and closing is left to the recovery sweep.
-/
namespace ShellyMultiplexer
open Foundation

/-- An open is in flight. -/
def Opening (sys : RelaySystem) (id : String) : Prop :=
  ∃ call ∈ sys.pending, call.batteryId = id ∧ call.kind.on = false

def InFlight (sys : RelaySystem) (id : String) : Prop := ∃ call ∈ sys.pending, call.batteryId = id

def IsDay (sun : Sunrise) (live : Config) (t : TickTimes) : Prop :=
  ∃ night, nightAt sun live.location t.utc = some night ∧ night.isNight = false

/-- A tick that cannot lose a record. -/
structure TickSafe (sun : Sunrise) (sys : RelaySystem) (live : Config) (t : TickTimes) : Prop where
  opens : ∀ id b, sys.app.batteries.get? id = some b →
    TripDue sys.app live t id ∨ CutDue sun live t b →
      sys.opened id = false ∧ ¬ InFlight sys id
  closes : ∀ id b, sys.app.batteries.get? id = some b →
    0 < live.dispatcher.emergencyCutoffMarginW → b.isRecoveryDue t.safety = true →
      ¬ Opening sys id
  sweeps : ∀ id b, sys.app.batteries.get? id = some b → sys.opened id = true →
    b.isRecoveryDue t.safety = true → 0 < live.dispatcher.emergencyCutoffMarginW
  restores : ∀ id b, sys.app.batteries.get? id = some b → ¬ RestoreDue sun live t b
  days : ∀ id b, sys.app.batteries.get? id = some b → sys.opened id = true →
    b.cutForNight = true → IsDay sun live t → b.isRecoveryDue t.safety = true

def RelaySafe (sun : Sunrise) (sys : RelaySystem) : RelayEvent → Prop
  | .tick live t => TickSafe sun sys live t
  | .manualReset id => ¬ Opening sys id
  | .answer _ _ => True
  | .measure _ _ => True

/-- Every opened relay has a record. -/
def Scheduled (sys : RelaySystem) : Prop :=
  ∀ id, sys.opened id = true → ∃ b, sys.app.batteries.get? id = some b ∧ b.plugCutUntil.isSome

/-- The tick closes every opened relay whose instant has come, and by day those cut for the night. -/
def ClosesAgain (sun : Sunrise) (sys : RelaySystem) (live : Config) (t : TickTimes) : Prop :=
  ∀ id b, sys.opened id = true → sys.app.batteries.get? id = some b →
    b.isRecoveryDue t.safety = true ∨ (b.cutForNight = true ∧ IsDay sun live t) →
      ∃ call ∈ (beforeStep sun sys.app live none t).calls,
        call.batteryId = id ∧ call.kind.on = true

/-- Two calls for one relay are both closes. -/
def Compatible (a b : RelayCall) : Prop :=
  a.batteryId = b.batteryId → a.kind.on = true ∧ b.kind.on = true

structure RelayInv (cfg : Config) (sys : RelaySystem) : Prop where
  runtime : sys.app.RuntimeOf cfg
  recorded : ∀ id, sys.opened id = true ∨ Opening sys id →
    ∃ b, sys.app.batteries.get? id = some b ∧ b.plugCutUntil.isSome
  owned : ∀ id b, sys.app.batteries.get? id = some b → b.plugCutUntil.isSome →
    sys.opened id = true ∨ Opening sys id
  apart : ∀ id, Opening sys id → sys.opened id = false
  alone : sys.pending.Pairwise Compatible
  noRestore : ∀ call ∈ sys.pending, call.kind ≠ .nightRestore

section Tick
variable {sun : Sunrise} {sys : RelaySystem} {live : Config} {t : TickTimes} {cfg : Config}

/-- The tick trips the battery or cuts it for the night. -/
def StampDue (sun : Sunrise) (sys : RelaySystem) (live : Config) (t : TickTimes)
    (b : BatteryState) : Prop :=
  tripFor (tickTrips sys.app live t) b.id ≠ none ∨ CutDue sun live t b

/-- A safe tick stamps a battery that is due for a cut and leaves every other one as it is. -/
theorem TickSafe.battery_cases (hsafe : TickSafe sun sys live t) {b b' : BatteryState}
    (hb : sys.app.batteries.get? b.id = some b)
    (hb' : (beforeStep sun sys.app live none t).state.batteries.get? b.id = some b') :
    StampDue sun sys live t b ∧ b'.plugCutUntil.isSome ∨ ¬ StampDue sun sys live t b ∧ b' = b := by
  rcases tick_battery_cases hb hb' with ⟨hdue,hsome,-⟩ | ⟨hno,⟨hrestore,-⟩ | heq⟩
  · exact Or.inl ⟨hdue,hsome⟩
  · exact absurd hrestore (hsafe.restores b.id b hb)
  · exact Or.inr ⟨hno,heq⟩

/-- The calls of a safe tick: opens of batteries that are due for a cut, and closes by the sweep. -/
theorem TickSafe.call_cases (hv : sys.app.Valid) (hsafe : TickSafe sun sys live t)
    {call : RelayCall} (h : call ∈ (beforeStep sun sys.app live none t).calls) :
    ∃ b, sys.app.batteries.get? call.batteryId = some b ∧
      ((call.kind.on = false ∧ StampDue sun sys live t b) ∨
        (call.kind = .recover ∧ 0 < live.dispatcher.emergencyCutoffMarginW ∧
          b.isRecoveryDue t.safety = true)) := by
  obtain ⟨b,hb,⟨hoff,hdue⟩ | hrec | ⟨-,hrestore⟩⟩ := tick_call_cases hv h
  · rw [← hv.id_eq hb] at hdue
    exact ⟨b,hb,Or.inl ⟨hoff,hdue⟩⟩
  · exact ⟨b,hb,Or.inr hrec⟩
  · exact absurd hrestore (hsafe.restores _ b hb)

theorem tickTrips_pairwise (hv : sys.app.Valid) :
    (tickTrips sys.app live t).Pairwise (fun a b => a.batteryId ≠ b.batteryId) := by
  unfold tickTrips
  split
  · exact List.Pairwise.nil
  · rw [tripsOf, Table.values_mapVal, List.filterMap_map, List.pairwise_filterMap]
    refine hv.circuits_disjoint.imp_of_mem (fun {cs cs'} hcs hcs' hdis a ha b hb hid => ?_)
    have hmember : ∀ cs ∈ sys.app.circuits.values, ∀ trip,
        (judgeCircuit sys.app live.dispatcher.emergencyCutoffMarginW t.safety cs).trip = some trip →
          trip.batteryId ∈ cs.memberIds := by
      intro cs hcs trip htrip
      obtain ⟨c,hc⟩ := (Table.mem_values_iff _ _).mp hcs
      obtain ⟨-,-,-,b,hb,hbid,-⟩ := judgeCircuit_trip htrip
      rw [← hv.lookup_ids hc, hbid]
      exact List.mem_map_of_mem (List.mem_filter.mp (List.mem_filter.mp (maxBy_mem hb)).1).1
    exact hdis _ (hmember cs hcs a ha) (hid ▸ hmember cs' hcs' b hb)

/-- What is due for a cut is closed, has no call in flight and no record. -/
theorem fresh_of_stampDue (hinv : RelayInv cfg sys)
    (hsafe : TickSafe sun sys live t) {b : BatteryState}
    (hb : sys.app.batteries.get? b.id = some b) (hdue : StampDue sun sys live t b) :
    sys.opened b.id = false ∧ ¬ InFlight sys b.id ∧ b.plugCutUntil = none := by
  have hopens := hsafe.opens b.id b hb (by
    rcases hdue with htrip | hcut
    · obtain ⟨trip,hsome⟩ := Option.ne_none_iff_exists'.mp htrip
      obtain ⟨hmem,hid⟩ := tripFor_mem hsome
      exact Or.inl (hid ▸ (tripDue_of_mem hmem).1)
    · exact Or.inr hcut)
  refine ⟨hopens.1,hopens.2,?_⟩
  cases hu : b.plugCutUntil with
  | none => rfl
  | some u =>
    rcases hinv.owned b.id b hb (by rw [hu]; rfl) with h | ⟨call,hcall,hid,-⟩
    · rw [hopens.1] at h
      cases h
    · exact absurd ⟨call,hcall,hid⟩ hopens.2

theorem isSome_of_recoveryDue {b : BatteryState} {now : Instant} (h : b.isRecoveryDue now = true) :
    ∃ u, b.plugCutUntil = some u := by
  cases hu : b.plugCutUntil with
  | none => simp [BatteryState.isRecoveryDue,hu] at h
  | some u => exact ⟨u,rfl⟩

theorem afterSafety_ids_nodup (hw : cfg.WellFormed) (hinv : RelayInv cfg sys) (live : Config)
    (t : TickTimes) :
    ((afterSafety sys.app live t).map (·.id)).Nodup :=
  ((runtimeOf_enforceCircuitSafety hinv.runtime).valid hw).values_nodup

/-- A tick opens no relay twice. -/
theorem tick_opens_pairwise (hw : cfg.WellFormed) (hinv : RelayInv cfg sys) :
    (beforeStep sun sys.app live none t).calls.Pairwise (fun a b =>
      a.kind.on = false → b.kind.on = false → a.batteryId ≠ b.batteryId) := by
  have hv := hinv.runtime.valid hw
  rw [beforeStep_calls, List.pairwise_append, List.pairwise_append, List.pairwise_append]
  refine ⟨⟨?_,?_,?_⟩,⟨?_,?_,?_⟩,?_⟩
  · exact List.pairwise_map.mpr ((tickTrips_pairwise hv).imp (fun h _ _ => h))
  · exact List.pairwise_map.mpr (List.pairwise_of_forall (fun _ _ h => by cases h))
  · intro a _ b hb _ hoff
    obtain ⟨x,-,rfl⟩ := List.mem_map.mp hb
    cases hoff
  · have hn := afterSafety_ids_nodup hw hinv live t
    exact List.pairwise_map.mpr (((List.pairwise_map.mp hn).filter _).imp (fun h _ _ => h))
  · exact List.pairwise_map.mpr (List.pairwise_of_forall (fun _ _ h => by cases h))
  · intro a _ b hb _ hoff
    obtain ⟨x,-,rfl⟩ := List.mem_map.mp hb
    cases hoff
  · intro a ha b hb hoffa hoffb hid
    rcases List.mem_append.mp ha with ha | ha
    · obtain ⟨trip,htrip,rfl⟩ := List.mem_map.mp ha
      rcases List.mem_append.mp hb with hb | hb
      · obtain ⟨x,hx,rfl⟩ := List.mem_map.mp hb
        obtain ⟨-,hnone,-⟩ :=
          mem_night_filter hv (fun _ _ _ _ htrip => (not_due_of_trip htrip).1) hx
        exact tripFor_eq_none_iff.mp hnone trip htrip hid
      · obtain ⟨x,-,rfl⟩ := List.mem_map.mp hb
        cases hoffb
    · obtain ⟨x,-,rfl⟩ := List.mem_map.mp ha
      cases hoffa

/-- No two calls of a safe tick get in each other's way. -/
theorem tick_calls_compatible (hw : cfg.WellFormed) (hinv : RelayInv cfg sys)
    (hsafe : TickSafe sun sys live t) :
    (beforeStep sun sys.app live none t).calls.Pairwise Compatible := by
  have hv := hinv.runtime.valid hw
  -- an open and a close of the sweep never meet: the one needs no record, the other one has
  have hmeet : ∀ a ∈ (beforeStep sun sys.app live none t).calls,
      ∀ b ∈ (beforeStep sun sys.app live none t).calls, a.batteryId = b.batteryId →
        a.kind.on = false → b.kind.on = false := by
    intro a ha b hb hid hoff
    obtain ⟨x,hx,⟨-,hdue⟩ | ⟨hkind,-⟩⟩ := hsafe.call_cases hv ha
    · obtain ⟨y,hy,⟨hoffb,-⟩ | ⟨-,-,hrec⟩⟩ := hsafe.call_cases hv hb
      · exact hoffb
      · rw [← hid, hx] at hy
        cases hy
        obtain ⟨u,hu⟩ := isSome_of_recoveryDue hrec
        have hxid := hv.id_eq hx
        rw [(fresh_of_stampDue hinv hsafe (hxid.symm ▸ hx) hdue).2.2] at hu
        cases hu
    · rw [hkind] at hoff
      cases hoff
  refine (tick_opens_pairwise hw hinv).imp_of_mem (fun {a b} ha hb hne hid => ?_)
  cases hoffa : a.kind.on with
  | false => exact absurd hid (hne hoffa (hmeet a ha b hb hid hoffa))
  | true =>
    cases hoffb : b.kind.on with
    | false =>
      have h := hmeet b hb a ha hid.symm hoffb
      rw [hoffa] at h
      cases h
    | true => exact ⟨rfl,rfl⟩

theorem Opening.tick {id : String} (h : Opening sys id) :
    Opening (relayStep sun sys (.tick live t)) id := by
  obtain ⟨call,hcall,h⟩ := h
  exact ⟨call,List.mem_append_left _ hcall,h⟩

/-- An open after the tick was in flight before it or belongs to a battery that is due. -/
theorem opening_tick_cases (hv : sys.app.Valid) (hsafe : TickSafe sun sys live t) {id : String}
    (h : Opening (relayStep sun sys (.tick live t)) id) : Opening sys id ∨
      ∃ b, sys.app.batteries.get? id = some b ∧ StampDue sun sys live t b := by
  obtain ⟨call,hcall,rfl,hoff⟩ := h
  rcases List.mem_append.mp hcall with hcall | hcall
  · exact Or.inl ⟨call,hcall,rfl,hoff⟩
  · obtain ⟨b,hb,⟨-,hdue⟩ | ⟨hkind,-⟩⟩ := hsafe.call_cases hv hcall
    · exact Or.inr ⟨b,hb,hdue⟩
    · rw [hkind] at hoff
      cases hoff

theorem RelayInv.tick_recorded (hw : cfg.WellFormed) (hinv : RelayInv cfg sys)
    (hsafe : TickSafe sun sys live t) {id : String}
    (h : sys.opened id = true ∨ Opening (relayStep sun sys (.tick live t)) id) :
    ∃ b, (relayStep sun sys (.tick live t)).app.batteries.get? id = some b ∧
      b.plugCutUntil.isSome := by
  have hv := hinv.runtime.valid hw
  obtain ⟨b,hb,hrec⟩ : ∃ b, sys.app.batteries.get? id = some b ∧
      (b.plugCutUntil.isSome ∨ StampDue sun sys live t b) := by
    rcases h with h | h
    · obtain ⟨b,hb,hsome⟩ := hinv.recorded id (Or.inl h)
      exact ⟨b,hb,Or.inl hsome⟩
    · rcases opening_tick_cases hv hsafe h with h | ⟨b,hb,hdue⟩
      · obtain ⟨b,hb,hsome⟩ := hinv.recorded id (Or.inr h)
        exact ⟨b,hb,Or.inl hsome⟩
      · exact ⟨b,hb,Or.inr hdue⟩
  have hid := hv.id_eq hb
  subst hid
  obtain ⟨b',hb'⟩ : ∃ b', (beforeStep sun sys.app live none t).state.batteries.get? b.id = some b' :=
    ⟨_,by rw [beforeStep_battery, hb, Option.map_some]⟩
  refine ⟨b',hb',?_⟩
  rcases hsafe.battery_cases hb hb' with ⟨-,hsome⟩ | ⟨hno,heq⟩
  · exact hsome
  · rw [heq]
    exact hrec.resolve_right hno

theorem RelayInv.tick_owned (hw : cfg.WellFormed) (hinv : RelayInv cfg sys)
    (hsafe : TickSafe sun sys live t) {id : String} {b' : BatteryState}
    (hb' : (relayStep sun sys (.tick live t)).app.batteries.get? id = some b')
    (hsome : b'.plugCutUntil.isSome) :
    sys.opened id = true ∨ Opening (relayStep sun sys (.tick live t)) id := by
  have hget : some b' = (sys.app.batteries.get? id).map _ := hb'.symm.trans (beforeStep_battery id)
  obtain ⟨b,hb,-⟩ := Option.map_eq_some_iff.mp hget.symm
  have hid := (hinv.runtime.valid hw).id_eq hb
  subst hid
  rcases hsafe.battery_cases hb hb' with ⟨hdue,-⟩ | ⟨-,rfl⟩
  · obtain ⟨call,hcall,h⟩ := (tick_opens_iff (hinv.runtime.valid hw) hb).mpr hdue
    exact Or.inr ⟨call,List.mem_append_right _ hcall,h⟩
  · exact (hinv.owned _ _ hb hsome).imp_right Opening.tick

theorem RelayInv.tick_alone (hw : cfg.WellFormed) (hinv : RelayInv cfg sys)
    (hsafe : TickSafe sun sys live t) :
    (relayStep sun sys (.tick live t)).pending.Pairwise Compatible := by
  have hv := hinv.runtime.valid hw
  refine List.pairwise_append.mpr ⟨hinv.alone,tick_calls_compatible hw hinv hsafe,?_⟩
  intro a ha c hc hid
  obtain ⟨b,hb,⟨-,hdue⟩ | ⟨hkind,hm,hrec⟩⟩ := hsafe.call_cases hv hc
  · have hbid := hv.id_eq hb
    have hfresh := fresh_of_stampDue hinv hsafe (hbid.symm ▸ hb) hdue
    exact absurd ⟨a,ha,hid.trans hbid.symm⟩ hfresh.2.1
  · have hclose : a.kind.on = true := by
      by_contra hoff
      exact hsafe.closes _ b hb hm hrec ⟨a,ha,hid,Bool.eq_false_iff.mpr hoff⟩
    exact ⟨hclose,by rw [hkind]; rfl⟩

theorem RelayInv.tick (hw : cfg.WellFormed) (hinv : RelayInv cfg sys)
    (hsafe : TickSafe sun sys live t) : RelayInv cfg (relayStep sun sys (.tick live t)) where
  runtime := runtimeOf_beforeStep hinv.runtime sun live none t
  recorded _ h := hinv.tick_recorded hw hsafe h
  owned _ _ hb hsome := hinv.tick_owned hw hsafe hb hsome
  apart id h := by
    have hv := hinv.runtime.valid hw
    rcases opening_tick_cases hv hsafe h with h | ⟨b,hb,hdue⟩
    · exact hinv.apart id h
    · have hid := hv.id_eq hb
      subst hid
      exact (fresh_of_stampDue hinv hsafe hb hdue).1
  alone := hinv.tick_alone hw hsafe
  noRestore call hcall hkind := by
    rcases List.mem_append.mp hcall with hcall | hcall
    · exact hinv.noRestore call hcall hkind
    · obtain ⟨b,-,⟨hoff,-⟩ | ⟨hrec,-⟩⟩ := hsafe.call_cases (hinv.runtime.valid hw) hcall
      · rw [hkind] at hoff
        cases hoff
      · rw [hkind] at hrec
        cases hrec

end Tick

section Answer
variable {sun : Sunrise} {sys : RelaySystem} {cfg : Config} {call : RelayCall}

/-- A failed open and a close that succeeded clear the record, the other answers keep it. -/
theorem settle_until {kind : CallKind} (h : kind ≠ .nightRestore) (outcome : Except String Unit)
    (b : BatteryState) : (settle kind outcome b).plugCutUntil =
      if kind.on = outcome.isOk then none else b.plugCutUntil := by
  cases kind with
  | nightRestore => exact absurd rfl h
  | trip reason => cases outcome <;> rfl
  | recover => cases outcome <;> rfl
  | nightCut => cases outcome <;> rfl
  | manualReset => cases outcome <;> rfl

theorem erase_compatible (hinv : RelayInv cfg sys) (hcall : call ∈ sys.pending) :
    ∀ c ∈ sys.pending.erase call, c.batteryId = call.batteryId →
      c.kind.on = true ∧ call.kind.on = true := by
  obtain ⟨l₁,l₂,-,hl,he⟩ := List.exists_erase_eq hcall
  have halone := hinv.alone
  rw [hl, List.pairwise_append, List.pairwise_cons] at halone
  obtain ⟨-,⟨hafter,-⟩,hbefore⟩ := halone
  intro c hc hid
  rw [he] at hc
  rcases List.mem_append.mp hc with hc | hc
  · exact hbefore c hc call List.mem_cons_self hid
  · exact (hafter c hc hid.symm).symm

theorem openedAfter_of_ne {opened : String → Bool} {outcome : Except String Unit} {id : String}
    (h : id ≠ call.batteryId) : openedAfter opened call outcome id = opened id := by
  unfold openedAfter
  split
  · exact Function.update_of_ne h _ _
  · rfl

theorem openedAfter_self {opened : String → Bool} {outcome : Except String Unit} :
    openedAfter opened call outcome call.batteryId =
      if outcome.isOk then !call.kind.on else opened call.batteryId := by
  unfold openedAfter
  split
  · exact Function.update_self _ _ _
  · rfl

theorem answered_battery (outcome : Except String Unit) (id : String) :
    (answered sys call outcome).app.batteries.get? id =
      if id = call.batteryId then (sys.app.batteries.get? id).map (settle call.kind outcome)
      else sys.app.batteries.get? id := Table.get?_modify _ _ _ _

/-- An open still in flight is for another relay: none shares its relay with a call. -/
theorem opening_answered (hinv : RelayInv cfg sys) (hcall : call ∈ sys.pending)
    {outcome : Except String Unit} {id : String} (h : Opening (answered sys call outcome) id) :
    Opening sys id ∧ id ≠ call.batteryId := by
  obtain ⟨c,hc,rfl,hoff⟩ := h
  refine ⟨⟨c,List.mem_of_mem_erase hc,rfl,hoff⟩,fun hid => ?_⟩
  rw [(erase_compatible hinv hcall c hc hid).1] at hoff
  cases hoff

theorem Opening.answered {id : String} (h : Opening sys id)
    (hne : id ≠ call.batteryId ∨ call.kind.on = true) (outcome : Except String Unit) :
    Opening (ShellyMultiplexer.answered sys call outcome) id := by
  obtain ⟨c,hc,rfl,hoff⟩ := h
  have hcc : c ≠ call := by
    rintro rfl
    rcases hne with hne | hon
    · exact hne rfl
    · rw [hoff] at hon
      cases hon
  exact ⟨c,(List.mem_erase_of_ne hcc).mpr hc,rfl,hoff⟩

/-- The record stays with a relay that remains open. -/
theorem RelayInv.answered_recorded (hinv : RelayInv cfg sys) (hcall : call ∈ sys.pending)
    {outcome : Except String Unit} {id : String} (h : (answered sys call outcome).opened id = true ∨
      Opening (answered sys call outcome) id) :
    ∃ b, (answered sys call outcome).app.batteries.get? id = some b ∧ b.plugCutUntil.isSome := by
  by_cases hid : id = call.batteryId
  · subst hid
    have hopened : openedAfter sys.opened call outcome call.batteryId = true :=
      h.resolve_right (fun ho => (opening_answered hinv hcall ho).2 rfl)
    rw [openedAfter_self] at hopened
    have hpre : ∃ b, sys.app.batteries.get? call.batteryId = some b ∧ b.plugCutUntil.isSome ∧
        call.kind.on ≠ outcome.isOk := by
      cases hok : outcome.isOk with
      | true =>
        rw [hok, if_pos rfl, Bool.not_eq_true'] at hopened
        obtain ⟨b,hb,hsome⟩ := hinv.recorded _ (Or.inr ⟨call,hcall,rfl,hopened⟩)
        exact ⟨b,hb,hsome,by simp [hopened]⟩
      | false =>
        rw [hok, if_neg Bool.false_ne_true] at hopened
        obtain ⟨b,hb,hsome⟩ := hinv.recorded _ (Or.inl hopened)
        refine ⟨b,hb,hsome,fun hoff => ?_⟩
        rw [hinv.apart _ ⟨call,hcall,rfl,hoff⟩] at hopened
        cases hopened
    obtain ⟨b,hb,hsome,hne⟩ := hpre
    refine ⟨settle call.kind outcome b,?_,?_⟩
    · rw [answered_battery, if_pos rfl, hb, Option.map_some]
    · rw [settle_until (hinv.noRestore call hcall), if_neg hne]
      exact hsome
  · have hold : sys.opened id = true ∨ Opening sys id :=
      h.imp (fun ho => (openedAfter_of_ne hid).symm.trans ho)
        (fun ho => (opening_answered hinv hcall ho).1)
    rw [answered_battery, if_neg hid]
    exact hinv.recorded id hold

/-- A record that stays belongs to an open relay or an open still in flight. -/
theorem RelayInv.answered_owned (hinv : RelayInv cfg sys) (hcall : call ∈ sys.pending)
    {outcome : Except String Unit} {id : String} {b' : BatteryState}
    (hb' : (answered sys call outcome).app.batteries.get? id = some b')
    (hsome : b'.plugCutUntil.isSome) :
    (answered sys call outcome).opened id = true ∨ Opening (answered sys call outcome) id := by
  rw [answered_battery] at hb'
  by_cases hid : id = call.batteryId
  · subst hid
    rw [if_pos rfl] at hb'
    obtain ⟨b,hb,rfl⟩ := Option.map_eq_some_iff.mp hb'
    rw [settle_until (hinv.noRestore call hcall)] at hsome
    by_cases heq : call.kind.on = outcome.isOk
    · rw [if_pos heq] at hsome
      cases hsome
    · rw [if_neg heq] at hsome
      have hself : (answered sys call outcome).opened call.batteryId =
        if outcome.isOk then !call.kind.on else sys.opened call.batteryId := openedAfter_self
      rw [hself]
      cases hok : outcome.isOk with
      | true =>
        rw [hok, Bool.not_eq_true] at heq
        exact Or.inl (by rw [if_pos rfl, heq]; rfl)
      | false =>
        rw [hok, Bool.not_eq_false] at heq
        rw [if_neg Bool.false_ne_true]
        exact (hinv.owned _ b hb hsome).imp_right (fun ho => ho.answered (Or.inr heq) outcome)
  · rw [if_neg hid] at hb'
    exact (hinv.owned id b' hb' hsome).imp (fun ho => (openedAfter_of_ne hid).trans ho)
      (fun ho => ho.answered (Or.inl hid) outcome)

theorem RelayInv.answered (hinv : RelayInv cfg sys) (hcall : call ∈ sys.pending)
    (outcome : Except String Unit) :
    RelayInv cfg (ShellyMultiplexer.answered sys call outcome) where
  runtime := by
    refine hinv.runtime.mapBatteries _ (fun id b => ?_)
    split
    · exact settle_params _ _ b
    · rfl
  recorded _ h := hinv.answered_recorded hcall h
  owned _ _ hb hsome := hinv.answered_owned hcall hb hsome
  apart id h := by
    obtain ⟨hold,hid⟩ := opening_answered hinv hcall h
    exact (openedAfter_of_ne hid).trans (hinv.apart id hold)
  alone := hinv.alone.sublist List.erase_sublist
  noRestore c hc := hinv.noRestore c (List.mem_of_mem_erase hc)

end Answer

section Run
variable {sun : Sunrise} {sys : RelaySystem} {cfg : Config}

theorem RelayInv.measure (hinv : RelayInv cfg sys) (world : String → BatteryState)
    (silence : String → Option Instant) :
    RelayInv cfg (relayStep sun sys (.measure world silence)) := by
  have hget : ∀ id, (relayStep sun sys (.measure world silence)).app.batteries.get? id =
      (sys.app.batteries.get? id).map (reportedBattery world id) := fun _ => Table.get?_mapVal _ _ _
  refine ⟨?_,?_,?_,hinv.apart,hinv.alone,hinv.noRestore⟩
  · exact (hinv.runtime.mapBatteries (reportedBattery world) (fun _ _ => rfl)).mapCircuits _
      (fun _ _ => rfl)
  · intro id h
    obtain ⟨b,hb,hsome⟩ := hinv.recorded id h
    exact ⟨reportedBattery world id b,by rw [hget, hb, Option.map_some],hsome⟩
  · intro id b' hb' hsome
    rw [hget] at hb'
    obtain ⟨b,hb,rfl⟩ := Option.map_eq_some_iff.mp hb'
    exact hinv.owned id b hb hsome

theorem RelayInv.manualReset (hinv : RelayInv cfg sys) {id : String} (hsafe : ¬ Opening sys id) :
    RelayInv cfg (relayStep sun sys (.manualReset id)) := by
  simp only [relayStep]
  cases hb : sys.app.batteries.get? id with
  | none => exact hinv
  | some b =>
    simp only
    split
    · have hopening : ∀ {k}, (∃ c ∈ sys.pending ++ [⟨.manualReset,id,b.plugUrl⟩],
          c.batteryId = k ∧ c.kind.on = false) → Opening sys k := by
        rintro k ⟨c,hc,hk,hoff⟩
        rcases List.mem_append.mp hc with hc | hc
        · exact ⟨c,hc,hk,hoff⟩
        · rw [List.mem_singleton.mp hc] at hoff
          cases hoff
      refine ⟨hinv.runtime,fun k h => hinv.recorded k (h.imp_right hopening),fun k b hb hs => ?_,
        fun k h => hinv.apart k (hopening h),?_,?_⟩
      · refine (hinv.owned k b hb hs).imp_right ?_
        rintro ⟨c,hc,h⟩
        exact ⟨c,List.mem_append_left _ hc,h⟩
      · refine List.pairwise_append.mpr ⟨hinv.alone,List.pairwise_singleton _ _,?_⟩
        intro a ha c hc hid
        rw [List.mem_singleton.mp hc] at hid ⊢
        refine ⟨?_,rfl⟩
        by_contra hoff
        exact hsafe ⟨a,ha,hid,Bool.eq_false_iff.mpr hoff⟩
      · intro c hc
        rcases List.mem_append.mp hc with hc | hc
        · exact hinv.noRestore c hc
        · rw [List.mem_singleton.mp hc]
          exact fun h => (by cases h)
    · exact hinv

theorem RelayInv.step (hw : cfg.WellFormed) (hinv : RelayInv cfg sys) {e : RelayEvent}
    (hsafe : RelaySafe sun sys e) : RelayInv cfg (relayStep sun sys e) := by
  cases e with
  | tick live t => exact hinv.tick hw hsafe
  | measure world silence => exact hinv.measure world silence
  | manualReset id => exact hinv.manualReset hsafe
  | answer call outcome =>
    simp only [relayStep]
    split
    · exact hinv.answered ‹_› outcome
    · exact hinv

theorem relayInv_start (hw : cfg.WellFormed) : RelayInv cfg (RelaySystem.start cfg) where
  runtime := AppState.RuntimeOf.refl cfg
  recorded id h := by
    rcases h with h | ⟨c,hc,-⟩
    · cases h
    · cases hc
  owned id b hb hsome := by
    obtain ⟨e,-,-,rfl⟩ := (fromConfig_battery hw).mp hb
    cases hsome
  apart id h := by
    obtain ⟨c,hc,-⟩ := h
    cases hc
  alone := List.Pairwise.nil
  noRestore c hc := by cases hc

/-- A safe tick closes what is due: the sweep reaches every record that has come to its end. -/
theorem TickSafe.closesAgain (hw : cfg.WellFormed) (hinv : RelayInv cfg sys) {live : Config}
    {t : TickTimes} (hsafe : TickSafe sun sys live t) : ClosesAgain sun sys live t := by
  intro id b hopen hb hdue
  have hrec : b.isRecoveryDue t.safety = true := by
    rcases hdue with h | ⟨hnight,hday⟩
    · exact h
    · exact hsafe.days id b hb hopen hnight hday
  have hm := hsafe.sweeps id b hb hopen hrec
  have hid := (hinv.runtime.valid hw).id_eq hb
  refine ⟨⟨.recover,b.id,b.plugUrl⟩,?_,hid,rfl⟩
  rw [beforeStep_calls, tickRecoveries, if_neg (not_le.mpr hm)]
  refine List.mem_append_left _ (List.mem_append_right _ (List.mem_map.mpr ⟨b,?_,rfl⟩))
  exact List.mem_filter.mpr ⟨(Table.mem_values_iff _ _).mpr ⟨id,hb⟩,hrec⟩

/-- Along every safe run an opened relay stays scheduled, and every tick closes what is due. -/
theorem opened_relays_stay_scheduled {isSocketAddr : String → Bool}
    (hcfg : cfg.validate isSocketAddr = .ok ()) (sun : Sunrise) {events : List RelayEvent}
    (hsafe : StepsMeet (relayStep sun) (RelaySafe sun) (RelaySystem.start cfg) events) :
    Scheduled (run (relayStep sun) (RelaySystem.start cfg) events) ∧
      ∀ pre live t post, events = pre ++ .tick live t::post →
        ClosesAgain sun (run (relayStep sun) (RelaySystem.start cfg) pre) live t := by
  have hw := Config.wellFormed_of_validate hcfg
  have hinv : ∀ {past}, StepsMeet (relayStep sun) (RelaySafe sun) (RelaySystem.start cfg) past →
      RelayInv cfg (run (relayStep sun) (RelaySystem.start cfg) past) :=
    run_inv (RelayInv cfg) (relayInv_start hw) (fun _ _ h he => h.step hw he)
  refine ⟨fun id h => (hinv hsafe).recorded id (Or.inl h),fun pre live t post he => ?_⟩
  subst he
  exact TickSafe.closesAgain hw (hinv hsafe.prefix) (hsafe pre (.tick live t) post rfl)

end Run

/-! ## Cuts in the house -/

/-- A tick is safe while no relay is open, no call in flight and no night cutoff enabled. -/
theorem tickSafe_of_idle {sun : Sunrise} {sys : RelaySystem} {live : Config} {t : TickTimes}
    (hopened : ∀ id, sys.opened id = false) (hpending : sys.pending = [])
    (hnight : live.dispatcher.nightCutoffEnabled = false) : TickSafe sun sys live t where
  opens id _ _ _ := ⟨hopened id,fun ⟨c,hc,_⟩ => by simp [hpending] at hc⟩
  closes _ _ _ _ _ := fun ⟨c,hc,_⟩ => by simp [hpending] at hc
  sweeps id _ _ h _ := by simp [hopened id] at h
  restores _ _ _ := fun ⟨night,hn,_⟩ => by simp [tickNight,hnight] at hn
  days id _ _ h _ _ := by simp [hopened id] at h

def tickAt (live : Config) (now : ℚ) : RelayEvent := .tick live ⟨now,now,now,now,now⟩

/-- The garage stays overloaded, a plug is tripped, and the relay opens. -/
def tripped : List RelayEvent :=
  [.measure (reported 2500 50) (fun _ => none),tickAt house 0,tickAt house 6,tickAt house 16,
    .answer ⟨.trip ("circuit garage over cap: |5000 W| > 2530 W + 500 W margin for 16.0s " ++
      "(soft remediation didn't help after 10.0s)"),"b","http://plug"⟩ (.ok ())]

theorem opened_relays_stay_scheduled_house :
    let sys := run (relayStep noSun) (RelaySystem.start house) tripped
    sys.opened "b" = true ∧ ∃ b, sys.app.batteries.get? "b" = some b ∧ b.plugCutUntil.isSome := by
  intro sys
  have hopen : sys.opened "b" = true := by decide +kernel
  have hsafe : StepsMeet (relayStep noSun) (RelaySafe noSun) (RelaySystem.start house) tripped :=
    stepsMeet_cons.mpr ⟨trivial,stepsMeet_cons.mpr
      ⟨tickSafe_of_idle (fun _ => rfl) (by decide +kernel) rfl,stepsMeet_cons.mpr
        ⟨tickSafe_of_idle (fun _ => rfl) (by decide +kernel) rfl,stepsMeet_cons.mpr
          ⟨tickSafe_of_idle (fun _ => rfl) (by decide +kernel) rfl,stepsMeet_cons.mpr
            ⟨trivial,stepsMeet_nil _ _ _⟩⟩⟩⟩⟩
  exact ⟨hopen,(opened_relays_stay_scheduled house_valid noSun hsafe).1 "b" hopen⟩

def nightHouse : Config := { house with
  location := ⟨some 0,some 0⟩
  dispatcher := { house.dispatcher with nightCutoffEnabled := true } }

/-- Sunrise at six and sunset at eighteen, as on the equator. -/
def equator : Sunrise where
  coordinates _ _ := true
  sunrise _ _ day := some (day * 86400 + 6 * 3600)
  sunset _ _ day := some (day * 86400 + 18 * 3600)

/-- Empty at eight in the evening, recovered at nine; the restore does not get through. -/
def restoreLost : List RelayEvent :=
  [.measure (reported 0 5) (fun _ => none),tickAt nightHouse 72000,
    .answer ⟨.nightCut,"a","http://plug"⟩ (.ok ()),.measure (reported 0 50) (fun _ => none),
    tickAt nightHouse 75600,.answer ⟨.nightRestore,"a","http://plug"⟩ (.error "timeout")]

/-- Nobody remembers the open relay, and the tick of the next morning issues no call for it. -/
theorem restored_relay_forgotten : nightHouse.validate (fun _ => true) = .ok () ∧
    let sys := run (relayStep equator) (RelaySystem.start nightHouse) restoreLost
    sys.opened "a" = true ∧ sys.pending.all (fun call => call.batteryId != "a") ∧ ¬ Scheduled sys ∧
      (relayStep equator sys (tickAt nightHouse 111600)).pending.all
        (fun call => call.batteryId != "a") := by
  refine ⟨by decide +kernel,?_⟩
  intro sys
  have hopen : sys.opened "a" = true := by decide +kernel
  have hlost : (sys.app.batteries.get? "a").map (fun b => b.plugCutUntil.isSome) = some false := by
    decide +kernel
  refine ⟨hopen,by decide +kernel,?_,by decide +kernel⟩
  intro h
  obtain ⟨b,hb,hsome⟩ := h "a" hopen
  rw [hb] at hlost
  cases hsome.symm.trans (Option.some.inj hlost)

end ShellyMultiplexer
