import ShellyMultiplexer.Foundation.Latest
import ShellyMultiplexer.Model.Topology
import ShellyMultiplexer.Soc.Tasks

/-! # One source for each state of charge

Whatever the tasks of a process deliver, in any order and with any failures between, and however the
configuration is edited meanwhile: what a battery shows is the latest reading of its one source, or
nothing since an edit has taken the source from it.
-/
namespace ShellyMultiplexer
open Foundation

structure SocReading where
  soc : F64
  readAt : Instant
  source : String

/-- The value, its time and its source come from one reading, or are all absent. -/
def SocState.Shows (b : SocState) (r : Option SocReading) : Prop :=
  b.socPct = r.map SocReading.soc ∧ b.socAt = r.map SocReading.readAt ∧
    b.socSource = r.map SocReading.source

/-- The reading that an event brings a battery, or `some none` when it takes the source away. -/
def SocEvent.gives (b : BatteryConfig) : SocEvent → Option (Option SocReading)
  | poll id regs now | readOnOpen id regs now =>
    let register := b.marstekModel.socRegister
    if id = b.id then
      match readSocOn register b.marstekModel.socScale regs with
      | .ok soc => some (some ⟨soc,now,modbusSource register⟩)
      | .error _ => none
    else none
  | fastRefresh id collected now =>
    let register := b.marstekModel.socRegister
    if id = b.id then
      ((collected.get? register).map (fun r => (r.toNat : ℚ) * b.marstekModel.socScale)).bind
        (fun soc => if 0 ≤ soc ∧ soc ≤ 100
          then some (some ⟨.finite soc,now,modbusSource register⟩) else none)
    else none
  | haReply id reply now =>
    if id = b.id then
      match b.socEntityId, fetchSoc reply with
      | some entityId, .ok soc => some (some ⟨soc,now,s!"ha:{entityId}"⟩)
      | _, _ => none
    else none
  | refreshActivity new =>
    if new.batteries.any (fun a => a.id = b.id && !a.hasSocSource new.homeAssistant.enabled)
    then some none else none

/-! ## One event -/

section Step
variable {cfg : Config} {bcfg : BatteryConfig} {b : SocState} {r : Option SocReading}

theorem pollSoc_shows (hmodel : b.marstekModel = bcfg.marstekModel) (h : b.Shows r)
    (regs : Except String (List UInt16)) (now : Instant) :
    (pollSoc regs now b).Shows (((SocEvent.poll bcfg.id regs now).gives bcfg).getD r) := by
  rw [pollSoc, SocEvent.gives, if_pos rfl, ← hmodel]
  cases readSocOn b.marstekModel.socRegister b.marstekModel.socScale regs with
  | ok soc => exact ⟨rfl,rfl,rfl⟩
  | error e => exact h

theorem readSocOnOpen_shows (hmodel : b.marstekModel = bcfg.marstekModel) (h : b.Shows r)
    (regs : Except String (List UInt16)) (now : Instant) : (readSocOnOpen regs now b).Shows
      (((SocEvent.readOnOpen bcfg.id regs now).gives bcfg).getD r) := by
  rw [readSocOnOpen, SocEvent.gives, if_pos rfl, ← hmodel]
  cases readSocOn b.marstekModel.socRegister b.marstekModel.socScale regs with
  | ok soc => exact ⟨rfl,rfl,rfl⟩
  | error e => exact h

theorem tierRefresh_shows (hmodel : b.marstekModel = bcfg.marstekModel) (h : b.Shows r)
    (collected : Table UInt16 UInt16) (now : Instant) : (tierRefresh collected now b).Shows
      (((SocEvent.fastRefresh bcfg.id collected now).gives bcfg).getD r) := by
  rw [tierRefresh, SocEvent.gives, if_pos rfl, ← hmodel]
  cases collected.get? b.marstekModel.socRegister with
  | none => exact h
  | some word =>
    rw [Option.map_some, Option.bind_some, Option.filter_some]
    by_cases hrange : 0 ≤ (word.toNat : ℚ) * b.marstekModel.socScale ∧
        (word.toNat : ℚ) * b.marstekModel.socScale ≤ 100
    · rw [if_pos hrange, if_pos (decide_eq_true hrange)]
      exact ⟨rfl,rfl,rfl⟩
    · rw [if_neg hrange, if_neg (by simpa using hrange)]
      exact h

theorem haPoll_shows {entityId : String} (hentity : bcfg.socEntityId = some entityId)
    (h : b.Shows r) (reply : Except String Json) (now : Instant) : (haPoll entityId reply now b).Shows
      (((SocEvent.haReply bcfg.id reply now).gives bcfg).getD r) := by
  rw [haPoll, SocEvent.gives, if_pos rfl, hentity]
  cases fetchSoc reply with
  | ok soc => exact ⟨rfl,rfl,rfl⟩
  | error e => exact h

/-- An edit leaves the reading alone, or takes it away. -/
theorem refresh_shows (h : b.Shows r) (haEnabled : Bool) (edited : BatteryConfig) :
    (b.refresh haEnabled edited).Shows (if edited.hasSocSource haEnabled then r else none) := by
  cases hactive : edited.hasSocSource haEnabled with
  | true => simpa [SocState.refresh,SocState.Shows,hactive] using h
  | false => simp [SocState.refresh,SocState.Shows,hactive]

/-- All the edits of an update together. -/
theorem foldl_refresh_shows (haEnabled : Bool) (id : String) (edits : List BatteryConfig)
    {t : Table String SocState} (hget : t.get? id = some b) (h : b.Shows r) : ∃ after,
    (edits.foldl (fun t a => t.modify a.id (SocState.refresh haEnabled a)) t).get? id =
      some after ∧ after.marstekModel = b.marstekModel ∧ after.Shows
        (if edits.any (fun a => a.id = id && !a.hasSocSource haEnabled) then none else r) := by
  induction edits generalizing t b r with
  | nil => exact ⟨b,hget,rfl,h⟩
  | cons a edits ih =>
    rw [List.foldl_cons, List.any_cons]
    by_cases hid : id = a.id
    · have hnext : (t.modify a.id (SocState.refresh haEnabled a)).get? id =
          some (b.refresh haEnabled a) := by
        rw [hid, Table.get?_modify_self, ← hid, hget, Option.map_some]
      obtain ⟨after,hafter,hmodel,hshows⟩ := ih hnext (refresh_shows h haEnabled a)
      refine ⟨after,hafter,hmodel,?_⟩
      cases hactive : a.hasSocSource haEnabled with
      | true => simpa [hactive] using hshows
      | false => simpa [hactive,hid] using hshows
    · have hnext : (t.modify a.id (SocState.refresh haEnabled a)).get? id = some b := by
        rw [Table.get?_modify_of_ne _ _ hid, hget]
      obtain ⟨after,hafter,hmodel,hshows⟩ := ih hnext h
      refine ⟨after,hafter,hmodel,?_⟩
      simpa [Ne.symm hid] using hshows

/-- An event for one battery leaves the others as they are. -/
theorem update_shows {sys : SocSystem} {id : String} {f : SocState → SocState}
    {given : Option (Option SocReading)} (hget : sys.batteries.get? bcfg.id = some b)
    (hmodel : (f b).marstekModel = b.marstekModel) (h : b.Shows r)
    (hother : id ≠ bcfg.id → given = none) (hown : id = bcfg.id → (f b).Shows (given.getD r)) :
    ∃ after, (sys.update id f).batteries.get? bcfg.id = some after ∧
      after.marstekModel = b.marstekModel ∧ after.Shows (given.getD r) := by
  rw [SocSystem.update]
  by_cases hid : id = bcfg.id
  · refine ⟨f b,?_,hmodel,hown hid⟩
    rw [hid, Table.get?_modify_self, hget, Option.map_some]
  · refine ⟨b,?_,rfl,?_⟩
    · rw [Table.get?_modify_of_ne _ _ (Ne.symm hid), hget]
    · rw [hother hid]
      exact h

theorem model_pollSoc (regs : Except String (List UInt16)) (now : Instant) (b : SocState) :
    (pollSoc regs now b).marstekModel = b.marstekModel := by
  unfold pollSoc
  dsimp only
  split <;> rfl

theorem model_readSocOnOpen (regs : Except String (List UInt16)) (now : Instant) (b : SocState) :
    (readSocOnOpen regs now b).marstekModel = b.marstekModel := by
  unfold readSocOnOpen
  dsimp only
  split <;> rfl

theorem model_tierRefresh (collected : Table UInt16 UInt16) (now : Instant) (b : SocState) :
    (tierRefresh collected now b).marstekModel = b.marstekModel := by
  unfold tierRefresh
  dsimp only
  split <;> rfl

theorem model_haPoll (entityId : String) (reply : Except String Json) (now : Instant)
    (b : SocState) : (haPoll entityId reply now b).marstekModel = b.marstekModel := by
  unfold haPoll
  split <;> rfl

/-- What a battery shows after an event is what the event gives it, or what it showed before. -/
theorem socStep_shows (hids : (cfg.batteries.map BatteryConfig.id).Nodup)
    (hb : bcfg ∈ cfg.batteries) {sys : SocSystem} (hcfg : sys.cfg = cfg) {e : SocEvent}
    (he : e.Spawned cfg) (hget : sys.batteries.get? bcfg.id = some b)
    (hmodel : b.marstekModel = bcfg.marstekModel) (h : b.Shows r) : ∃ after,
    (socStep sys e).batteries.get? bcfg.id = some after ∧
      after.marstekModel = b.marstekModel ∧ after.Shows ((e.gives bcfg).getD r) := by
  cases e with
  | poll id regs now =>
    refine update_shows hget (model_pollSoc regs now b) h (fun hid => if_neg hid) ?_
    rintro rfl
    exact pollSoc_shows hmodel h regs now
  | readOnOpen id regs now =>
    refine update_shows hget (model_readSocOnOpen regs now b) h (fun hid => if_neg hid) ?_
    rintro rfl
    exact readSocOnOpen_shows hmodel h regs now
  | fastRefresh id collected now =>
    refine update_shows hget (model_tierRefresh collected now b) h (fun hid => if_neg hid) ?_
    rintro rfl
    exact tierRefresh_shows hmodel h collected now
  | haReply id reply now =>
    obtain ⟨other,hother,rfl,entityId,htask⟩ := he
    have hentity := (haEntity_eq_some_iff hids hother).mpr htask
    simp only [socStep,hcfg,hentity]
    refine update_shows hget (model_haPoll entityId reply now b) h (fun hid => if_neg hid)
      (fun hid => ?_)
    rw [hid]
    obtain rfl := List.inj_on_of_nodup_map hids hother hb hid
    exact haPoll_shows (mem_socTasks.mp htask).2 h reply now
  | refreshActivity new =>
    obtain ⟨after,hafter,hsame,hshows⟩ := foldl_refresh_shows new.homeAssistant.enabled bcfg.id
      new.batteries hget h
    refine ⟨after,hafter,hsame,?_⟩
    rw [SocEvent.gives]
    split at hshows <;> rename_i hcleared
    · rw [if_pos hcleared]
      exact hshows
    · rw [if_neg hcleared]
      exact hshows

/-- What is given to a battery comes from its task, under the name of that task. -/
theorem source_of_gives (hids : (cfg.batteries.map BatteryConfig.id).Nodup)
    (hb : bcfg ∈ cfg.batteries) {e : SocEvent} (he : e.Spawned cfg) {x : SocReading}
    (hx : e.gives bcfg = some (some x)) :
    ∃ task ∈ socTasks cfg bcfg, x.source = task.source bcfg.marstekModel := by
  have hsame : ∀ other ∈ cfg.batteries, other.id = bcfg.id → other = bcfg :=
    fun other hother hid => List.inj_on_of_nodup_map hids hother hb hid
  cases e with
  | poll id regs now =>
    obtain ⟨other,hother,rfl,htask⟩ := he
    simp only [SocEvent.gives] at hx
    split at hx
    · rename_i hid
      obtain rfl := hsame other hother hid
      split at hx
      · cases hx
        exact ⟨_,htask,rfl⟩
      · cases hx
    · cases hx
  | readOnOpen id regs now =>
    obtain ⟨other,hother,rfl,htask⟩ := he
    simp only [SocEvent.gives] at hx
    split at hx
    · rename_i hid
      obtain rfl := hsame other hother hid
      split at hx
      · cases hx
        exact ⟨_,htask,rfl⟩
      · cases hx
    · cases hx
  | fastRefresh id collected now =>
    obtain ⟨-,other,hother,rfl,htask⟩ := he
    simp only [SocEvent.gives] at hx
    split at hx
    · rename_i hid
      obtain rfl := hsame other hother hid
      obtain ⟨soc,-,hx⟩ := Option.bind_eq_some_iff.mp hx
      split at hx
      · cases hx
        exact ⟨_,htask,rfl⟩
      · cases hx
    · cases hx
  | haReply id reply now =>
    obtain ⟨other,hother,rfl,entityId,htask⟩ := he
    simp only [SocEvent.gives] at hx
    split at hx
    · rename_i hid
      obtain rfl := hsame other hother hid
      rw [(mem_socTasks.mp htask).2] at hx
      split at hx
      · rename_i hentity _
        cases hentity
        cases hx
        exact ⟨_,htask,rfl⟩
      · cases hx
    · cases hx
  | refreshActivity new =>
    simp only [SocEvent.gives] at hx
    split at hx <;> cases hx

theorem cfg_socStep (sys : SocSystem) (e : SocEvent) : (socStep sys e).cfg = sys.cfg := by
  cases e with
  | haReply id reply now =>
    rw [socStep]
    split <;> rfl
  | _ => rfl

end Step

/-! ## Runs -/

/-- At any time a battery shows the latest reading of its one task, or nothing: there has been none
yet, or an edit has taken it away since. -/
theorem soc_from_one_source {isSocketAddr : String → Bool} {cfg : Config}
    (hcfg : cfg.validate isSocketAddr = .ok ()) {events : List SocEvent}
    (hspawned : ∀ e ∈ events, e.Spawned cfg) {bcfg : BatteryConfig} (hb : bcfg ∈ cfg.batteries) :
    ∃ b r, (run socStep (SocSystem.start cfg) events).batteries.get? bcfg.id = some b ∧
      b.Shows r ∧ (∀ x, r = some x ↔ Latest socStep (fun _ e given => e.gives bcfg = some given)
        (SocSystem.start cfg) events (some x)) ∧
      ∀ x, r = some x → ∃ task, socTasks cfg bcfg = [task] ∧
        x.source = task.source bcfg.marstekModel := by
  have hw := Config.wellFormed_of_validate hcfg
  have hids := hw.battery_ids
  have hmeet : StepsMeet socStep (fun _ e => e.Spawned cfg) (SocSystem.start cfg) events := by
    intro pre e post he
    refine hspawned e ?_
    rw [he]
    exact List.mem_append_right _ List.mem_cons_self
  have hstart : ∃ b, (SocSystem.start cfg).batteries.get? bcfg.id = some b ∧
      b.marstekModel = bcfg.marstekModel ∧ b.Shows none := by
    have hmem : bcfg ∈ cfg.batteries.zipIdx.map Prod.fst := by rwa [List.zipIdx_map_fst]
    obtain ⟨e,he,rfl⟩ := List.mem_map.mp hmem
    have hget := (fromConfig_battery hw).mpr ⟨e,he,rfl,rfl⟩
    have hfresh : (SocSystem.start cfg).batteries.get? e.1.id = some
        { marstekModel := (BatteryState.fromConfig e.1 cfg.homeAssistant.enabled e.2).marstekModel
          active := (BatteryState.fromConfig e.1 cfg.homeAssistant.enabled e.2).active } := by
      rw [SocSystem.start, Table.get?_mapVal, hget]
      rfl
    exact ⟨_,hfresh,rfl,rfl,rfl,rfl⟩
  obtain ⟨-,b,r,hget,-,hshows,hlatest⟩ := run_history
    (fun past sys => sys.cfg = cfg ∧ ∃ b r, sys.batteries.get? bcfg.id = some b ∧
      b.marstekModel = bcfg.marstekModel ∧ b.Shows r ∧ ∀ x, r = some x ↔
        Latest socStep (fun _ e given => e.gives bcfg = some given) (SocSystem.start cfg) past
          (some x))
    (by
      obtain ⟨b,hget,hmodel,hshows⟩ := hstart
      exact ⟨rfl,b,none,hget,hmodel,hshows,fun x => iff_of_false (by simp) not_latest_nil⟩)
    (fun past sys e => by
      rintro ⟨hsame,b,r,hget,hmodel,hshows,hlatest⟩ he
      obtain ⟨after,hafter,hmodel',hshows'⟩ := socStep_shows hids hb hsame he hget hmodel hshows
      refine ⟨(cfg_socStep sys e).trans hsame,after,_,hafter,hmodel'.trans hmodel,hshows',?_⟩
      intro x
      rw [latest_concat_iff, ← hlatest]
      cases e.gives bcfg <;> simp)
    hmeet
  refine ⟨b,r,hget,hshows,hlatest,fun x hx => ?_⟩
  obtain ⟨pre,e,post,rfl,hgives⟩ := ((hlatest x).mp hx).exists_gives
  obtain ⟨task,htask,hsource⟩ := source_of_gives hids hb
    (hspawned e (List.mem_append_right _ List.mem_cons_self)) hgives
  exact ⟨task,socTasks_eq_singleton htask,hsource⟩

/-- Batteries are polled over Modbus. An edit asks for Home Assistant, which only a restart brings:
it drops the readings, and the poll loops go on to bring new ones. -/
def sourceEdited : List SocEvent :=
  [.poll "a" (.ok [55]) 1,.poll "b" (.ok [70]) 2,.refreshActivity { pulseHouse with
    homeAssistant := { enabled := true, token := "secret" } },.poll "a" (.ok [56]) 3]

theorem soc_from_one_source_house : ∃ b r, (run socStep (SocSystem.start pulseHouse)
      sourceEdited).batteries.get? "a" = some b ∧ b.Shows r ∧
    ∀ x, r = some x → x.source = "modbus:32104" := by
  have ha : wallBattery "a" "10.0.0.1" "garage" ∈ pulseHouse.batteries := by decide +kernel
  have hb : wallBattery "b" "10.0.0.2" "garage" ∈ pulseHouse.batteries := by decide +kernel
  have hspawned : ∀ e ∈ sourceEdited, e.Spawned pulseHouse := by
    intro e he
    simp only [sourceEdited,List.mem_cons,List.not_mem_nil,or_false] at he
    rcases he with rfl | rfl | rfl | rfl
    · exact ⟨_,ha,rfl,by decide +kernel⟩
    · exact ⟨_,hb,rfl,by decide +kernel⟩
    · trivial
    · exact ⟨_,ha,rfl,by decide +kernel⟩
  obtain ⟨b,r,hget,hshows,-,hsource⟩ := soc_from_one_source pulseHouse_valid hspawned ha
  refine ⟨b,r,hget,hshows,fun x hx => ?_⟩
  obtain ⟨task,htask,hname⟩ := hsource x hx
  have hpoll : socTasks pulseHouse (wallBattery "a" "10.0.0.1" "garage") = [.pollLoop] := by
    decide +kernel
  rw [hpoll] at htask
  cases htask
  rw [hname]
  decide +kernel

end ShellyMultiplexer
