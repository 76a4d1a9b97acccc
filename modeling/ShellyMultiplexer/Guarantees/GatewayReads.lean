import ShellyMultiplexer.Fleet.System
import ShellyMultiplexer.Foundation.Latest
import ShellyMultiplexer.Guarantees.Routing
import ShellyMultiplexer.Guarantees.VirtualReads

/-! # What the gateway serves

A client of the virtual Modbus server is served from what the writers have cached. So every word of
an answer is the word that the inverter behind the unit id gave for that register in the last refresh
that it answered, whatever the fleet has done since.
-/
namespace ShellyMultiplexer
open Foundation

/-! ## The cache of a writer -/

namespace WriterTask

/-- The tier that the task is refreshing. -/
def refreshing (task : WriterTask) : Option Tier :=
  match task.phase with
  | .serving .fastTimer => some .fast
  | .serving .slowTimer => some .slow
  | _ => none

/-- The cached registers in the entry of its battery. -/
def cached (task : WriterTask) : RegisterCache :=
  task.refresh.battery.elim Table.empty RefreshedBattery.cachedHoldingRegs

/-- The step is a refresh in which the inverter gives the word for the register. -/
def Hears (task : WriterTask) (e : TaskEvent) (reg word : UInt16) : Prop :=
  ∃ tier w, task.refreshing = some tier ∧ e = .perform w ∧
    { task.refresh with connected := task.connected }.Hears tier w.refresh reg ∧
      w.refresh.word reg = some word

variable {task : WriterTask} {reg : UInt16}

theorem perform_refreshing {tier : Tier} (h : task.refreshing = some tier) (w : LoopWorld) :
    task.perform w = { task.refreshTier tier w.refresh with phase := .waiting w.back } := by
  unfold refreshing at h
  cases hp : task.phase with
  | serving branch =>
    rw [hp] at h
    cases branch <;> cases h <;> simp only [perform,hp]
  | _ =>
    rw [hp] at h
    cases h

theorem refreshTier_merges {b : RefreshedBattery} (hb : task.refresh.battery = some b) (tier : Tier)
    (w : RefreshWorld) : ∃ b', (task.refreshTier tier w).refresh.battery = some b' ∧
      { task.refresh with connected := task.connected }.Merges tier w b b' :=
  RefreshSystem.tierRefresh_merges { task.refresh with connected := task.connected } tier w hb

/-- A refresh takes over the words that come in. -/
theorem cached_of_hears {e : TaskEvent} {word : UInt16} (hb : task.refresh.battery.isSome = true)
    (h : task.Hears e reg word) : (taskStep task e).cached.get? reg = some word := by
  obtain ⟨tier,w,htier,rfl,hears,hword⟩ := h
  obtain ⟨b,hb⟩ := Option.isSome_iff_exists.mp hb
  obtain ⟨b',hb',hmerge⟩ := refreshTier_merges hb tier w.refresh
  rw [taskStep, perform_refreshing htier, cached]
  dsimp only
  rw [hb', Option.elim_some, (hmerge.heard reg hears).1, hword]

/-- The reads of the state of charge leave the cache alone. -/
theorem cached_pollSocOnly (w : SocWorld) : (task.pollSocOnly w).cached = task.cached ∧
    (task.pollSocOnly w).refresh.battery.isSome = task.refresh.battery.isSome := by
  have hread : (task.socRead w).cached = task.cached ∧
      (task.socRead w).refresh.battery.isSome = task.refresh.battery.isSome := by
    unfold cached socRead
    cases task.refresh.battery <;> exact ⟨rfl,rfl⟩
  unfold pollSocOnly
  split
  · exact hread
  · split
    · exact hread
    · exact ⟨rfl,rfl⟩

theorem cached_serveChanged (desired : Setpoint) (w : LoopWorld) :
    (task.serveChanged desired w).cached = task.cached ∧
    (task.serveChanged desired w).refresh.battery.isSome = task.refresh.battery.isSome := by
  unfold serveChanged doWrite
  dsimp only
  split
  · split
    · exact cached_pollSocOnly w.soc
    · exact ⟨rfl,rfl⟩
  · split
    · exact cached_pollSocOnly w.soc
    · exact ⟨rfl,rfl⟩

/-- Only a refresh touches the cache. -/
theorem cached_of_not_refreshing {e : TaskEvent} (h : ∀ w, e = .perform w → task.refreshing = none) :
    (taskStep task e).cached = task.cached ∧
      (taskStep task e).refresh.battery.isSome = task.refresh.battery.isSome := by
  cases e with
  | send sp => exact ⟨rfl,rfl⟩
  | stop => exact ⟨rfl,rfl⟩
  | init a charging discharging now =>
    rw [taskStep]
    split
    · unfold initOnce
      dsimp only
      split <;> exact ⟨rfl,rfl⟩
    · exact ⟨rfl,rfl⟩
  | select now =>
    rw [taskStep, select]
    split <;> exact ⟨rfl,rfl⟩
  | perform w =>
    have hnone := h w rfl
    unfold refreshing at hnone
    rw [taskStep]
    cases hp : task.phase with
    | serving branch =>
      rw [hp] at hnone
      cases branch with
      | shutdown => simp only [perform,hp]; exact ⟨rfl,trivial⟩
      | changed => simp only [perform,hp]; exact ⟨rfl,trivial⟩
      | socTimer => simp only [perform,hp]; exact cached_pollSocOnly w.soc
      | _ => cases hnone
    | delivering desired => simp only [perform,hp]; exact cached_serveChanged desired w
    | _ => simp only [perform,hp]; exact ⟨trivial,trivial⟩

theorem entry_taskStep (e : TaskEvent) (hb : task.refresh.battery.isSome = true) :
    (taskStep task e).refresh.battery.isSome = true := by
  by_cases hidle : ∀ w, e = .perform w → task.refreshing = none
  · rw [(cached_of_not_refreshing hidle).2, hb]
  · push Not at hidle
    obtain ⟨w,rfl,hw⟩ := hidle
    obtain ⟨tier,htier⟩ := Option.ne_none_iff_exists'.mp hw
    obtain ⟨b,hb⟩ := Option.isSome_iff_exists.mp hb
    obtain ⟨b',hb',-⟩ := refreshTier_merges hb tier w.refresh
    rw [taskStep, perform_refreshing htier]
    dsimp only
    rw [hb']
    rfl

/-- A register that nothing is heard of keeps its word. -/
theorem cached_of_not_hears {e : TaskEvent} (hb : task.refresh.battery.isSome = true)
    (h : ∀ word, ¬ task.Hears e reg word) :
    (taskStep task e).cached.get? reg = task.cached.get? reg := by
  by_cases hidle : ∀ w, e = .perform w → task.refreshing = none
  · rw [(cached_of_not_refreshing hidle).1]
  · push Not at hidle
    obtain ⟨w,rfl,hw⟩ := hidle
    obtain ⟨tier,htier⟩ := Option.ne_none_iff_exists'.mp hw
    obtain ⟨b,hb⟩ := Option.isSome_iff_exists.mp hb
    obtain ⟨b',hb',hmerge⟩ := refreshTier_merges hb tier w.refresh
    have hsilent : ¬ { task.refresh with connected := task.connected }.Hears tier w.refresh reg := by
      intro hears
      obtain ⟨word,hword⟩ := Option.isSome_iff_exists.mp hears.answered
      exact h word ⟨tier,w,htier,rfl,hears,hword⟩
    rw [taskStep, perform_refreshing htier, cached, cached]
    dsimp only
    rw [hb', hb, Option.elim_some, Option.elim_some, (hmerge.kept reg hsilent).1]

end WriterTask

/-! ## The gateway in front of a fleet -/

/-- No step leaves the routing of the unit ids. -/
theorem runTick_byUnitId {sun : Sunrise} {s : AppState} {live : Config} {channels : Channels}
    {t : TickTimes} {r : Tick} (h : runTick sun s live (some channels) t = some r) :
    r.state.byUnitId = s.byUnitId := by
  have hnight : ∀ s : AppState, (enforceNightCutoff s live.dispatcher live.location sun t.utc
      t.night).state.byUnitId = s.byUnitId := by
    intro s
    unfold enforceNightCutoff
    split
    · rfl
    · split <;> rfl
  have hbefore : (beforeStep sun s live (some channels) t).state.byUnitId = s.byUnitId := by
    rw [beforeStep]
    refine (hnight _).trans ?_
    unfold enforceCircuitSafety
    split <;> rfl
  unfold runTick at h
  dsimp only at h
  split at h
  · obtain ⟨s',hs',rfl⟩ := Option.map_eq_some_iff.mp h
    refine Eq.trans ?_ hbefore
    unfold stepPulse at hs'
    dsimp only at hs'
    split at hs'
    · cases hs'
      rfl
    · split at hs'
      · cases hs'
        rfl
      · obtain ⟨deltas,-,rfl⟩ := Option.map_eq_some_iff.mp hs'
        rfl
  · obtain ⟨tick,htick,rfl⟩ := Option.map_eq_some_iff.mp h
    cases hd : (beforeStep sun s live (some channels) t).dispatch with
    | none =>
      rw [hd] at htick
      cases htick
      exact hbefore
    | some parked =>
      rw [hd] at htick
      rcases stepModbus_cases htick with ⟨-,rfl⟩ | ⟨-,targets,channels',summaries,-,-,rfl⟩
      · exact hbefore
      · exact hbefore

namespace Fleet

/-- What the writers of the batteries have cached; a battery without a writer has nothing. -/
def cached (f : Fleet) (batteryId : String) : RegisterCache :=
  (f.tasks.get? batteryId).elim Table.empty WriterTask.cached

/-- The virtual Modbus server over the state that it shares with the writers. -/
def server (f : Fleet) (stats : InboundStats) : ModbusServer where
  app := f.app
  cachedHoldingRegs := f.cached
  stats := stats

/-- The step is a refresh in which the inverter of the battery gives the word for the register. -/
def Hears (batteryId : String) (reg : UInt16) (f : Fleet) (e : FleetEvent) (word : UInt16) : Prop :=
  ∃ task te, f.tasks.get? batteryId = some task ∧ e = .task batteryId te ∧ task.Hears te reg word

/-- Every writer has the entry of its battery to write to. -/
def Entered (f : Fleet) : Prop :=
  ∀ id task, f.tasks.get? id = some task → task.refresh.battery.isSome = true

variable {sun : Sunrise} {f : Fleet} {e : FleetEvent} {id : String} {reg word : UInt16}

theorem entered_start (cfg : Config) (leftover : String → Registers) :
    (Fleet.start cfg leftover).Entered := by
  intro id task h
  obtain ⟨b,-,-,rfl⟩ := spawnTasks_cases h
  rfl

theorem Entered.step (h : f.Entered) (e : FleetEvent) : (fleetStep sun f e).Entered := by
  intro id task' htask'
  obtain ⟨task,htask,hcase⟩ := fleetStep_task htask'
  rcases hcase with rfl | ⟨sp,rest,-,-,rfl⟩ | ⟨te,-,-,rfl⟩
  · exact h id task' htask
  · exact h id task htask
  · exact task.entry_taskStep te (h id task htask)

theorem cached_of_hears (hf : f.Entered) (h : Hears id reg f e word) :
    ((fleetStep sun f e).cached id).get? reg = some word := by
  obtain ⟨task,te,htask,rfl,hears⟩ := h
  have hword := WriterTask.cached_of_hears (hf id task htask) hears
  obtain ⟨tier,w,-,rfl,-,-⟩ := hears
  rw [cached, fleetStep]
  dsimp only
  rw [Table.get?_modify_self, htask, Option.map_some, Option.elim_some, ownStep]
  · exact hword
  · simp

theorem cached_of_not_hears (hf : f.Entered) (h : ∀ word, ¬ Hears id reg f e word) :
    ((fleetStep sun f e).cached id).get? reg = (f.cached id).get? reg := by
  cases e with
  | tick live t =>
    rw [fleetStep]
    split <;> rfl
  | emit =>
    rw [fleetStep]
    split
    · rfl
    · rename_i p rest hp
      rw [cached, cached]
      dsimp only
      rw [Table.get?_modify]
      split
      · cases f.tasks.get? id <;> rfl
      · rfl
  | task id' te =>
    rw [fleetStep, cached, cached]
    dsimp only
    rw [Table.get?_modify]
    split
    · rename_i hid
      subst hid
      cases htask : f.tasks.get? id with
      | none => rfl
      | some task =>
        rw [Option.map_some, Option.elim_some, Option.elim_some]
        have hkeep := WriterTask.cached_of_not_hears (hf id task htask)
          (fun word hears => h word ⟨task,te,htask,rfl,hears⟩)
        cases te with
        | send sp => rfl
        | _ => exact hkeep
    · rfl
  | world batteries snapshot => rfl

/-- The cache of a battery holds what its inverter gave last. -/
theorem cached_eq_some_iff (cfg : Config) (leftover : String → Registers) (events : List FleetEvent)
    (id : String) (reg word : UInt16) :
    ((fleetAfter sun cfg leftover events).cached id).get? reg = some word ↔
      Latest (fleetStep sun) (Hears id reg) (Fleet.start cfg leftover) events word := by
  have hempty : ((Fleet.start cfg leftover).cached id).get? reg = none := by
    rw [cached]
    cases htask : (Fleet.start cfg leftover).tasks.get? id with
    | none => rfl
    | some task =>
      obtain ⟨b,-,-,rfl⟩ := spawnTasks_cases htask
      rfl
  exact cell_eq_some_iff (fun f : Fleet => (f.cached id).get? reg) Entered
    (entered_start cfg leftover) (fun _ e h => h.step e) hempty
    (fun _ _ _ hf h => cached_of_hears hf h) (fun _ _ hf h => cached_of_not_hears hf h) events word

theorem byUnitId_fleetAfter (cfg : Config) (leftover : String → Registers)
    (events : List FleetEvent) :
    (fleetAfter sun cfg leftover events).app.byUnitId = (AppState.fromConfig cfg).byUnitId := by
  refine run_always (fun f : Fleet => f.app.byUnitId = (AppState.fromConfig cfg).byUnitId) rfl
    (fun f e h => ?_) events
  cases e with
  | tick live t =>
    rw [fleetStep]
    split
    · cases hr : runTick sun f.app live (some f.channels) t with
      | none => exact h
      | some r => exact (runTick_byUnitId hr).trans h
    · exact h
  | emit =>
    rw [fleetStep]
    split <;> exact h
  | task id' te => exact h
  | world batteries snapshot => exact h

end Fleet

/-- Whatever the process has done so far, a read of the unit id of a battery is answered with the
words that the inverter of that battery gave last for the registers that were asked for. -/
theorem gateway_serves_latest {isSocketAddr : String → Bool} {cfg : Config}
    (hcfg : cfg.validate isSocketAddr = .ok ()) (hon : cfg.virtualModbus.enabled = true)
    {i : ℕ} {b : BatteryConfig} (hb : cfg.batteries[i]? = some b) {req : ModbusRequest}
    {addr count : UInt16} (hreads : req.Reads addr count) (hsome : 0 < count.toNat) (sun : Sunrise)
    (leftover : String → Registers) (events : List FleetEvent) (stats : InboundStats)
    (words : List UInt16) :
    ((fleetAfter sun cfg leftover events).server stats).answer (b.effectiveVirtualUnitId i) req =
        .ok (some (.readHoldingRegisters words)) ↔
      words.length = count.toNat ∧ ∀ k word, words[k]? = some word →
        Latest (fleetStep sun)
          (Fleet.Hears b.id (aliasProbeRegister b.marstekModel (addr + UInt16.ofNat k)))
          (Fleet.start cfg leftover) events word := by
  have hw := Config.wellFormed_of_validate hcfg
  have hmem := List.mem_of_getElem? hb
  obtain ⟨bs,j,hbs,hparams⟩ := (runtimeOf_fleet cfg leftover events).battery_of_mem hw hmem
  have hmodel : bs.marstekModel = b.marstekModel := by rw [hparams]; rfl
  have hrouted : (fleetAfter sun cfg leftover events).app.byUnitId.get?
      (b.effectiveVirtualUnitId i) = some b.id := by
    rw [Fleet.byUnitId_fleetAfter]
    exact (fromConfig_unit hcfg hon _ _).mpr ⟨i,b,hb,rfl,rfl⟩
  have hword : ∀ k word, ((fleetAfter sun cfg leftover events).server stats).wordAt b.id bs addr k =
      some word ↔ Latest (fleetStep sun)
        (Fleet.Hears b.id (aliasProbeRegister b.marstekModel (addr + UInt16.ofNat k)))
        (Fleet.start cfg leftover) events word := by
    intro k word
    rw [← Fleet.cached_eq_some_iff, ModbusServer.wordAt, hmodel]
    rfl
  simp only [← hword]
  rw [ModbusServer.answer_ok_iff, ← mapM_range_eq_some_iff]
  constructor
  · rintro ⟨addr',count',id,bs',words',hreads',hs,hwords,hresponse⟩
    obtain ⟨rfl,rfl⟩ := hreads.unique hreads'
    obtain rfl : id = b.id := Option.some.inj (hs.routed.symm.trans hrouted)
    obtain rfl : bs' = bs := Option.some.inj (hs.battery.symm.trans hbs)
    cases hresponse
    exact hwords
  · intro hwords
    refine ⟨addr,count,b.id,bs,words,hreads,⟨hrouted,hbs,fun hempty => ?_⟩,hwords,rfl⟩
    -- a cache that serves the first word is not empty
    have hfirst := mapM_isSome_iff.mp (Option.isSome_iff_exists.mpr ⟨words,hwords⟩) 0
      (List.mem_range.mpr hsome)
    rw [ModbusServer.wordAt, Table.get?, hempty] at hfirst
    cases hfirst
/-- Battery b is refreshed, and the next time its inverter refuses every register. -/
def refreshedFleet : List FleetEvent :=
  [.task "b" (.init answeringWire .timeout .timeout 0),.task "b" (.select 0),
    .task "b" (.perform (answeringLoop (fun _ => .words [55]) 1)),.task "b" (.select 10),
    .task "b" (.perform (answeringLoop (fun _ => .exception "ServerDeviceBusy") 11))]

theorem gateway_serves_latest_house : Latest (fleetStep noSun) (Fleet.Hears "b" 32104)
    (Fleet.start house noLeftover) refreshedFleet 55 := by
  have hserved : ((fleetAfter noSun house noLeftover refreshedFleet).server {}).answer 2
      (.readHoldingRegisters 32104 1) = .ok (some (.readHoldingRegisters [55])) := by
    decide +kernel
  have hread := gateway_serves_latest house_valid rfl (i := 1) rfl (.holding 32104 1) (by decide)
    noSun noLeftover refreshedFleet {} [55]
  exact (hread.mp hserved).2 0 55 rfl

end ShellyMultiplexer
