import ShellyMultiplexer.Fleet.System

/-! # Where a power comes from

Through the channels and the tasks of the writers, every power that is ever written to an inverter,
and every force mode, goes back to a pass of the dispatcher that has commanded it.
-/
namespace ShellyMultiplexer
open Foundation

/-- The write brings in a setpoint that is on the log. -/
def Logged (log : List Send) (id : String) (w : RegisterWrite) : Prop :=
  ∃ sp, (id,sp) ∈ log ∧ w ∈ writeSetpointOn sp

/-- Everything that is on its way, in a channel or on a wire is on the log, or parks an inverter. -/
structure Traced (log : List Send) (f : Fleet) : Prop where
  pending : f.pending ⊆ log
  value : ∀ id task, f.tasks.get? id = some task →
    task.rx.value = .standby ∨ (id,task.rx.value) ∈ log
  delivery : ∀ id task, f.tasks.get? id = some task → ∀ sp ∈ task.underDelivery,
    sp = .standby ∨ (id,sp) ∈ log
  written : ∀ id task, f.tasks.get? id = some task → ∀ w ∈ task.wire.written,
    w ∈ parkingWrites ∨ Logged log id w

theorem standby_parkingWrites {w : RegisterWrite} (h : w ∈ writeSetpointOn .standby) :
    w ∈ parkingWrites := List.mem_append_left _ (List.mem_append_right _ h)

theorem rx_initOnce (task : WriterTask) (a : WireAttempt) (charging discharging : WireReply)
    (now : Instant) : (task.initOnce a charging discharging now).rx = task.rx := by
  unfold WriterTask.initOnce
  dsimp only
  split <;> rfl

/-- Only a send changes the value of a channel. -/
theorem value_taskStep (task : WriterTask) {e : TaskEvent} (he : ∀ sp, e ≠ .send sp) :
    (taskStep task e).rx.value = task.rx.value := by
  cases e with
  | send sp => exact absurd rfl (he sp)
  | stop => rfl
  | init a charging discharging now =>
    rw [taskStep]
    split
    · rw [rx_initOnce]
    · rfl
  | select now =>
    rw [taskStep, WriterTask.select]
    split
    · rw [WriterTask.serve]
      dsimp only
      split <;> rfl
    · rfl
  | perform w => rw [taskStep, WriterTask.rx_perform]

/-- What is being delivered after a step was being delivered before it, or is read by it. -/
theorem mem_underDelivery {task : WriterTask} {e : TaskEvent} {sp : Setpoint}
    (h : sp ∈ (taskStep task e).underDelivery) :
    sp ∈ task.underDelivery ∨ sp = task.rx.value := by
  have hphase : (taskStep task e).phase = .delivering sp := by
    unfold WriterTask.underDelivery at h
    split at h
    · rename_i desired hp
      rw [hp, List.mem_singleton.mp h]
    · cases h
  rcases task.taskStep_move e with ⟨-,hp⟩ | ⟨_,-,-,hp⟩ | ⟨_,_,_,-,-,-,-,hp⟩ | ⟨-,-,hp⟩ | ⟨-,-,hp⟩ |
    ⟨_,_,-,-,-,hp⟩
  · rw [WriterTask.underDelivery_of_delivering (hp.symm.trans hphase)]
    exact Or.inl (List.mem_singleton_self _)
  · cases hp.symm.trans hphase
  · cases hp.symm.trans hphase
  · exact Or.inr (Phase.delivering.inj (hphase.symm.trans hp))
  · cases hp.symm.trans hphase
  · cases hp.symm.trans hphase

section Trace
variable {sun : Sunrise} {log : List Send} {f : Fleet}

theorem Traced.more (h : Traced log f) (more : List Send) : Traced (log ++ more) f where
  pending := fun _ hp => List.mem_append_left _ (h.pending hp)
  value := fun id task htask => (h.value id task htask).imp_right (List.mem_append_left _)
  delivery := fun id task htask sp hsp =>
    (h.delivery id task htask sp hsp).imp_right (List.mem_append_left _)
  written := fun id task htask w hw => (h.written id task htask w hw).imp_right
    (fun ⟨sp,hsp,hmem⟩ => ⟨sp,List.mem_append_left _ hsp,hmem⟩)

theorem Traced.step (h : Traced log f) (e : FleetEvent) :
    Traced (log ++ issued sun f e) (fleetStep sun f e) := by
  have hmore := h.more (issued sun f e)
  refine ⟨fun p hp => ?_,fun id task' htask' => ?_,fun id task' htask' sp' hsp' => ?_,
    fun id task' htask' w hw => ?_⟩
  · rcases mem_pending hp with hp | hp
    · exact hmore.pending hp
    · exact List.mem_append_right _ hp
  · obtain ⟨task,htask,rfl | ⟨sp,rest,-,hpending,rfl⟩ | ⟨te,-,hte,rfl⟩⟩ := fleetStep_task htask'
    · exact hmore.value id _ htask
    · exact Or.inr (hmore.pending (by rw [hpending]; exact List.mem_cons_self))
    · rw [value_taskStep task hte]
      exact hmore.value id _ htask
  · have hread : ∀ task, f.tasks.get? id = some task → ∀ te,
        sp' ∈ (taskStep task te).underDelivery →
          sp' = .standby ∨ (id,sp') ∈ log ++ issued sun f e := by
      intro task htask te hmem
      rcases mem_underDelivery hmem with hbefore | rfl
      · exact hmore.delivery id task htask sp' hbefore
      · exact hmore.value id task htask
    obtain ⟨task,htask,rfl | ⟨sp,rest,-,-,rfl⟩ | ⟨te,-,-,rfl⟩⟩ := fleetStep_task htask'
    · exact hmore.delivery id _ htask sp' hsp'
    · exact hread task htask _ hsp'
    · exact hread task htask _ hsp'
  · obtain ⟨task,htask,rfl | ⟨sp,rest,-,-,rfl⟩ | ⟨te,-,-,rfl⟩⟩ := fleetStep_task htask'
    · exact hmore.written id _ htask w hw
    · exact hmore.written id _ htask w hw
    · obtain ⟨new,hnew,hsource⟩ := task.written_taskStep te
      rw [hnew] at hw
      rcases List.mem_append.mp hw with hw | hw
      · exact hmore.written id task htask w hw
      · rcases hsource with hpark | ⟨desired,hdesired,hsub⟩
        · exact Or.inl (hpark hw)
        · rcases hmore.delivery id task htask desired hdesired with rfl | hlog
          · exact Or.inl (standby_parkingWrites (hsub hw))
          · exact Or.inr ⟨desired,hlog,hsub hw⟩

theorem Traced.start (cfg : Config) (leftover : String → Registers) :
    Traced [] (Fleet.start cfg leftover) where
  pending := List.nil_subset _
  value := by
    intro id task htask
    obtain ⟨b,-,-,rfl⟩ := spawnTasks_cases htask
    exact Or.inl rfl
  delivery := by
    intro id task htask sp hsp
    obtain ⟨b,-,-,rfl⟩ := spawnTasks_cases htask
    cases hsp
  written := by
    intro id task htask w hw
    obtain ⟨b,-,-,rfl⟩ := spawnTasks_cases htask
    cases hw

theorem traced_run (sun : Sunrise) (cfg : Config) (leftover : String → Registers)
    (events : List FleetEvent) :
    Traced (outputs (fleetStep sun) (issued sun) (Fleet.start cfg leftover) events)
      (fleetAfter sun cfg leftover events) :=
  outputs_inv Traced (Traced.start cfg leftover) (fun _ _ e h => h.step e) events

end Trace

/-! ## The command behind a write -/

/-- Writes that park an inverter turn its control on or off and write nothing else but zeros. -/
theorem parkingWrites_zero {w : RegisterWrite} (h : w ∈ parkingWrites) :
    w.cell = regRs485ControlMode ∨ w.value = 0 := by
  revert w
  decide

/-- The watts in a setpoint are those of its direction. -/
theorem watts_of_write {sp : Setpoint} {w : RegisterWrite} (h : w ∈ writeSetpointOn sp)
    (hw : w.value ≠ 0) :
    (w.cell = regChargePowerSetpoint → sp = .charge w.value) ∧
      (w.cell = regDischargePowerSetpoint → sp = .discharge w.value) := by
  rcases sp.standby_or_forced with rfl | ⟨d,watts,rfl⟩
  · have hzero : ∀ v ∈ writeSetpointOn .standby, v.cell = regRs485ControlMode ∨ v.value = 0 := by
      decide
    rcases hzero w h with hc | hz
    · rw [hc]
      exact ⟨fun hno => absurd hno (by decide),fun hno => absurd hno (by decide)⟩
    · exact absurd hz hw
  · rw [d.writeSetpointOn_setpoint] at h
    simp only [List.mem_cons,List.not_mem_nil,or_false] at h
    rcases h with rfl | rfl | rfl | rfl
    · exact ⟨fun hno => absurd hno (by decide),fun hno => absurd hno (by decide)⟩
    · exact absurd rfl hw
    · have hcharge : regForceMode ≠ regChargePowerSetpoint := by decide
      have hdischarge : regForceMode ≠ regDischargePowerSetpoint := by decide
      exact ⟨fun hno => absurd hno hcharge,fun hno => absurd hno hdischarge⟩
    · have hne : regChargePowerSetpoint ≠ regDischargePowerSetpoint := by decide
      cases d
      · exact ⟨fun _ => rfl,fun hno => absurd hno hne⟩
      · exact ⟨fun hno => absurd hno hne.symm,fun _ => rfl⟩

/-- The limits of a setpoint that is commanded are those of the configuration. -/
theorem CommandedBy.limits {sun : Sunrise} {s : AppState} {live cfg : Config} {channels : Channels}
    {t : TickTimes} {id : String} {sp : Setpoint} (hw : cfg.WellFormed) (hs : s.RuntimeOf cfg)
    (h : CommandedBy sun s live channels t id sp) : ∃ b ∈ cfg.batteries, b.id = id ∧
      -b.maxChargeW ≤ sp.toSignedWatts ∧ sp.toSignedWatts ≤ b.maxDischargeW := by
  obtain ⟨b,targets,-,hb,rfl,-,hsp⟩ := h.computed
  have hrun : (updateCircuitMute (beforeStep sun s live (some channels) t).state live.dispatcher
      t.step).1.RuntimeOf cfg :=
    runtimeOf_updateCircuitMute (runtimeOf_beforeStep hs sun live (some channels) t)
  obtain ⟨k,hk⟩ := (Table.mem_values_iff _ _).mp hb
  obtain ⟨c,hc,i,hid,hp⟩ := hrun.battery hw hk
  have hbid : b.id = c.id := congrArg BatteryParams.id hp
  have hcharge : b.maxChargeW = c.maxChargeW := congrArg BatteryParams.maxChargeW hp
  have hdischarge : b.maxDischargeW = c.maxDischargeW := congrArg BatteryParams.maxDischargeW hp
  have hlimits := hw.battery c hc
  obtain ⟨⟨hlow,hhigh⟩,-⟩ := Setpoint.toSignedWatts_mem (by rw [hcharge]; exact hlimits.charge_nonneg)
    (by rw [hdischarge]; exact hlimits.discharge_nonneg) hsp
  exact ⟨c,hc,hbid.symm,hcharge ▸ hlow,hdischarge ▸ hhigh⟩

/-- A force mode or a power that has been written was commanded by an earlier pass of the modbus
mode, on a fresh grid, for a battery that was neither cut nor muted; and the power is at most the
limit of the battery. -/
theorem power_traces_to_command {cfg : Config} {isSocketAddr : String → Bool}
    (hcfg : cfg.validate isSocketAddr = .ok ()) (sun : Sunrise) (leftover : String → Registers)
    (events : List FleetEvent) {id : String} {task : WriterTask}
    (htask : (fleetAfter sun cfg leftover events).tasks.get? id = some task)
    {w : RegisterWrite} (hw : w ∈ task.wire.written) (hpower : w.value ≠ 0)
    (hcell : w.cell ≠ regRs485ControlMode) :
    ∃ pre live t post sp, events = pre ++ .tick live t::post ∧ w ∈ writeSetpointOn sp ∧
      CommandedBy sun (fleetAfter sun cfg leftover pre).app live
        (fleetAfter sun cfg leftover pre).channels t id sp ∧
      ∃ b ∈ cfg.batteries, b.id = id ∧
        (w.cell = regChargePowerSetpoint → (w.value.toNat : ℚ) ≤ b.maxChargeW) ∧
        (w.cell = regDischargePowerSetpoint → (w.value.toNat : ℚ) ≤ b.maxDischargeW) := by
  have hwf := Config.wellFormed_of_validate hcfg
  have htraced := traced_run sun cfg leftover events
  rcases htraced.written id task htask w hw with hpark | ⟨sp,hsp,hmem⟩
  · rcases parkingWrites_zero hpark with hc | hz
    · exact absurd hc hcell
    · exact absurd hz hpower
  · obtain ⟨pre,e,post,hevents,hissued⟩ := mem_outputs_iff.mp hsp
    obtain ⟨live,t,rfl,hsends⟩ := mem_issued hissued
    have hcmd := mem_tickSends hsends
    have hno : sp ≠ .standby := by
      rintro rfl
      rcases parkingWrites_zero (standby_parkingWrites hmem) with hc | hz
      · exact hcell hc
      · exact hpower hz
    have hby := hcmd.resolve_left hno
    obtain ⟨b,hb,hid,hlow,hhigh⟩ := hby.limits hwf (runtimeOf_fleet cfg leftover pre)
    obtain ⟨hcharge,hdischarge⟩ := watts_of_write hmem hpower
    refine ⟨pre,live,t,post,sp,hevents,hmem,hby,b,hb,hid,fun hc => ?_,fun hd => ?_⟩
    · rw [hcharge hc] at hlow
      exact neg_le_neg_iff.mp hlow
    · rw [hdischarge hd] at hhigh
      exact hhigh

theorem power_traces_to_command_house : ∃ task,
    (fleetAfter noSun house noLeftover dischargingFleet).tasks.get? "a" = some task ∧
    ⟨regDischargePowerSetpoint,330⟩ ∈ task.wire.written ∧
    ∃ pre live t post sp, dischargingFleet = pre ++ .tick live t::post ∧
      ⟨regDischargePowerSetpoint,330⟩ ∈ writeSetpointOn sp ∧
      CommandedBy noSun (fleetAfter noSun house noLeftover pre).app live
        (fleetAfter noSun house noLeftover pre).channels t "a" sp := by
  obtain ⟨task,htask⟩ := Option.isSome_iff_exists.mp
    (by decide +kernel :
      ((fleetAfter noSun house noLeftover dischargingFleet).tasks.get? "a").isSome = true)
  have hwritten : ((fleetAfter noSun house noLeftover dischargingFleet).tasks.get? "a").all
      (fun task => decide (⟨regDischargePowerSetpoint,330⟩ ∈ task.wire.written)) = true := by
    decide +kernel
  rw [htask] at hwritten
  have hw := of_decide_eq_true hwritten
  obtain ⟨pre,live,t,post,sp,hevents,hmem,hby,-⟩ := power_traces_to_command house_valid noSun
    noLeftover dischargingFleet htask hw (by decide) (by decide)
  exact ⟨task,htask,hw,pre,live,t,post,sp,hevents,hmem,hby⟩

end ShellyMultiplexer
