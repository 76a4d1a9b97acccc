import ShellyMultiplexer.Guarantees.PowerOrigin

/-! # A fleet without a grid reading

Once the sends of a pass that finds the grid stale have reached the channels, the writers finish the
deliveries they are at and write nothing but zeros then, until a pass finds the grid fresh again. What
an inverter holds by then is another matter: a writer that believes its inverter to be in standby
skips the zeros.
-/
namespace ShellyMultiplexer
open Foundation

/-- The pass commands nothing: it finds the grid stale, or is one of the pulse mode. -/
def QuietPass (f : Fleet) : FleetEvent → Prop
  | .tick live t =>
    live.dispatcher.mode = .pulse ∨ gridFresh f.app live.dispatcher t.step = false
  | _ => True

/-- Nothing but standby is on its way to a channel, and every other channel holds standby. -/
structure Settling (f : Fleet) : Prop where
  pending : ∀ p ∈ f.pending, p.2 = .standby
  value : ∀ id task, f.tasks.get? id = some task →
    task.rx.value = .standby ∨ (id,.standby) ∈ f.pending

/-- Every channel holds standby, and nothing else is on its way. -/
structure Settled (f : Fleet) : Prop where
  pending : ∀ p ∈ f.pending, p.2 = .standby
  value : ∀ id task, f.tasks.get? id = some task → task.rx.value = .standby

/-- The writes that come on top of those before are what is left of a delivery that was under way,
and then harmless. -/
def WritesZeros (before after : WriterTask) : Prop :=
  ∃ rest new, after.wire.written = before.wire.written ++ rest ++ new ∧
    (∀ w ∈ rest, ∃ desired ∈ before.underDelivery, w ∈ writeSetpointOn desired) ∧
    ∀ w ∈ new, w.cell = regRs485ControlMode ∨ w.value = 0

/-- What has become of a task: it is still at the delivery it was at, or past it. -/
inductive Quietens (before after : WriterTask) : Prop
  | delivering (desired : Setpoint) (before_phase : before.phase = .delivering desired)
    (phase : after.phase = .delivering desired) (wire : after.wire = before.wire)
  | past (zeros : WritesZeros before after) (standby : ∀ sp ∈ after.underDelivery, sp = .standby)

namespace Quietens
variable {before task : WriterTask}

theorem refl (before : WriterTask) : Quietens before before := by
  cases hp : before.phase with
  | delivering desired => exact .delivering desired hp hp rfl
  | _ => exact .past ⟨[],[],by simp,by simp,by simp⟩ (by simp [WriterTask.underDelivery,hp])

theorem writesZeros {after : WriterTask} (h : Quietens before after) : WritesZeros before after := by
  rcases h with ⟨desired,-,-,hwire⟩ | ⟨hzeros,-⟩
  · exact ⟨[],[],by simp [hwire],by simp,by simp⟩
  · exact hzeros

/-- With standby in the channel, nothing is read but standby. -/
theorem step (h : Quietens before task) (hvalue : task.rx.value = .standby) (e : TaskEvent) :
    Quietens before (taskStep task e) := by
  rcases h with ⟨desired,hbefore,hp,hwire⟩ | ⟨⟨rest,new,hwritten,hrest,hzero⟩,hstandby⟩
  · rcases WriterTask.delivering_step hp e with ⟨hp',hwire'⟩ | ⟨hdone,new,hnew,hsub⟩
    · exact .delivering desired hbefore hp' (hwire'.trans hwire)
    · refine .past ⟨new,[],?_,fun w hw => ⟨desired,?_,hsub hw⟩,by simp⟩ (by simp [hdone])
      · rw [hnew, hwire, List.append_nil]
      · rw [WriterTask.underDelivery_of_delivering hbefore]
        exact List.mem_singleton_self _
  · obtain ⟨more,hmore,hsource⟩ := task.written_taskStep e
    refine .past ⟨rest,new ++ more,?_,hrest,fun w hw => ?_⟩ (fun sp hsp => ?_)
    · rw [hmore, hwritten]
      simp only [List.append_assoc]
    · rcases List.mem_append.mp hw with hw | hw
      · exact hzero w hw
      · refine parkingWrites_zero ?_
        rcases hsource with hpark | ⟨desired,hdesired,hsub⟩
        · exact hpark hw
        · rw [hstandby desired hdesired] at hsub
          exact standby_parkingWrites (hsub hw)
    · rcases mem_underDelivery hsp with hbefore | rfl
      · exact hstandby sp hbefore
      · exact hvalue

end Quietens

section Quiet
variable {sun : Sunrise} {f : Fleet} {e : FleetEvent}

/-- A quiet pass issues nothing but standby. -/
theorem issued_of_quiet (sun : Sunrise) (h : QuietPass f e) :
    ∀ p ∈ issued sun f e, p.2 = .standby := by
  rintro ⟨id,sp⟩ hp
  obtain ⟨live,t,rfl,hsends⟩ := mem_issued hp
  rcases mem_tickSends hsends with hstandby | hby
  · exact hstandby
  · rcases h with hmode | hstale
    · rw [hby.mode] at hmode
      cases hmode
    · rw [hby.fresh] at hstale
      cases hstale

/-- Standby that is on its way stays on its way until it is sent. -/
theorem standby_pending (sun : Sunrise) (e : FleetEvent) {id : String}
    (h : (id,.standby) ∈ f.pending) (hidle : f.idle = false) :
    (id,.standby) ∈ (fleetStep sun f e).pending ∨
      ∃ rest, e = .emit ∧ f.pending = (id,.standby)::rest := by
  cases e with
  | tick live t =>
    rw [fleetStep, hidle]
    exact Or.inl h
  | emit =>
    rw [fleetStep]
    split
    · exact Or.inl h
    · rename_i p rest hp
      rw [hp] at h
      rcases List.mem_cons.mp h with he | h
      · exact Or.inr ⟨rest,rfl,he ▸ hp⟩
      · exact Or.inl h
  | task id' te => exact Or.inl h
  | world batteries snapshot => exact Or.inl h

theorem idle_eq_false {p : Send} (h : p ∈ f.pending) : f.idle = false := by
  rw [Fleet.idle, List.isEmpty_eq_false_iff_exists_mem.mpr ⟨p,h⟩, Bool.and_false]

/-- After a quiet step the value of a channel is the one before, or standby. -/
theorem value_of_quiet (hp : ∀ p ∈ f.pending, p.2 = .standby) {id : String} {task task' : WriterTask}
    (h : task' = task ∨
      (∃ sp rest, e = .emit ∧ f.pending = (id,sp)::rest ∧ task' = taskStep task (.send sp)) ∨
      ∃ te, e = .task id te ∧ (∀ sp, te ≠ .send sp) ∧ task' = taskStep task te) :
    task'.rx.value = task.rx.value ∨ task'.rx.value = .standby := by
  rcases h with rfl | ⟨sp,rest,-,hpending,rfl⟩ | ⟨te,-,hte,rfl⟩
  · exact Or.inl rfl
  · refine Or.inr (hp (id,sp) ?_)
    rw [hpending]
    exact List.mem_cons_self
  · exact Or.inl (value_taskStep task hte)

theorem pending_of_quiet (hp : ∀ p ∈ f.pending, p.2 = .standby) (hq : QuietPass f e) :
    ∀ p ∈ (fleetStep sun f e).pending, p.2 = .standby := by
  intro p hmem
  rcases mem_pending hmem with hmem | hmem
  · exact hp p hmem
  · exact issued_of_quiet sun hq p hmem

theorem Settling.step (h : Settling f) (hq : QuietPass f e) : Settling (fleetStep sun f e) where
  pending := pending_of_quiet h.pending hq
  value := by
    intro id task' htask'
    obtain ⟨task,htask,hcase⟩ := fleetStep_task htask'
    have hvalue := value_of_quiet h.pending hcase
    rcases h.value id task htask with hstandby | hcoming
    · exact Or.inl (hvalue.elim (fun hv => hv.trans hstandby) (fun hv => hv))
    · rcases standby_pending sun e hcoming (idle_eq_false hcoming) with
        hstill | ⟨rest,rfl,hpending⟩
      · exact Or.inr hstill
      · left
        rw [fleetStep, hpending, Table.get?_modify_self, htask] at htask'
        exact (Option.some.inj htask').symm ▸ rfl

theorem Settling.settled (h : Settling f) (hdone : f.pending = []) : Settled f where
  pending := h.pending
  value := by
    intro id task htask
    refine (h.value id task htask).resolve_right (fun hno => ?_)
    rw [hdone] at hno
    cases hno

theorem Settled.step (h : Settled f) (hq : QuietPass f e) : Settled (fleetStep sun f e) where
  pending := pending_of_quiet h.pending hq
  value := by
    intro id task' htask'
    obtain ⟨task,htask,hcase⟩ := fleetStep_task htask'
    exact (value_of_quiet h.pending hcase).elim (fun hv => hv.trans (h.value id task htask))
      (fun hv => hv)

/-- Where everything is standby, a step brings every task on its way to zeros. -/
theorem Settled.quietens (h : Settled f) {id : String} {before task' : WriterTask}
    (htask' : (fleetStep sun f e).tasks.get? id = some task')
    (hbefore : ∀ task, f.tasks.get? id = some task → Quietens before task) :
    Quietens before task' := by
  obtain ⟨task,htask,hcase⟩ := fleetStep_task htask'
  have hq := hbefore task htask
  rcases hcase with rfl | ⟨sp,rest,-,-,rfl⟩ | ⟨te,-,-,rfl⟩
  · exact hq
  · exact hq.step (h.value id task htask) (.send sp)
  · exact hq.step (h.value id task htask) te

/-- Over a quiet run. -/
theorem Settled.run_quietens (h : Settled f) {events : List FleetEvent}
    (hq : StepsMeet (fleetStep sun) QuietPass f events) {id : String} {task' : WriterTask}
    (htask' : (run (fleetStep sun) f events).tasks.get? id = some task') :
    ∃ task, f.tasks.get? id = some task ∧ Quietens task task' := by
  induction events using List.reverseRecOn generalizing task' with
  | nil => exact ⟨task',htask',Quietens.refl _⟩
  | append_singleton past e ih =>
    rw [run_concat] at htask'
    have hpast : Settled (run (fleetStep sun) f past) :=
      run_inv Settled h (fun _ _ hs hc => hs.step hc) hq.prefix
    obtain ⟨mid,hmid,-⟩ := fleetStep_task htask'
    obtain ⟨task,htask,hfirst⟩ := ih hq.prefix hmid
    refine ⟨task,htask,hpast.quietens htask' (fun other hother => ?_)⟩
    obtain rfl := Option.some.inj (hmid.symm.trans hother)
    exact hfirst

/-- A pass of the modbus mode that finds the grid stale sends every writer standby. -/
theorem settling_of_stale {live : Config} {t : TickTimes} (hidle : f.idle = true)
    (hmode : live.dispatcher.mode = .modbus)
    (hstale : gridFresh f.app live.dispatcher t.step = false) :
    Settling (fleetStep sun f (.tick live t)) := by
  have hquiet : QuietPass f (.tick live t) := Or.inr hstale
  have hissued := issued_of_quiet sun hquiet
  simp only [issued,hidle,if_true] at hissued
  refine ⟨?_,fun id task htask => Or.inr ?_⟩
  · rw [fleetStep, hidle, if_pos rfl]
    exact hissued
  · simp only [fleetStep,hidle,if_true] at htask ⊢
    refine List.mem_append_right _ ?_
    have hsends : stepSends (beforeStep sun f.app live (some f.channels) t).state live.dispatcher
        f.channels t.step = standbySends f.channels.keys := by
      simp only [stepSends,updateCircuitMute_fresh,gridFresh_beforeStep,hstale,Bool.not_false,if_true]
    rw [hmode, hsends]
    refine List.mem_map.mpr ⟨id,?_,rfl⟩
    rw [Fleet.channels, Table.keys_mapVal]
    exact (Table.mem_keys_iff _ _).mpr ⟨task,htask⟩

end Quiet

/-- From the moment the sends of a pass with a stale grid have reached the channels, and as long as
no pass finds the grid fresh again, every writer finishes the delivery it is at and then writes zeros
only, whatever fails or is retried. -/
theorem stale_grid_writes_zeros (sun : Sunrise) (cfg : Config) (leftover : String → Registers)
    (pre mid post : List FleetEvent) {live : Config} {t : TickTimes}
    (hidle : (fleetAfter sun cfg leftover pre).idle = true)
    (hmode : live.dispatcher.mode = .modbus)
    (hstale : gridFresh (fleetAfter sun cfg leftover pre).app live.dispatcher t.step = false)
    (hquiet : StepsMeet (fleetStep sun) QuietPass
      (fleetAfter sun cfg leftover (pre ++ [.tick live t])) (mid ++ post))
    (hsent : (fleetAfter sun cfg leftover (pre ++ .tick live t::mid)).pending = [])
    {id : String} {after : WriterTask} (hafter :
      (fleetAfter sun cfg leftover (pre ++ .tick live t::(mid ++ post))).tasks.get? id = some after) :
    ∃ before, (fleetAfter sun cfg leftover (pre ++ .tick live t::mid)).tasks.get? id = some before ∧
      WritesZeros before after := by
  have htick : fleetAfter sun cfg leftover (pre ++ [.tick live t]) =
      fleetStep sun (fleetAfter sun cfg leftover pre) (.tick live t) :=
    run_concat _ _ _ _
  have hmid : ∀ l, fleetAfter sun cfg leftover (pre ++ .tick live t::l) =
      run (fleetStep sun) (fleetAfter sun cfg leftover (pre ++ [.tick live t])) l := by
    intro l
    have hsplit : pre ++ FleetEvent.tick live t::l = pre ++ [FleetEvent.tick live t] ++ l := by simp
    rw [hsplit]
    exact run_append _ _ _ _
  have hsettling : Settling (fleetAfter sun cfg leftover (pre ++ .tick live t::mid)) := by
    rw [hmid, htick]
    rw [htick] at hquiet
    exact run_inv Settling (settling_of_stale hidle hmode hstale) (fun _ _ hs hc => hs.step hc)
      hquiet.prefix
  rw [hmid, run_append, ← hmid] at hafter
  have hsuffix : StepsMeet (fleetStep sun) QuietPass
      (fleetAfter sun cfg leftover (pre ++ .tick live t::mid)) post := by
    rw [hmid]
    exact hquiet.suffix
  obtain ⟨before,hbefore,hquietens⟩ := (hsettling.settled hsent).run_quietens hsuffix hafter
  exact ⟨before,hbefore,hquietens.writesZeros⟩

/-- The grid goes silent while battery a discharges. -/
def silencedFleet : List FleetEvent :=
  dischargingFleet ++ fleetPass house 10::([.emit,.emit,.emit] ++ fleetServe "a" 11)

theorem stale_grid_writes_zeros_house : ∃ before after,
    (fleetAfter noSun house noLeftover (dischargingFleet ++ fleetPass house 10::[.emit,.emit,.emit])
      ).tasks.get? "a" = some before ∧
    (fleetAfter noSun house noLeftover silencedFleet).tasks.get? "a" = some after ∧
    WritesZeros before after := by
  obtain ⟨after,hafter⟩ := Option.isSome_iff_exists.mp
    (by decide +kernel :
      ((fleetAfter noSun house noLeftover silencedFleet).tasks.get? "a").isSome = true)
  have hquiet : StepsMeet (fleetStep noSun) QuietPass
      (fleetAfter noSun house noLeftover (dischargingFleet ++ [fleetPass house 10]))
      ([.emit,.emit,.emit] ++ fleetServe "a" 11) :=
    stepsMeet_cons.mpr ⟨trivial,stepsMeet_cons.mpr ⟨trivial,stepsMeet_cons.mpr ⟨trivial,
      stepsMeet_cons.mpr ⟨trivial,stepsMeet_cons.mpr ⟨trivial,stepsMeet_cons.mpr ⟨trivial,
        stepsMeet_nil _ _ _⟩⟩⟩⟩⟩⟩
  obtain ⟨before,hbefore,hzeros⟩ := stale_grid_writes_zeros noSun house noLeftover dischargingFleet
    [.emit,.emit,.emit] (fleetServe "a" 11) (by decide +kernel) rfl (by decide +kernel) hquiet
    (by decide +kernel) hafter
  exact ⟨before,after,hbefore,hafter,hzeros⟩

end ShellyMultiplexer
