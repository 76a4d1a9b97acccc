import ShellyMultiplexer.Modbus.Timers

/-! # What is served next

The select looks for a shutdown first and for a setpoint second. So a task that is asked to stop
finishes the branch it is in, serves the shutdown and nothing after that; and a setpoint waits for
the branch under way at most, however many timers are due.
-/
namespace ShellyMultiplexer
open Foundation

def Branch.isTimer : Branch → Bool
  | shutdown => false
  | changed => false
  | _ => true

namespace WriterTask

/-- What a task that is to stop has yet to serve. -/
def leftToServe (task : WriterTask) : List Branch :=
  match task.phase with
  | .exited => []
  | .serving .shutdown => [.shutdown]
  | .serving branch => [branch,.shutdown]
  | .delivering _ => [.changed,.shutdown]
  | _ => [.shutdown]

variable {task : WriterTask}

theorem chosen_of_shutdownSent (h : task.shutdownSent = true) {now : Instant} {branch : Branch}
    (hc : task.chosen now = some branch) : branch = .shutdown := by
  obtain ⟨since,-,hfind⟩ := chosen_eq_some hc
  simp only [Branch.biased,List.find?_cons,ready,h] at hfind
  exact (Option.some.inj hfind).symm

theorem not_isTimer_of_unseen (h : task.rx.unseen = true) {now : Instant} {branch : Branch}
    (hc : task.chosen now = some branch) : branch.isTimer = false := by
  obtain ⟨since,-,hfind⟩ := chosen_eq_some hc
  simp only [Branch.biased,List.find?_cons,ready,h] at hfind
  split at hfind <;> exact Option.some.inj hfind ▸ rfl

theorem leftToServe_underWay {branch : Branch} (h : task.underWay = [branch])
    (hb : branch ≠ .shutdown) : task.leftToServe = [branch,.shutdown] := by
  unfold underWay at h
  rw [leftToServe]
  cases hp : task.phase with
  | serving other =>
    rw [hp] at h
    cases h
    cases branch with
    | shutdown => exact absurd rfl hb
    | _ => rfl
  | delivering desired =>
    rw [hp] at h
    cases h
    rfl
  | _ =>
    rw [hp] at h
    cases h

/-- A step of a task that is to stop serves the first of what is left. -/
theorem leftToServe_step (h : task.shutdownSent = true) (e : TaskEvent) :
    task.leftToServe = task.served e ++ (taskStep task e).leftToServe := by
  rcases task.taskStep_move e with ⟨hs,hp⟩ | ⟨now,hs,hp,hp'⟩ | ⟨since,now,branch,-,hs,hp,hc,hp'⟩ |
    ⟨hs,hp,hp'⟩ | ⟨hs,hp,hp'⟩ | ⟨branch,back,hs,hu,hb,hp'⟩
  · rw [hs, leftToServe, leftToServe, hp]
    rfl
  · rw [hs, leftToServe, leftToServe, hp, hp']
    rfl
  · rw [hs, leftToServe, leftToServe, hp, hp', chosen_of_shutdownSent h hc]
    rfl
  · rw [hs, leftToServe, leftToServe, hp, hp']
    rfl
  · rw [hs, leftToServe, leftToServe, hp, hp']
    rfl
  · rw [hs, leftToServe_underWay hu hb, leftToServe, hp']
    rfl

theorem shutdownSent_keeps (h : task.shutdownSent = true) (e : TaskEvent) :
    (taskStep task e).shutdownSent = true := (task.shutdownSent_step e).mpr (Or.inl h)

/-- Neither starting nor waiting at the select lets a setpoint pass unseen. -/
structure Heeds (task : WriterTask) : Prop where
  noTimer : ∀ branch ∈ task.underWay, branch.isTimer = false
  unseen : task.underWay = [] → task.phase ≠ .exited → task.rx.unseen = true

theorem heeds_of_unseen (hno : task.underWay = []) (h : task.rx.unseen = true) : task.Heeds :=
  ⟨fun _ hb => absurd (hno ▸ hb) List.not_mem_nil,fun _ _ => h⟩

theorem heeds_of_underWay {branch : Branch} (h : task.underWay = [branch])
    (ht : branch.isTimer = false) : task.Heeds := by
  refine ⟨fun b hb => ?_,fun hno => ?_⟩
  · rw [h, List.mem_singleton] at hb
    rw [hb, ht]
  · rw [h] at hno
    cases hno

/-- A setpoint stays unseen until it wakes the writer. -/
theorem unseen_taskStep (h : task.rx.unseen = true) (e : TaskEvent) :
    (taskStep task e).rx.unseen = true ∨
      ∃ since, task.phase = .waiting since ∧ (taskStep task e).phase = .serving .changed := by
  cases e with
  | send sp => exact Or.inl rfl
  | stop => exact Or.inl h
  | init a charging discharging now =>
    left
    rw [taskStep]
    split
    · unfold initOnce
      dsimp only
      split <;> exact h
    · exact h
  | select now =>
    rw [taskStep, select]
    split
    · rename_i branch hc
      by_cases hb : branch = .changed
      · obtain ⟨since,hp,-⟩ := chosen_eq_some hc
        exact Or.inr ⟨since,hp,congrArg Phase.serving hb⟩
      · left
        rw [serve, if_neg hb]
        exact h
    · exact Or.inl h
  | perform w =>
    left
    rw [taskStep, rx_perform]
    exact h

/-- Only what wakes the writer makes it see the setpoint. -/
theorem unseen_of_phase (h : task.rx.unseen = true) {e : TaskEvent}
    (hp : (taskStep task e).phase = task.phase ∨ (taskStep task e).phase ≠ .serving .changed) :
    (taskStep task e).rx.unseen = true := by
  refine (unseen_taskStep h e).resolve_right (fun ⟨since,hbefore,hafter⟩ => ?_)
  rcases hp with hsame | hne
  · rw [hafter, hbefore] at hsame
    cases hsame
  · exact hne hafter

theorem Heeds.step (h : task.Heeds) (e : TaskEvent) :
    (task.served e = [] ∧ (taskStep task e).Heeds) ∨
      ∃ branch, task.served e = [branch] ∧ branch.isTimer = false := by
  rcases task.taskStep_move e with ⟨hs,hp⟩ | ⟨now,hs,hp,hp'⟩ | ⟨since,now,branch,-,hs,hp,hc,hp'⟩ |
    ⟨hs,-,hp'⟩ | ⟨hs,-,-⟩ | ⟨branch,back,hs,hu,-,-⟩
  · have hsame : (taskStep task e).underWay = task.underWay := by rw [underWay, hp, underWay]
    refine Or.inl ⟨hs,hsame ▸ h.noTimer,fun hno hexit => ?_⟩
    exact unseen_of_phase (h.unseen (hsame ▸ hno) (hp ▸ hexit)) (Or.inl hp)
  · have hunseen := h.unseen (underWay_of_phase hp) (by simp [hp])
    exact Or.inl ⟨hs,heeds_of_unseen (underWay_of_phase hp')
      (unseen_of_phase hunseen (Or.inr (by simp [hp'])))⟩
  · have hunseen := h.unseen (underWay_of_phase hp) (by simp [hp])
    exact Or.inl ⟨hs,heeds_of_underWay (underWay_of_phase hp') (not_isTimer_of_unseen hunseen hc)⟩
  · exact Or.inl ⟨hs,heeds_of_underWay (underWay_of_phase hp') rfl⟩
  · exact Or.inr ⟨.shutdown,hs,rfl⟩
  · exact Or.inr ⟨branch,hs,h.noTimer branch (by rw [hu]; exact List.mem_singleton_self _)⟩

/-- No timer is served before the setpoint. -/
theorem Heeds.takeWhile (h : task.Heeds) (events : List TaskEvent) :
    (outputs taskStep served task events).takeWhile Branch.isTimer = [] := by
  induction events generalizing task with
  | nil => rfl
  | cons e rest ih =>
    rw [outputs]
    rcases h.step e with ⟨hs,hnext⟩ | ⟨branch,hs,ht⟩
    · rw [hs, List.nil_append]
      exact ih hnext
    · rw [hs, List.singleton_append, List.takeWhile_cons, ht]
      rfl

/-- With a setpoint that nobody has seen, no timer is served once the branch under way is done. -/
theorem served_of_unseen (h : task.rx.unseen = true) (events : List TaskEvent) :
    ∃ first rest, outputs taskStep served task events = first ++ rest ∧
      first <+: task.underWay ∧ rest.takeWhile Branch.isTimer = [] := by
  induction events generalizing task with
  | nil => exact ⟨[],[],rfl,List.nil_prefix,rfl⟩
  | cons e rest ih =>
    rw [outputs]
    rcases task.taskStep_move e with ⟨hs,hp⟩ | ⟨now,hs,hp,hp'⟩ | ⟨since,now,branch,-,hs,hp,hc,hp'⟩ |
      ⟨hs,hp,hp'⟩ | ⟨hs,-,-⟩ | ⟨branch,back,hs,hu,-,hp'⟩
    · have hsame : (taskStep task e).underWay = task.underWay := by rw [underWay, hp, underWay]
      rw [hs, List.nil_append, ← hsame]
      exact ih (unseen_of_phase h (Or.inl hp))
    · have hnext : (taskStep task e).Heeds := heeds_of_unseen (underWay_of_phase hp')
        (unseen_of_phase h (Or.inr (by simp [hp'])))
      rw [hs, List.nil_append]
      exact ⟨[],_,rfl,List.nil_prefix,hnext.takeWhile rest⟩
    · have hnext : (taskStep task e).Heeds :=
        heeds_of_underWay (underWay_of_phase hp') (not_isTimer_of_unseen h hc)
      rw [hs, List.nil_append]
      exact ⟨[],_,rfl,List.nil_prefix,hnext.takeWhile rest⟩
    · have hsame : (taskStep task e).underWay = task.underWay :=
        (underWay_of_phase hp').trans (underWay_of_phase hp).symm
      rw [hs, List.nil_append, ← hsame]
      exact ih (unseen_of_phase h (Or.inr (by simp [hp'])))
    · exact ⟨[],_,rfl,List.nil_prefix,by rw [hs]; rfl⟩
    · have hnext : (taskStep task e).Heeds := heeds_of_unseen (underWay_of_phase hp')
        (unseen_of_phase h (Or.inr (by simp [hp'])))
      exact ⟨[branch],_,by rw [hs],by rw [hu],hnext.takeWhile rest⟩

end WriterTask

/-- A task that is asked to stop finishes the branch it is in, serves the shutdown, and then nothing
more, whatever else is due by then. -/
theorem stop_served_next (start : WriterTask) (pre post : List TaskEvent) :
    outputs taskStep WriterTask.served (run taskStep start (pre ++ [.stop])) post ++
        (run taskStep start (pre ++ .stop::post)).leftToServe =
      (run taskStep start pre).leftToServe := by
  have hstep : ∀ (task : WriterTask), task.shutdownSent = true → task.leftToServe =
      outputs taskStep WriterTask.served task post ++ (run taskStep task post).leftToServe := by
    induction post with
    | nil => exact fun task _ => rfl
    | cons e rest ih =>
      intro task h
      rw [outputs, List.append_assoc, WriterTask.leftToServe_step h e,
        ih _ (WriterTask.shutdownSent_keeps h e)]
      rfl
  have hsplit : pre ++ TaskEvent.stop::post = pre ++ [TaskEvent.stop] ++ post := by simp
  rw [hsplit, run_append taskStep start (pre ++ [TaskEvent.stop]) post]
  refine (hstep _ ?_).symm.trans ?_
  · rw [run_concat]
    rfl
  · rw [run_concat]
    rfl

/-- A setpoint waits for one branch at most, the one that is being served when it is sent: after that
no timer is served before it. -/
theorem setpoint_served_next (start : WriterTask) (pre post : List TaskEvent) (sp : Setpoint) :
    ∃ first rest,
      outputs taskStep WriterTask.served (run taskStep start (pre ++ [.send sp])) post =
        first ++ rest ∧
      first <+: (run taskStep start pre).underWay ∧ rest.takeWhile Branch.isTimer = [] := by
  rw [run_concat]
  have hunseen : (taskStep (run taskStep start pre) (.send sp)).rx.unseen = true := rfl
  exact WriterTask.served_of_unseen hunseen post

/-! ## What the shutdown leaves behind -/

/-- The connection opens and every write is acknowledged. -/
structure WireAttempt.Answers (a : WireAttempt) : Prop where
  connects : a.connect.isOk = true
  replies : ∀ reg, (a.replies.reply reg).isOk = true

theorem transit_answers {a : WireAttempt} (h : a.Answers) (writes : List RegisterWrite)
    (t : Transit) : (transit writes [a] t).wire = writes.foldl Wire.apply t.wire := by
  have hlink : (ensureConn t.connected a.seen).isOk = true := by
    rw [ensureConn]
    split
    · rfl
    · exact h.connects
  have hall : (passThrough Wire.apply a.onWrites t.wire writes).result.isOk = true :=
    passThrough_isOk.mpr (fun w _ => h.replies w.cell)
  rcases transit_wired writes [] hlink with ⟨-,he⟩ | ⟨hno,-⟩
  · rw [he, passThrough_last, effected_eq_self (passThrough_isOk.mp hall)]
  · rw [hall] at hno
    cases hno

/-- Whatever the standby comes to, an answered failsafe turns the force mode and the control off. -/
theorem shutDown_off (sys : WireSystem) (standby : WireAttempt) {failsafe : WireAttempt}
    (hf : failsafe.Answers) : (shutDown sys standby failsafe).wire.registers regForceMode = 0 ∧
      (shutDown sys standby failsafe).wire.registers regRs485ControlMode = rs485CtrlOff := by
  rw [shutDown]
  dsimp only
  rw [transit_answers hf, foldl_apply_registers]
  exact ⟨rfl,rfl⟩

theorem shutDown_powers (sys : WireSystem) {standby failsafe : WireAttempt}
    (hs : standby.Answers) (hf : failsafe.Answers) :
    (shutDown sys standby failsafe).wire.registers regChargePowerSetpoint = 0 ∧
      (shutDown sys standby failsafe).wire.registers regDischargePowerSetpoint = 0 := by
  rw [shutDown]
  dsimp only
  rw [transit_answers hf, transit_answers hs, foldl_apply_registers, foldl_apply_registers]
  exact ⟨rfl,rfl⟩

theorem WriterTask.exited_step {task : WriterTask} (hp : task.phase = .exited) (e : TaskEvent) :
    (taskStep task e).phase = .exited ∧ (taskStep task e).toWireSystem = task.toWireSystem := by
  cases e with
  | send sp => exact ⟨hp,rfl⟩
  | stop => exact ⟨hp,rfl⟩
  | init a charging discharging now => rw [taskStep, if_neg (by simp [hp])]; exact ⟨hp,rfl⟩
  | select now => simp only [taskStep,select,chosen,hp]; exact ⟨trivial,trivial⟩
  | perform w => simp only [taskStep,perform,hp]; exact ⟨trivial,trivial⟩

theorem exited_run {task : WriterTask} (hp : task.phase = .exited) (events : List TaskEvent) :
    (run taskStep task events).phase = .exited ∧
      (run taskStep task events).toWireSystem = task.toWireSystem := by
  induction events using List.reverseRecOn with
  | nil => exact ⟨hp,rfl⟩
  | append_singleton past e ih =>
    obtain ⟨hp',hw⟩ := WriterTask.exited_step ih.1 e
    rw [run_concat]
    exact ⟨hp',hw.trans ih.2⟩

/-- Once the shutdown has been served nothing is written any more: an inverter that has answered the
failsafe stays off, and one that has answered the standby as well holds no power either. -/
theorem stopped_inverter_parked (start : WriterTask) (pre rest : List TaskEvent) (w : LoopWorld)
    (hp : (run taskStep start pre).phase = .serving .shutdown) :
    let stopped := run taskStep start (pre ++ [.perform w])
    (run taskStep start (pre ++ .perform w::rest)).toWireSystem = stopped.toWireSystem ∧
      (w.failsafe.Answers → stopped.wire.registers regForceMode = 0 ∧
        stopped.wire.registers regRs485ControlMode = rs485CtrlOff ∧
        (w.standby.Answers → stopped.wire.registers regChargePowerSetpoint = 0 ∧
          stopped.wire.registers regDischargePowerSetpoint = 0)) := by
  intro stopped
  have hstep : stopped = { run taskStep start pre with
      toWireSystem := shutDown (run taskStep start pre).toWireSystem w.standby w.failsafe
      phase := .exited } := by
    change run taskStep start (pre ++ [TaskEvent.perform w]) = _
    rw [run_concat, taskStep, WriterTask.perform, hp]
  have hsplit : pre ++ TaskEvent.perform w::rest = pre ++ [TaskEvent.perform w] ++ rest := by simp
  refine ⟨?_,fun hf => ?_⟩
  · rw [hsplit, run_append taskStep start (pre ++ [TaskEvent.perform w]) rest]
    exact (exited_run (congrArg WriterTask.phase hstep) rest).2
  · obtain ⟨hforce,hcontrol⟩ := shutDown_off (run taskStep start pre).toWireSystem w.standby hf
    rw [hstep]
    exact ⟨hforce,hcontrol,fun hs => shutDown_powers _ hs hf⟩

/-- A task that was charging is asked to stop. -/
def stoppedCharging : List TaskEvent :=
  [.init answeringWire .timeout .timeout 0,.send (.charge 700)] ++ servedSetpoint 0 ++
    [.stop,.select 1]

/-- The shutdown is served, and then a setpoint comes in. -/
def stoppedRun : List TaskEvent :=
  stoppedCharging ++ .perform (answeringLoop (fun _ => .timeout) 2)::[.send (.charge 900),.select 3]

theorem stopped_inverter_parked_wall :
    (run taskStep wallTask stoppedRun).wire.registers regForceMode = 0 ∧
      (run taskStep wallTask stoppedRun).wire.registers regChargePowerSetpoint = 0 := by
  obtain ⟨hsame,hoff⟩ := stopped_inverter_parked wallTask stoppedCharging
    [.send (.charge 900),.select 3] (answeringLoop (fun _ => .timeout) 2) (by decide +kernel)
  have hanswers : answeringWire.Answers := ⟨rfl,fun _ => rfl⟩
  obtain ⟨hforce,-,hpowers⟩ := hoff hanswers
  rw [stoppedRun, congrArg WireSystem.wire hsame]
  exact ⟨hforce,(hpowers hanswers).1⟩

end ShellyMultiplexer
