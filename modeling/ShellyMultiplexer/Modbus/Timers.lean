import ShellyMultiplexer.Foundation.Logs
import ShellyMultiplexer.Modbus.EventLoop

/-! # What the steps of a task do

Said once for all that follows: which steps touch the timers, which move the task from one phase to
another, and what they serve.
-/
namespace ShellyMultiplexer
open Foundation

def Phase.branches : Phase → List Branch
  | serving branch => [branch]
  | delivering _ => [.changed]
  | _ => []

namespace WriterTask

def passSucceeds (task : WriterTask) (tier : Tier) (w : RefreshWorld) : Bool :=
  ({ task.refresh with connected := task.connected }.tierRefresh tier w).2.isOk

/-- The refresh pass that a step makes, if it brings something in. -/
def successfulPass (task : WriterTask) : TaskEvent → List (Tier × Instant)
  | .perform w =>
    match task.phase with
    | .serving .fastTimer =>
      if task.passSucceeds .fast w.refresh then [(.fast,w.refresh.now)] else []
    | .serving .slowTimer =>
      if task.passSucceeds .slow w.refresh then [(.slow,w.refresh.now)] else []
    | _ => []
  | _ => []

end WriterTask

namespace WriterTask
variable {task : WriterTask}

/-- What the select goes by, apart from the state of charge, is the same in both. -/
structure SameTimers (task after : WriterTask) : Prop where
  stop : after.shutdownSent = task.shutdownSent
  fastInterval : after.fastRefreshInterval = task.fastRefreshInterval
  slowInterval : after.slowRefreshInterval = task.slowRefreshInterval
  fast : after.refresh.lastFastRefreshAt = task.refresh.lastFastRefreshAt
  slow : after.refresh.lastSlowRefreshAt = task.refresh.lastSlowRefreshAt

theorem SameTimers.refl (task : WriterTask) : SameTimers task task := ⟨rfl,rfl,rfl,rfl,rfl⟩

theorem sameTimers_pollSocOnly (task : WriterTask) (w : SocWorld) :
    SameTimers task (task.pollSocOnly w) := by
  unfold pollSocOnly
  split
  · exact ⟨rfl,rfl,rfl,rfl,rfl⟩
  · split <;> exact ⟨rfl,rfl,rfl,rfl,rfl⟩

theorem sameTimers_doWrite (task : WriterTask) (sp : Setpoint) (w : LoopWorld) :
    SameTimers task (task.doWrite sp w) := by
  unfold doWrite
  dsimp only
  split
  · obtain ⟨h1,h2,h3,h4,h5⟩ := sameTimers_pollSocOnly (task.delivered sp w) w.soc
    exact ⟨h1,h2,h3,h4,h5⟩
  · exact ⟨rfl,rfl,rfl,rfl,rfl⟩

theorem sameTimers_serveChanged (task : WriterTask) (desired : Setpoint) (w : LoopWorld) :
    SameTimers task (task.serveChanged desired w) := by
  unfold serveChanged
  split
  · exact sameTimers_doWrite _ _ _
  · split
    · exact sameTimers_pollSocOnly _ _
    · exact SameTimers.refl _

theorem SameTimers.phase {after : WriterTask} (h : SameTimers task after) (phase : Phase) :
    SameTimers task { after with phase := phase } :=
  ⟨h.stop,h.fastInterval,h.slowInterval,h.fast,h.slow⟩

/-- The three things a step can do to the timers: nothing, note the wish to stop, make a pass. -/
theorem taskStep_timers (task : WriterTask) (e : TaskEvent) :
    (SameTimers task (taskStep task e) ∧ task.successfulPass e = [] ∧ e ≠ .stop) ∨ e = .stop ∨
      ∃ tier w, e = .perform w ∧ SameTimers (task.refreshTier tier w.refresh) (taskStep task e) ∧
        task.successfulPass e =
          if task.passSucceeds tier w.refresh then [(tier,w.refresh.now)] else [] := by
  cases e with
  | send sp => exact Or.inl ⟨⟨rfl,rfl,rfl,rfl,rfl⟩,rfl,by simp⟩
  | stop => exact Or.inr (Or.inl rfl)
  | init a charging discharging now =>
    refine Or.inl ⟨?_,rfl,by simp⟩
    rw [taskStep]
    split
    · unfold initOnce
      dsimp only
      split <;> exact ⟨rfl,rfl,rfl,rfl,rfl⟩
    · exact SameTimers.refl _
  | select now =>
    refine Or.inl ⟨?_,rfl,by simp⟩
    rw [taskStep, select]
    split
    · exact ⟨rfl,rfl,rfl,rfl,rfl⟩
    · exact SameTimers.refl _
  | perform w =>
    cases hp : task.phase with
    | serving branch =>
      cases branch with
      | shutdown =>
        refine Or.inl ⟨?_,by simp only [successfulPass,hp],by simp⟩
        simp only [taskStep,perform,hp]
        exact ⟨rfl,rfl,rfl,rfl,rfl⟩
      | changed =>
        refine Or.inl ⟨?_,by simp only [successfulPass,hp],by simp⟩
        simp only [taskStep,perform,hp]
        exact (SameTimers.refl task).phase _
      | socTimer =>
        refine Or.inl ⟨?_,by simp only [successfulPass,hp],by simp⟩
        simp only [taskStep,perform,hp]
        exact (sameTimers_pollSocOnly task w.soc).phase _
      | fastTimer =>
        refine Or.inr (Or.inr ⟨.fast,w,rfl,?_,by simp only [successfulPass,hp]⟩)
        simp only [taskStep,perform,hp]
        exact (SameTimers.refl _).phase _
      | slowTimer =>
        refine Or.inr (Or.inr ⟨.slow,w,rfl,?_,by simp only [successfulPass,hp]⟩)
        simp only [taskStep,perform,hp]
        exact (SameTimers.refl _).phase _
    | delivering desired =>
      refine Or.inl ⟨?_,by simp only [successfulPass,hp],by simp⟩
      simp only [taskStep,perform,hp]
      exact (sameTimers_serveChanged task desired w).phase _
    | _ =>
      refine Or.inl ⟨?_,by simp only [successfulPass,hp],by simp⟩
      simp only [taskStep,perform,hp]
      exact SameTimers.refl _

theorem shutdownSent_step (task : WriterTask) (e : TaskEvent) :
    (taskStep task e).shutdownSent = true ↔ task.shutdownSent = true ∨ e = .stop := by
  rcases task.taskStep_timers e with ⟨hsame,-,hne⟩ | rfl | ⟨tier,w,rfl,hsame,-⟩
  · rw [hsame.stop, or_iff_left hne]
  · exact iff_of_true rfl (Or.inr rfl)
  · rw [hsame.stop, or_iff_left (by simp)]
    rfl

/-! ## Phases -/

/-- The branch that is being served. -/
def underWay (task : WriterTask) : List Branch := task.phase.branches

theorem underWay_of_phase {task : WriterTask} {phase : Phase} (h : task.phase = phase) :
    task.underWay = phase.branches := congrArg Phase.branches h

/-- The branch that a step has served; reading the channel is not yet serving it. -/
def served (task : WriterTask) : TaskEvent → List Branch
  | .perform _ =>
    match task.phase with
    | .serving .changed => []
    | .serving branch => [branch]
    | .delivering _ => [.changed]
    | _ => []
  | _ => []

/-- Where the steps lead: the phases and the branches served. -/
inductive Move (task : WriterTask) (e : TaskEvent) : Prop
  | stay (served : task.served e = []) (phase : (taskStep task e).phase = task.phase)
  | begin (now : Instant) (served : task.served e = []) (before : task.phase = .starting)
    (after : (taskStep task e).phase = .waiting now)
  | wake (since now : Instant) (branch : Branch) (event : e = .select now)
    (served : task.served e = []) (before : task.phase = .waiting since)
    (chosen : task.chosen now = some branch) (after : (taskStep task e).phase = .serving branch)
  | read (served : task.served e = []) (before : task.phase = .serving .changed)
    (after : (taskStep task e).phase = .delivering task.rx.value)
  | stop (served : task.served e = [.shutdown]) (before : task.phase = .serving .shutdown)
    (after : (taskStep task e).phase = .exited)
  | finish (branch : Branch) (back : Instant) (served : task.served e = [branch])
    (underWay : task.underWay = [branch]) (ne_stop : branch ≠ .shutdown)
    (after : (taskStep task e).phase = .waiting back)

theorem taskStep_move (task : WriterTask) (e : TaskEvent) : Move task e := by
  cases e with
  | send sp => exact .stay rfl rfl
  | stop => exact .stay rfl rfl
  | init a charging discharging now =>
    by_cases hp : task.phase = .starting
    · cases hr : (transit initDispatchOn [a] ⟨task.connected,task.wire,[],.error ""⟩).result with
      | ok u => exact .begin now rfl hp (by simp only [taskStep,if_pos hp,initOnce,hr])
      | error err => exact .stay rfl (by simp only [taskStep,if_pos hp,initOnce,hr])
    · exact .stay rfl (by rw [taskStep, if_neg hp])
  | select now =>
    cases hc : task.chosen now with
    | none => exact .stay rfl (by simp only [taskStep,select,hc])
    | some branch =>
      obtain ⟨since,hp,-⟩ := chosen_eq_some hc
      exact .wake since now branch rfl rfl hp hc (by simp only [taskStep,select,hc,serve])
  | perform w =>
    cases hp : task.phase with
    | serving branch =>
      cases branch with
      | shutdown =>
        exact .stop (by simp only [served,hp]) hp (by simp only [taskStep,perform,hp])
      | changed => exact .read (by simp only [served,hp]) hp (by simp only [taskStep,perform,hp])
      | socTimer =>
        exact .finish .socTimer w.back (by simp only [served,hp]) (underWay_of_phase hp)
          (by simp) (by simp only [taskStep,perform,hp])
      | fastTimer =>
        exact .finish .fastTimer w.back (by simp only [served,hp]) (underWay_of_phase hp)
          (by simp) (by simp only [taskStep,perform,hp])
      | slowTimer =>
        exact .finish .slowTimer w.back (by simp only [served,hp]) (underWay_of_phase hp)
          (by simp) (by simp only [taskStep,perform,hp])
    | delivering desired =>
      exact .finish .changed w.back (by simp only [served,hp]) (underWay_of_phase hp)
        (by simp) (by simp only [taskStep,perform,hp])
    | _ => exact .stay (by simp only [served,hp]) (by simp only [taskStep,perform,hp])

end WriterTask

theorem shutdownSent_run (start : WriterTask) (events : List TaskEvent) :
    (run taskStep start events).shutdownSent = true ↔
      start.shutdownSent = true ∨ .stop ∈ events := by
  induction events using List.reverseRecOn with
  | nil => simp
  | append_singleton past e ih =>
    rw [run_concat, WriterTask.shutdownSent_step, ih, List.mem_append, List.mem_singleton, or_assoc]
    exact or_congr Iff.rfl (or_congr Iff.rfl eq_comm)

end ShellyMultiplexer
