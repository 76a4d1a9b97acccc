import ShellyMultiplexer.Fleet.System
import ShellyMultiplexer.Guarantees.SkippedWrites

/-! # What the inverters hold at rest

As long as the writes that a writer decides on get through in the end, a writer at rest has brought
its inverter the last setpoint of the dispatcher, in its direction and up to the deadband.
-/
namespace ShellyMultiplexer
open Foundation

/-- The task writes nothing, or what it writes gets through. -/
def GetsThere (task : WriterTask) (w : LoopWorld) : Prop :=
  ∀ desired ∈ task.underDelivery, shouldWrite task.writer desired = true →
    task.delivers desired w.write = true

instance (task : WriterTask) (w : LoopWorld) : Decidable (GetsThere task w) :=
  inferInstanceAs (Decidable (∀ desired ∈ task.underDelivery, _ → _))

def AllGetThere (f : Fleet) : FleetEvent → Prop
  | .task id (.perform w) => ∀ task ∈ f.tasks.get? id, GetsThere task w
  | _ => True

namespace WriterTask

/-- The setpoint noted last is in the registers, and the task has nothing left to do unless a
setpoint waits for it. -/
structure Tracks (task : WriterTask) : Prop where
  unsent : task.phase = .starting → task.rx.unseen = false → task.rx.value = .standby
  held : task.phase ≠ .starting → task.phase ≠ .exited → ∃ last,
    task.writer.lastWritten = some last ∧ heldSetpoint task.wire.registers = some last
  latest : ∀ desired, task.phase = .delivering desired → task.rx.unseen = false →
    task.rx.value = desired
  done : task.phase ≠ .starting → task.phase ≠ .exited → task.phase ≠ .serving .changed →
    task.underDelivery = [] → task.rx.unseen = false →
      shouldWrite task.writer task.rx.value = false

variable {task : WriterTask}

theorem shouldWrite_self {writer : BatteryWriter} {sp : Setpoint}
    (h : writer.lastWritten = some sp) : shouldWrite writer sp = false := by
  simp [shouldWrite,h,sp.sameDirection_refl,writeDeadbandW]

/-- A write that gets through is noted, and is in the registers. -/
theorem deliver_delivers {sp : Setpoint} {w : LoopWorld} (h : task.delivers sp w.write = true) :
    (deliver task.toWireSystem sp w.write w.writtenAt).writer.lastWritten = some sp ∧
      heldSetpoint (deliver task.toWireSystem sp w.write w.writtenAt).wire.registers = some sp := by
  obtain ⟨before,hbefore⟩ := transit_delivered
    ⟨task.connected,task.wire,task.passed,.error "write_setpoint exhausted retries"⟩ rfl h
  refine ⟨?_,?_⟩
  · unfold deliver
    dsimp only
    split
    · rfl
    · rename_i e he
      rw [delivers, he] at h
      cases h
  · rw [wire_deliver, hbefore, foldl_apply_registers]
    exact heldSetpoint_written _

theorem OnlyReads.sameWriter {after : WriterTask} (h : OnlyReads task after) :
    after.writer = task.writer := (congrArg WireSystem.writer h.wire).trans rfl

/-- A setpoint that gets there ends up noted and held, or there is nothing to do for it. -/
theorem serveChanged_tracks (h : task.Tracks) {desired : Setpoint}
    (hp : task.phase = .delivering desired) {w : LoopWorld} (hw : GetsThere task w) :
    (∃ last, (task.serveChanged desired w).writer.lastWritten = some last ∧
      heldSetpoint (task.serveChanged desired w).wire.registers = some last) ∧
    shouldWrite (task.serveChanged desired w).writer desired = false := by
  by_cases hs : shouldWrite task.writer desired = true
  · have hserve : task.serveChanged desired w = task.doWrite desired w := if_pos hs
    have hreads := doWrite_onlyReads task desired w
    have hmem : desired ∈ task.underDelivery := by
      rw [underDelivery_of_delivering hp]
      exact List.mem_singleton_self _
    obtain ⟨hlast,hheld⟩ := deliver_delivers (hw desired hmem hs)
    have hwriter : (task.serveChanged desired w).writer.lastWritten = some desired := by
      rw [hserve, hreads.sameWriter]
      exact hlast
    refine ⟨⟨desired,hwriter,?_⟩,shouldWrite_self hwriter⟩
    rw [hserve, hreads.sameWire]
    exact hheld
  · have hreads : OnlyReads task (task.serveChanged desired w) := by
      unfold serveChanged
      rw [if_neg hs]
      split
      · exact pollSocOnly_onlyReads task w.soc
      · exact OnlyReads.refl task
    obtain ⟨last,hlast,hheld⟩ := h.held (by simp [hp]) (by simp [hp])
    rw [hreads.sameWriter, hreads.sameWire]
    exact ⟨⟨last,hlast,hheld⟩,Bool.eq_false_iff.mpr hs⟩

/-- A read changes nothing that counts. -/
theorem Tracks.read {after : WriterTask} (h : task.Tracks) {branch : Branch}
    (hp : task.phase = .serving branch) (hb : branch ≠ .changed) (hreads : OnlyReads task after)
    (hrx : after.rx = task.rx) (back : Instant) : Tracks { after with phase := .waiting back } where
  unsent := by simp
  held _ _ := by
    rw [hreads.sameWriter, hreads.sameWire]
    exact h.held (by simp [hp]) (by simp [hp])
  latest := by simp
  done _ _ _ _ hseen := by
    rw [hreads.sameWriter, hrx]
    rw [hrx] at hseen
    exact h.done (by simp [hp]) (by simp [hp])
      (by rw [hp]; exact fun he => hb (Phase.serving.inj he)) (by simp only [underDelivery,hp]) hseen

theorem Tracks.init (h : task.Tracks) (hp : task.phase = .starting) (a : WireAttempt)
    (charging discharging : WireReply) (now : Instant) :
    (task.initOnce a charging discharging now).Tracks := by
  unfold initOnce
  dsimp only
  split
  · rename_i hok
    obtain ⟨before,hbefore⟩ := transit_delivered
      ⟨task.connected,task.wire,[],.error ""⟩ rfl (by rw [hok]; rfl)
    refine ⟨by simp,fun _ _ => ⟨.standby,rfl,?_⟩,by simp,fun _ _ _ _ hseen => ?_⟩
    · rw [hbefore, foldl_apply_registers]
      rfl
    · rw [h.unsent hp hseen]
      exact shouldWrite_self rfl
  · exact ⟨h.unsent,fun hno => absurd hp hno,h.latest,fun hno => absurd hp hno⟩

theorem Tracks.step (h : task.Tracks) {e : TaskEvent} (he : ∀ w, e = .perform w → GetsThere task w) :
    (taskStep task e).Tracks := by
  cases e with
  | send sp =>
    refine ⟨?_,h.held,?_,?_⟩
    · intro _ hseen
      cases hseen
    · intro _ _ hseen
      cases hseen
    · intro _ _ _ _ hseen
      cases hseen
  | stop => exact ⟨h.unsent,h.held,h.latest,h.done⟩
  | init a charging discharging now =>
    rw [taskStep]
    split
    · rename_i hp
      exact h.init hp a charging discharging now
    · exact h
  | select now =>
    rw [taskStep, select]
    split
    · rename_i branch hchosen
      obtain ⟨since,hp,-⟩ := chosen_eq_some hchosen
      refine ⟨by simp [serve],fun _ _ => h.held (by simp [hp]) (by simp [hp]),by simp [serve],
        fun _ _ hb _ hseen => ?_⟩
      have hne : branch ≠ .changed := fun he => hb (congrArg Phase.serving he)
      have hrx : (task.serve branch).rx = task.rx := if_neg hne
      rw [hrx] at hseen ⊢
      exact h.done (by simp [hp]) (by simp [hp]) (by simp [hp]) (by simp only [underDelivery,hp])
        hseen
    · exact h
  | perform w =>
    rw [taskStep]
    cases hp : task.phase with
    | serving branch =>
      cases branch with
      | shutdown =>
        simp only [perform,hp]
        exact ⟨by simp,fun _ hno => absurd rfl hno,by simp,fun _ hno => absurd rfl hno⟩
      | changed =>
        simp only [perform,hp]
        refine ⟨by simp,fun _ _ => h.held (by simp [hp]) (by simp [hp]),fun desired hd _ => ?_,
          fun _ _ _ hno => ?_⟩
        · exact Phase.delivering.inj hd
        · cases hno
      | socTimer =>
        simp only [perform,hp]
        exact h.read hp (by simp) (pollSocOnly_onlyReads task w.soc) (rx_pollSocOnly _) _
      | fastTimer =>
        simp only [perform,hp]
        exact h.read hp (by simp) (refreshTier_onlyReads task .fast w.refresh) rfl _
      | slowTimer =>
        simp only [perform,hp]
        exact h.read hp (by simp) (refreshTier_onlyReads task .slow w.refresh) rfl _
    | delivering desired =>
      obtain ⟨hheld,hdone⟩ := serveChanged_tracks h hp (he w rfl)
      simp only [perform,hp]
      refine ⟨by simp,fun _ _ => hheld,by simp,fun _ _ _ _ hseen => ?_⟩
      rw [rx_serveChanged] at hseen ⊢
      rw [h.latest desired hp hseen]
      exact hdone
    | _ => simpa only [perform,hp] using h

end WriterTask

/-- Every task of the fleet tracks its channel. -/
def TracksChannels (f : Fleet) : Prop :=
  ∀ id task, f.tasks.get? id = some task → task.Tracks

theorem TracksChannels.step {sun : Sunrise} {f : Fleet} {e : FleetEvent} (h : TracksChannels f)
    (he : AllGetThere f e) : TracksChannels (fleetStep sun f e) := by
  intro id task' htask'
  obtain ⟨task,htask,rfl | ⟨sp,rest,-,-,rfl⟩ | ⟨te,rfl,-,rfl⟩⟩ := fleetStep_task htask'
  · exact h id _ htask
  · exact (h id task htask).step (e := .send sp) (fun _ hno => TaskEvent.noConfusion hno)
  · refine (h id task htask).step (fun w hw => ?_)
    subst hw
    exact he task htask

theorem tracksChannels_start (cfg : Config) (leftover : String → Registers) :
    TracksChannels (Fleet.start cfg leftover) := by
  intro id task htask
  obtain ⟨b,-,-,rfl⟩ := spawnTasks_cases htask
  exact ⟨fun _ _ => rfl,fun hno => absurd rfl hno,(fun _ hno => by cases hno),
    fun hno => absurd rfl hno⟩

/-- When nothing is on its way to a writer at rest, its inverter holds the last setpoint that the
dispatcher has sent it, in its direction and up to the deadband. -/
theorem resting_writer_holds_channel (sun : Sunrise) (cfg : Config) (leftover : String → Registers)
    {events : List FleetEvent}
    (hthere : StepsMeet (fleetStep sun) AllGetThere (Fleet.start cfg leftover) events)
    {id : String} {task : WriterTask}
    (htask : (fleetAfter sun cfg leftover events).tasks.get? id = some task) {since : Instant}
    (hrest : task.phase = .waiting since) (hseen : task.rx.unseen = false) :
    ∃ held, heldSetpoint task.wire.registers = some held ∧
      (fleetAfter sun cfg leftover events).channels.get? id = some task.rx.value ∧
      task.rx.value.sameDirection held = true ∧
      |task.rx.value.toSignedWatts - held.toSignedWatts| < writeDeadbandW := by
  have htracks : TracksChannels (fleetAfter sun cfg leftover events) :=
    run_inv TracksChannels (tracksChannels_start cfg leftover) (fun _ _ h he => h.step he) hthere
  have h := htracks id task htask
  obtain ⟨last,hlast,hheld⟩ := h.held (by simp [hrest]) (by simp [hrest])
  have hskip := h.done (by simp [hrest]) (by simp [hrest]) (by simp [hrest])
    (by simp only [WriterTask.underDelivery,hrest]) hseen
  refine ⟨last,hheld,?_,?_⟩
  · rw [Fleet.channels, Table.get?_mapVal, htask]
    rfl
  · simpa [shouldWrite,hlast] using hskip

theorem resting_writer_holds_channel_house : ∃ task held,
    (fleetAfter noSun house noLeftover dischargingFleet).tasks.get? "a" = some task ∧
    task.rx.value = .discharge 330 ∧ heldSetpoint task.wire.registers = some held ∧
      task.rx.value.sameDirection held = true ∧
      |task.rx.value.toSignedWatts - held.toSignedWatts| < writeDeadbandW := by
  obtain ⟨task,htask⟩ := Option.isSome_iff_exists.mp
    (by decide +kernel :
      ((fleetAfter noSun house noLeftover dischargingFleet).tasks.get? "a").isSome = true)
  have hrest : ((fleetAfter noSun house noLeftover dischargingFleet).tasks.get? "a").all
      (fun task => decide (task.phase = .waiting 1 ∧ task.rx.unseen = false ∧
        task.rx.value = .discharge 330)) = true := by decide +kernel
  rw [htask] at hrest
  obtain ⟨hphase,hseen,hvalue⟩ := of_decide_eq_true hrest
  have hthere : StepsMeet (fleetStep noSun) AllGetThere (Fleet.start house noLeftover)
      dischargingFleet := by
    refine stepsMeet_cons.mpr ⟨trivial,stepsMeet_cons.mpr ⟨trivial,stepsMeet_cons.mpr ⟨trivial,
      stepsMeet_cons.mpr ⟨trivial,stepsMeet_cons.mpr ⟨trivial,stepsMeet_cons.mpr ⟨trivial,
        stepsMeet_cons.mpr ⟨trivial,stepsMeet_cons.mpr ⟨?_,stepsMeet_cons.mpr ⟨?_,
          stepsMeet_nil _ _ _⟩⟩⟩⟩⟩⟩⟩⟩⟩
    · change ∀ task ∈ Table.get? _ "a", GetsThere task _
      decide +kernel
    · change ∀ task ∈ Table.get? _ "a", GetsThere task _
      decide +kernel
  obtain ⟨held,hheld,-,hdir,hwatts⟩ := resting_writer_holds_channel noSun house noLeftover hthere
    htask hphase hseen
  exact ⟨task,held,htask,hvalue,hheld,hdir,hwatts⟩

end ShellyMultiplexer
