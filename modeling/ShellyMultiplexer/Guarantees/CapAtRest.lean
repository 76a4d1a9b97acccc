import ShellyMultiplexer.Guarantees.ChannelsHeld
import ShellyMultiplexer.Guarantees.CommandedSum
import ShellyMultiplexer.Guarantees.PowerOrigin

/-! # The cap at the inverters

The dispatcher bounds what it commands on a circuit, and a writer at rest has brought its inverter
the last command up to the deadband. Between the two lie the sends of the pass and the steps of the
tasks, in any order. Some writers of a circuit may have come to rest before others: the bound is on
any of them.
-/
namespace ShellyMultiplexer
open Foundation

/-! ## What is on its way -/

namespace Fleet
variable {sun : Sunrise} {f : Fleet}

/-- The channels once everything that is pending has been sent. -/
def promised (f : Fleet) : Channels := sendAll f.channels f.pending

end Fleet

section Promised
variable {sun : Sunrise} {f : Fleet} {e : FleetEvent}

def FleetEvent.isTick : FleetEvent → Bool
  | tick _ _ => true
  | _ => false

/-- A send that goes out changes its own channel as it was promised. -/
theorem channels_emit {p : Send} {rest : List Send} (hp : f.pending = p::rest) :
    (fleetStep sun f .emit).channels = send f.channels p.1 p.2 := by
  simp only [fleetStep, hp, Fleet.channels, send, Table.modify, Table.mapVal_mapVal]
  refine Table.mapVal_congr (fun id task _ => ?_)
  split <;> rfl

/-- A task never sends to itself. -/
theorem channels_ownStep (id : String) (te : TaskEvent) :
    (fleetStep sun f (.task id te)).channels = f.channels := by
  rw [fleetStep, Fleet.channels, Fleet.channels, Table.modify, Table.mapVal_mapVal]
  refine Table.mapVal_congr (fun id' task _ => ?_)
  split
  · cases te with
    | send sp => rfl
    | _ => exact value_taskStep task (by simp)
  · rfl

/-- Between two passes the promise stands. -/
theorem promised_step (sun : Sunrise) (f : Fleet) (he : e.isTick = false) :
    (fleetStep sun f e).promised = f.promised := by
  cases e with
  | tick live t => cases he
  | emit =>
    cases hp : f.pending with
    | nil => rw [fleetStep, hp]
    | cons p rest =>
      have hrest : (fleetStep sun f .emit).pending = rest := by rw [fleetStep, hp]
      rw [Fleet.promised, channels_emit hp, hrest, Fleet.promised, hp]
      rfl
  | task id te =>
    have hpending : (fleetStep sun f (.task id te)).pending = f.pending := rfl
    rw [Fleet.promised, channels_ownStep, hpending, Fleet.promised]
  | world batteries snapshot => rfl

/-- The sends of a pass promise what the pass as a whole leaves in the channels. -/
theorem promised_tick {live : Config} {t : TickTimes} {r : Tick} (hidle : f.idle = true)
    (hr : runTick sun f.app live (some f.channels) t = some r) :
    r.dispatch = some (fleetStep sun f (.tick live t)).promised := by
  rw [runTick_sends hr, fleetStep, if_pos hidle]
  rfl

end Promised

/-! ## The pass -/

/-- The dispatcher comes to a pass of the modbus mode with a fresh grid, and does not panic. -/
structure FreshPass (sun : Sunrise) (f : Fleet) (live : Config) (t : TickTimes) : Prop where
  idle : f.idle = true
  mode : live.dispatcher.mode = .modbus
  fresh : gridFresh f.app live.dispatcher t.step = true
  completes : (runTick sun f.app live (some f.channels) t).isSome = true

/-- The state from which the step of a pass computes. -/
def Fleet.stepState (sun : Sunrise) (f : Fleet) (live : Config) (t : TickTimes) : AppState :=
  (updateCircuitMute (beforeStep sun f.app live (some f.channels) t).state live.dispatcher
    t.step).1

section Pass
variable {sun : Sunrise} {f : Fleet} {live : Config} {t : TickTimes}

/-- A pass promises every battery that it commands the setpoint of its target. -/
theorem FreshPass.promises (h : FreshPass sun f live t)
    (hs : (f.stepState sun live t).Valid) : ∃ targets,
    computeTargets (f.stepState sun live t) live.dispatcher (f.stepState sun live t).gridW t.step =
      some targets ∧ ∀ c, ∀ b ∈ commandedSet (f.stepState sun live t) t.step c, ∀ sp,
        (fleetStep sun f (.tick live t)).promised.get? b.id = some sp →
          setpointFor targets b = some sp := by
  obtain ⟨r,hr⟩ := Option.isSome_iff_exists.mp h.completes
  have hpromised := promised_tick h.idle hr
  unfold runTick at hr
  simp only [h.mode] at hr
  obtain ⟨tick,htick,rfl⟩ := Option.map_eq_some_iff.mp hr
  obtain ⟨before,hbefore,-⟩ := beforeStep_get? (s := f.app) sun live t f.channels ""
  rw [hbefore] at htick
  rcases stepModbus_cases htick with ⟨hf,-⟩ | ⟨-,targets,after,summaries,htargets,hcmd,rfl⟩
  · rw [gridFresh_beforeStep, h.fresh] at hf
    cases hf
  · refine ⟨targets,htargets,fun c b hb sp hsp => ?_⟩
    obtain ⟨hget,hisc,-⟩ := (mem_commandedSet hs).mp hb
    have hend := commandAll_channel hs.values_nodup hcmd (hs.mem_values.mpr hget)
    rw [if_pos hisc] at hend
    rw [← Option.some.inj hpromised, hend] at hsp
    obtain ⟨-,-,hsp⟩ := Option.bind_eq_some_iff.mp hsp
    exact hsp

end Pass

/-! ## At rest -/

/-- The power that the registers of an inverter hold; zero if there is no writer for it. -/
def Fleet.heldW (f : Fleet) (id : String) : ℚ :=
  ((f.tasks.get? id).bind (fun task => heldSetpoint task.wire.registers)).elim 0
    Setpoint.toSignedWatts

/-- The writer waits for something to do, and has seen all of its channel. -/
def Fleet.atRest (f : Fleet) (id : String) : Bool :=
  (f.tasks.get? id).any (fun task => !task.rx.unseen &&
    match task.phase with
    | .waiting _ => true
    | _ => false)

theorem TracksChannels.heldW_near {f : Fleet} (h : TracksChannels f) {id : String}
    (hrest : f.atRest id = true) : ∃ sp, f.channels.get? id = some sp ∧
      |f.heldW id - sp.toSignedWatts| ≤ writeDeadbandW := by
  rw [Fleet.atRest] at hrest
  obtain ⟨task,htask,hseen⟩ := (Option.any_eq_true _ _).mp hrest
  cases hphase : task.phase with
  | waiting since =>
    have hunseen : task.rx.unseen = false := by
      rw [hphase] at hseen
      simpa using hseen
    have htracks := h id task htask
    obtain ⟨last,hlast,hheld⟩ := htracks.held (by simp [hphase]) (by simp [hphase])
    have hskip := htracks.done (by simp [hphase]) (by simp [hphase]) (by simp [hphase])
      (by simp only [WriterTask.underDelivery,hphase]) hunseen
    refine ⟨task.rx.value,?_,?_⟩
    · rw [Fleet.channels, Table.get?_mapVal, htask]
      rfl
    · have hnear := abs_sub_lt_of_not_shouldWrite hskip
      rw [hlast, abs_sub_comm] at hnear
      rw [Fleet.heldW, htask, Option.bind_some, hheld]
      exact hnear.le
  | _ =>
    rw [hphase] at hseen
    simp at hseen

/-- After a pass whose commands fit on a circuit, and until the next pass: once everything is sent,
what the inverters of any commanded batteries of the circuit hold whose writers are at rest stays
under the cap of the circuit, up to the deadband of each writer. -/
theorem cap_reaches_inverters {isSocketAddr : String → Bool} {cfg : Config}
    (hcfg : cfg.validate isSocketAddr = .ok ()) (sun : Sunrise) (leftover : String → Registers)
    {pre post : List FleetEvent} {live : Config} {t : TickTimes}
    (hthere : StepsMeet (fleetStep sun) AllGetThere (Fleet.start cfg leftover)
      (pre ++ .tick live t::post))
    (hpass : FreshPass sun (fleetAfter sun cfg leftover pre) live t)
    (hpost : ∀ e ∈ post, e.isTick = false)
    (hsent : (fleetAfter sun cfg leftover (pre ++ .tick live t::post)).pending = [])
    {c : String} {cs : CircuitState}
    (hc : ((fleetAfter sun cfg leftover pre).stepState sun live t).circuits.get? c = some cs)
    (hfit : CommandsFit ((fleetAfter sun cfg leftover pre).stepState sun live t) live.dispatcher
      t.step c cs)
    {bs : Finset BatteryState} (hne : bs.Nonempty)
    (hbs : bs ⊆ commandedSet ((fleetAfter sun cfg leftover pre).stepState sun live t) t.step c)
    (hrest : ∀ b ∈ bs,
      (fleetAfter sun cfg leftover (pre ++ .tick live t::post)).atRest b.id = true) :
    |∑ b ∈ bs, (fleetAfter sun cfg leftover (pre ++ .tick live t::post)).heldW b.id| ≤
      cs.capW + bs.card • writeDeadbandW := by
  set before := fleetAfter sun cfg leftover pre
  set after := fleetAfter sun cfg leftover (pre ++ .tick live t::post)
  have hs : (before.stepState sun live t).Valid :=
    (runtimeOf_updateCircuitMute (runtimeOf_beforeStep (runtimeOf_fleet cfg leftover pre) sun live
      (some before.channels) t)).valid (Config.wellFormed_of_validate hcfg)
  have htracks : TracksChannels after :=
    run_inv TracksChannels (tracksChannels_start cfg leftover) (fun _ _ h he => h.step he) hthere
  have hafter : after = run (fleetStep sun) (fleetStep sun before (.tick live t)) post :=
    run_append _ _ _ _
  have hchannels : after.channels = (fleetStep sun before (.tick live t)).promised := by
    have hkept : after.promised = (fleetStep sun before (.tick live t)).promised := by
      have hquiet : StepsMeet (fleetStep sun) (fun _ e => e.isTick = false)
          (fleetStep sun before (.tick live t)) post := by
        intro past e rest he
        refine hpost e ?_
        rw [he]
        exact List.mem_append_right _ List.mem_cons_self
      rw [hafter]
      exact run_inv (fun f => f.promised = (fleetStep sun before (.tick live t)).promised) rfl
        (fun f e hf he => (promised_step sun f he).trans hf) hquiet
    rw [← hkept, Fleet.promised, hsent]
    rfl
  obtain ⟨targets,htargets,hpromises⟩ := hpass.promises hs
  -- every inverter holds what it was commanded, up to the deadband
  have hnear : ∀ b ∈ bs, |after.heldW b.id - commandedW targets b| ≤ writeDeadbandW := by
    intro b hb
    obtain ⟨sp,hsp,hheld⟩ := htracks.heldW_near (hrest b hb)
    rw [hchannels] at hsp
    rw [commandedW, hpromises c b (hbs hb) sp hsp]
    exact hheld
  obtain ⟨b,hb⟩ := hne
  have hsigns := signsFit_of_commandsFit hs hc hfit htargets (hbs hb)
  exact (abs_sum_le_add_nsmul hnear).trans
    (add_le_add_left (abs_sum_le_of_signs hbs hsigns.discharge hsigns.charge) _)

/-! ## Two batteries on the garage circuit -/

def garageStart : List FleetEvent :=
  [.task "a" (.init answeringWire .timeout .timeout 0),
    .task "b" (.init answeringWire .timeout .timeout 0),.world (reported 0 50) ⟨some 1000,some 0⟩]

def garageServed : List FleetEvent := [.emit,.emit,.emit] ++ (fleetServe "a" 1 ++ fleetServe "b" 2)

theorem cap_reaches_inverters_house : ∃ bs : Finset BatteryState, bs.card = 2 ∧
    |∑ b ∈ bs, (fleetAfter noSun house noLeftover
      (garageStart ++ fleetPass house 0::garageServed)).heldW b.id| ≤ 2530 + bs.card • 25 := by
  have hthere : StepsMeet (fleetStep noSun) AllGetThere (Fleet.start house noLeftover)
      (garageStart ++ fleetPass house 0::garageServed) := by
    refine stepsMeet_cons.mpr ⟨trivial,stepsMeet_cons.mpr ⟨trivial,stepsMeet_cons.mpr ⟨trivial,
      stepsMeet_cons.mpr ⟨trivial,stepsMeet_cons.mpr ⟨trivial,stepsMeet_cons.mpr ⟨trivial,
        stepsMeet_cons.mpr ⟨trivial,stepsMeet_cons.mpr ⟨trivial,stepsMeet_cons.mpr ⟨?_,
          stepsMeet_cons.mpr ⟨?_,stepsMeet_cons.mpr ⟨trivial,stepsMeet_cons.mpr ⟨?_,
            stepsMeet_cons.mpr ⟨?_,stepsMeet_nil _ _ _⟩⟩⟩⟩⟩⟩⟩⟩⟩⟩⟩⟩⟩
    · change ∀ task ∈ Table.get? _ "a", GetsThere task _
      decide +kernel
    · change ∀ task ∈ Table.get? _ "a", GetsThere task _
      decide +kernel
    · change ∀ task ∈ Table.get? _ "b", GetsThere task _
      decide +kernel
    · change ∀ task ∈ Table.get? _ "b", GetsThere task _
      decide +kernel
  have hpass : FreshPass noSun (fleetAfter noSun house noLeftover garageStart) house ⟨0,0,0,0,0⟩ :=
    ⟨by decide +kernel,rfl,by decide +kernel,by decide +kernel⟩
  have hcs : ((fleetAfter noSun house noLeftover garageStart).stepState noSun house
      ⟨0,0,0,0,0⟩).circuits.get? "garage" =
        some ((((fleetAfter noSun house noLeftover garageStart).stepState noSun house
          ⟨0,0,0,0,0⟩).circuits.get? "garage").get (by decide +kernel)) := by simp
  have hall := subset_refl (commandedSet ((fleetAfter noSun house noLeftover garageStart).stepState
    noSun house ⟨0,0,0,0,0⟩) 0 "garage")
  have hcap := cap_reaches_inverters house_valid noSun noLeftover hthere hpass
    (by decide +kernel) (by decide +kernel) hcs (by decide +kernel) (by decide +kernel) hall
    (by decide +kernel)
  exact ⟨_,by decide +kernel,hcap.trans (by decide +kernel)⟩

end ShellyMultiplexer
