import ShellyMultiplexer.Dispatcher.Loop

/-! # The sends of a pass

A pass sends setpoint after setpoint, and the writers may look at their channels in between. What it
leaves in the channels in the end is all that the pass as a whole shows.
-/
namespace ShellyMultiplexer
open Foundation

abbrev Send := String × Setpoint

def sendAll (channels : Channels) (sends : List Send) : Channels :=
  sends.foldl (fun ch p => send ch p.1 p.2) channels

/-- A mapping that panics ends the sends. -/
def sendThen (batteryId : String) (rest : List Send) : Option Setpoint → List Send
  | some sp => (batteryId,sp)::rest
  | none => []

/-- The sends of the loop over all batteries. -/
def commandSends (s : AppState) (now : Instant) (targets : Table String ℚ) :
    List BatteryState → List Send
  | [] => []
  | b::bs =>
    if isCommanded s now b then
      sendThen b.id (commandSends s now targets bs) (setpointFor targets b)
    else commandSends s now targets bs

def standbySends (ids : List String) : List Send := ids.map (fun id => (id,.standby))

def stepSends (s : AppState) (dcfg : DispatcherConfig) (channels : Channels) (now : Instant) :
    List Send :=
  let (s,fresh) := updateCircuitMute s dcfg now
  if !fresh then standbySends channels.keys
  else match computeTargets s dcfg s.gridW now with
    | some targets => commandSends s now targets s.batteries.values
    | none => []

/-- The remediated batteries first, then the step of the mode. -/
def tickSends (sun : Sunrise) (s : AppState) (live : Config) (channels : Channels)
    (t : TickTimes) : List Send :=
  standbySends (tickRemediations s live t) ++
    match live.dispatcher.mode with
    | .pulse => []
    | .modbus =>
      stepSends (beforeStep sun s live (some channels) t).state live.dispatcher channels t.step

variable {sun : Sunrise} {s : AppState} {live : Config} {t : TickTimes} {channels : Channels}
variable {now : Instant} {targets : Table String ℚ} {dcfg : DispatcherConfig}

theorem sendAll_append (first second : List Send) :
    sendAll channels (first ++ second) = sendAll (sendAll channels first) second :=
  List.foldl_append

theorem sendAll_standbySends (ids : List String) : sendAll channels (standbySends ids) =
    ids.foldl (fun ch id => send ch id .standby) channels := by
  rw [sendAll, standbySends, List.foldl_map]

theorem commandAll_sends {bs : List BatteryState}
    {acc acc' : Channels × Table String CircuitSummary}
    (h : bs.foldlM (commandBattery s now targets) acc = some acc') :
    acc'.1 = sendAll acc.1 (commandSends s now targets bs) := by
  induction bs generalizing acc with
  | nil =>
    cases h
    rfl
  | cons b bs ih =>
    rw [List.foldlM_cons] at h
    obtain ⟨acc₁,hb,h⟩ := Option.bind_eq_some_iff.mp h
    rw [ih h, commandSends]
    by_cases hcmd : isCommanded s now b
    · rw [commandBattery, if_pos hcmd] at hb
      obtain ⟨sp,hsp,rfl⟩ := Option.map_eq_some_iff.mp hb
      rw [if_pos hcmd, hsp]
      rfl
    · rw [commandBattery, if_neg hcmd] at hb
      cases hb
      rw [if_neg hcmd]

theorem stepModbus_sends {r : ModbusTick} {before : Channels} (hkeys : before.keys = channels.keys)
    (h : stepModbus s dcfg (some before) now = some r) :
    r.dispatch = some (sendAll before (stepSends s dcfg channels now)) := by
  rcases stepModbus_cases h with ⟨hf,rfl⟩ | ⟨hf,targets,channels',summaries,ht,hc,rfl⟩
  · have hstep : stepSends s dcfg channels now = standbySends channels.keys := by
      simp only [stepSends,updateCircuitMute_fresh,hf,Bool.not_false,if_true]
    rw [hstep, sendAll_standbySends, ← hkeys]
    rfl
  · have hstep : stepSends s dcfg channels now = commandSends (updateCircuitMute s dcfg now).1 now
        targets (updateCircuitMute s dcfg now).1.batteries.values := by
      have ht' : computeTargets (updateCircuitMute s dcfg now).1 dcfg
          (updateCircuitMute s dcfg now).1.gridW now = some targets := ht
      simp only [stepSends,updateCircuitMute_fresh,hf,Bool.not_true,Bool.false_eq_true,if_false,ht']
    rw [hstep]
    exact congrArg some (commandAll_sends hc)

/-- The channels after a pass are the channels before it, after all of its sends. -/
theorem runTick_sends {r : Tick} (h : runTick sun s live (some channels) t = some r) :
    r.dispatch = some (sendAll channels (tickSends sun s live channels t)) := by
  have hbefore : (beforeStep sun s live (some channels) t).dispatch =
      some (sendAll channels (standbySends (tickRemediations s live t))) := by
    rw [sendAll_standbySends, beforeStep, tickRemediations, enforceCircuitSafety]
    split
    · rfl
    · rfl
  unfold runTick at h
  dsimp only at h
  rw [tickSends, sendAll_append]
  cases hmode : live.dispatcher.mode with
  | pulse =>
    rw [hmode] at h
    obtain ⟨s',-,rfl⟩ := Option.map_eq_some_iff.mp h
    exact hbefore
  | modbus =>
    rw [hmode] at h
    obtain ⟨tick,htick,rfl⟩ := Option.map_eq_some_iff.mp h
    rw [hbefore] at htick
    exact stepModbus_sends (by rw [sendAll_standbySends, keys_foldl_standby]) htick

/-! ## Where a setpoint comes from -/

/-- The pass commands the setpoint: it is one of the modbus mode with a fresh grid, and computes the
setpoint for a battery that is neither cut nor on a silent circuit. -/
structure CommandedBy (sun : Sunrise) (s : AppState) (live : Config) (channels : Channels)
    (t : TickTimes) (id : String) (sp : Setpoint) : Prop where
  mode : live.dispatcher.mode = .modbus
  fresh : gridFresh s live.dispatcher t.step = true
  computed : ∃ b targets, let s' := (updateCircuitMute
      (beforeStep sun s live (some channels) t).state live.dispatcher t.step).1
    computeTargets s' live.dispatcher s'.gridW t.step = some targets ∧
      b ∈ s'.batteries.values ∧ b.id = id ∧ isCommanded s' t.step b = true ∧
      setpointFor targets b = some sp

theorem mem_commandSends {bs : List BatteryState} {id : String} {sp : Setpoint}
    (h : (id,sp) ∈ commandSends s now targets bs) :
    ∃ b ∈ bs, b.id = id ∧ isCommanded s now b = true ∧ setpointFor targets b = some sp := by
  induction bs with
  | nil => cases h
  | cons b bs ih =>
    rw [commandSends] at h
    split at h
    · rename_i hcmd
      cases hsp : setpointFor targets b with
      | none =>
        rw [hsp] at h
        cases h
      | some sp' =>
        rw [hsp, sendThen] at h
        rcases List.mem_cons.mp h with he | h
        · cases he
          exact ⟨b,List.mem_cons_self,rfl,hcmd,hsp⟩
        · obtain ⟨b',hb',hrest⟩ := ih h
          exact ⟨b',List.mem_cons_of_mem _ hb',hrest⟩
    · obtain ⟨b',hb',hrest⟩ := ih h
      exact ⟨b',List.mem_cons_of_mem _ hb',hrest⟩

/-- Whatever a pass sends is standby or commanded by it. -/
theorem mem_tickSends {id : String} {sp : Setpoint}
    (h : (id,sp) ∈ tickSends sun s live channels t) :
    sp = .standby ∨ CommandedBy sun s live channels t id sp := by
  have hstandby : ∀ ids, (id,sp) ∈ standbySends ids → sp = .standby := by
    intro ids hids
    obtain ⟨id',-,he⟩ := List.mem_map.mp hids
    cases he
    rfl
  rcases List.mem_append.mp h with h | h
  · exact Or.inl (hstandby _ h)
  · cases hmode : live.dispatcher.mode with
    | pulse =>
      rw [hmode] at h
      cases h
    | modbus =>
      rw [hmode] at h
      unfold stepSends at h
      dsimp only at h
      rw [updateCircuitMute_fresh, gridFresh_beforeStep] at h
      split at h
      · exact Or.inl (hstandby _ h)
      · rename_i hf
        split at h
        · rename_i targets htargets
          obtain ⟨b,hb,hid,hcmd,hsp⟩ := mem_commandSends h
          exact Or.inr ⟨hmode,by simpa using hf,b,targets,htargets,hb,hid,hcmd,hsp⟩
        · cases h

end ShellyMultiplexer
