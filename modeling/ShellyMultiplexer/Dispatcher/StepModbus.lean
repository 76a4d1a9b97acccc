import ShellyMultiplexer.Dispatcher.Mute
import ShellyMultiplexer.Dispatcher.Targets
import ShellyMultiplexer.Model.Setpoint

/-! # The modbus tick

Every battery that is neither cut nor muted is sent its compensated target. A writer's channel keeps
the last setpoint it was sent; the per-circuit summary adds up what was sent in this tick.
-/
namespace ShellyMultiplexer
open Foundation

/-- The watch channels of the writers; a battery without a writer has none. -/
abbrev Channels := Table String Setpoint

def send (channels : Channels) (batteryId : String) (sp : Setpoint) : Channels :=
  channels.modify batteryId (fun _ => sp)

/-- One channel for each battery with a `modbus_host`; it starts at standby. -/
def spawnChannels (cfg : Config) : Channels :=
  (cfg.batteries.filter (fun b => b.modbusHost.isSome)).foldl
    (fun t b => t.insert b.id .standby) Table.empty

structure BatterySummary where
  id : String
  target : ℚ
  commanded : ℚ
  plug : ℚ
  overhead : ℚ

structure CircuitSummary where
  targetSum : ℚ := 0
  commandedSum : ℚ := 0
  plugSum : ℚ := 0
  capW : ℚ := 0
  perBattery : List BatterySummary := []

def CircuitSummary.add (e : CircuitSummary) (b : BatterySummary) : CircuitSummary :=
  { e with
    targetSum := e.targetSum + b.target
    commandedSum := e.commandedSum + b.commanded
    plugSum := e.plugSum + b.plug
    perBattery := e.perBattery ++ [b] }

/-- Neither cut nor on a muted circuit. -/
def isCommanded (s : AppState) (now : Instant) (b : BatteryState) : Bool :=
  !b.isCut now && !s.circuitMuted now b.circuit

def compensatedTarget (targets : Table String ℚ) (b : BatteryState) : ℚ :=
  applyOverheadCompensation ((targets.get? b.id).getD 0) (b.plugOverheadWSmoothed.getD 0)

def setpointFor (targets : Table String ℚ) (b : BatteryState) : Option Setpoint :=
  Setpoint.fromSignedWatts (compensatedTarget targets b) b.maxChargeW b.maxDischargeW

def summarize (targets : Table String ℚ) (b : BatteryState) (sp : Setpoint) : BatterySummary where
  id := b.id
  target := (targets.get? b.id).getD 0
  commanded := sp.toSignedWatts
  plug := b.lastPlugW.getD 0
  overhead := b.plugOverheadWSmoothed.getD 0

/-- The body of the loop over all batteries. -/
def commandBattery (s : AppState) (now : Instant) (targets : Table String ℚ)
    (acc : Channels × Table String CircuitSummary) (b : BatteryState) :
    Option (Channels × Table String CircuitSummary) :=
  if isCommanded s now b then
    (setpointFor targets b).map (fun sp => (send acc.1 b.id sp,
      acc.2.insert b.circuit (((acc.2.get? b.circuit).getD {}).add (summarize targets b sp))))
  else some acc

def commandAll (s : AppState) (now : Instant) (targets : Table String ℚ) (channels : Channels) :
    Option (Channels × Table String CircuitSummary) :=
  s.batteries.values.foldlM (commandBattery s now targets) (channels,Table.empty)

def fillCaps (s : AppState) (summaries : Table String CircuitSummary) :
    Table String CircuitSummary :=
  summaries.mapVal (fun cid e =>
    ((s.circuits.get? cid).map (fun cs => { e with capW := cs.capW })).getD e)

def standbyAll (channels : Channels) : Channels :=
  channels.keys.foldl (fun ch id => send ch id .standby) channels

structure ModbusTick where
  state : AppState
  dispatch : Option Channels
  summaries : Table String CircuitSummary

def AppState.gridW (s : AppState) : ℚ := s.snapshot.totalActPower.getD 0

def stepModbus (s : AppState) (dcfg : DispatcherConfig) (dispatch : Option Channels)
    (now : Instant) : Option ModbusTick :=
  match dispatch with
  | none => some ⟨s,none,Table.empty⟩
  | some channels =>
    let (s,fresh) := updateCircuitMute s dcfg now
    if !fresh then some ⟨s,some (standbyAll channels),Table.empty⟩
    else do
      let targets ← computeTargets s dcfg s.gridW now
      let (channels,summaries) ← commandAll s now targets channels
      return ⟨s,some channels,fillCaps s summaries⟩

/-! ## The loop, battery by battery -/

variable {s : AppState} {now : Instant} {targets : Table String ℚ} {channels : Channels}

/-- The power a battery is commanded, zero when its mapping panics. -/
def commandedW (targets : Table String ℚ) (b : BatteryState) : ℚ :=
  ((setpointFor targets b).map Setpoint.toSignedWatts).getD 0

def commandedOn (s : AppState) (now : Instant) (c : String) (bs : List BatteryState) :
    List BatteryState :=
  bs.filter (fun b => isCommanded s now b && b.circuit == c)

/-- The loop fails exactly when one of the mappings it makes fails. -/
theorem commandAll_isSome_iff : (commandAll s now targets channels).isSome ↔
    ∀ b ∈ s.batteries.values, isCommanded s now b → (setpointFor targets b).isSome := by
  unfold commandAll
  generalize (channels,(Table.empty : Table String CircuitSummary)) = acc
  induction s.batteries.values generalizing acc with
  | nil => simp
  | cons b bs ih =>
    rw [List.foldlM_cons, List.forall_mem_cons]
    by_cases hb : isCommanded s now b
    · cases hsp : setpointFor targets b with
      | none => simp [commandBattery,hb,hsp]
      | some sp =>
        simp only [commandBattery, hb, if_true, hsp, Option.map_some, Option.bind_eq_bind,
          Option.bind_some, Option.isSome_some, true_and, forall_const]
        exact ih _
    · simp only [commandBattery, hb, Bool.false_eq_true, if_false, Option.bind_eq_bind,
        Option.bind_some, false_imp_iff, true_and]
      exact ih _

/-- One turn of the loop touches the channel of its own battery only. -/
theorem commandBattery_channel {acc acc' : Channels × Table String CircuitSummary}
    {a : BatteryState} (h : commandBattery s now targets acc a = some acc') :
    acc'.1.get? a.id = (if isCommanded s now a then
        (acc.1.get? a.id).bind (fun _ => setpointFor targets a) else acc.1.get? a.id) ∧
      ∀ k, k ≠ a.id → acc'.1.get? k = acc.1.get? k := by
  by_cases hcmd : isCommanded s now a
  · rw [commandBattery, if_pos hcmd] at h
    obtain ⟨sp,hsp,rfl⟩ := Option.map_eq_some_iff.mp h
    refine ⟨?_,fun k hk => Table.get?_modify_of_ne _ _ hk⟩
    rw [if_pos hcmd, send, Table.get?_modify_self, hsp]
    cases acc.1.get? a.id <;> rfl
  · rw [commandBattery, if_neg hcmd] at h
    cases h
    exact ⟨(if_neg hcmd).symm,fun _ _ => rfl⟩

theorem foldlM_commandBattery_channel {bs : List BatteryState}
    {acc acc' : Channels × Table String CircuitSummary} (hn : (bs.map (·.id)).Nodup)
    (h : bs.foldlM (commandBattery s now targets) acc = some acc') :
    (∀ k ∉ bs.map (·.id), acc'.1.get? k = acc.1.get? k) ∧ ∀ b ∈ bs, acc'.1.get? b.id =
      if isCommanded s now b then (acc.1.get? b.id).bind (fun _ => setpointFor targets b)
      else acc.1.get? b.id := by
  induction bs generalizing acc with
  | nil =>
    cases h
    simp
  | cons a bs ih =>
    obtain ⟨ha,hn⟩ := List.nodup_cons.mp hn
    rw [List.foldlM_cons] at h
    obtain ⟨acc₁,hstep,h⟩ := Option.bind_eq_some_iff.mp h
    obtain ⟨hout,hin⟩ := ih hn h
    obtain ⟨hself,hother⟩ := commandBattery_channel hstep
    refine ⟨fun k hk => ?_,fun b hb => ?_⟩
    · rw [List.map_cons, List.mem_cons, not_or] at hk
      rw [hout k hk.2, hother k hk.1]
    · rcases List.mem_cons.mp hb with rfl | hb
      · rw [hout _ ha, hself]
      · rw [hin b hb, hother _ (fun he => ha (List.mem_map.mpr ⟨b,hb,he⟩))]

/-- What a finished loop leaves in a writer's channel. -/
theorem commandAll_channel {channels' : Channels} {summaries : Table String CircuitSummary}
    (hn : (s.batteries.values.map (·.id)).Nodup)
    (h : commandAll s now targets channels = some (channels',summaries)) {b : BatteryState}
    (hb : b ∈ s.batteries.values) : channels'.get? b.id =
      if isCommanded s now b then (channels.get? b.id).bind (fun _ => setpointFor targets b)
      else channels.get? b.id :=
  (foldlM_commandBattery_channel hn h).2 b hb

theorem spawnChannels_standby {cfg : Config} {id : String} {sp : Setpoint}
    (h : (spawnChannels cfg).get? id = some sp) : sp = .standby := by
  refine foldl_inv _ (fun ch : Channels => ∀ id sp, ch.get? id = some sp → sp = .standby) _ _
    (by simp) (fun ch b _ hch id sp hget => ?_) id sp h
  rw [Table.get?_insert] at hget
  split at hget
  · exact (Option.some.inj hget).symm
  · exact hch id sp hget

theorem standbyAll_get? (channels : Channels) (k : String) :
    (standbyAll channels).get? k = (channels.get? k).map (fun _ => Setpoint.standby) := by
  unfold standbyAll send
  rw [Table.get?_foldl_modify _ _ channels.nodup_keys]
  split
  · rfl
  · rename_i hk
    rw [(Table.get?_eq_none_iff _ _).mpr hk, Option.map_none]

@[simp] theorem keys_standbyAll (channels : Channels) : (standbyAll channels).keys = channels.keys :=
  Table.keys_foldl_modify _ _ _

theorem commandAll_keys {channels' : Channels} {summaries : Table String CircuitSummary}
    (h : commandAll s now targets channels = some (channels',summaries)) :
    channels'.keys = channels.keys := by
  refine foldlM_inv (commandBattery s now targets) (fun acc => acc.1.keys = channels.keys) h rfl ?_
  intro acc b acc' _ hacc hstep
  unfold commandBattery at hstep
  split at hstep
  · obtain ⟨sp,-,rfl⟩ := Option.map_eq_some_iff.mp hstep
    exact (Table.keys_modify _ _ _).trans hacc
  · cases hstep
    exact hacc

/-- The three ways a modbus tick with writers can go. -/
theorem stepModbus_cases {dcfg : DispatcherConfig} {r : ModbusTick}
    (h : stepModbus s dcfg (some channels) now = some r) :
    (gridFresh s dcfg now = false ∧
      r = ⟨(updateCircuitMute s dcfg now).1,some (standbyAll channels),Table.empty⟩) ∨
    (gridFresh s dcfg now = true ∧ ∃ targets channels' summaries,
      computeTargets (updateCircuitMute s dcfg now).1 dcfg s.gridW now = some targets ∧
      commandAll (updateCircuitMute s dcfg now).1 now targets channels =
        some (channels',summaries) ∧
      r = ⟨(updateCircuitMute s dcfg now).1,some channels',
        fillCaps (updateCircuitMute s dcfg now).1 summaries⟩) := by
  cases hf : gridFresh s dcfg now with
  | false =>
    simp only [stepModbus, updateCircuitMute_fresh, hf, Bool.not_false, if_true] at h
    exact Or.inl ⟨rfl,(Option.some.inj h).symm⟩
  | true =>
    simp only [stepModbus, updateCircuitMute_fresh, hf, Bool.not_true, Bool.false_eq_true,
      if_false, Option.bind_eq_bind] at h
    obtain ⟨targets,ht,h⟩ := Option.bind_eq_some_iff.mp h
    obtain ⟨⟨channels',summaries⟩,hc,h⟩ := Option.bind_eq_some_iff.mp h
    exact Or.inr ⟨rfl,targets,channels',summaries,ht,hc,(Option.some.inj h).symm⟩

end ShellyMultiplexer
