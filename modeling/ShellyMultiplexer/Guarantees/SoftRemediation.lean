import ShellyMultiplexer.Dispatcher.Relays
import ShellyMultiplexer.Guarantees.CutMarks

/-! # What remediation leaves in the channels

The members of an overloaded circuit are sent standby, and in the same pass of the loop the modbus
step sends each of them its regular command. A channel keeps the last setpoint only, so standby
survives exactly where the step sends standby too or sends nothing. Readings tell where it has
nothing else to send, whatever the grid reads.
-/
namespace ShellyMultiplexer
open Foundation

variable {sun : Sunrise} {s : AppState} {cfg live : Config} {t : TickTimes} {c : String}
variable {cs : CircuitState} {channels : Channels} {r : Tick} {b : BatteryState}
variable {dcfg : DispatcherConfig} {gridW : ℚ} {now : Instant}

/-- The circuit is over its cap and margin, and has been for the grace period. -/
structure RemediationDue (s : AppState) (dcfg : DispatcherConfig) (now : Instant) (c : String)
    (cs : CircuitState) : Prop where
  circuit : s.circuits.get? c = some cs
  enabled : 0 < dcfg.emergencyCutoffMarginW
  overloaded : isOverloaded s dcfg.emergencyCutoffMarginW cs = true
  since : ∃ o, cs.overloadStartedAt = some o ∧ o + emergencyCutoffGraceS ≤ now

/-- A relay-on member that is not cut and has a writer. -/
def IsRemediated (s : AppState) (cs : CircuitState) (channels : Channels) (now : Instant)
    (b : BatteryState) : Prop :=
  b ∈ relayOnMembers s cs ∧ b.isCut now = false ∧ (channels.get? b.id).isSome

/-- The pass cuts the battery until after its step, as the worst offender or for the night. -/
def CutByPass (sun : Sunrise) (s : AppState) (live : Config) (t : TickTimes) (b : BatteryState) :
    Prop :=
  (TripDue s live t b.id ∧ t.step < t.safety + cutoffRecovery) ∨
    (¬ TripDue s live t b.id ∧ ∃ night, tickNight sun live t = some night ∧
      isNightCutDue live.dispatcher night b = true ∧ t.step < t.night + night.untilSunrise)

/-- The step leaves the battery alone: nothing is dispatched, or the battery is cut by this pass, or
its circuit is silent. -/
def LeftAlone (sun : Sunrise) (s : AppState) (live : Config) (t : TickTimes) (b : BatteryState) :
    Prop :=
  gridFresh s live.dispatcher t.step = false ∨ CutByPass sun s live t b ∨
    s.circuitMuted t.step b.circuit = true

/-- The state from which the step computes, and the battery in it. -/
def metState (sun : Sunrise) (s : AppState) (live : Config) (channels : Channels) (t : TickTimes) :
    AppState :=
  (updateCircuitMute (beforeStep sun s live (some channels) t).state live.dispatcher t.step).1

def metByStep (sun : Sunrise) (s : AppState) (live : Config) (t : TickTimes) (b : BatteryState) :
    BatteryState :=
  nightOutcome live.dispatcher live.location sun t.utc t.night
    (stampWith t.safety (tripFor (tickTrips s live t) b.id) b)

/-! ## What the step meets -/

theorem metState_battery (hget : s.batteries.get? b.id = some b) :
    (metState sun s live channels t).batteries.get? b.id = some (metByStep sun s live t b) := by
  rw [metState, updateCircuitMute_batteries, beforeStep_battery, hget]
  rfl

/-- The pass changes no reading before its step. -/
theorem metByStep_eq (sun : Sunrise) (s : AppState) (live : Config) (t : TickTimes)
    (b : BatteryState) : ∃ cutUntil reason relay, metByStep sun s live t b =
      { b with plugCutUntil := cutUntil, plugCutReason := reason, plugRelayState := relay } := by
  have hstamp : ∃ cutUntil reason relay,
      stampWith t.safety (tripFor (tickTrips s live t) b.id) b =
        { b with plugCutUntil := cutUntil, plugCutReason := reason, plugRelayState := relay } := by
    cases tripFor (tickTrips s live t) b.id with
    | none => exact ⟨_,_,_,rfl⟩
    | some trip => exact ⟨_,_,_,rfl⟩
  obtain ⟨cutUntil,reason,relay,hstamp⟩ := hstamp
  rw [metByStep, hstamp, nightOutcome_eq]
  cases tickNight sun live t with
  | none => exact ⟨_,_,_,rfl⟩
  | some night =>
    rw [Option.map_some, Option.getD_some, judgeNight]
    split
    · exact ⟨_,_,_,rfl⟩
    · split <;> exact ⟨_,_,_,rfl⟩

theorem runtimeOf_metState (hrun : s.RuntimeOf cfg) (sun : Sunrise) (live : Config)
    (channels : Channels) (t : TickTimes) : (metState sun s live channels t).RuntimeOf cfg :=
  runtimeOf_updateCircuitMute (runtimeOf_beforeStep hrun sun live (some channels) t)

/-- The step meets the state before the pass with other cut marks. -/
theorem remarked_metState (hs : s.Valid) (hmode : live.dispatcher.mode = .modbus)
    (channels : Channels) :
    Remarked t.step s (metState sun s live channels t) (metByStep sun s live t) where
  battery id := by
    cases hget : s.batteries.get? id with
    | none =>
      rw [metState, updateCircuitMute_batteries, beforeStep_battery, hget]
      rfl
    | some b =>
      have hid := hs.id_eq hget
      rw [← hid, metState_battery (hid ▸ hget)]
      rfl
  mark := metByStep_eq sun s live t
  muted := step_circuitMuted hmode

theorem metByStep_of_trip {trip : Trip} (htrip : tripFor (tickTrips s live t) b.id = some trip) :
    metByStep sun s live t b = stampTrip t.safety trip.reason b := by
  rw [metByStep, htrip]
  exact nightOutcome_stampTrip (tripDue_of_mem (tripFor_mem htrip).1).2

theorem metByStep_of_no_trip (htrip : tripFor (tickTrips s live t) b.id = none) :
    metByStep sun s live t b = ((tickNight sun live t).map
      (fun night => judgeNight live.dispatcher night t.night b)).getD b := by
  rw [metByStep, htrip, nightOutcome_eq]
  rfl

theorem isCut_of_cutByPass (h : CutByPass sun s live t b) :
    (metByStep sun s live t b).isCut t.step = true := by
  rw [CutByPass, tripDue_iff] at h
  rcases h with ⟨⟨trip,htrip⟩,hlt⟩ | ⟨hnone,night,hnight,hdue,hlt⟩
  · rw [metByStep_of_trip htrip]
    simpa [BatteryState.isCut,stampTrip] using hlt
  · have htrip : tripFor (tickTrips s live t) b.id = none :=
      Option.eq_none_iff_forall_ne_some.mpr (fun trip htrip => hnone ⟨trip,htrip⟩)
    rw [metByStep_of_no_trip htrip, hnight, Option.map_some, Option.getD_some, judgeNight,
      if_pos hdue]
    simpa [BatteryState.isCut] using hlt

/-- A battery that was not cut before is cut by the pass. -/
theorem cutByPass_of_isCut (hcut : b.isCut t.safety = false) (hclock : t.safety ≤ t.step)
    (h : (metByStep sun s live t b).isCut t.step = true) : CutByPass sun s live t b := by
  have hbefore : b.isCut t.step = false := by
    cases hu : b.plugCutUntil with
    | none => simp [BatteryState.isCut,hu]
    | some u =>
      simp only [BatteryState.isCut, hu, Option.map_some, Option.getD_some,
        decide_eq_false_iff_not, not_lt] at hcut ⊢
      exact hcut.trans hclock
  rw [CutByPass, tripDue_iff]
  cases htrip : tripFor (tickTrips s live t) b.id with
  | some trip =>
    rw [metByStep_of_trip htrip] at h
    exact Or.inl ⟨⟨trip,rfl⟩,by simpa [BatteryState.isCut,stampTrip] using h⟩
  | none =>
    rw [metByStep_of_no_trip htrip] at h
    refine Or.inr ⟨by simp,?_⟩
    cases hn : tickNight sun live t with
    | none =>
      rw [hn, Option.map_none, Option.getD_none, hbefore] at h
      cases h
    | some night =>
      rw [hn, Option.map_some, Option.getD_some, judgeNight] at h
      split at h
      · rename_i hdue
        exact ⟨night,rfl,hdue,by simpa [BatteryState.isCut] using h⟩
      · split at h
        · cases h
        · rw [hbefore] at h
          cases h

/-! ## What the pass leaves -/

theorem RemediationDue.softRemediate (h : RemediationDue s live.dispatcher t.safety c cs)
    (hb : b ∈ relayOnMembers s cs) (hcut : b.isCut t.safety = false) : b.id ∈
      (judgeCircuit s live.dispatcher.emergencyCutoffMarginW t.safety cs).softRemediate := by
  obtain ⟨o,ho,hle⟩ := h.since
  have hg : cs.overloadStartedAt.getD t.safety + overloadGrace ≤ t.safety := by
    rw [ho, Option.getD_some, overloadGrace_eq]
    exact hle
  rw [(judgeCircuit_of_overdue h.overloaded hg).2]
  exact List.mem_map_of_mem (List.mem_filter.mpr ⟨hb,by rw [hcut]; rfl⟩)

/-- What a step leaves in a channel that it meets at standby. -/
theorem stepModbus_channel {m : AppState} (hv : m.Valid) {dcfg : DispatcherConfig} {now : Instant}
    {ch : Channels} {tick : ModbusTick} (hstep : stepModbus m dcfg (some ch) now = some tick)
    (hb : m.batteries.get? b.id = some b) (hget : ch.get? b.id = some .standby) :
    ∃ ch' sp, tick.dispatch = some ch' ∧ ch'.get? b.id = some sp ∧
      if gridFresh m dcfg now = true ∧
          isCommanded (updateCircuitMute m dcfg now).1 now b = true then
        ∃ targets, computeTargets (updateCircuitMute m dcfg now).1 dcfg m.gridW now = some targets ∧
          setpointFor targets b = some sp
      else sp = .standby := by
  rcases stepModbus_cases hstep with ⟨hf,rfl⟩ | ⟨hf,targets,ch',summaries,htargets,hcmd,rfl⟩
  · refine ⟨standbyAll ch,.standby,rfl,?_,?_⟩
    · rw [standbyAll_get?, hget]
      rfl
    · rw [if_neg (by simp [hf])]
  · have hval : b ∈ (updateCircuitMute m dcfg now).1.batteries.values := hv.mem_values.mpr hb
    have hn : ((updateCircuitMute m dcfg now).1.batteries.values.map (·.id)).Nodup :=
      hv.values_nodup
    have hend := commandAll_channel hn hcmd hval
    rw [hget, Option.bind_some] at hend
    by_cases hsent : isCommanded (updateCircuitMute m dcfg now).1 now b = true
    · obtain ⟨sp,hsp⟩ := Option.isSome_iff_exists.mp
        (commandAll_isSome_iff.mp (by rw [hcmd]; rfl) b hval hsent)
      rw [if_pos hsent, hsp] at hend
      exact ⟨ch',sp,rfl,hend,by rw [if_pos ⟨hf,hsent⟩]; exact ⟨targets,htargets,hsp⟩⟩
    · rw [if_neg hsent] at hend
      exact ⟨ch',.standby,rfl,hend,by rw [if_neg (fun h => hsent h.2)]⟩

/-- What a whole pass leaves in the channel of a remediated battery. -/
theorem runTick_channel (hw : cfg.WellFormed) (hrun : s.RuntimeOf cfg)
    (hmode : live.dispatcher.mode = .modbus)
    (hdue : RemediationDue s live.dispatcher t.safety c cs)
    (hstep : runTick sun s live (some channels) t = some r)
    (hb : IsRemediated s cs channels t.safety b) :
    ∃ channels' sp, r.dispatch = some channels' ∧ channels'.get? b.id = some sp ∧
      if gridFresh s live.dispatcher t.step = true ∧
          isCommanded (metState sun s live channels t) t.step (metByStep sun s live t b) = true then
        ∃ targets, computeTargets (metState sun s live channels t) live.dispatcher s.gridW t.step =
          some targets ∧ setpointFor targets (metByStep sun s live t b) = some sp
      else sp = .standby := by
  obtain ⟨hmem,hcut,hwriter⟩ := hb
  obtain ⟨ch,hch,hget⟩ := beforeStep_channel sun channels hdue.enabled hdue.circuit
    (hdue.softRemediate hmem hcut)
  obtain ⟨before,hbefore⟩ := Option.isSome_iff_exists.mp hwriter
  rw [hbefore, Option.map_some] at hget
  have hmid := runtimeOf_beforeStep hrun sun live (some channels) t
  obtain ⟨hsget,-⟩ := ((hrun.valid hw).mem_lookup hdue.circuit).mp (List.mem_filter.mp hmem).1
  obtain ⟨_,_,_,hmet⟩ := metByStep_eq sun s live t b
  have hid : (metByStep sun s live t b).id = b.id := by rw [hmet]
  unfold runTick at hstep
  simp only [hmode, hch] at hstep
  obtain ⟨tick,htick,rfl⟩ := Option.map_eq_some_iff.mp hstep
  obtain ⟨ch',sp,hch',hsp,hsent⟩ := stepModbus_channel (b := metByStep sun s live t b)
    (hmid.valid hw) htick (hid ▸ metState_battery hsget) (hid.symm ▸ hget)
  rw [gridFresh_beforeStep, gridW_beforeStep] at hsent
  exact ⟨ch',sp,hch',hid ▸ hsp,hsent⟩

/-- A battery that the step leaves alone is not commanded. -/
theorem isCommanded_metState_iff (hmode : live.dispatcher.mode = .modbus) :
    isCommanded (metState sun s live channels t) t.step (metByStep sun s live t b) = true ↔
      (metByStep sun s live t b).isCut t.step = false ∧
        s.circuitMuted t.step b.circuit = false := by
  obtain ⟨_,_,_,hmet⟩ := metByStep_eq sun s live t b
  have hcirc : (metByStep sun s live t b).circuit = b.circuit := by rw [hmet]
  rw [isCommanded, hcirc, metState, step_circuitMuted hmode, Bool.and_eq_true, Bool.not_eq_true',
    Bool.not_eq_true']

/-! ## Another grid reading -/

def AppState.withGrid (s : AppState) (gridW : ℚ) : AppState :=
  { s with snapshot := { s.snapshot with totalActPower := some gridW } }

theorem AppState.RuntimeOf.withGrid (hs : s.RuntimeOf cfg) (gridW : ℚ) :
    (s.withGrid gridW).RuntimeOf cfg := ⟨hs.batteries,hs.circuits⟩

/-- What the step computes from does not depend on the grid reading. -/
theorem metState_withGrid (sun : Sunrise) (s : AppState) (live : Config) (channels : Channels)
    (t : TickTimes) (gridW : ℚ) : metState sun (s.withGrid gridW) live channels t =
      (metState sun s live channels t).withGrid gridW := by
  simp only [metState, beforeStep, enforceCircuitSafety, enforceNightCutoff]
  rcases le_or_gt live.dispatcher.emergencyCutoffMarginW 0 with hm | hm
  · simp only [if_pos hm]
    cases live.dispatcher.nightCutoffEnabled with
    | false => rfl
    | true => cases nightAt sun live.location t.utc <;> rfl
  · simp only [if_neg (not_le.mpr hm)]
    cases live.dispatcher.nightCutoffEnabled with
    | false => rfl
    | true => cases nightAt sun live.location t.utc <;> rfl

theorem metByStep_withGrid (gridW : ℚ) :
    metByStep sun (s.withGrid gridW) live t b = metByStep sun s live t b := rfl

theorem computeTargets_withGrid (u : AppState) (w : ℚ) :
    computeTargets (u.withGrid w) dcfg gridW now = computeTargets u dcfg gridW now := rfl

theorem isCommanded_withGrid (u : AppState) (w : ℚ) :
    isCommanded (u.withGrid w) now b = isCommanded u now b := rfl

/-! ## Standby after the pass -/

/-- When remediation is what the writers are left with. Readings under which no demand makes a
command, or a step that leaves the battery alone, are enough for each battery, whatever the grid
reads. A battery that is not left alone, and that the readings do move, has its standby overwritten
under some grid reading. -/
structure StandbyKept (sun : Sunrise) (s : AppState) (live : Config) (channels : Channels)
    (t : TickTimes) (cs : CircuitState) : Prop where
  enough : (∀ b, IsRemediated s cs channels t.safety b → LeftAlone sun s live t b ∨
      IdleByReadings s live.dispatcher t.step cs b) →
    ∀ r, runTick sun s live (some channels) t = some r →
      ∀ b, IsRemediated s cs channels t.safety b →
      ∃ channels', r.dispatch = some channels' ∧ channels'.get? b.id = some .standby
  needed : t.safety ≤ t.step → ∀ b, IsRemediated s cs channels t.safety b →
    ¬ LeftAlone sun s live t b →
    MovedByReadings s live.dispatcher t.step cs b →
    ∃ gridW, ∀ r, runTick sun (s.withGrid gridW) live (some channels) t = some r →
      ∃ channels', r.dispatch = some channels' ∧ channels'.get? b.id ≠ some .standby

/-- A remediated battery and its circuit as the step meets them. -/
theorem IsRemediated.met (sun : Sunrise) (live : Config) (hw : cfg.WellFormed)
    (hrun : s.RuntimeOf cfg) (hc : s.circuits.get? c = some cs)
    (hb : IsRemediated s cs channels t.safety b) :
    s.batteries.get? b.id = some b ∧
    (metState sun s live channels t).batteries.get? (metByStep sun s live t b).id =
      some (metByStep sun s live t b) ∧
    ∃ cs', (metState sun s live channels t).circuits.get? (metByStep sun s live t b).circuit =
      some cs' ∧ cs'.toCircuitTopology = cs.toCircuitTopology := by
  obtain ⟨hget,rfl⟩ := ((hrun.valid hw).mem_lookup hc).mp (List.mem_filter.mp hb.1).1
  obtain ⟨_,_,_,hmet⟩ := metByStep_eq sun s live t b
  have hid : (metByStep sun s live t b).id = b.id := by rw [hmet]
  have hcirc : (metByStep sun s live t b).circuit = b.circuit := by rw [hmet]
  have htop := ((runtimeOf_metState hrun sun live channels t).circuits b.circuit).trans
    (hrun.circuits b.circuit).symm
  rw [hc, Option.map_some] at htop
  obtain ⟨cs',hcs',htop⟩ := Option.map_eq_some_iff.mp htop
  exact ⟨hget,hid ▸ metState_battery hget,cs',hcirc ▸ hcs',htop⟩

/-- Of its circuit only what the configuration says is looked at. -/
theorem IdleByReadings.congr {cs' : CircuitState}
    (htop : cs'.toCircuitTopology = cs.toCircuitTopology)
    (h : IdleByReadings s dcfg now cs b) : IdleByReadings s dcfg now cs' b := by
  cases cs'
  cases cs
  cases htop
  exact h

theorem MovedByReadings.congr {cs' : CircuitState}
    (htop : cs'.toCircuitTopology = cs.toCircuitTopology)
    (h : MovedByReadings s dcfg now cs b) : MovedByReadings s dcfg now cs' b := by
  cases cs'
  cases cs
  cases htop
  exact h

/-- Readings under which nothing is to be sent, or a step that sends nothing, keep the standby. -/
theorem standby_of_idle (hw : cfg.WellFormed) (hrun : s.RuntimeOf cfg)
    (hmode : live.dispatcher.mode = .modbus)
    (hdue : RemediationDue s live.dispatcher t.safety c cs)
    (hstep : runTick sun s live (some channels) t = some r)
    (hb : IsRemediated s cs channels t.safety b)
    (h : LeftAlone sun s live t b ∨ IdleByReadings s live.dispatcher t.step cs b) :
    ∃ channels', r.dispatch = some channels' ∧ channels'.get? b.id = some .standby := by
  have hs := hrun.valid hw
  have hu := (runtimeOf_metState hrun sun live channels t).valid hw
  obtain ⟨hbefore,hmet,cs',hc',htop⟩ := hb.met sun live hw hrun hdue.circuit
  obtain ⟨channels',sp,hchannels',hget,hsent⟩ := runTick_channel hw hrun hmode hdue hstep hb
  refine ⟨channels',hchannels',?_⟩
  split at hsent
  · rename_i hcommanded
    obtain ⟨hfresh,hcmd⟩ := hcommanded
    obtain ⟨targets,htargets,hsp⟩ := hsent
    obtain ⟨hnotcut,hopen⟩ := (isCommanded_metState_iff hmode).mp hcmd
    rcases h with (hstale | hcut | hmuted) | hidle
    · rw [hfresh] at hstale
      cases hstale
    · rw [isCut_of_cutByPass hcut] at hnotcut
      cases hnotcut
    · rw [hopen] at hmuted
      cases hmuted
    · obtain ⟨targets',share,htargets',hcomp,-⟩ :=
        computeTargets_spec hu live.dispatcher s.gridW t.step
      obtain rfl := Option.some.inj (htargets.symm.trans htargets')
      have hidle' := ((remarked_metState hs hmode channels).idleByReadings_mark hs hu hbefore).mpr
        (hidle.congr htop)
      rw [hget, setpointFor_of_idle hu hcomp hc' hmet hcmd hidle' hsp]
  · rw [hget, hsent]

/-- A battery that is neither left alone nor idle at the ends of the demand loses its standby under
some grid reading. -/
theorem overwritten_of_moved (hw : cfg.WellFormed) (hrun : s.RuntimeOf cfg)
    (hmode : live.dispatcher.mode = .modbus)
    (hdue : RemediationDue s live.dispatcher t.safety c cs) (hclock : t.safety ≤ t.step)
    (hb : IsRemediated s cs channels t.safety b) (hleft : ¬ LeftAlone sun s live t b)
    (hmoved : MovedByReadings s live.dispatcher t.step cs b) :
    ∃ gridW, ∀ r, runTick sun (s.withGrid gridW) live (some channels) t = some r →
      ∃ channels', r.dispatch = some channels' ∧ channels'.get? b.id ≠ some .standby := by
  have hs := hrun.valid hw
  have hu := (runtimeOf_metState hrun sun live channels t).valid hw
  obtain ⟨hbefore,hmet,cs',hc',htop⟩ := hb.met sun live hw hrun hdue.circuit
  rw [LeftAlone, not_or, not_or, Bool.not_eq_false, Bool.not_eq_true] at hleft
  obtain ⟨hfresh,hnotcut,hopen⟩ := hleft
  have hcmd : isCommanded (metState sun s live channels t) t.step (metByStep sun s live t b) =
      true :=
    (isCommanded_metState_iff hmode).mpr ⟨Bool.eq_false_iff.mpr (fun hcut =>
      hnotcut (cutByPass_of_isCut hb.2.1 hclock hcut)),hopen⟩
  have hmoved' := ((remarked_metState hs hmode channels).movedByReadings_mark hs hu hbefore).mpr
    (hmoved.congr htop)
  obtain ⟨gridW,targets,htargets,hlarge⟩ := exists_moved hu hc' hmet hcmd hmoved'
  refine ⟨gridW,fun r hstep => ?_⟩
  obtain ⟨channels',sp,hchannels',hget,hsent⟩ := runTick_channel hw (hrun.withGrid gridW) hmode
    ⟨hdue.circuit,hdue.enabled,hdue.overloaded,hdue.since⟩ hstep hb
  refine ⟨channels',hchannels',fun hstandby => ?_⟩
  rw [metState_withGrid, metByStep_withGrid, isCommanded_withGrid, computeTargets_withGrid,
    if_pos ⟨hfresh,hcmd⟩] at hsent
  obtain ⟨targets',htargets',hsp⟩ := hsent
  obtain rfl := Option.some.inj (htargets.symm.trans htargets')
  rw [hget, Option.some.injEq] at hstandby
  rw [hstandby] at hsp
  exact absurd hlarge (not_le.mpr (Setpoint.fromSignedWatts_eq_standby_iff.mp hsp))

theorem runTick_leaves_standby {isSocketAddr : String → Bool}
    (hcfg : cfg.validate isSocketAddr = .ok ()) (hrun : s.RuntimeOf cfg)
    (hmode : live.dispatcher.mode = .modbus)
    (hdue : RemediationDue s live.dispatcher t.safety c cs) :
    StandbyKept sun s live channels t cs where
  enough h _ hstep b hb :=
    standby_of_idle (Config.wellFormed_of_validate hcfg) hrun hmode hdue hstep hb (h b hb)
  needed hclock _ hb hleft hmoved := overwritten_of_moved (Config.wellFormed_of_validate hcfg) hrun
    hmode hdue hclock hb hleft hmoved

/-! ## An overload in the garage -/

def garageDischarges (id : String) (b : BatteryState) : BatteryState :=
  { b with lastPlugW := some (if id = "c" then 0 else 2500), lastPlugAt := some 10 }

/-- Both garage batteries discharge at full power, and have for ten seconds. -/
def overloadedGarage (gridAge : Option Instant) : AppState :=
  { AppState.measured house ⟨some 0,gridAge⟩ garageDischarges with
    circuits := (AppState.measured house ⟨some 0,gridAge⟩ garageDischarges).circuits.mapVal
      (fun _ cs => { cs with overloadStartedAt := some 0 }) }

theorem runtimeOf_overloadedGarage (gridAge : Option Instant) :
    (overloadedGarage gridAge).RuntimeOf house :=
  (AppState.RuntimeOf.measured house ⟨some 0,gridAge⟩ garageDischarges
    (fun _ _ => rfl)).mapCircuits _ (fun _ _ => rfl)

def atTen : TickTimes := ⟨10,10,0,10,10⟩

def garageCircuit : CircuitState :=
  ((overloadedGarage none).circuits.get? "garage").get (by decide +kernel)

theorem overloadedGarage_due (gridAge : Option Instant) :
    RemediationDue (overloadedGarage gridAge) house.dispatcher atTen.safety "garage"
      garageCircuit where
  circuit := (Option.some_get _).symm
  enabled := by decide +kernel
  overloaded := by
    change isOverloaded (overloadedGarage none) _ _ = true
    decide +kernel
  since := ⟨0,by decide +kernel,by decide +kernel⟩

/-- Without a grid reading nothing is commanded. -/
theorem runTick_leaves_standby_house : ∃ r,
    runTick noSun (overloadedGarage none) house (some (spawnChannels house)) atTen = some r ∧
      ∀ b, IsRemediated (overloadedGarage none) garageCircuit (spawnChannels house) 10 b →
        ∃ channels', r.dispatch = some channels' ∧ channels'.get? b.id = some .standby := by
  have hstep : runTick noSun (overloadedGarage none) house (some (spawnChannels house)) atTen =
      some ((runTick noSun (overloadedGarage none) house (some (spawnChannels house)) atTen).get
        (by decide +kernel)) := by simp
  exact ⟨_,hstep,(runTick_leaves_standby house_valid (runtimeOf_overloadedGarage none) rfl
    (overloadedGarage_due none)).enough (fun _ _ => Or.inl (Or.inl (by decide +kernel))) _ hstep⟩

/-- With one the standby of battery `a` is overwritten in the same pass. -/
theorem garage_standby_overwritten : house.validate (fun _ => true) = .ok () ∧
    (overloadedGarage (some 10)).RuntimeOf house ∧
    RemediationDue (overloadedGarage (some 10)) house.dispatcher 10 "garage" garageCircuit ∧
    ∃ b r, IsRemediated (overloadedGarage (some 10)) garageCircuit (spawnChannels house) 10 b ∧
      runTick noSun (overloadedGarage (some 10)) house (some (spawnChannels house)) atTen = some r ∧
      r.dispatch.bind (fun channels' => channels'.get? b.id) = some (.discharge 1012) := by
  refine ⟨house_valid,runtimeOf_overloadedGarage (some 10),overloadedGarage_due (some 10),
    ((overloadedGarage (some 10)).batteries.get? "a").get (by decide +kernel),
    (runTick noSun (overloadedGarage (some 10)) house (some (spawnChannels house)) atTen).get
      (by decide +kernel),⟨?_,?_,?_⟩,(Option.some_get _).symm,?_⟩
  · decide +kernel
  · decide +kernel
  · decide +kernel
  · decide +kernel

end ShellyMultiplexer
