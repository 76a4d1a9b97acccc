import ShellyMultiplexer.Guarantees.GateTimeout

/-! # Verdicts on pulses

A verdict compares the present plug reading with the one from when the pulse was queued. It looks at
neither the time of the reading nor the direction of the movement: a battery whose plug has fallen
silent is locked for a refusal nobody has seen, and a movement the wrong way clears a lock.
-/
namespace ShellyMultiplexer
open Foundation

/-! ## What the verdicts speak about -/

/-- The last pulse that was queued for a battery. -/
structure SentPulse where
  delta : ℚ
  /-- The plug reading when it was queued. -/
  plugW : Option ℚ
  classified : Bool := false
  deriving DecidableEq

/-- The tick that classifies next. -/
def PulsePhase.classifies : PulsePhase → Option (DispatcherConfig × Instant)
  | fresh dcfg now => some (dcfg,now)
  | _ => none

structure RefusalSystem where
  gates : GateSystem
  sent : String → Option SentPulse := fun _ => none

namespace RefusalSystem

def start (cfg : Config) : RefusalSystem where
  gates := GateSystem.start cfg

def app (sys : RefusalSystem) : AppState := sys.gates.pulses.app
def phase (sys : RefusalSystem) : PulsePhase := sys.gates.pulses.phase

/-- A verdict marks the pulse, and a new pulse takes its place. -/
def sentAfter (sys : RefusalSystem) (b : BatteryState) (last : Option SentPulse) :
    PulseEvent → Option SentPulse
  | .proceed _ =>
    match sys.phase with
    | .fresh dcfg now =>
      if (pulseVerdict dcfg now b).isSome then last.map (fun p => { p with classified := true })
      else last
    | .computed now deltas =>
      let delta := (deltas.get? b.id).getD 0
      if sys.app.circuitMuted now b.circuit = true ∨ |delta| < writeDeadbandW then last
      else some { delta := delta, plugW := b.lastPlugW }
    | _ => last
  | _ => last

end RefusalSystem

def refusalStep (sys : RefusalSystem) (e : PulseEvent) : RefusalSystem where
  gates := gateStep sys.gates e
  sent id := ((sys.app.batteries.get? id).map (fun b => sys.sentAfter b (sys.sent id) e)).getD
    (sys.sent id)

/-! ## Soundness -/

/-- All samples of the pulse `p` were taken, the last one at `done`, at least the timeout before
`now`, and the plug, read at `readAt` after that, stands where it stood. -/
structure ConfirmedRefusal (dcfg : DispatcherConfig) (now : Instant) (b : BatteryState)
    (p : SentPulse) (q : ArmedPulse) (done readAt : Instant) (snap plug : ℚ) : Prop where
  large : writeDeadbandW ≤ |p.delta|
  kept : q.dropped = false
  drained : q.polls[pulseCount - 1]? = some done
  settled : dcfg.settleTimeoutS ≤ durationSince now done
  before : p.plugW = some snap
  reading : b.lastPlugW = some plug
  read_at : b.lastPlugAt = some readAt
  read_after : done ≤ readAt
  unmoved : |plug - snap| < plugStableW

/-- The lock of the pulse's direction is set, the other one untouched. -/
def SetsLock (now : Instant) (delta : ℚ) (b b' : BatteryState) : Prop :=
  if delta < 0 then b'.chargeLockedUntil = some (now + socUnknownLockoutS) ∧
    b'.dischargeLockedUntil = b.dischargeLockedUntil
  else b'.dischargeLockedUntil = some (now + socUnknownLockoutS) ∧
    b'.chargeLockedUntil = b.chargeLockedUntil

/-- The lock of the pulse's direction is gone, the other one untouched. -/
def ClearsLock (delta : ℚ) (b b' : BatteryState) : Prop :=
  if delta < 0 then b'.chargeLockedUntil = none ∧ b'.dischargeLockedUntil = b.dischargeLockedUntil
  else b'.dischargeLockedUntil = none ∧ b'.chargeLockedUntil = b.chargeLockedUntil

/-- There is a lock in the pulse's direction. -/
def LockedToward (delta : ℚ) (b : BatteryState) : Prop :=
  if delta < 0 then b.chargeLockedUntil.isSome else b.dischargeLockedUntil.isSome

/-- The plug has moved in the pulse's direction, and far enough. -/
def MovedToward (delta snap plug : ℚ) : Prop :=
  if delta < 0 then plug - snap ≤ -plugStableW else plugStableW ≤ plug - snap

/-- What one classification may do to a battery. -/
structure VerdictSound (dcfg : DispatcherConfig) (now : Instant) (b : BatteryState)
    (sent : Option SentPulse) (last : Option ArmedPulse) : Prop where
  idle : pulseVerdict dcfg now b = none → detectPulseOutcome dcfg now b = b
  once : (pulseVerdict dcfg now b).isSome → ∃ p, sent = some p ∧ p.classified = false ∧
    (detectPulseOutcome dcfg now b).lastPulseDeltaW = none
  refused : ∀ delta, pulseVerdict dcfg now b = some (.refused delta) →
    SetsLock now delta b (detectPulseOutcome dcfg now b) ∧
      ∃ p q done readAt snap plug, sent = some p ∧ p.delta = delta ∧ last = some q ∧
        ConfirmedRefusal dcfg now b p q done readAt snap plug
  accepted : ∀ delta, pulseVerdict dcfg now b = some (.accepted delta) →
    ClearsLock delta b (detectPulseOutcome dcfg now b) ∧
      ∃ p snap plug, sent = some p ∧ p.delta = delta ∧ p.plugW = some snap ∧
        b.lastPlugW = some plug ∧ (LockedToward delta b → MovedToward delta snap plug)
  /-- No pulse that small is ever queued. -/
  significant : pulseVerdict dcfg now b ≠ some .negligible

/-- The classifications of a step are sound, battery by battery. -/
def VerdictsSound (sys : RefusalSystem) (e : PulseEvent) : Prop :=
  ∀ clock dcfg now, e = .proceed clock → sys.phase = .fresh dcfg now →
    ∀ id b, sys.app.batteries.get? id = some b →
      VerdictSound dcfg now b (sys.sent id) (sys.gates.last id)

/-! ## When they are -/

/-- The last sample was taken and the marker is still there, with a reading from before and one to
compare it with. -/
structure FinishedPulse (b : BatteryState) (delta : ℚ) (done : Instant) (snap plug : ℚ) : Prop where
  empty : b.pulseRemaining = 0
  marker : b.lastPulseDeltaW = some delta
  completed : b.lastPulseCompletedAt = some done
  before : b.plugWAtPulseSend = some snap
  reading : b.lastPlugW = some plug

/-- The readings tell what the verdicts conclude from them: where a significant pulse seems refused
after the timeout, the plug was read since its completion, and where the plug has moved while the
direction of the pulse is locked, it has moved in that direction. -/
structure ReadingsTell (dcfg : DispatcherConfig) (now : Instant) (b : BatteryState) : Prop where
  since : ∀ delta done snap plug, FinishedPulse b delta done snap plug →
    |plug - snap| < plugStableW → dcfg.settleTimeoutS ≤ durationSince now done →
      ∃ readAt, b.lastPlugAt = some readAt ∧ done ≤ readAt
  toward : ∀ delta done snap plug, FinishedPulse b delta done snap plug →
    plugStableW ≤ |plug - snap| → LockedToward delta b →
      if delta < 0 then plug < snap else snap < plug

def ReadingsTellAll (sys : RefusalSystem) (e : PulseEvent) : Prop :=
  ∀ clock dcfg now, e = .proceed clock → sys.phase = .fresh dcfg now →
    ∀ id b, sys.app.batteries.get? id = some b → ReadingsTell dcfg now b

variable {sys : RefusalSystem} {dcfg : DispatcherConfig} {now : Instant} {id : String}
variable {b b' : BatteryState} {delta : ℚ} {cfg : Config}

/-! ## The verdicts -/

theorem pulseVerdict_of_finished {done : Instant} {snap plug : ℚ}
    (h : FinishedPulse b delta done snap plug) (dcfg : DispatcherConfig) (now : Instant) :
    pulseVerdict dcfg now b =
      if plugStableW ≤ |plug - snap| then some (.accepted delta)
      else if |delta| < writeDeadbandW then some .negligible
      else if durationSince now done < dcfg.settleTimeoutS then none
      else some (.refused delta) := by
  rw [pulseVerdict, if_neg h.empty.not_gt, h.marker, h.completed, h.before, h.reading]

theorem finished_of_pulseVerdict (h : (pulseVerdict dcfg now b).isSome) :
    ∃ delta done snap plug, FinishedPulse b delta done snap plug := by
  unfold pulseVerdict at h
  split at h
  · cases h
  · rename_i hr
    split at h
    · rename_i delta done snap plug hd hc hs hp
      exact ⟨delta,done,snap,plug,Nat.eq_zero_of_not_pos hr,hd,hc,hs,hp⟩
    · cases h

theorem pulseVerdict_eq_refused_iff : pulseVerdict dcfg now b = some (.refused delta) ↔
    ∃ done snap plug, FinishedPulse b delta done snap plug ∧ |plug - snap| < plugStableW ∧
      writeDeadbandW ≤ |delta| ∧ dcfg.settleTimeoutS ≤ durationSince now done := by
  constructor
  · intro h
    obtain ⟨delta',done,snap,plug,hf⟩ := finished_of_pulseVerdict
      (Option.isSome_iff_exists.mpr ⟨_,h⟩)
    rw [pulseVerdict_of_finished hf] at h
    split at h
    · cases h
    rename_i hstill
    split at h
    · cases h
    rename_i hlarge
    split at h
    · cases h
    rename_i hlate
    cases h
    exact ⟨done,snap,plug,hf,not_le.mp hstill,not_lt.mp hlarge,not_lt.mp hlate⟩
  · rintro ⟨done,snap,plug,hf,hstill,hlarge,hlate⟩
    rw [pulseVerdict_of_finished hf, if_neg (not_le.mpr hstill), if_neg (not_lt.mpr hlarge),
      if_neg (not_lt.mpr hlate)]

theorem pulseVerdict_eq_accepted_iff : pulseVerdict dcfg now b = some (.accepted delta) ↔
    ∃ done snap plug, FinishedPulse b delta done snap plug ∧ plugStableW ≤ |plug - snap| := by
  constructor
  · intro h
    obtain ⟨delta',done,snap,plug,hf⟩ := finished_of_pulseVerdict
      (Option.isSome_iff_exists.mpr ⟨_,h⟩)
    rw [pulseVerdict_of_finished hf] at h
    split at h
    · rename_i hmoved
      cases h
      exact ⟨done,snap,plug,hf,hmoved⟩
    · split at h
      · cases h
      · split at h <;> cases h
  · rintro ⟨done,snap,plug,hf,hmoved⟩
    rw [pulseVerdict_of_finished hf, if_pos hmoved]

theorem detectPulseOutcome_of_verdict {v : PulseVerdict} (h : pulseVerdict dcfg now b = some v) :
    detectPulseOutcome dcfg now b = v.apply now b := by
  rw [detectPulseOutcome_eq, h, Option.map_some, Option.getD_some]

/-- A movement that is far enough goes one way or the other. -/
theorem movedToward_iff {snap plug : ℚ} (h : plugStableW ≤ |plug - snap|) :
    MovedToward delta snap plug ↔ if delta < 0 then plug < snap else snap < plug := by
  have hpos : (0 : ℚ) < plugStableW := by norm_num [plugStableW]
  unfold MovedToward
  split
  · constructor
    · intro hm
      linarith
    · intro hm
      rw [abs_of_neg (by linarith)] at h
      linarith
  · constructor
    · intro hm
      linarith
    · intro hm
      rwa [abs_of_pos (by linarith)] at h

/-! ## The marker and the last pulse -/

/-- A marker stands for the last pulse, which no verdict has been given on. -/
def TracksMarker (sent : Option SentPulse) (b : BatteryState) : Prop :=
  ∀ delta, b.lastPulseDeltaW = some delta → writeDeadbandW ≤ |delta| ∧
    sent = some { delta := delta, plugW := b.plugWAtPulseSend, classified := false }

theorem TracksMarker.keep {sent : Option SentPulse} (h : TracksMarker sent b)
    (hd : b'.lastPulseDeltaW = b.lastPulseDeltaW)
    (hs : b'.plugWAtPulseSend = b.plugWAtPulseSend) : TracksMarker sent b' := by
  intro delta hdelta
  rw [hd] at hdelta
  rw [hs]
  exact h delta hdelta

theorem TracksMarker.classify {sent : Option SentPulse} (h : TracksMarker sent b)
    (dcfg : DispatcherConfig) (now : Instant) :
    TracksMarker (if (pulseVerdict dcfg now b).isSome then
      sent.map (fun p => { p with classified := true }) else sent)
      (detectPulseOutcome dcfg now b) := by
  cases hv : pulseVerdict dcfg now b with
  | none =>
    rw [detectPulseOutcome_eq, hv]
    exact h
  | some v =>
    rw [detectPulseOutcome_of_verdict hv]
    intro delta hdelta
    cases v <;> cases hdelta

theorem TracksMarker.queue {sent : Option SentPulse} (h : TracksMarker sent b) (s : AppState)
    (now : Instant) (deltas : Table String ℚ) :
    TracksMarker (if s.circuitMuted now b.circuit = true ∨
      |(deltas.get? b.id).getD 0| < writeDeadbandW then sent
      else some { delta := (deltas.get? b.id).getD 0, plugW := b.lastPlugW })
      (queuePulse s now deltas b) := by
  unfold queuePulse
  by_cases hm : s.circuitMuted now b.circuit = true
  · rw [if_pos hm]
    intro delta hdelta
    cases hdelta
  · rw [if_neg hm]
    dsimp only
    by_cases hsmall : |(deltas.get? b.id).getD 0| < writeDeadbandW
    · rw [if_pos (Or.inr hsmall), if_pos hsmall]
      exact h
    · rw [if_neg (not_or.mpr ⟨hm,hsmall⟩), if_neg hsmall]
      intro delta hdelta
      cases hdelta
      exact ⟨not_lt.mp hsmall,rfl⟩

theorem TracksMarker.drain {sent : Option SentPulse} (h : TracksMarker sent b) (now : Instant) :
    TracksMarker sent (drainPulse now b).2 := by
  refine h.keep ?_ ?_
  all_goals
    unfold drainPulse
    split
    · split <;> rfl
    · rfl

structure RefusalInv (sys : RefusalSystem) : Prop where
  gates : GateInv sys.gates
  marker : ∀ id b, sys.app.batteries.get? id = some b → TracksMarker (sys.sent id) b

theorem sentAfter_of_leaves {e : PulseEvent} (h : LeavesPulse sys.gates.pulses id e)
    (b : BatteryState) (last : Option SentPulse) : sys.sentAfter b last e = last := by
  cases e with
  | proceed clock =>
    obtain ⟨hverdict,hqueue⟩ := h
    unfold RefusalSystem.sentAfter
    cases hphase : sys.phase with
    | fresh dcfg now => exact absurd hphase (hverdict dcfg now)
    | computed now deltas => exact absurd hphase (hqueue now deltas)
    | _ => rfl
  | _ => rfl

theorem RefusalInv.step (h : RefusalInv sys) (e : PulseEvent) : RefusalInv (refusalStep sys e) := by
  refine ⟨h.gates.step e,fun id b' hb' => ?_⟩
  obtain ⟨b,hb,hchange⟩ := pulseStep_change hb'
  have hmarker := h.marker id b hb
  have hsent : (refusalStep sys e).sent id = sys.sentAfter b (sys.sent id) e := by
    simp only [refusalStep,RefusalSystem.app,hb,Option.map_some,Option.getD_some]
  rw [hsent]
  cases hchange with
  | classified dcfg now clock hphase =>
    simp only [RefusalSystem.sentAfter,RefusalSystem.phase,hphase]
    exact hmarker.classify dcfg now
  | queued now clock deltas hphase =>
    simp only [RefusalSystem.sentAfter,RefusalSystem.phase,hphase]
    exact hmarker.queue sys.app now deltas
  | drained now clock hadmitted => exact hmarker.drain now
  | kept e b' hleaves hsame =>
    rw [sentAfter_of_leaves hleaves]
    exact hmarker.keep hsame.delta hsame.atSend

theorem RefusalInv.start (cfg : Config) : RefusalInv (RefusalSystem.start cfg) := by
  refine ⟨GateInv.start cfg,fun id b hb => ?_⟩
  refine Table.of_get?_foldl_insert (P := TracksMarker none) (fun k v hv => ?_) (fun a => ?_) hb
  · rw [Table.get?_empty] at hv
    cases hv
  · intro delta hdelta
    cases hdelta

/-! ## Both sides meet -/

/-- Of a finished pulse all samples were taken. -/
theorem drained_of_finished {last : Option ArmedPulse} (h : TracksProgress last b) {done : Instant}
    {snap plug : ℚ} (hf : FinishedPulse b delta done snap plug) :
    ∃ q, last = some q ∧ q.dropped = false ∧ q.polls[pulseCount - 1]? = some done := by
  have hdone : (ArmedPulse.progress last).2 = some done := h.completedAt.symm.trans hf.completed
  cases last with
  | none => cases hdone
  | some q =>
    rw [ArmedPulse.progress] at hdone
    split at hdone
    · cases hdone
    · rename_i hkept
      exact ⟨q,rfl,Bool.eq_false_iff.mpr hkept,hdone⟩

theorem setsLock_of_refused (h : pulseVerdict dcfg now b = some (.refused delta)) :
    SetsLock now delta b (detectPulseOutcome dcfg now b) := by
  rw [detectPulseOutcome_of_verdict h, SetsLock]
  split
  · rename_i hneg
    exact ⟨if_pos hneg,if_pos hneg⟩
  · rename_i hpos
    exact ⟨if_neg hpos,if_neg hpos⟩

theorem clearsLock_of_accepted (h : pulseVerdict dcfg now b = some (.accepted delta))
    (hlarge : writeDeadbandW ≤ |delta|) :
    ClearsLock delta b (detectPulseOutcome dcfg now b) := by
  have hmin : (0 : ℚ) < writeDeadbandW := by norm_num [writeDeadbandW]
  rw [detectPulseOutcome_of_verdict h, ClearsLock]
  split
  · rename_i hneg
    exact ⟨if_pos hneg,if_neg (by linarith)⟩
  · rename_i hn
    have hpos : 0 < delta := by
      rw [abs_of_nonneg (not_lt.mp hn)] at hlarge
      linarith
    exact ⟨if_pos hpos,if_neg hn⟩

theorem readingsTell_of_sound {sent : Option SentPulse} {last : Option ArmedPulse}
    (hm : TracksMarker sent b) (hp : TracksProgress last b)
    (h : VerdictSound dcfg now b sent last) : ReadingsTell dcfg now b where
  since := by
    intro delta done snap plug hf hstill hlate
    obtain ⟨-,p,q,done',readAt,snap',plug',-,-,hq,hc⟩ := h.refused delta
      (pulseVerdict_eq_refused_iff.mpr ⟨done,snap,plug,hf,hstill,(hm delta hf.marker).1,hlate⟩)
    obtain ⟨q',hq',-,hdone⟩ := drained_of_finished hp hf
    obtain rfl := Option.some.inj (hq.symm.trans hq')
    obtain rfl := Option.some.inj (hc.drained.symm.trans hdone)
    exact ⟨readAt,hc.read_at,hc.read_after⟩
  toward := by
    intro delta done snap plug hf hmoved hlock
    obtain ⟨-,p,snap',plug',hsent,-,hsnap,hplug,htoward⟩ := h.accepted delta
      (pulseVerdict_eq_accepted_iff.mpr ⟨done,snap,plug,hf,hmoved⟩)
    obtain rfl := Option.some.inj (hplug.symm.trans hf.reading)
    obtain rfl := Option.some.inj (hsent.symm.trans (hm delta hf.marker).2)
    obtain rfl := Option.some.inj (hsnap.symm.trans hf.before)
    exact (movedToward_iff hmoved).mp (htoward hlock)

/-- A marker stands for a pulse that is large enough to count. -/
theorem pulseVerdict_ne_negligible {sent : Option SentPulse} (hm : TracksMarker sent b) :
    pulseVerdict dcfg now b ≠ some .negligible := by
  intro hv
  obtain ⟨delta,done,snap,plug,hf⟩ := finished_of_pulseVerdict
    (Option.isSome_iff_exists.mpr ⟨_,hv⟩)
  rw [pulseVerdict_of_finished hf] at hv
  split at hv
  · cases hv
  split at hv
  · rename_i hsmall
    exact absurd (hm delta hf.marker).1 (not_le.mpr hsmall)
  · split at hv <;> cases hv

theorem sound_of_readingsTell {sent : Option SentPulse} {last : Option ArmedPulse}
    (hm : TracksMarker sent b) (hp : TracksProgress last b) (h : ReadingsTell dcfg now b) :
    VerdictSound dcfg now b sent last where
  idle := by
    intro hnone
    rw [detectPulseOutcome_eq, hnone]
    rfl
  once := by
    intro hsome
    obtain ⟨delta,done,snap,plug,hf⟩ := finished_of_pulseVerdict hsome
    obtain ⟨v,hv⟩ := Option.isSome_iff_exists.mp hsome
    refine ⟨_,(hm delta hf.marker).2,rfl,?_⟩
    rw [detectPulseOutcome_of_verdict hv]
    cases v <;> rfl
  refused := by
    intro delta hv
    obtain ⟨done,snap,plug,hf,hstill,hlarge,hlate⟩ := pulseVerdict_eq_refused_iff.mp hv
    obtain ⟨q,hq,hkept,hdone⟩ := drained_of_finished hp hf
    obtain ⟨readAt,hread,hafter⟩ := h.since delta done snap plug hf hstill hlate
    exact ⟨setsLock_of_refused hv,_,q,done,readAt,snap,plug,(hm delta hf.marker).2,rfl,hq,hlarge,
      hkept,hdone,hlate,hf.before,hf.reading,hread,hafter,hstill⟩
  accepted := by
    intro delta hv
    obtain ⟨done,snap,plug,hf,hmoved⟩ := pulseVerdict_eq_accepted_iff.mp hv
    obtain ⟨hlarge,hsent⟩ := hm delta hf.marker
    exact ⟨clearsLock_of_accepted hv hlarge,_,snap,plug,hsent,rfl,hf.before,hf.reading,
      fun hlock => (movedToward_iff hmoved).mpr (h.toward delta done snap plug hf hmoved hlock)⟩
  significant := pulseVerdict_ne_negligible hm

theorem verdictSound_iff {sent : Option SentPulse} {last : Option ArmedPulse}
    (hm : TracksMarker sent b) (hp : TracksProgress last b) :
    VerdictSound dcfg now b sent last ↔ ReadingsTell dcfg now b :=
  ⟨readingsTell_of_sound hm hp,sound_of_readingsTell hm hp⟩

/-- In every run, all classifications are sound exactly when at each of them the readings tell. -/
theorem verdicts_sound_iff (cfg : Config) (events : List PulseEvent) :
    StepsMeet refusalStep VerdictsSound (RefusalSystem.start cfg) events ↔
      StepsMeet refusalStep ReadingsTellAll (RefusalSystem.start cfg) events := by
  refine stepsMeet_congr RefusalInv (.start cfg) (fun _ e h => h.step e) (fun sys e h => ?_)
  refine forall_congr' (fun clock => forall_congr' (fun dcfg => forall_congr' (fun now =>
    imp_congr_right (fun _ => imp_congr_right (fun _ => forall_congr' (fun id =>
      forall_congr' (fun b => imp_congr_right (fun hb => ?_))))))))
  exact verdictSound_iff (h.marker id b hb) (h.gates id b hb)

/-! ## A plug that falls silent -/

theorem PulsePhase.eq_fresh {phase : PulsePhase} (h : phase.classifies = some (dcfg,now)) :
    phase = .fresh dcfg now := by
  cases phase <;> cases h
  rfl

/-- All batteries have taken their pulses of 330 W by second 1, but their plugs answer no more. -/
def unansweredPulse : List PulseEvent :=
  meters 0 1000 (fun _ => 0) 0::pulseTick 0 ++ pollsOf "a" "10.0.0.1" 1 ++
    pollsOf "b" "10.0.0.2" 1 ++ pollsOf "c" "10.0.0.3" 1 ++
      [meters 0 1000 (fun _ => 0) 12,.tick pulseHouse.dispatcher 12]

def unansweredFleet : RefusalSystem :=
  run refusalStep (RefusalSystem.start pulseHouse) unansweredPulse

/-- At second 12 battery `a` is locked on the reading of second 0, from before its pulse. -/
theorem locked_without_a_reading : pulseHouse.validate (fun _ => true) = .ok () ∧
    ¬ StepsMeet refusalStep VerdictsSound (RefusalSystem.start pulseHouse)
      (unansweredPulse ++ [.proceed 12]) := by
  refine ⟨pulseHouse_valid,fun h => ?_⟩
  have hphase : unansweredFleet.phase = .fresh pulseHouse.dispatcher 12 :=
    PulsePhase.eq_fresh (by decide +kernel)
  have hb : unansweredFleet.app.batteries.get? "a" =
      some ((unansweredFleet.app.batteries.get? "a").get (by decide +kernel)) :=
    (Option.some_get _).symm
  have hlast : unansweredFleet.gates.last "a" = some { armedAt := 0, polls := [1,1,1] } := by
    decide +kernel
  obtain ⟨-,p,q,done,readAt,snap,plug,-,-,hq,hc⟩ := (h.last 12 pulseHouse.dispatcher 12 rfl hphase
    "a" _ hb).refused 330 (by decide +kernel)
  obtain rfl := Option.some.inj (hlast.symm.trans hq)
  have hdone : done = 1 := Option.some.inj (hc.drained.symm.trans rfl)
  have hread : readAt = 0 := Option.some.inj (hc.read_at.symm.trans (by decide +kernel))
  have hafter := hc.read_after
  rw [hdone, hread] at hafter
  exact absurd hafter (by norm_num)

end ShellyMultiplexer
