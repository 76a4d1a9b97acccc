import ShellyMultiplexer.Dispatcher.Tick
import ShellyMultiplexer.Foundation.Runs

/-! # The silence window

A pulse tick that meets a stale measurement silences its circuit for a minute. The modes may change
from tick to tick: a tick of the modbus mode neither shortens the silence nor ends it early.
-/
namespace ShellyMultiplexer
open Foundation

def AppState.silentUntil (s : AppState) (c : String) : Option Instant :=
  (s.circuits.get? c).bind CircuitState.silentUntil

/-- The dispatcher, with the channels of its writers if there are any. -/
structure MuteSystem where
  app : AppState
  dispatch : Option Channels
  running : Bool := true

inductive MuteEvent
  | tick (live : Config) (times : TickTimes)
  /-- Pollers, writers and relay tasks report on the batteries. -/
  | world (batteries : String → BatteryState) (snapshot : EmSnapshot)

/-- A panic ends the task of the dispatcher, with the circuits as the muting has left them. -/
def muteStep (sun : Sunrise) (sys : MuteSystem) : MuteEvent → MuteSystem
  | .tick live t =>
    if sys.running then
      match runTick sun sys.app live sys.dispatch t with
      | some r => { sys with app := r.state, dispatch := r.dispatch }
      | none =>
        let before := beforeStep sun sys.app live sys.dispatch t
        { sys with
          app := (updateCircuitMute before.state live.dispatcher t.step).1
          running := false }
    else sys
  | .world batteries snapshot =>
    { sys with app := { sys.app with
        snapshot := snapshot
        batteries := sys.app.batteries.mapVal (fun id b =>
          { batteries id with toBatteryParams := b.toBatteryParams }) } }

/-- The circuit as the step of the tick finds it. -/
def metCircuit (sun : Sunrise) (sys : MuteSystem) (live : Config) (t : TickTimes) (c : String) :
    Option CircuitState :=
  (beforeStep sun sys.app live sys.dispatch t).state.circuits.get? c

/-- The step of the tick finds the grid or a member plug stale. -/
def findsStale (sun : Sunrise) (sys : MuteSystem) (live : Config) (t : TickTimes)
    (cs : CircuitState) : Bool :=
  let before := beforeStep sun sys.app live sys.dispatch t
  anyPlugStale before.state live.dispatcher t.step cs ||
    !gridFresh before.state live.dispatcher t.step

/-! ## What a step does to a silence -/

variable {sun : Sunrise} {s : AppState} {live : Config} {dispatch : Option Channels} {t : TickTimes}

theorem beforeStep_silentUntil (c : String) :
    (beforeStep sun s live dispatch t).state.silentUntil c = s.silentUntil c := by
  simp only [AppState.silentUntil, beforeStep, enforceNightCutoff_circuits]
  rcases le_or_gt live.dispatcher.emergencyCutoffMarginW 0 with hm | hm
  · rw [enforceCircuitSafety_disabled hm]
  · rw [enforceCircuitSafety_circuit hm]
    cases s.circuits.get? c <;> simp

theorem stepPulse_circuits {dcfg : DispatcherConfig} {now clock : Instant} {s' : AppState}
    (h : stepPulse s dcfg now clock = some s') :
    s'.circuits = (updateCircuitMute s dcfg now).1.circuits := by
  unfold stepPulse at h
  dsimp only at h
  split at h
  · cases h
    rfl
  · split at h
    · cases h
      rfl
    · obtain ⟨deltas,-,rfl⟩ := Option.map_eq_some_iff.mp h
      rfl

/-- A tick mutes the circuits, or leaves them alone in modbus mode without writers. -/
theorem runTick_circuits {r : Tick} (h : runTick sun s live dispatch t = some r) :
    r.state.circuits = (updateCircuitMute (beforeStep sun s live dispatch t).state
      live.dispatcher t.step).1.circuits ∨
    (live.dispatcher.mode = .modbus ∧
      r.state.circuits = (beforeStep sun s live dispatch t).state.circuits) := by
  unfold runTick at h
  dsimp only at h
  split at h
  · obtain ⟨s',hs',rfl⟩ := Option.map_eq_some_iff.mp h
    exact Or.inl (stepPulse_circuits hs')
  · rename_i hmode
    obtain ⟨tick,htick,rfl⟩ := Option.map_eq_some_iff.mp h
    cases hd : (beforeStep sun s live dispatch t).dispatch with
    | none =>
      rw [hd] at htick
      cases htick
      exact Or.inr ⟨hmode,rfl⟩
    | some channels =>
      rw [hd] at htick
      rcases stepModbus_cases htick with ⟨-,rfl⟩ | ⟨-,targets,channels',summaries,-,-,rfl⟩
      · exact Or.inl rfl
      · exact Or.inl rfl

variable {sys : MuteSystem} {c : String}

theorem muteStep_tick (sun : Sunrise) (live : Config) (t : TickTimes) (c : String)
    (hrun : sys.running = true) :
    (muteStep sun sys (.tick live t)).app.silentUntil c =
      (metCircuit sun sys live t c).bind (fun cs => (muteCircuit (beforeStep sun sys.app live
        sys.dispatch t).state live.dispatcher t.step cs).silentUntil) ∨
    (live.dispatcher.mode = .modbus ∧
      (muteStep sun sys (.tick live t)).app.silentUntil c = sys.app.silentUntil c) := by
  have hmuted : (updateCircuitMute (beforeStep sun sys.app live sys.dispatch t).state
      live.dispatcher t.step).1.silentUntil c = (metCircuit sun sys live t c).bind (fun cs =>
        (muteCircuit (beforeStep sun sys.app live sys.dispatch t).state live.dispatcher t.step
          cs).silentUntil) := by
    rw [AppState.silentUntil, updateCircuitMute_get?, Option.bind_map]
    rfl
  simp only [muteStep, hrun, if_true]
  cases hr : runTick sun sys.app live sys.dispatch t with
  | none => exact Or.inl hmuted
  | some r =>
    rcases runTick_circuits hr with hc | ⟨hmode,hc⟩
    · refine Or.inl (Eq.trans ?_ hmuted)
      simp only [AppState.silentUntil, hc]
    · have hbefore : (beforeStep sun sys.app live sys.dispatch t).state.silentUntil c =
          sys.app.silentUntil c := beforeStep_silentUntil c
      refine Or.inr ⟨hmode,Eq.trans ?_ hbefore⟩
      simp only [AppState.silentUntil, hc]

theorem metCircuit_silentUntil (sun : Sunrise) (sys : MuteSystem) (live : Config) (t : TickTimes)
    (c : String) : (metCircuit sun sys live t c).bind CircuitState.silentUntil =
      sys.app.silentUntil c := beforeStep_silentUntil c

/-- A stale measurement only ever extends the silence. -/
theorem muteCircuit_of_stale {dcfg : DispatcherConfig} {now : Instant} {cs : CircuitState}
    (h : (anyPlugStale s dcfg now cs || !gridFresh s dcfg now) = true) :
    ∃ d, (muteCircuit s dcfg now cs).silentUntil = some d ∧ now + silenceAfterStale dcfg.mode ≤ d ∧
      ∀ d', cs.silentUntil = some d' → d' ≤ d := by
  simp only [muteCircuit, h, if_true]
  cases hs : cs.silentUntil with
  | none => exact ⟨_,rfl,le_rfl,by simp⟩
  | some prev =>
    by_cases hlt : now + silenceAfterStale dcfg.mode < prev
    · exact ⟨prev,by simp [hlt],hlt.le,by simp⟩
    · exact ⟨_,by simp [hlt],le_rfl,by simpa using not_lt.mp hlt⟩

/-- Fresh measurements end a silence that has run out, and leave any other. -/
theorem muteCircuit_of_fresh {dcfg : DispatcherConfig} {now : Instant} {cs : CircuitState}
    (h : (anyPlugStale s dcfg now cs || !gridFresh s dcfg now) = false) :
    (muteCircuit s dcfg now cs).silentUntil = cs.silentUntil ∨
      ∃ d, cs.silentUntil = some d ∧ d ≤ now := by
  simp only [muteCircuit, h, Bool.false_eq_true, if_false]
  cases hs : cs.silentUntil with
  | none => simp [hs]
  | some d =>
    by_cases hle : d ≤ now
    · exact Or.inr ⟨d,rfl,hle⟩
    · simp [hle,hs]

/-- What a step can do to a running silence: extend it, leave it, or find it over in a tick whose
measurements are all fresh. -/
theorem muteStep_silence (sun : Sunrise) {sys : MuteSystem} {c : String} {d : Instant}
    (h : sys.app.silentUntil c = some d) (e : MuteEvent) :
    (∃ d', (muteStep sun sys e).app.silentUntil c = some d' ∧ d ≤ d') ∨
      ∃ live t cs, e = .tick live t ∧ sys.running = true ∧ metCircuit sun sys live t c = some cs ∧
        findsStale sun sys live t cs = false ∧ d ≤ t.step := by
  cases e with
  | world batteries snapshot => exact Or.inl ⟨d,h,le_rfl⟩
  | tick live t =>
    by_cases hrun : sys.running = true
    · rcases muteStep_tick sun live t c hrun with hmute | ⟨-,hkeep⟩
      · have hmet := metCircuit_silentUntil sun sys live t c
        rw [h] at hmet
        obtain ⟨cs,hcs,hd⟩ := Option.bind_eq_some_iff.mp hmet
        rw [hcs, Option.bind_some] at hmute
        cases hstale : findsStale sun sys live t cs with
        | true =>
          obtain ⟨d',hd',-,hgrows⟩ := muteCircuit_of_stale hstale
          exact Or.inl ⟨d',hmute.trans hd',hgrows d hd⟩
        | false =>
          rcases muteCircuit_of_fresh hstale with hsame | ⟨d',hd',hover⟩
          · exact Or.inl ⟨d,(hmute.trans hsame).trans hd,le_rfl⟩
          · obtain rfl : d = d' := by simpa [hd] using hd'
            exact Or.inr ⟨live,t,cs,rfl,hrun,hcs,hstale,hover⟩
      · exact Or.inl ⟨d,hkeep.trans h,le_rfl⟩
    · have hidle : muteStep sun sys (.tick live t) = sys := if_neg hrun
      exact Or.inl ⟨d,by rw [hidle, h],le_rfl⟩

theorem muteStep_of_stale (hrun : sys.running = true) (hmode : live.dispatcher.mode = .pulse)
    {cs : CircuitState} (hmet : metCircuit sun sys live t c = some cs)
    (hstale : findsStale sun sys live t cs = true) :
    ∃ d, (muteStep sun sys (.tick live t)).app.silentUntil c = some d ∧
      t.step + groupSilentAfterStaleS ≤ d := by
  obtain ⟨d,hd,hcovers,-⟩ := muteCircuit_of_stale hstale
  rw [hmode] at hcovers
  rcases muteStep_tick sun live t c hrun with hmute | ⟨hm,-⟩
  · rw [hmet, Option.bind_some] at hmute
    exact ⟨d,hmute.trans hd,hcovers⟩
  · rw [hmode] at hm
    cases hm

/-! ## Runs -/

/-- A deadline that no tick has come up to yet is still there, or has moved further away. -/
theorem run_silence (sun : Sunrise) {d : Instant} (h : sys.app.silentUntil c = some d)
    {u : Instant} (hu : u < d)
    {events : List MuteEvent} (htimes : ∀ live t, .tick live t ∈ events → t.step ≤ u) :
    ∃ d', (run (muteStep sun) sys events).app.silentUntil c = some d' ∧ d ≤ d' := by
  induction events using List.reverseRecOn with
  | nil => exact ⟨d,h,le_rfl⟩
  | append_singleton past e ih =>
    obtain ⟨d₁,hd₁,hle⟩ := ih (fun live t ht => htimes live t (List.mem_append_left _ ht))
    rw [run_concat]
    rcases muteStep_silence sun hd₁ e with ⟨d₂,hd₂,hle₂⟩ | ⟨live,t,cs,rfl,-,-,-,hover⟩
    · exact ⟨d₂,hd₂,hle.trans hle₂⟩
    · have ht : t.step ≤ u := htimes live t (by simp)
      exact absurd (hu.trans_le (hle.trans (hover.trans ht))) (lt_irrefl u)

/-- After a pulse tick that finds the circuit stale, the circuit is silent at every moment of the
next minute, whatever ticks come in between, and only a tick that finds everything fresh ends a
silence. -/
theorem silence_window (sun : Sunrise) (sys : MuteSystem) (live : Config) (t : TickTimes)
    (c : String) (hrun : sys.running = true) (hmode : live.dispatcher.mode = .pulse)
    {cs : CircuitState} (hmet : metCircuit sun sys live t c = some cs)
    (hstale : findsStale sun sys live t cs = true) (later : List MuteEvent) :
    (∀ u, u < t.step + groupSilentAfterStaleS →
      (∀ live' t', .tick live' t' ∈ later → t'.step ≤ u) →
        ∃ d, (run (muteStep sun) sys (.tick live t::later)).app.silentUntil c = some d ∧ u < d) ∧
    ∀ e, (run (muteStep sun) sys (.tick live t::later)).app.silentUntil c ≠ none →
      (run (muteStep sun) sys (.tick live t::later ++ [e])).app.silentUntil c = none →
      ∃ live' t' cs', e = .tick live' t' ∧
        metCircuit sun (run (muteStep sun) sys (.tick live t::later)) live' t' c = some cs' ∧
        findsStale sun (run (muteStep sun) sys (.tick live t::later)) live' t' cs' = false := by
  constructor
  · intro u hu htimes
    obtain ⟨d,hd,hcovers⟩ := muteStep_of_stale hrun hmode hmet hstale
    obtain ⟨d',hd',hle⟩ := run_silence sun hd (hu.trans_le hcovers) htimes
    exact ⟨d',hd',hu.trans_le (hcovers.trans hle)⟩
  · intro e hset hclear
    obtain ⟨d,hd⟩ := Option.ne_none_iff_exists'.mp hset
    rw [run_concat] at hclear
    rcases muteStep_silence sun hd e with ⟨d',hd',-⟩ | ⟨live',t',cs',rfl,-,hmet',hfresh,-⟩
    · rw [hd'] at hclear
      cases hclear
    · exact ⟨live',t',cs',rfl,hmet',hfresh⟩

def unreadHouse : MuteSystem := ⟨AppState.fromConfig pulseHouse,none,true⟩

def atStart : TickTimes := ⟨0,0,0,0,0⟩

def unreadGarage : CircuitState :=
  (metCircuit noSun unreadHouse pulseHouse atStart "garage").get (by decide +kernel)

/-- The first tick runs before any plug was read, the second one half a minute later in modbus
mode. -/
theorem silence_window_garage : unreadHouse.running = true ∧
    pulseHouse.dispatcher.mode = .pulse ∧
    metCircuit noSun unreadHouse pulseHouse atStart "garage" = some unreadGarage ∧
    findsStale noSun unreadHouse pulseHouse atStart unreadGarage = true ∧
    ∃ d, (run (muteStep noSun) unreadHouse [.tick pulseHouse atStart,
      .tick house ⟨30,30,30,30,30⟩]).app.silentUntil "garage" = some d ∧ 59 < d := by
  have hmet : metCircuit noSun unreadHouse pulseHouse atStart "garage" = some unreadGarage :=
    (Option.some_get _).symm
  have hstale : findsStale noSun unreadHouse pulseHouse atStart unreadGarage = true := by
    decide +kernel
  have hwindow := (silence_window noSun unreadHouse pulseHouse atStart "garage" rfl rfl hmet hstale
    [.tick house ⟨30,30,30,30,30⟩]).1
  refine ⟨rfl,rfl,hmet,hstale,hwindow 59 (by decide +kernel) ?_⟩
  intro live t ht
  simp only [List.mem_singleton, MuteEvent.tick.injEq] at ht
  obtain ⟨-,rfl⟩ := ht
  norm_num

end ShellyMultiplexer
