import ShellyMultiplexer.Dispatcher.Interference
import ShellyMultiplexer.Dispatcher.StepModbus

/-! # Stale plugs

A silence is compared strictly with the instant of the tick. The silence of the pulse mode reaches
beyond that instant, so a stale plug takes its circuit out of the tick. The silence of the modbus
mode ends at the instant itself and no reader ever sees it in force: a circuit with a stale plug is
left out only while an earlier silence is still running.
-/
namespace ShellyMultiplexer
open Foundation

/-- A member of the circuit has no reading or one older than `plug_stale_s`. -/
def staleOn (s : AppState) (dcfg : DispatcherConfig) (now : Instant) (c : String) : Bool :=
  ((s.circuits.get? c).map (anyPlugStale s dcfg now)).getD false

/-- What muting is for, in the state that the rest of the tick works on. -/
structure MutesStale (s : AppState) (dcfg : DispatcherConfig) (now : Instant) : Prop where
  muted : ∀ c, staleOn s dcfg now c = true →
    (updateCircuitMute s dcfg now).1.circuitMuted now c = true
  skipped : ∀ b, staleOn s dcfg now b.circuit = true →
    b ∉ (updateCircuitMute s dcfg now).1.eligible now ∧
      isCommanded (updateCircuitMute s dcfg now).1 now b = false
  targets : ∀ f : String → BatteryState → BatteryState,
    (∀ id b, (f id b).toBatteryParams = b.toBatteryParams) → ∀ gridW,
    computeTargets ((updateCircuitMute s dcfg now).1.alter (staleOn s dcfg now) f) dcfg gridW now =
      computeTargets (updateCircuitMute s dcfg now).1 dcfg gridW now
  deltas : ∀ f : String → BatteryState → BatteryState,
    (∀ id b, (f id b).toBatteryParams = b.toBatteryParams) → ∀ gridW,
    computeDeltas ((updateCircuitMute s dcfg now).1.alter (staleOn s dcfg now) f) dcfg gridW now =
      computeDeltas (updateCircuitMute s dcfg now).1 dcfg gridW now
  inFlight : ∀ f : String → BatteryState → BatteryState,
    (∀ id b, (f id b).toBatteryParams = b.toBatteryParams) → ∀ clock,
    anyPulseInFlight ((updateCircuitMute s dcfg now).1.alter (staleOn s dcfg now) f) dcfg now clock =
      anyPulseInFlight (updateCircuitMute s dcfg now).1 dcfg now clock

variable {s : AppState} {dcfg : DispatcherConfig} {now : Instant}

/-- The mode has a silence that outlasts the instant, or every stale circuit is silent already. -/
def SilencedBefore (s : AppState) (dcfg : DispatcherConfig) (now : Instant) : Prop :=
  dcfg.mode = .pulse ∨ ∀ c, staleOn s dcfg now c = true → s.circuitMuted now c = true

theorem circuitMuted_of_stale {c : String} (h : staleOn s dcfg now c = true) :
    (updateCircuitMute s dcfg now).1.circuitMuted now c = true ↔
      dcfg.mode = .pulse ∨ s.circuitMuted now c = true := by
  rw [AppState.circuitMuted, updateCircuitMute_get?, AppState.circuitMuted]
  unfold staleOn at h
  cases hc : s.circuits.get? c with
  | none => simp [hc] at h
  | some cs =>
    simp only [hc, Option.map_some, Option.getD_some] at h ⊢
    apply isSilent_muteCircuit_of_stale
    rw [h, Bool.true_or]

theorem mutesStale_of_muted (hs : (updateCircuitMute s dcfg now).1.Valid)
    (h : ∀ c, staleOn s dcfg now c = true →
      (updateCircuitMute s dcfg now).1.circuitMuted now c = true) : MutesStale s dcfg now where
  muted := h
  skipped b hb := by
    have hm := h _ hb
    refine ⟨fun he => ?_,?_⟩
    · rw [(hs.mem_eligible.mp he).2.1] at hm
      cases hm
    · rw [isCommanded, hm, Bool.not_true, Bool.and_false]
  targets _ hf _ := computeTargets_alter hf hs h
  deltas _ hf _ := computeDeltas_alter hf hs h
  inFlight _ hf clock := anyPulseInFlight_alter hf h clock

theorem updateCircuitMute_mutes_stale_iff {isSocketAddr : String → Bool} {cfg : Config}
    (hcfg : cfg.validate isSocketAddr = .ok ()) (hrun : s.RuntimeOf cfg) (dcfg : DispatcherConfig)
    (now : Instant) : MutesStale s dcfg now ↔ SilencedBefore s dcfg now := by
  constructor
  · intro h
    cases hm : dcfg.mode with
    | pulse => exact Or.inl hm
    | modbus =>
      refine Or.inr (fun c hc => ?_)
      rcases (circuitMuted_of_stale hc).mp (h.muted c hc) with hp | hsil
      · rw [hm] at hp
        cases hp
      · exact hsil
  · intro h
    apply mutesStale_of_muted
      ((runtimeOf_updateCircuitMute hrun).valid (Config.wellFormed_of_validate hcfg))
    intro c hc
    apply (circuitMuted_of_stale hc).mpr
    exact h.imp_right (fun hall => hall c hc)

/-- No plug of the house has been read yet. -/
theorem updateCircuitMute_mutes_stale_house :
    house.validate (fun _ => true) = .ok () ∧ (AppState.fromConfig house).RuntimeOf house ∧
      MutesStale (AppState.fromConfig house) { mode := .pulse } 0 :=
  ⟨house_valid,AppState.RuntimeOf.refl house,
    (updateCircuitMute_mutes_stale_iff house_valid (AppState.RuntimeOf.refl house)
      { mode := .pulse } 0).mpr (Or.inl rfl)⟩

/-- The plugs were read an hour ago, and the modbus mode goes on commanding by them. -/
theorem stale_garage_not_muted : house.validate (fun _ => true) = .ok () ∧
    (AppState.measured house ⟨some 0,some 3600⟩ (plugged (fun _ => 1000))).RuntimeOf house ∧
    house.dispatcher.mode = .modbus ∧
    staleOn (AppState.measured house ⟨some 0,some 3600⟩ (plugged (fun _ => 1000)))
      house.dispatcher 3600 "garage" = true ∧
    ¬ MutesStale (AppState.measured house ⟨some 0,some 3600⟩ (plugged (fun _ => 1000)))
      house.dispatcher 3600 := by
  refine ⟨house_valid,runtimeOf_plugged house _ _,rfl,by decide +kernel,fun h => ?_⟩
  have hm := h.muted "garage" (by decide +kernel)
  revert hm
  decide +kernel

end ShellyMultiplexer
