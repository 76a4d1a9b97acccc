import ShellyMultiplexer.Dispatcher.Loop
import ShellyMultiplexer.Guarantees.SoftRemediation

/-! # Orphaned setpoints

An inverter keeps the last setpoint it was sent, for as long as nothing else is sent. A pass of the
loop that leaves a channel alone leaves a running charge or discharge in it: every pass in pulse
mode, and a modbus pass with a fresh grid for a battery that is cut or on a silent circuit.
-/
namespace ShellyMultiplexer
open Foundation

/-- The channel of every battery with a writer is at standby or at what the last pass has computed. -/
def NoOrphans (sys : LoopSystem) : Prop :=
  ∀ id b sp, sys.app.batteries.get? id = some b → sys.channels.get? id = some sp →
    sp = .standby ∨ sys.computed id = some sp

/-- A pass that completes skips only batteries whose channel is at standby or is sent standby. -/
def SkipsOnlyParked (sun : Sunrise) (sys : LoopSystem) : LoopEvent → Prop
  | .tick live t => sys.running = true →
    (runTick sun sys.app live (some sys.channels) t).isSome = true →
      ∀ id b sp, sys.app.batteries.get? id = some b → sys.channels.get? id = some sp →
        Skipped sun sys.app live t b → sp = .standby ∨ id ∈ tickRemediations sys.app live t
  | .world _ _ => True

structure LoopInv (cfg : Config) (sys : LoopSystem) : Prop where
  runtime : sys.app.RuntimeOf cfg
  parked : NoOrphans sys

variable {sun : Sunrise} {cfg : Config} {sys : LoopSystem} {live : Config} {t : TickTimes} {r : Tick}

theorem loopStep_tick (hrun : sys.running = true)
    (h : runTick sun sys.app live (some sys.channels) t = some r) :
    loopStep sun sys (.tick live t) = { sys with
      app := r.state
      channels := r.dispatch.getD sys.channels
      computed := computedSetpoint sun sys.app live sys.channels t } := by
  simp only [loopStep,hrun,if_true,h]

theorem LoopInv.tick (hw : cfg.WellFormed) (hinv : LoopInv cfg sys) (hrun : sys.running = true)
    (h : runTick sun sys.app live (some sys.channels) t = some r)
    (hsafe : SkipsOnlyParked sun sys (.tick live t)) :
    LoopInv cfg (loopStep sun sys (.tick live t)) := by
  rw [loopStep_tick hrun h]
  have hafter := runtimeOf_runTick hinv.runtime h
  refine ⟨hafter,fun id b' sp' hb' hsp' => ?_⟩
  obtain ⟨b,hb⟩ := hafter.battery_exists hinv.runtime hb'
  have hkeys : (r.dispatch.getD sys.channels).keys = sys.channels.keys := by
    cases hd : r.dispatch with
    | none => rfl
    | some channels' => exact runTick_keys h hd
  obtain ⟨sp,hsp⟩ : ∃ sp, sys.channels.get? id = some sp :=
    (Table.mem_keys_iff _ _).mp (hkeys ▸ (Table.mem_keys_iff _ _).mpr ⟨sp',hsp'⟩)
  obtain ⟨channels',sp'',hd,hget,hiff⟩ := runTick_channel_iff hw hinv.runtime h hb hsp
  rw [hd, Option.getD_some, hget] at hsp'
  cases hsp'
  refine hiff.mpr ?_
  by_cases hskip : Skipped sun sys.app live t b
  · exact (hsafe hrun (by rw [h]; rfl) id b sp hb hsp hskip).imp_right Or.inl
  · exact Or.inr (Or.inr hskip)

theorem LoopInv.step (hw : cfg.WellFormed) (hinv : LoopInv cfg sys) {e : LoopEvent}
    (hsafe : SkipsOnlyParked sun sys e) : LoopInv cfg (loopStep sun sys e) := by
  cases e with
  | tick live t =>
    by_cases hrun : sys.running = true
    · cases h : runTick sun sys.app live (some sys.channels) t with
      | some r => exact hinv.tick hw hrun h hsafe
      | none =>
        simp only [loopStep,hrun,if_true,h]
        exact ⟨hinv.runtime,hinv.parked⟩
    · simp only [loopStep,hrun,Bool.false_eq_true,if_false]
      exact hinv
  | world batteries snapshot =>
    have hworld := hinv.runtime.mapBatteries (fun id b => { batteries id with
      toBatteryParams := b.toBatteryParams }) (fun _ _ => rfl)
    refine ⟨⟨hworld.batteries,hworld.circuits⟩,fun id b sp hb hsp => ?_⟩
    obtain ⟨b₀,hb₀⟩ := AppState.RuntimeOf.battery_exists hworld hinv.runtime hb
    exact hinv.parked id b₀ sp hb₀ hsp

theorem skipsOnlyParked_of_noOrphans (hw : cfg.WellFormed) (hinv : LoopInv cfg sys) {e : LoopEvent}
    (h : NoOrphans (loopStep sun sys e)) : SkipsOnlyParked sun sys e := by
  cases e with
  | world batteries snapshot => trivial
  | tick live t =>
    intro hrun hsome id b sp hb hsp hskip
    obtain ⟨r,hr⟩ := Option.isSome_iff_exists.mp hsome
    obtain ⟨channels',sp',hd,hget,hiff⟩ := runTick_channel_iff hw hinv.runtime hr hb hsp
    obtain ⟨b',hb'⟩ := hinv.runtime.battery_exists (runtimeOf_runTick hinv.runtime hr) hb
    rw [loopStep_tick hrun hr] at h
    have hend := hiff.mp (h id b' sp' hb' (by rw [hd]; exact hget))
    rcases hend with hsp0 | hrem | hno
    · exact Or.inl hsp0
    · exact Or.inr hrem
    · exact absurd hskip hno

/-- No setpoint is ever orphaned exactly when every pass skips only batteries that are parked. -/
theorem no_orphaned_setpoint_iff {isSocketAddr : String → Bool}
    (hcfg : cfg.validate isSocketAddr = .ok ()) (sun : Sunrise) (events : List LoopEvent) :
    (∀ pre post, events = pre ++ post → NoOrphans (run (loopStep sun) (LoopSystem.start cfg) pre)) ↔
      StepsMeet (loopStep sun) (SkipsOnlyParked sun) (LoopSystem.start cfg) events := by
  have hw := Config.wellFormed_of_validate hcfg
  have h0 : LoopInv cfg (LoopSystem.start cfg) :=
    ⟨AppState.RuntimeOf.refl cfg,fun _ _ _ _ hsp => Or.inl (spawnChannels_standby hsp)⟩
  exact run_exact (LoopInv cfg) NoOrphans h0 (fun _ _ h he => h.step hw he) (fun _ h => h.parked)
    (fun _ _ h hn => skipsOnlyParked_of_noOrphans hw h hn)

/-! ## A house that imports a kilowatt -/

def passAt (live : Config) (now : ℚ) : LoopEvent := .tick live ⟨now,now,0,now,now⟩

def importing : LoopEvent := .world (reported 0 50) ⟨some 1000,some 0⟩

/-- A discharge is commanded, then the grid reading goes stale and everything is parked. -/
theorem no_orphaned_setpoint_house : NoOrphans (run (loopStep noSun) (LoopSystem.start house)
    [importing,passAt house 0,passAt house 10]) := by
  have hmeet : StepsMeet (loopStep noSun) (SkipsOnlyParked noSun) (LoopSystem.start house)
      [importing,passAt house 0,passAt house 10] := by
    refine stepsMeet_cons.mpr ⟨trivial,stepsMeet_cons.mpr ⟨?_,stepsMeet_cons.mpr
      ⟨?_,stepsMeet_nil _ _ _⟩⟩⟩
    · exact fun _ _ id b sp _ hsp _ => Or.inl (spawnChannels_standby hsp)
    · rintro - - id b sp - - (hmode | ⟨hfresh,-⟩)
      · cases hmode
      · exact absurd hfresh (by decide +kernel)
  exact (no_orphaned_setpoint_iff house_valid noSun _).mpr hmeet _ [] (List.append_nil _).symm

/-- The mode is edited to pulse while the batteries discharge, and the discharge stays. -/
theorem discharge_orphaned_by_edit : house.validate (fun _ => true) = .ok () ∧
    pulseHouse.validate (fun _ => true) = .ok () ∧
    (run (loopStep noSun) (LoopSystem.start house)
      [importing,passAt house 0,passAt pulseHouse 2]).channels.get? "a" = some (.discharge 330) ∧
    ¬ NoOrphans (run (loopStep noSun) (LoopSystem.start house)
      [importing,passAt house 0,passAt pulseHouse 2]) := by
  have hget : (run (loopStep noSun) (LoopSystem.start house)
      [importing,passAt house 0,passAt pulseHouse 2]).channels.get? "a" = some (.discharge 330) := by
    decide +kernel
  have hcomp : (run (loopStep noSun) (LoopSystem.start house)
      [importing,passAt house 0,passAt pulseHouse 2]).computed "a" = none := by decide +kernel
  refine ⟨house_valid,pulseHouse_valid,hget,fun h => ?_⟩
  have hb : ((run (loopStep noSun) (LoopSystem.start house)
    [importing,passAt house 0,passAt pulseHouse 2]).app.batteries.get? "a").isSome = true := by
      decide +kernel
  obtain ⟨b,hb⟩ := Option.isSome_iff_exists.mp hb
  rcases h "a" b _ hb hget with hs | hs
  · cases hs
  · rw [hcomp] at hs
    cases hs

end ShellyMultiplexer
