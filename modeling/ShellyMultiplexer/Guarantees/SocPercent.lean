import ShellyMultiplexer.Foundation.Fold
import ShellyMultiplexer.Model.Topology
import ShellyMultiplexer.Soc.Sources

/-! # The state of charge is a percentage

Every source that speaks Modbus checks the range of what it has read. Home Assistant is taken at its
word, and its word may be any number or none.
-/
namespace ShellyMultiplexer
open Foundation

def SocState.Percent (b : SocState) : Prop := ∀ soc, b.socPct = some soc → soc.IsPercent

def SocSystem.AllPercent (sys : SocSystem) : Prop :=
  ∀ id b, sys.batteries.get? id = some b → b.Percent

/-- A reply of Home Assistant for a battery that is polled there gives a percentage, if a number at
all. -/
def RepliesInRange (sys : SocSystem) : SocEvent → Prop
  | .haReply batteryId reply _ => ∀ entityId, haEntity sys.cfg batteryId = some entityId →
    sys.batteries.get? batteryId ≠ none → ∀ soc, fetchSoc reply = .ok soc → soc.IsPercent
  | _ => True

/-! ## The sources, one by one -/

variable {b : SocState} {sys : SocSystem}

theorem percent_received {soc : F64} (h : soc.IsPercent) (source : String) (now : Instant) :
    (b.received soc source now).Percent := by
  intro soc' he
  cases he
  exact h

theorem percent_forgiven (h : b.Percent) (source : String) : (b.forgiven source).Percent := h

theorem percent_failed (error : String) : { b with lastError := some error }.Percent ↔ b.Percent :=
  Iff.rfl

theorem readSocOn_percent {register : UInt16} {scale : ℚ} {regs : Except String (List UInt16)}
    {soc : F64} (h : readSocOn register scale regs = .ok soc) : soc.IsPercent := by
  unfold readSocOn at h
  split at h
  · cases h
  · cases h
  · dsimp only at h
    split at h
    · rename_i hrange
      cases h
      exact hrange
    · cases h

theorem pollSoc_percent (h : b.Percent) (regs : Except String (List UInt16)) (now : Instant) :
    (pollSoc regs now b).Percent := by
  unfold pollSoc
  dsimp only
  split
  · rename_i soc hsoc
    exact percent_forgiven (percent_received (readSocOn_percent hsoc) _ now) _
  · exact h

theorem readSocOnOpen_percent (h : b.Percent) (regs : Except String (List UInt16)) (now : Instant) :
    (readSocOnOpen regs now b).Percent := by
  unfold readSocOnOpen
  dsimp only
  split
  · rename_i soc hsoc
    exact percent_received (readSocOn_percent hsoc) _ now
  · exact h

theorem tierRefresh_percent (h : b.Percent) (collected : Table UInt16 UInt16) (now : Instant) :
    (tierRefresh collected now b).Percent := by
  unfold tierRefresh
  dsimp only
  split
  · rename_i soc hsoc
    have hrange : (F64.finite soc).IsPercent :=
      of_decide_eq_true (Option.filter_eq_some_iff.mp hsoc).2
    exact percent_received hrange _ now
  · exact h

theorem refresh_percent (h : b.Percent) (haEnabled : Bool) (cfg : BatteryConfig) :
    (b.refresh haEnabled cfg).Percent := by
  intro soc he
  simp only [SocState.refresh] at he
  split at he
  · exact h soc he
  · cases he

theorem haPoll_percent_iff (h : b.Percent) (entityId : String) (reply : Except String Json)
    (now : Instant) : (haPoll entityId reply now b).Percent ↔
      ∀ soc, fetchSoc reply = .ok soc → soc.IsPercent := by
  unfold haPoll
  cases hfetch : fetchSoc reply with
  | ok soc =>
    constructor
    · rintro hpercent soc' he
      cases he
      exact hpercent soc rfl
    · intro hrange
      exact percent_forgiven (percent_received (hrange soc rfl) _ now) _
  | error e => simpa [percent_failed] using h

/-! ## Runs -/

theorem allPercent_update {f : SocState → SocState} (h : sys.AllPercent) {batteryId : String}
    (hf : ∀ b, b.Percent → (f b).Percent) : (sys.update batteryId f).AllPercent := by
  intro id b hb
  rw [SocSystem.update, Table.get?_modify] at hb
  split at hb
  · obtain ⟨old,hold,rfl⟩ := Option.map_eq_some_iff.mp hb
    exact hf old (h id old hold)
  · exact h id b hb

theorem socStep_percent (h : sys.AllPercent) (e : SocEvent) (he : RepliesInRange sys e) :
    (socStep sys e).AllPercent := by
  cases e with
  | poll batteryId regs now => exact allPercent_update h (fun _ hb => pollSoc_percent hb regs now)
  | readOnOpen batteryId regs now =>
    exact allPercent_update h (fun _ hb => readSocOnOpen_percent hb regs now)
  | fastRefresh batteryId collected now =>
    exact allPercent_update h (fun _ hb => tierRefresh_percent hb collected now)
  | refreshActivity new =>
    refine foldl_inv _ (fun t : Table String SocState => ∀ id b, t.get? id = some b → b.Percent)
      new.batteries sys.batteries h ?_
    intro t bcfg _ ht
    have hpast : (⟨sys.cfg,t⟩ : SocSystem).AllPercent := ht
    exact allPercent_update hpast
      (fun _ hb => refresh_percent hb new.homeAssistant.enabled bcfg)
  | haReply batteryId reply now =>
    cases hentity : haEntity sys.cfg batteryId with
    | none =>
      have hidle : socStep sys (.haReply batteryId reply now) = sys := by
        simp only [socStep,hentity]
      rwa [hidle]
    | some entityId =>
      simp only [socStep, hentity]
      cases hold : sys.batteries.get? batteryId with
      | none =>
        have hsame : sys.update batteryId (haPoll entityId reply now) = sys := by
          rw [SocSystem.update, Table.modify_eq_self _ (fun v hv => by simp [hold] at hv)]
        rwa [hsame]
      | some old =>
        have hrange := he entityId hentity (by simp [hold])
        exact allPercent_update h (fun _ hb => (haPoll_percent_iff hb entityId reply now).mpr hrange)

/-- A reply out of range shows in the state at once. -/
theorem repliesInRange_of_percent (h : sys.AllPercent) (e : SocEvent)
    (hstep : (socStep sys e).AllPercent) : RepliesInRange sys e := by
  cases e with
  | haReply batteryId reply now =>
    intro entityId hentity hknown
    obtain ⟨old,hold⟩ := Option.ne_none_iff_exists'.mp hknown
    have hafter := hstep batteryId (haPoll entityId reply now old) (by
      simp [socStep,hentity,SocSystem.update,hold])
    exact (haPoll_percent_iff (h batteryId old hold) entityId reply now).mp hafter
  | _ => trivial

/-- Every state of a run has percentages only if and only if every reply of Home Assistant is in
range. -/
theorem soc_percent_iff (cfg : Config) (events : List SocEvent) :
    (∀ pre post, events = pre ++ post → (run socStep (SocSystem.start cfg) pre).AllPercent) ↔
      StepsMeet socStep RepliesInRange (SocSystem.start cfg) events := by
  have hstart : (SocSystem.start cfg).AllPercent := by
    intro id b hb soc hsoc
    rw [SocSystem.start, Table.get?_mapVal] at hb
    obtain ⟨old,-,rfl⟩ := Option.map_eq_some_iff.mp hb
    cases hsoc
  exact run_exact SocSystem.AllPercent SocSystem.AllPercent hstart (fun _ e h => socStep_percent h e)
    (fun _ h => h) (fun _ e h => repliesInRange_of_percent h e)

/-! ## A house that asks Home Assistant -/

def haHouse : Config := { pulseHouse with
  homeAssistant := { enabled := true, token := "secret" }
  batteries := [{ wallBattery "a" "10.0.0.1" "garage" with socEntityId := some "sensor.a_soc" }] }

/-- The entity of battery `a` has answered. -/
def stateHeard (state : Json) : SocSystem :=
  run socStep (SocSystem.start haHouse) [.haReply "a" (.ok state) 1]

/-- A template sensor answers with no number, another one with a wrong scale. -/
theorem soc_out_of_range : haHouse.validate (fun _ => true) = .ok () ∧
    ((stateHeard (.str "nan")).batteries.get? "a").bind SocState.socPct = some .nan ∧
    ¬ (stateHeard (.str "nan")).AllPercent ∧
    ((stateHeard (.int 560)).batteries.get? "a").bind SocState.socPct = some (.finite 560) ∧
    ¬ (stateHeard (.int 560)).AllPercent := by
  have hnan : ((stateHeard (.str "nan")).batteries.get? "a").bind SocState.socPct = some .nan := by
    decide +kernel
  have hscale : ((stateHeard (.int 560)).batteries.get? "a").bind SocState.socPct =
      some (.finite 560) := by decide +kernel
  refine ⟨by decide +kernel,hnan,fun h => ?_,hscale,fun h => ?_⟩
  · obtain ⟨b,hb,hsoc⟩ := Option.bind_eq_some_iff.mp hnan
    exact h "a" b hb _ hsoc
  · obtain ⟨b,hb,hsoc⟩ := Option.bind_eq_some_iff.mp hscale
    have hrange : (0 : ℚ) ≤ 560 ∧ (560 : ℚ) ≤ 100 := h "a" b hb _ hsoc
    norm_num at hrange

end ShellyMultiplexer
