import ShellyMultiplexer.Guarantees.OppositePower

/-! # Stale power

The init turns the force mode off and leaves both power registers alone, and so does the failsafe. A
sequence turns the mode before it writes the power, so what a previous run has left in the register
is in force in between. From the first write of its own on the register holds nothing stale.
-/
namespace ShellyMultiplexer
open Foundation

/-- The register holds zero or what this process has written to it. -/
def OwnPower (m : Wire) (reg : UInt16) : Prop :=
  m.registers reg = 0 ∨ ⟨reg,m.registers reg⟩ ∈ m.written

/-- The power in force is zero or written by this process. -/
def NoStalePower (m : Wire) : Prop :=
  (m.registers regForceMode = 1 → OwnPower m regChargePowerSetpoint) ∧
    (m.registers regForceMode = 2 → OwnPower m regDischargePowerSetpoint)

/-- Some attempt gets as far as the mode. -/
def TurnsMode (sys : WireSystem) (sp : Setpoint) (mode : UInt16) (world : ℕ → WireAttempt) : Prop :=
  ∃ a ∈ wired sys.connected (wireAttempts world),
    ⟨regForceMode,mode⟩ ∈ effected a.onWrites (writeSetpointOn sp)

/-- A mode is turned on only over a power register that holds nothing stale. -/
def TurnsOverOwnPower (sys : WireSystem) : WireEvent → Prop
  | .desired (.charge watts) world _ =>
    sys.running = true ∧ shouldWrite sys.writer (.charge watts) = true ∧
      TurnsMode sys (.charge watts) 1 world → OwnPower sys.wire regChargePowerSetpoint
  | .desired (.discharge watts) world _ =>
    sys.running = true ∧ shouldWrite sys.writer (.discharge watts) = true ∧
      TurnsMode sys (.discharge watts) 2 world → OwnPower sys.wire regDischargePowerSetpoint
  | .desired .standby _ _ => True
  | .reads _ => True
  | .shutdown _ _ => True

variable {m : Wire} {w : RegisterWrite} {reg : UInt16} {done : List RegisterWrite}

/-! ## Stages of a sequence -/

theorem OwnPower.apply (h : OwnPower m reg) (w : RegisterWrite) : OwnPower (m.apply w) reg := by
  by_cases hw : reg = w.cell
  · subst hw
    refine Or.inr (Wire.mem_apply_written.mpr (Or.inr ?_))
    rw [Wire.apply_self]
  · rw [OwnPower, Wire.apply_of_ne hw]
    exact h.imp_right (fun hm => Wire.mem_apply_written.mpr (Or.inl hm))

theorem ownPower_apply_of_ne (hw : reg ≠ w.cell) : OwnPower (m.apply w) reg ↔ OwnPower m reg := by
  refine ⟨fun h => ?_,fun h => h.apply w⟩
  rw [OwnPower, Wire.apply_of_ne hw] at h
  refine h.imp_right (fun hm => ?_)
  rcases Wire.mem_apply_written.mp hm with hm | rfl
  · exact hm
  · exact absurd rfl hw

theorem OwnPower.foldl (h : OwnPower m reg) (writes : List RegisterWrite) :
    OwnPower (writes.foldl Wire.apply m) reg := by
  induction writes generalizing m with
  | nil => exact h
  | cons w rest ih => exact ih (h.apply w)

namespace NoStalePower

theorem iff_forall : NoStalePower m ↔
    ∀ d : Direction, m.registers regForceMode = d.mode → OwnPower m d.own :=
  ⟨fun h d => by
    cases d
    · exact h.1
    · exact h.2,fun h => ⟨h .charging,h .discharging⟩⟩

/-- Only turning the mode can bring a stale power into force. -/
theorem apply (h : NoStalePower m) (hw : w.cell ≠ regForceMode) : NoStalePower (m.apply w) := by
  refine iff_forall.mpr (fun d hd => ?_)
  rw [Wire.apply_of_ne hw.symm] at hd
  exact (iff_forall.mp h d hd).apply w

theorem park (m : Wire) : NoStalePower (m.apply ⟨regForceMode,0⟩) := by
  refine iff_forall.mpr (fun d hd => ?_)
  have hzero : (m.apply ⟨regForceMode,0⟩).registers regForceMode = 0 := Wire.apply_self
  exact absurd (hd.symm.trans hzero) d.mode_ne_zero

theorem turn {d : Direction} (h : OwnPower m d.own) :
    NoStalePower (m.apply ⟨regForceMode,d.mode⟩) := by
  refine iff_forall.mpr (fun e he => ?_)
  have hmode : (m.apply ⟨regForceMode,d.mode⟩).registers regForceMode = d.mode := Wire.apply_self
  obtain rfl := Direction.mode_injective (hmode.symm.trans he)
  exact h.apply _

/-- Writes that turn no mode on keep it, one after the other. -/
theorem foldl (h : NoStalePower m) {writes : List RegisterWrite}
    (hw : ∀ w ∈ writes, w.cell = regForceMode → w.value = 0) :
    NoStalePower (writes.foldl Wire.apply m) := by
  induction writes generalizing m with
  | nil => exact h
  | cons w rest ih =>
    refine ih ?_ (fun v hv => hw v (List.mem_cons_of_mem _ hv))
    by_cases hcell : w.cell = regForceMode
    · have hpark := park m
      rw [← hcell, ← hw w List.mem_cons_self hcell] at hpark
      exact hpark
    · exact h.apply hcell

/-- A sequence that turns its mode over a register without stale power. -/
theorem stage_of_ownPower (h : NoStalePower m) {d : Direction} (hown : OwnPower m d.own)
    {watts : UInt16} (hd : done <+: writeSetpointOn (d.setpoint watts)) :
    NoStalePower (done.foldl Wire.apply m) := by
  rw [d.writeSetpointOn_setpoint] at hd
  have harmed : NoStalePower (m.apply ⟨regRs485ControlMode,rs485CtrlOn⟩) := h.apply (by decide)
  have hzeroed : NoStalePower ([⟨regRs485ControlMode,rs485CtrlOn⟩,⟨d.opposite,0⟩].foldl
      Wire.apply m) := harmed.apply d.opposite_ne_force
  have hturned : NoStalePower ([⟨regRs485ControlMode,rs485CtrlOn⟩,⟨d.opposite,0⟩,
      ⟨regForceMode,d.mode⟩].foldl Wire.apply m) :=
    turn (hown.foldl [⟨regRs485ControlMode,rs485CtrlOn⟩,⟨d.opposite,0⟩])
  rcases prefix_four hd with rfl | rfl | rfl | rfl | rfl
  · exact h
  · exact harmed
  · exact hzeroed
  · exact hturned
  · exact hturned.apply d.own_ne_force

end NoStalePower

theorem standby_parks : ∀ w ∈ writeSetpointOn .standby, w.cell = regForceMode → w.value = 0 := by
  decide

theorem failsafe_parks : ∀ w ∈ failsafeShutdown, w.cell = regForceMode → w.value = 0 := by decide

/-- A forced sequence that does not get to its mode has only armed and zeroed. -/
theorem mode_of_forced {d : Direction} {watts : UInt16} {w : RegisterWrite}
    (hw : w ∈ writeSetpointOn (d.setpoint watts)) (hcell : w.cell = regForceMode) :
    w = ⟨regForceMode,d.mode⟩ := by
  rw [d.writeSetpointOn_setpoint] at hw
  simp only [List.mem_cons,List.not_mem_nil,or_false] at hw
  rcases hw with rfl | rfl | rfl | rfl
  · exact absurd hcell (by decide)
  · exact absurd hcell d.opposite_ne_force
  · rfl
  · exact absurd hcell d.own_ne_force

/-! ## Attempts -/

section Attempts
variable {d : Direction} {watts : UInt16} {attempts : List WireAttempt} {t : Transit}

/-- Attempts that turn no mode on at all. -/
theorem transit_parked (attempts : List WireAttempt) {writes : List RegisterWrite}
    (hw : ∀ w ∈ writes, w.cell = regForceMode → w.value = 0) (hwire : NoStalePower t.wire)
    (hpassed : ∀ m ∈ t.passed, NoStalePower m) : NoStalePower (transit writes attempts t).wire ∧
      ∀ m ∈ (transit writes attempts t).passed, NoStalePower m :=
  transit_inv writes attempts t NoStalePower NoStalePower (fun _ h => h)
    (fun _ _ _ hm _ hdone => hm.foldl (fun w hmem =>
      hw w ((hdone.trans (effected_isPrefix _ _)).subset hmem))) hwire hpassed

theorem transit_noStalePower (hsafe : (∃ a ∈ wired t.connected attempts,
      ⟨regForceMode,d.mode⟩ ∈ effected a.onWrites (writeSetpointOn (d.setpoint watts))) →
        OwnPower t.wire d.own)
    (hwire : NoStalePower t.wire) (hpassed : ∀ m ∈ t.passed, NoStalePower m) :
    NoStalePower (transit (writeSetpointOn (d.setpoint watts)) attempts t).wire ∧
      ∀ m ∈ (transit (writeSetpointOn (d.setpoint watts)) attempts t).passed, NoStalePower m := by
  by_cases hturn : ∃ a ∈ wired t.connected attempts,
      ⟨regForceMode,d.mode⟩ ∈ effected a.onWrites (writeSetpointOn (d.setpoint watts))
  · have hown := hsafe hturn
    obtain ⟨⟨hend,-⟩,hmoments⟩ := transit_inv (writeSetpointOn (d.setpoint watts)) attempts t
      (fun m => NoStalePower m ∧ OwnPower m d.own) NoStalePower (fun _ h => h.1)
      (fun _ _ _ hm done hdone => ⟨hm.1.stage_of_ownPower hm.2 (hdone.trans (effected_isPrefix _ _)),
        hm.2.foldl done⟩) ⟨hwire,hown⟩ hpassed
    exact ⟨hend,hmoments⟩
  · refine transit_inv (writeSetpointOn (d.setpoint watts)) attempts t NoStalePower NoStalePower
      (fun _ h => h) ?_ hwire hpassed
    intro a ha m hm done hdone
    refine hm.foldl (fun w hw hcell => ?_)
    have heff := hdone.subset hw
    rw [mode_of_forced ((effected_isPrefix _ _).subset heff) hcell] at heff
    exact absurd ⟨a,ha,heff⟩ hturn

/-- An attempt that stops short of its mode leaves the power register as it was. -/
theorem ownPower_foldl_short {m : Wire} {done : List RegisterWrite}
    (hd : done <+: writeSetpointOn (d.setpoint watts)) (hno : ⟨regForceMode,d.mode⟩ ∉ done) :
    OwnPower (done.foldl Wire.apply m) d.own ↔ OwnPower m d.own := by
  have harm : OwnPower (m.apply ⟨regRs485ControlMode,rs485CtrlOn⟩) d.own ↔ OwnPower m d.own :=
    ownPower_apply_of_ne d.own_ne_control
  rw [d.writeSetpointOn_setpoint] at hd
  rcases prefix_four hd with rfl | rfl | rfl | rfl | rfl
  · exact Iff.rfl
  · exact harm
  · exact (ownPower_apply_of_ne d.own_ne_opposite).trans harm
  · exact absurd (by simp) hno
  · exact absurd (by simp) hno

/-- An attempt that gets to its mode passes the moment at which the mode has just been turned. -/
theorem stale_moment {a : WireAttempt} {m : Wire} (hstale : ¬ OwnPower m d.own)
    (hturn : ⟨regForceMode,d.mode⟩ ∈ effected a.onWrites (writeSetpointOn (d.setpoint watts))) :
    ∃ n ∈ (passThrough Wire.apply a.onWrites m (writeSetpointOn (d.setpoint watts))).moments,
      ¬ NoStalePower n := by
  have hbefore : (⟨regForceMode,d.mode⟩ : RegisterWrite) ∉
      [⟨regRs485ControlMode,rs485CtrlOn⟩,⟨d.opposite,0⟩] := by
    intro h
    rcases List.mem_pair.mp h with h | h
    · exact absurd (congrArg Write.cell h) (by cases d <;> decide)
    · exact absurd (congrArg Write.cell h).symm d.opposite_ne_force
  have hall := effected_isPrefix a.onWrites (writeSetpointOn (d.setpoint watts))
  rw [d.writeSetpointOn_setpoint] at hall
  have hpre := prefix_of_mem hall hbefore (d.writeSetpointOn_setpoint watts ▸ hturn)
  rw [← d.writeSetpointOn_setpoint] at hpre
  refine ⟨_,mem_passThrough hpre (by simp),fun h => hstale ?_⟩
  have hmode := NoStalePower.iff_forall.mp h d Wire.apply_self
  have hback := (ownPower_apply_of_ne d.own_ne_force).mp hmode
  have hzero := (ownPower_apply_of_ne d.own_ne_opposite).mp hback
  exact (ownPower_apply_of_ne d.own_ne_control).mp hzero

/-- Over a stale register every series of attempts that gets to the mode shows it. -/
theorem transit_exposes (hstale : ¬ OwnPower t.wire d.own)
    (hturn : ∃ a ∈ wired t.connected attempts,
      ⟨regForceMode,d.mode⟩ ∈ effected a.onWrites (writeSetpointOn (d.setpoint watts))) :
    ∃ m ∈ (transit (writeSetpointOn (d.setpoint watts)) attempts t).passed, ¬ NoStalePower m := by
  induction attempts generalizing t with
  | nil =>
    obtain ⟨a,ha,-⟩ := hturn
    cases ha
  | cons a rest ih =>
    cases hc : (ensureConn t.connected a.seen).isOk with
    | false =>
      have hl : wired t.connected (a::rest) = wired false rest := by simp [wired,hc]
      obtain ⟨e,he⟩ := transit_unwired (writeSetpointOn (d.setpoint watts)) rest hc
      rw [hl] at hturn
      rw [he]
      exact ih hstale hturn
    | true =>
      have hl : wired t.connected (a::rest) = a::wired false rest := by simp [wired,hc]
      have hcases := transit_wired (writeSetpointOn (d.setpoint watts)) rest hc
      by_cases ha : ⟨regForceMode,d.mode⟩ ∈ effected a.onWrites (writeSetpointOn (d.setpoint watts))
      · obtain ⟨m,hm,hbad⟩ := stale_moment hstale ha
        refine ⟨m,?_,hbad⟩
        rcases hcases with ⟨-,he⟩ | ⟨-,e,he⟩
        · rw [he]
          exact List.mem_append_right _ hm
        · rw [he]
          exact passed_transit (List.mem_append_right _ hm)
      · rcases hcases with ⟨hok,-⟩ | ⟨-,e,he⟩
        · -- an attempt that gets through has been at its mode
          refine absurd ?_ ha
          rw [effected_eq_self (passThrough_isOk.mp hok), d.writeSetpointOn_setpoint]
          simp
        · rw [he]
          have hstill : ¬ OwnPower (passThrough Wire.apply a.onWrites t.wire
              (writeSetpointOn (d.setpoint watts))).last d.own := by
            rw [passThrough_last, ownPower_foldl_short (effected_isPrefix _ _) ha]
            exact hstale
          rw [hl] at hturn
          obtain ⟨b,hb,hturn⟩ := hturn
          rcases List.mem_cons.mp hb with rfl | hb
          · exact absurd hturn ha
          · exact ih hstill ⟨b,hb,hturn⟩

end Attempts

/-! ## Runs -/

section Run
variable {sys start : WireSystem} {batteryId : String} {leftover : Registers}
variable {attempts : List WireAttempt} {now : Instant}

/-- The series behind a setpoint. -/
def deliveryTransit (sys : WireSystem) (sp : Setpoint) (world : ℕ → WireAttempt) : Transit :=
  transit (writeSetpointOn sp) (wireAttempts world)
    ⟨sys.connected,sys.wire,sys.passed,.error "write_setpoint exhausted retries"⟩

theorem deliver_moments (sys : WireSystem) (sp : Setpoint) (world : ℕ → WireAttempt)
    (now : Instant) : (deliver sys sp world now).wire = (deliveryTransit sys sp world).wire ∧
      (deliver sys sp world now).passed = (deliveryTransit sys sp world).passed := by
  unfold deliver
  dsimp only
  split
  · exact ⟨rfl,rfl⟩
  · exact ⟨rfl,rfl⟩

/-- No moment so far has had a stale power in force; the present moment is one of them. -/
structure NeverStale (sys : WireSystem) : Prop where
  moments : ∀ m ∈ sys.passed, NoStalePower m
  present : sys.wire ∈ sys.passed

theorem NeverStale.of_transit {t : Transit}
    (h : NoStalePower t.wire ∧ ∀ m ∈ t.passed, NoStalePower m) (hp : t.wire ∈ t.passed)
    (hwire : sys.wire = t.wire) (hpassed : sys.passed = t.passed) : NeverStale sys :=
  ⟨fun m hm => h.2 m (hpassed ▸ hm),by rw [hwire, hpassed]; exact hp⟩

theorem NeverStale.deliver_forced (h : NeverStale sys) (d : Direction) {watts : UInt16}
    {world : ℕ → WireAttempt} (hsafe : TurnsMode sys (d.setpoint watts) d.mode world →
      OwnPower sys.wire d.own) (now : Instant) :
    NeverStale (deliver sys (d.setpoint watts) world now) := by
  obtain ⟨hwire,hpassed⟩ := deliver_moments sys (d.setpoint watts) world now
  have ht := transit_noStalePower (t := ⟨sys.connected,sys.wire,sys.passed,
    .error "write_setpoint exhausted retries"⟩) hsafe (h.moments _ h.present) h.moments
  exact NeverStale.of_transit ht (wire_mem_passed h.present) hwire hpassed

theorem NeverStale.deliver_standby (h : NeverStale sys) (world : ℕ → WireAttempt) (now : Instant) :
    NeverStale (deliver sys .standby world now) := by
  obtain ⟨hwire,hpassed⟩ := deliver_moments sys .standby world now
  exact NeverStale.of_transit (transit_parked _ standby_parks (h.moments _ h.present) h.moments)
    (wire_mem_passed h.present) hwire hpassed

theorem NeverStale.shutDown (h : NeverStale sys) (standby failsafe : WireAttempt) :
    NeverStale (shutDown sys standby failsafe) := by
  have hs := transit_parked [standby]
    (t := ⟨sys.connected,sys.wire,sys.passed,.ok ()⟩) standby_parks (h.moments _ h.present) h.moments
  have hf := transit_parked [failsafe] (t := ⟨false,_,_,.ok ()⟩) failsafe_parks
    hs.1 hs.2
  exact NeverStale.of_transit hf (wire_mem_passed (wire_mem_passed h.present)) rfl rfl

theorem NeverStale.step (h : NeverStale sys) {e : WireEvent} (he : TurnsOverOwnPower sys e) :
    NeverStale (wireStep sys e) := by
  unfold wireStep
  split
  · rename_i hrun
    cases e with
    | desired sp world now =>
      dsimp only
      split
      · rename_i hwrite
        cases sp with
        | standby => exact h.deliver_standby world now
        | charge watts => exact h.deliver_forced .charging (fun ht => he ⟨hrun,hwrite,ht⟩) now
        | discharge watts => exact h.deliver_forced .discharging (fun ht => he ⟨hrun,hwrite,ht⟩) now
      · exact h
    | reads connected => exact ⟨h.moments,h.present⟩
    | shutdown standby failsafe => exact h.shutDown standby failsafe
  · exact h

/-- A delivery that turns its mode over a stale register is seen. -/
theorem ownPower_of_deliver (d : Direction) {watts : UInt16} {world : ℕ → WireAttempt}
    (hrun : sys.running = true) (hwrite : shouldWrite sys.writer (d.setpoint watts) = true)
    (hturn : TurnsMode sys (d.setpoint watts) d.mode world)
    (h : ∀ m ∈ (wireStep sys (.desired (d.setpoint watts) world now)).passed, NoStalePower m) :
    OwnPower sys.wire d.own := by
  by_contra hstale
  obtain ⟨m,hm,hbad⟩ := transit_exposes (t := ⟨sys.connected,sys.wire,sys.passed,
    .error "write_setpoint exhausted retries"⟩) hstale hturn
  have hstep : wireStep sys (.desired (d.setpoint watts) world now) =
      deliver sys (d.setpoint watts) world now := by
    rw [wireStep, if_pos hrun]
    exact if_pos hwrite
  rw [hstep, (deliver_moments sys (d.setpoint watts) world now).2] at h
  exact hbad (h m hm)

theorem turnsOverOwnPower_of_moments {e : WireEvent}
    (h : ∀ m ∈ (wireStep sys e).passed, NoStalePower m) : TurnsOverOwnPower sys e := by
  cases e with
  | desired sp world now =>
    cases sp with
    | standby => trivial
    | charge watts =>
      rintro ⟨hrun,hwrite,hturn⟩
      exact ownPower_of_deliver .charging hrun hwrite hturn h
    | discharge watts =>
      rintro ⟨hrun,hwrite,hturn⟩
      exact ownPower_of_deliver .discharging hrun hwrite hturn h
  | reads connected => trivial
  | shutdown standby failsafe => trivial

/-- No stale power is ever in force exactly when every mode is turned over a power register that
holds nothing stale. -/
theorem no_stale_power_iff (hinit : initWire batteryId leftover attempts now = some start)
    {events : List WireEvent} :
    (∀ pre post, events = pre ++ post → ∀ m ∈ (run wireStep start pre).passed, NoStalePower m) ↔
      StepsMeet wireStep TurnsOverOwnPower start events := by
  obtain ⟨hpassed,hmode⟩ := initWire_parked hinit
  have hstart : NoStalePower start.wire := NoStalePower.iff_forall.mpr (fun d hd =>
    absurd (hd.symm.trans hmode) d.mode_ne_zero)
  have h0 : NeverStale start := by
    refine ⟨fun m hm => ?_,by rw [hpassed]; exact List.mem_singleton_self _⟩
    rw [hpassed] at hm
    rw [List.mem_singleton.mp hm]
    exact hstart
  exact run_exact NeverStale (fun sys => ∀ m ∈ sys.passed, NoStalePower m) h0
    (fun _ _ h he => h.step he) (fun _ h => h.moments)
    (fun _ _ _ h => turnsOverOwnPower_of_moments h)

end Run

/-! ## Two thousand watts of the last run -/

/-- The force mode is never reached. -/
def stuckWire : WireAttempt where
  connect := .ok ()
  replies := ⟨fun reg => if reg = regForceMode then .error "modbus write timeout (reg 42010)"
    else .ok (),fun reg => reg ≠ regForceMode,fun reg h => by
      by_cases hr : reg = regForceMode
      · simp [hr,Except.isOk,Except.toBool] at h
      · simpa using hr⟩

def stuckThenCharge : List WireEvent :=
  [.desired (.discharge 900) (fun _ => stuckWire) 1,.desired (.charge 700) (fun _ => goodWire) 2]

/-- A discharge that gets stuck has zeroed the charge power by the time the charge comes. -/
theorem no_stale_power_wall : StepsMeet wireStep TurnsOverOwnPower takenOver stuckThenCharge ∧
    ∀ m ∈ (run wireStep takenOver stuckThenCharge).passed, NoStalePower m := by
  have hmeet : StepsMeet wireStep TurnsOverOwnPower takenOver stuckThenCharge := by
    refine stepsMeet_cons.mpr ⟨?_,stepsMeet_cons.mpr ⟨fun _ => ?_,stepsMeet_nil _ _ _⟩⟩
    · rintro ⟨-,-,hturn⟩
      refine absurd hturn ?_
      unfold TurnsMode
      decide +kernel
    · unfold OwnPower
      decide +kernel
  exact ⟨hmeet,(no_stale_power_iff takenOver_eq).mpr hmeet _ [] (List.append_nil _).symm⟩

/-- The charge of 100 W starts with the 2000 W that the last run has left. -/
theorem leftover_power_activated : ¬ ∀ m ∈ (run wireStep takenOver
    [.desired (.charge 100) (fun _ => goodWire) 1]).passed, NoStalePower m := by
  intro h
  have hthird := h ((run wireStep takenOver
    [.desired (.charge 100) (fun _ => goodWire) 1]).passed.get ⟨3,by decide +kernel⟩)
    (List.get_mem _ _)
  revert hthird
  unfold NoStalePower OwnPower
  decide +kernel

end ShellyMultiplexer
