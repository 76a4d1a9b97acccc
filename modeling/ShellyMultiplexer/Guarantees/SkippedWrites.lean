import ShellyMultiplexer.Modbus.Writer
import ShellyMultiplexer.Model.Topology
import ShellyMultiplexer.Foundation.Runs

/-! # Skipped writes

The writer skips a setpoint that is close to the one it has written last, so what it remembers has
to be what the inverter holds. A write that fails for good may have turned the force mode or zeroed
the power of the remembered setpoint; from then on skips go by a setpoint that is not there.
-/
namespace ShellyMultiplexer
open Foundation

/-- The setpoint that the force mode and the power registers hold. -/
def heldSetpoint (registers : Registers) : Option Setpoint :=
  if registers regForceMode = 0 then some .standby
  else if registers regForceMode = 1 then some (.charge (registers regChargePowerSetpoint))
  else if registers regForceMode = 2 then some (.discharge (registers regDischargePowerSetpoint))
  else none

/-- Whatever is skipped is held by the inverter, in its direction and up to the deadband. -/
def SkipsAreSound (sys : WriterSystem) : Prop :=
  ∀ desired, shouldWrite sys.writer desired = false → ∃ held,
    heldSetpoint sys.registers = some held ∧ held.sameDirection desired = true ∧
      |desired.toSignedWatts - held.toSignedWatts| < writeDeadbandW

/-- The registers in which a setpoint stands. -/
def Setpoint.cells : Setpoint → List RegisterWrite
  | standby => [⟨regForceMode,0⟩]
  | charge watts => [⟨regForceMode,1⟩,⟨regChargePowerSetpoint,watts⟩]
  | discharge watts => [⟨regForceMode,2⟩,⟨regDischargePowerSetpoint,watts⟩]

/-- The write does not change a register in which the setpoint stands. -/
def Keeps (last : Setpoint) (w : RegisterWrite) : Prop :=
  ∀ c ∈ last.cells, c.cell = w.cell → c.value = w.value

/-- A write of a setpoint that fails for good has not touched the last one. -/
def Harmless (sys : WriterSystem) : WriterEvent → Prop
  | .desired sp world _ => shouldWrite sys.writer sp = true →
    (∃ a ∈ linked sys.connected (writeAttempts world), GetsThrough (writeSetpointOn sp) a) ∨
      ∀ last, sys.writer.lastWritten = some last →
        ∀ w ∈ landedWrites (writeSetpointOn sp) sys.connected (writeAttempts world), Keeps last w
  | .reads _ => True

/-- The writer remembers what the inverter holds. -/
def Remembers (sys : WriterSystem) : Prop :=
  ∃ last, sys.writer.lastWritten = some last ∧ heldSetpoint sys.registers = some last

/-! ## Setpoints and their registers -/

section Registers
variable {registers : Registers} {sp last : Setpoint}

theorem Setpoint.sameDirection_refl (sp : Setpoint) : sp.sameDirection sp = true := by
  cases sp <;> rfl

theorem heldSetpoint_eq_some_iff :
    heldSetpoint registers = some sp ↔ ∀ c ∈ sp.cells, registers c.cell = c.value := by
  unfold heldSetpoint
  cases sp with
  | standby =>
    simp only [Setpoint.cells,List.mem_singleton,forall_eq]
    grind
  | charge watts =>
    simp only [Setpoint.cells,List.mem_cons,List.not_mem_nil,or_false,forall_eq_or_imp,forall_eq]
    grind
  | discharge watts =>
    simp only [Setpoint.cells,List.mem_cons,List.not_mem_nil,or_false,forall_eq_or_imp,forall_eq]
    grind

theorem mem_writeSetpointOn_of_mem_cells {c : RegisterWrite} (h : c ∈ sp.cells) :
    c ∈ writeSetpointOn sp := by
  cases sp <;> simp [Setpoint.cells,writeSetpointOn] at h ⊢ <;> tauto

theorem writeSetpointOn_agree : ∀ w ∈ writeSetpointOn sp, ∀ a ∈ writeSetpointOn sp,
    a.cell = w.cell → a.value = w.value := by
  cases sp <;> simp [writeSetpointOn,regRs485ControlMode,regForceMode,regChargePowerSetpoint,
    regDischargePowerSetpoint]

theorem heldSetpoint_written (before : Registers) :
    heldSetpoint (writeAll before (writeSetpointOn sp)) = some sp :=
  heldSetpoint_eq_some_iff.mpr (fun _ hc =>
    writeAll_of_mem writeSetpointOn_agree (mem_writeSetpointOn_of_mem_cells hc))

end Registers

/-! ## One step -/

section Step
variable {sys : WriterSystem} {sp last : Setpoint} {world : ℕ → Attempt} {now : Instant}

theorem doWrite_delivered
    (h : ∃ a ∈ linked sys.connected (writeAttempts world), GetsThrough (writeSetpointOn sp) a) :
    Remembers (doWrite sys sp world now).1 := by
  have htried : ∃ a ∈ linked (Tried.mk sys.connected sys.registers
      (.error "write_setpoint exhausted retries")).connected (writeAttempts world),
      GetsThrough (writeSetpointOn sp) a := h
  obtain ⟨hok,before,hregs⟩ := tryWrites_delivered htried
  unfold doWrite
  dsimp only
  split
  · exact ⟨sp,rfl,(congrArg heldSetpoint hregs).trans (heldSetpoint_written before)⟩
  · rename_i he
    rw [he] at hok
    cases hok

theorem doWrite_failed
    (h : ∀ a ∈ linked sys.connected (writeAttempts world), ¬ GetsThrough (writeSetpointOn sp) a) :
    (doWrite sys sp world now).1.writer = sys.writer ∧ (doWrite sys sp world now).1.registers =
      writeAll sys.registers
        (landedWrites (writeSetpointOn sp) sys.connected (writeAttempts world)) := by
  have htried : ∀ a ∈ linked (Tried.mk sys.connected sys.registers
      (.error "write_setpoint exhausted retries")).connected (writeAttempts world),
      ¬ GetsThrough (writeSetpointOn sp) a := h
  obtain ⟨hno,hregs⟩ := tryWrites_failed htried rfl
  unfold doWrite
  dsimp only
  split
  · rename_i hok
    rw [hok] at hno
    cases hno
  · exact ⟨rfl,hregs⟩

theorem Remembers.skipsAreSound (h : Remembers sys) : SkipsAreSound sys := by
  obtain ⟨last,hlast,hheld⟩ := h
  intro desired hskip
  rw [shouldWrite, hlast] at hskip
  simp only [Bool.or_eq_false_iff,Bool.not_eq_false',decide_eq_false_iff_not,not_le] at hskip
  refine ⟨last,hheld,?_,hskip.2⟩
  cases desired <;> cases last <;> first | rfl | exact hskip.1

theorem Remembers.step (h : Remembers sys) {e : WriterEvent} (he : Harmless sys e) :
    Remembers (writerStep sys e) := by
  cases e with
  | reads connected => exact h
  | desired sp world now =>
    rw [writerStep]
    split
    · rename_i hwrite
      by_cases hd : ∃ a ∈ linked sys.connected (writeAttempts world),
          GetsThrough (writeSetpointOn sp) a
      · exact doWrite_delivered hd
      · obtain ⟨last,hlast,hheld⟩ := h
        have hkeep := (he hwrite).resolve_left hd last hlast
        push Not at hd
        refine ⟨last,(congrArg BatteryWriter.lastWritten (doWrite_failed hd).1).trans hlast,?_⟩
        rw [(doWrite_failed hd).2]
        refine heldSetpoint_eq_some_iff.mpr (fun c hc => ?_)
        exact writeAll_eq (heldSetpoint_eq_some_iff.mp hheld c hc)
          (fun w hw hcell => (hkeep w hw c hc hcell.symm).symm)
    · exact h

end Step

/-! ## Broken steps are noticed -/

section Exact
variable {sys : WriterSystem} {last sp : Setpoint}

/-- Only zero has the same neighbours as zero: 24 W further out is skipped for any other power. -/
theorem watts_eq_zero {y : UInt16} (h : ∀ d : UInt16, |(d.toNat : ℚ) - y.toNat| < writeDeadbandW →
    |(d.toNat : ℚ)| < writeDeadbandW) : y = 0 := by
  have hy : y.toNat < 65536 := y.toNat_lt
  let d := UInt16.ofNat (min (y.toNat + 24) 65535)
  have hd : d.toNat = min (y.toNat + 24) 65535 :=
    UInt16.toNat_ofNat_of_lt' ((min_le_right _ _).trans_lt (by decide))
  have hle : (y.toNat : ℚ) ≤ d.toNat := Nat.cast_le.mpr (by omega)
  have hclose : (d.toNat : ℚ) ≤ y.toNat + 24 := by
    have hnat : d.toNat ≤ y.toNat + 24 := by omega
    exact_mod_cast hnat
  have hfar := h d (by
    rw [abs_of_nonneg (sub_nonneg.mpr hle), writeDeadbandW]
    linarith)
  rw [abs_of_nonneg (Nat.cast_nonneg _), writeDeadbandW] at hfar
  have hlt : d.toNat < 25 := by exact_mod_cast hfar
  apply UInt16.toNat_inj.mp
  simp only [UInt16.toNat_zero]
  omega

theorem shouldWrite_eq_false_iff (hlast : sys.writer.lastWritten = some last) {desired : Setpoint} :
    shouldWrite sys.writer desired = false ↔ desired.sameDirection last = true ∧
      |desired.toSignedWatts - last.toSignedWatts| < writeDeadbandW := by
  simp [shouldWrite,hlast]

theorem charge_watts_eq_zero {watts : UInt16} :
    (Setpoint.charge watts).toSignedWatts = 0 ↔ watts = 0 := by
  simp [Setpoint.toSignedWatts,← UInt16.toNat_inj]

theorem discharge_watts_eq_zero {watts : UInt16} :
    (Setpoint.discharge watts).toSignedWatts = 0 ↔ watts = 0 := by
  simp [Setpoint.toSignedWatts,← UInt16.toNat_inj]

/-- What sound skips say about the setpoint held. -/
theorem SkipsAreSound.held (h : SkipsAreSound sys) (hlast : sys.writer.lastWritten = some last) :
    ∃ held, heldSetpoint sys.registers = some held ∧ held.sameDirection last = true ∧
      |last.toSignedWatts - held.toSignedWatts| < writeDeadbandW ∧
      (held.toSignedWatts = 0 → last.toSignedWatts = 0) := by
  have hself : shouldWrite sys.writer last = false :=
    (shouldWrite_eq_false_iff hlast).mpr ⟨last.sameDirection_refl,by
      rw [sub_self, abs_zero]
      norm_num [writeDeadbandW]⟩
  obtain ⟨held,hheld,hdir,hnear⟩ := h last hself
  refine ⟨held,hheld,hdir,hnear,fun hzero => ?_⟩
  -- a skipped setpoint a little further out than the last one
  have hskip : ∀ desired : Setpoint, desired.sameDirection last = true →
      |desired.toSignedWatts - last.toSignedWatts| < writeDeadbandW →
        |desired.toSignedWatts| < writeDeadbandW := by
    intro desired hd hdist
    obtain ⟨held',hheld',-,hfar⟩ := h desired ((shouldWrite_eq_false_iff hlast).mpr ⟨hd,hdist⟩)
    cases hheld.symm.trans hheld'
    rwa [hzero, sub_zero] at hfar
  cases last with
  | standby => rfl
  | charge y =>
    refine charge_watts_eq_zero.mpr (watts_eq_zero (fun d hd => ?_))
    have hfar := hskip (.charge d) rfl (by
      rw [Setpoint.toSignedWatts, Setpoint.toSignedWatts, neg_sub_neg, abs_sub_comm]
      exact hd)
    rwa [Setpoint.toSignedWatts, abs_neg] at hfar
  | discharge y => exact discharge_watts_eq_zero.mpr (watts_eq_zero (fun d => hskip (.discharge d) rfl))

theorem charge_cell_mem {watts : UInt16} :
    ⟨regChargePowerSetpoint,watts⟩ ∈ sp.cells ↔ .charge watts = sp := by
  cases sp <;> simp [Setpoint.cells,regForceMode,regChargePowerSetpoint,regDischargePowerSetpoint]

theorem discharge_cell_mem {watts : UInt16} :
    ⟨regDischargePowerSetpoint,watts⟩ ∈ sp.cells ↔ .discharge watts = sp := by
  cases sp <;> simp [Setpoint.cells,regForceMode,regChargePowerSetpoint,regDischargePowerSetpoint]

/-- The same direction stands in the same registers: the mode agrees, the power may differ. -/
theorem cells_of_sameDirection {held : Setpoint} (hdir : held.sameDirection last = true)
    {c : RegisterWrite} (hc : c ∈ last.cells) : c ∈ held.cells ∨ ∃ watts,
      ⟨c.cell,watts⟩ ∈ held.cells ∧ c.cell ≠ regRs485ControlMode ∧ c.cell ≠ regForceMode ∧
        (watts = 0 → held.toSignedWatts = 0) ∧ (last.toSignedWatts = 0 → c.value = 0) ∧
          ∀ sp : Setpoint, ⟨c.cell,watts⟩ ∈ sp.cells → held = sp := by
  cases last with
  | standby =>
    cases held with
    | standby => exact Or.inl hc
    | charge x => cases hdir
    | discharge x => cases hdir
  | charge y =>
    cases held with
    | standby => cases hdir
    | discharge x => cases hdir
    | charge x =>
      rcases List.mem_pair.mp hc with rfl | rfl
      · exact Or.inl List.mem_cons_self
      · exact Or.inr ⟨x,charge_cell_mem.mpr rfl,nofun,nofun,charge_watts_eq_zero.mpr,
          charge_watts_eq_zero.mp,fun _ => charge_cell_mem.mp⟩
  | discharge y =>
    cases held with
    | standby => cases hdir
    | charge x => cases hdir
    | discharge x =>
      rcases List.mem_pair.mp hc with rfl | rfl
      · exact Or.inl List.mem_cons_self
      · exact Or.inr ⟨x,discharge_cell_mem.mpr rfl,nofun,nofun,discharge_watts_eq_zero.mpr,
          discharge_watts_eq_zero.mp,fun _ => discharge_cell_mem.mp⟩

/-- A register of a setpoint is written with its own value, or zeroed for another one. -/
theorem written_cases {w : RegisterWrite} (hw : w ∈ writeSetpointOn sp)
    (hcell : w.cell ≠ regRs485ControlMode) : w ∈ sp.cells ∨ w.value = 0 := by
  cases sp with
  | standby =>
    rcases List.mem_cons.mp hw with rfl | hw
    · exact absurd rfl hcell
    · simp only [List.mem_cons,List.not_mem_nil,or_false] at hw
      rcases hw with rfl | rfl | rfl <;> exact Or.inr rfl
  | charge watts =>
    rcases List.mem_cons.mp hw with rfl | hw
    · exact absurd rfl hcell
    · exact (List.mem_cons.mp hw).elim (fun h => Or.inr (congrArg Write.value h)) Or.inl
  | discharge watts =>
    rcases List.mem_cons.mp hw with rfl | hw
    · exact absurd rfl hcell
    · exact (List.mem_cons.mp hw).elim (fun h => Or.inr (congrArg Write.value h)) Or.inl

/-- The power is written last. -/
theorem writeSetpointOn_last {cell watts : UInt16} (h : ⟨cell,watts⟩ ∈ sp.cells)
    (hcell : cell ≠ regForceMode) : ∃ before, writeSetpointOn sp = before ++ [⟨cell,watts⟩] ∧
      ⟨cell,watts⟩ ∉ before := by
  cases sp with
  | standby => exact absurd (congrArg Write.cell (List.mem_singleton.mp h)) hcell
  | charge x =>
    rcases List.mem_pair.mp h with h | h
    · exact absurd (congrArg Write.cell h) hcell
    · cases h
      exact ⟨[⟨regRs485ControlMode,rs485CtrlOn⟩,⟨regDischargePowerSetpoint,0⟩,⟨regForceMode,1⟩],rfl,
        by simp [regRs485ControlMode,regForceMode,regChargePowerSetpoint,
          regDischargePowerSetpoint]⟩
  | discharge x =>
    rcases List.mem_pair.mp h with h | h
    · exact absurd (congrArg Write.cell h) hcell
    · cases h
      exact ⟨[⟨regRs485ControlMode,rs485CtrlOn⟩,⟨regChargePowerSetpoint,0⟩,⟨regForceMode,2⟩],rfl,
        by simp [regRs485ControlMode,regForceMode,regChargePowerSetpoint,
          regDischargePowerSetpoint]⟩

/-- A step that breaks the memory of the writer breaks a skip. -/
theorem harmless_of_skipsAreSound {e : WriterEvent}
    (hsound : SkipsAreSound (writerStep sys e)) : Harmless sys e := by
  cases e with
  | reads connected => trivial
  | desired sp world now =>
    intro hwrite
    by_contra hno
    push Not at hno
    obtain ⟨hd,last,hlast,⟨cell,value⟩,hw,hlost⟩ := hno
    rw [Keeps] at hlost
    push Not at hlost
    obtain ⟨c,hc,rfl,hne⟩ := hlost
    rw [writerStep, if_pos hwrite] at hsound
    have hafter : (doWrite sys sp world now).1.writer.lastWritten = some last :=
      (congrArg BatteryWriter.lastWritten (doWrite_failed hd).1).trans hlast
    obtain ⟨held,hheld,hdir,hnear,hzero⟩ := hsound.held hafter
    have hregs := heldSetpoint_eq_some_iff.mp hheld
    have hreg : (doWrite sys sp world now).1.registers c.cell = value := by
      rw [(doWrite_failed hd).2]
      exact writeAll_of_mem (fun w hw a ha => writeSetpointOn_agree w (mem_of_mem_landedWrites hw) a
        (mem_of_mem_landedWrites ha)) hw
    rcases cells_of_sameDirection hdir hc with hcheld | ⟨watts,hwatts,hrs,-,hheld0,hlast0,hsame⟩
    · exact hne ((hregs c hcheld).symm.trans hreg)
    · have hvalue : watts = value := (hregs _ hwatts).symm.trans hreg
      subst hvalue
      rcases written_cases (mem_of_mem_landedWrites hw) hrs with hsp | hw0
      · -- the new power is in place already, which would have been a skip
        have heq := hsame sp hsp
        subst heq
        have hskip := (shouldWrite_eq_false_iff hlast).mpr ⟨hdir,by rwa [abs_sub_comm]⟩
        rw [hskip] at hwrite
        cases hwrite
      · exact hne ((hlast0 (hzero (hheld0 hw0))).trans hw0.symm)

end Exact

/-! ## Runs of a writer -/

section Run
variable {sys start : WriterSystem} {attempts : List Attempt} {cutoffs : BmsCutoffs} {now : Instant}

/-- The init loop ends with the standby that it takes note of. -/
theorem remembers_initWriter (h : initWriter sys attempts cutoffs now = some start) :
    Remembers start := by
  let t : Tried := ⟨sys.connected,sys.registers,.error ""⟩
  have hok : (tryWrites initDispatchOn attempts t).result.isOk = true := by
    unfold initWriter at h
    dsimp only at h
    split at h
    · rename_i hres
      rw [hres]
      rfl
    · cases h
  have hthrough : ∃ a ∈ linked t.connected attempts, GetsThrough initDispatchOn a := by
    by_contra hno
    push Not at hno
    rw [(tryWrites_failed hno rfl).1] at hok
    cases hok
  obtain ⟨-,before,hregs⟩ := tryWrites_delivered hthrough
  have hstart : start.writer.lastWritten = some .standby ∧
      start.registers = (tryWrites initDispatchOn attempts t).registers := by
    unfold initWriter at h
    dsimp only at h
    split at h
    · cases h
      exact ⟨rfl,rfl⟩
    · cases h
  refine ⟨.standby,hstart.1,heldSetpoint_eq_some_iff.mpr (fun c hc => ?_)⟩
  rw [List.mem_singleton.mp hc, hstart.2, hregs]
  rfl

/-- Along a run from any inverter the skips are sound if and only if every step is harmless. -/
theorem skips_sound_iff_harmless (hinit : initWriter sys attempts cutoffs now = some start)
    {events : List WriterEvent} :
    (∀ pre post, events = pre ++ post → SkipsAreSound (run writerStep start pre)) ↔
      StepsMeet writerStep Harmless start events :=
  run_exact Remembers SkipsAreSound (remembers_initWriter hinit) (fun _ _ h he => h.step he)
    (fun _ h => h.skipsAreSound) (fun _ _ _ hsound => harmless_of_skipsAreSound hsound)

/-- A write in the direction of the last one may fail as it likes. -/
theorem harmless_of_sameDirection {last sp : Setpoint} (world : ℕ → Attempt)
    (hlast : sys.writer.lastWritten = some last) (hdir : sp.sameDirection last = true) :
    Harmless sys (.desired sp world now) := by
  intro _
  by_cases hd : ∃ a ∈ linked sys.connected (writeAttempts world),
      GetsThrough (writeSetpointOn sp) a
  · exact Or.inl hd
  · push Not at hd
    refine Or.inr (fun last' hlast' w hw c hc hcell => ?_)
    cases hlast.symm.trans hlast'
    obtain ⟨a,ha,hland⟩ := List.mem_flatMap.mp hw
    have hmem := mem_of_mem_landed hland
    rcases cells_of_sameDirection hdir hc with hcs | ⟨watts,hwatts,-,hmode,-⟩
    · exact writeSetpointOn_agree w hmem c (mem_writeSetpointOn_of_mem_cells hcs) hcell
    · -- the new power would have landed last
      obtain ⟨before,hlist,hnot⟩ := writeSetpointOn_last hwatts hmode
      have hw' : w = ⟨c.cell,watts⟩ := by
        have hvalue := writeSetpointOn_agree _ (mem_writeSetpointOn_of_mem_cells hwatts) w hmem
          hcell.symm
        cases w
        simp_all
      rw [hlist, hw'] at hland
      have hall := isOk_of_last_landed hnot hland
      rw [← hlist] at hall
      exact absurd hall (hd a ha)

end Run

/-! ## The writer of a wall battery -/

def wallWriter : WriterSystem where
  writer := { batteryId := "a" }
  connected := false
  registers _ := 0
  app := AppState.fromConfig house
  stats := {}

def answering : Attempt := ⟨.ok (),fun _ => .ok ()⟩

/-- The inverter answers until the force mode is written. -/
def stuckMode : Attempt := ⟨.ok (),fun reg =>
  if reg = regForceMode then .error "modbus write timeout (reg 42010)" else .ok ()⟩

def parked : WriterSystem :=
  (initWriter wallWriter [answering] {} 0).get (by decide +kernel)

theorem parked_eq : initWriter wallWriter [answering] {} 0 = some parked :=
  (Option.some_get _).symm

/-- A charge, and a change of its power that never gets through. -/
def chargeTwice : List WriterEvent :=
  [.desired (.charge 1000) (fun _ => answering) 2,.desired (.charge 1500) (fun _ => stuckMode) 4]

theorem skips_sound_iff_harmless_wall : SkipsAreSound (run writerStep parked chargeTwice) := by
  have hsafe : StepsMeet writerStep Harmless parked chargeTwice :=
    stepsMeet_cons.mpr ⟨fun _ => Or.inl ⟨answering,List.mem_cons_self,fun _ _ => rfl⟩,
      stepsMeet_cons.mpr ⟨harmless_of_sameDirection _ rfl rfl,stepsMeet_nil _ _ _⟩⟩
  exact (skips_sound_iff_harmless parked_eq).mpr hsafe chargeTwice [] (List.append_nil _).symm

/-- The discharge fails after the charge power is zeroed; the charge is then taken to be there. -/
def chargeLost : List WriterEvent :=
  [.desired (.charge 1000) (fun _ => answering) 2,.desired (.discharge 1000) (fun _ => stuckMode) 4]

theorem zeroed_charge_skipped :
    shouldWrite (run writerStep parked chargeLost).writer (.charge 1000) = false ∧
      heldSetpoint (run writerStep parked chargeLost).registers = some (.charge 0) ∧
      ¬ SkipsAreSound (run writerStep parked chargeLost) := by
  have hskip : shouldWrite (run writerStep parked chargeLost).writer (.charge 1000) = false := by
    decide +kernel
  have hzero : heldSetpoint (run writerStep parked chargeLost).registers = some (.charge 0) := by
    decide +kernel
  refine ⟨hskip,hzero,fun hsound => ?_⟩
  obtain ⟨held,hheld,-,hnear⟩ := hsound _ hskip
  cases hzero.symm.trans hheld
  exact absurd hnear (by decide +kernel)

end ShellyMultiplexer
