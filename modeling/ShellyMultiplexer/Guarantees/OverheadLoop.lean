import ShellyMultiplexer.Dispatcher.StepModbus
import ShellyMultiplexer.Foundation.Runs
import ShellyMultiplexer.Foundation.Smoothing
import ShellyMultiplexer.Modbus.Wire
import ShellyMultiplexer.Plug.Poller

/-! # The overhead loop

An inverter that is told a power draws or feeds more than that at its plug. The poller averages the
difference and the dispatcher takes it off the next target, so that the plug comes to the target as
closely as the losses vary, however wrong the average was at first.
-/
namespace ShellyMultiplexer
open Foundation

namespace Direction

/-- Discharging counts as positive. -/
def sign : Direction → ℚ
  | charging => -1
  | discharging => 1

def limit (b : BatteryState) : Direction → ℚ
  | charging => b.maxChargeW
  | discharging => b.maxDischargeW

theorem abs_sign_mul (d : Direction) (x : ℚ) : |d.sign * x| = |x| := by cases d <;> simp [sign]

end Direction

/-! ## The loop of one battery -/

def WriterSystem.battery? (sys : WriterSystem) : Option BatteryState :=
  sys.app.batteries.get? sys.writer.batteryId

/-- The power that the inverter has been told last. -/
def WriterSystem.told (sys : WriterSystem) : ℚ :=
  sys.writer.lastWritten.elim 0 Setpoint.toSignedWatts

inductive OverheadEvent
  /-- A pass sends the battery its setpoint, and the writer comes to it. -/
  | command (targets : Table String ℚ) (world : ℕ → Attempt) (now : Instant)
  /-- The plug shows the loss of the inverter on top of its power. -/
  | poll (now : Instant) (relayOn : Option Bool) (loss : ℚ)

def overheadStep (sys : WriterSystem) : OverheadEvent → WriterSystem
  | .command targets world now =>
    match sys.battery?.bind (setpointFor targets) with
    | some sp => writerStep sys (.desired sp world now)
    | none => sys
  | .poll now relayOn loss => sys.report (recordReading now (-(sys.told + loss)) relayOn)

def OverheadEvent.isPoll : OverheadEvent → Bool
  | command _ _ _ => false
  | poll _ _ _ => true

/-- The least target that compensation never takes below the minimum of the firmware. -/
def steadyTargetW : ℚ := 200 + marstekMinW

/-- Targets are in reach in one direction, their writes get through, and losses stay in a range. -/
def SteadyStep (d : Direction) (lo hi : ℚ) (sys : WriterSystem) : OverheadEvent → Prop
  | .command targets world now => (∀ b, sys.battery? = some b →
      steadyTargetW ≤ d.sign * (targets.get? b.id).getD 0 ∧
        d.sign * (targets.get? b.id).getD 0 ≤ min (d.limit b) Setpoint.hardMaxW) ∧
      ∀ sp, (doWrite sys sp world now).2.isOk = true
  | .poll _ _ loss => lo ≤ d.sign * loss ∧ d.sign * loss ≤ hi

/-! ## One setpoint -/

variable {d : Direction} {lo hi : ℚ} {b : BatteryState} {target overhead w : ℚ}

/-- The part of the overhead that points the way of the target is taken off it. -/
theorem sign_compensation (h : 0 < d.sign * target) (overhead : ℚ) :
    d.sign * applyOverheadCompensation target overhead =
      d.sign * target - clampTo 0 200 (d.sign * overhead) := by
  cases d with
  | charging =>
    have htarget : target < 0 := by simpa [Direction.sign] using h
    rw [applyOverheadCompensation_of_neg htarget, clampTo, clampTo, Direction.sign]
    simp only [max_def, min_def]
    split_ifs <;> linarith
  | discharging =>
    have htarget : 0 ≤ target := by simpa [Direction.sign] using h.le
    rw [applyOverheadCompensation_of_nonneg htarget, clampTo, clampTo, Direction.sign]
    simp only [max_def, min_def]
    split_ifs <;> linarith

theorem command_of_direction (hw : marstekMinW ≤ d.sign * w)
    (hlimit : d.sign * w ≤ min (d.limit b) Setpoint.hardMaxW) :
    ∃ sp, Setpoint.fromSignedWatts w b.maxChargeW b.maxDischargeW = some sp ∧
      |d.sign * sp.toSignedWatts - d.sign * w| < 1 ∧ marstekMinW ≤ d.sign * sp.toSignedWatts := by
  have hreach : marstekMinW ≤ d.limit b := (hw.trans hlimit).trans (min_le_left _ _)
  have hnear := Setpoint.abs_wholeWatts_sub_lt (d.limit b) (d.sign * w)
  have hleast := (Setpoint.wholeWatts_mem hreach (d.sign * w)).1
  rw [clampTo_eq_self hw hlimit] at hnear
  cases d with
  | charging =>
    have hneg : -w = Direction.charging.sign * w := by rw [Direction.sign, neg_one_mul]
    have hle : w ≤ -marstekMinW := by linarith
    obtain ⟨watts,hwatts,hsp⟩ := Setpoint.fromSignedWatts_of_le_neg hreach b.maxDischargeW hle
    have hsigned : Direction.charging.sign * (Setpoint.charge watts).toSignedWatts =
        Setpoint.wholeWatts (Direction.limit b .charging) (Direction.charging.sign * w) := by
      rw [← hneg, ← hwatts, Direction.sign, Setpoint.toSignedWatts, neg_mul_neg, one_mul]
    exact ⟨_,hsp,by rwa [hsigned],by rwa [hsigned]⟩
  | discharging =>
    have hpos : w = Direction.discharging.sign * w := by rw [Direction.sign, one_mul]
    have hle : marstekMinW ≤ w := by linarith
    obtain ⟨watts,hwatts,hsp⟩ := Setpoint.fromSignedWatts_of_le hreach b.maxChargeW hle
    have hsigned : Direction.discharging.sign * (Setpoint.discharge watts).toSignedWatts =
        Setpoint.wholeWatts (Direction.limit b .discharging) (Direction.discharging.sign * w) := by
      rw [← hpos, ← hwatts, Direction.sign, Setpoint.toSignedWatts, one_mul]
    exact ⟨_,hsp,by rwa [hsigned],by rwa [hsigned]⟩

/-- What the dispatcher computes for a target in reach. -/
theorem setpointFor_steady {targets : Table String ℚ}
    (hleast : steadyTargetW ≤ d.sign * (targets.get? b.id).getD 0)
    (hmost : d.sign * (targets.get? b.id).getD 0 ≤ min (d.limit b) Setpoint.hardMaxW) :
    ∃ sp, setpointFor targets b = some sp ∧ marstekMinW ≤ d.sign * sp.toSignedWatts ∧
      |d.sign * sp.toSignedWatts - (d.sign * (targets.get? b.id).getD 0 -
        clampTo 0 200 (d.sign * b.plugOverheadWSmoothed.getD 0))| < 1 := by
  have hm := marstekMinW_pos
  rw [steadyTargetW] at hleast
  have hsign := sign_compensation (show 0 < d.sign * (targets.get? b.id).getD 0 by linarith)
    (b.plugOverheadWSmoothed.getD 0)
  have hlow := le_clampTo 0 200 (d.sign * b.plugOverheadWSmoothed.getD 0)
  have hhigh := clampTo_le (show (0 : ℚ) ≤ 200 by norm_num)
    (d.sign * b.plugOverheadWSmoothed.getD 0)
  obtain ⟨sp,hsp,hnear,hsp50⟩ := command_of_direction (d := d) (b := b)
    (w := compensatedTarget targets b) (by rw [compensatedTarget, hsign]; linarith)
    (by rw [compensatedTarget, hsign]; linarith)
  rw [compensatedTarget, hsign] at hnear
  exact ⟨sp,hsp,hsp50,hnear⟩

/-! ## One step -/

/-- The writer and the poller know of the same power in the direction. -/
structure Forced (d : Direction) (sys : WriterSystem) (b : BatteryState) : Prop where
  battery : sys.battery? = some b
  known : b.lastModbusSetpointW = some sys.told
  least : marstekMinW ≤ d.sign * sys.told

theorem battery?_report {sys : WriterSystem} {f : BatteryState → BatteryState} :
    (sys.report f).battery? = sys.battery?.map f := Table.get?_modify_self _ _ _

/-- A poll shows the loss on top of the power and takes it into the average. -/
theorem Forced.poll {sys : WriterSystem} (h : Forced d sys b) {loss : ℚ} (hlo : 0 ≤ lo)
    (hloss : lo ≤ d.sign * loss ∧ d.sign * loss ≤ hi) (now : Instant) (relayOn : Option Bool) :
    ∃ b', Forced d (overheadStep sys (.poll now relayOn loss)) b' ∧
      b'.toBatteryParams = b.toBatteryParams ∧ b'.lastPlugW = some (sys.told + loss) ∧
      beyond lo hi (d.sign * b'.plugOverheadWSmoothed.getD 0) ≤
        7 / 10 * beyond lo hi (d.sign * b.plugOverheadWSmoothed.getD 0) := by
  have hm := marstekMinW_pos
  have hleast := h.least
  have hsignum : -signum (-(sys.told + loss)) = signum sys.told := by
    cases d with
    | charging =>
      rw [Direction.sign] at hleast hloss
      rw [signum_of_nonneg (by linarith), signum_of_neg (by linarith)]
    | discharging =>
      rw [Direction.sign] at hleast hloss
      rw [signum_of_neg (by linarith), signum_of_nonneg (by linarith), neg_neg]
  have hforced : 50 ≤ |sys.told| := by
    rw [← d.abs_sign_mul]
    exact hleast.trans (le_abs_self _)
  refine ⟨recordReading now (-(sys.told + loss)) relayOn b,⟨?_,h.known,hleast⟩,rfl,?_,?_⟩
  · rw [overheadStep, battery?_report, h.battery, Option.map_some]
  · rw [recordReading, neg_neg]
  · have hinstant : - -(sys.told + loss) - sys.told = loss := by ring
    rw [recordReading]
    dsimp only
    rw [smoothOverhead, h.known]
    dsimp only
    rw [if_pos ⟨hforced,hsignum⟩, hinstant, Option.getD_some]
    cases b.plugOverheadWSmoothed with
    | none =>
      rw [beyond_of_mem hloss.1 hloss.2]
      exact mul_nonneg (by norm_num) (beyond_nonneg _ _ _)
    | some prev =>
      have hmix : d.sign * (3 / 10 * loss + 7 / 10 * prev) =
          3 / 10 * (d.sign * loss) + (1 - 3 / 10) * (d.sign * prev) := by ring
      have hblend := beyond_blend_le (x := d.sign * prev) (show (0 : ℚ) ≤ 3 / 10 by norm_num)
        (by norm_num) hloss.1 hloss.2
      rw [hmix]
      refine hblend.trans_eq ?_
      rw [Option.getD_some]
      norm_num

theorem doWrite_ok {sys : WriterSystem} {sp : Setpoint} {world : ℕ → Attempt} {now : Instant}
    (h : (doWrite sys sp world now).2.isOk = true) :
    ∃ after, (doWrite sys sp world now).1 = recordSuccess after sp now ∧
      after.battery? = sys.battery? := by
  unfold doWrite at h ⊢
  dsimp only at h ⊢
  split at h
  · exact ⟨_,rfl,rfl⟩
  · cases h

/-- Whether or not it is written, a setpoint is told up to the deadband of the writer. -/
theorem Forced.command {sys : WriterSystem} (h : Forced d sys b) {targets : Table String ℚ}
    {world : ℕ → Attempt} {now : Instant}
    (hstep : SteadyStep d lo hi sys (.command targets world now)) :
    ∃ b', Forced d (overheadStep sys (.command targets world now)) b' ∧
      b'.toBatteryParams = b.toBatteryParams ∧
      b'.plugOverheadWSmoothed = b.plugOverheadWSmoothed ∧
      |d.sign * (overheadStep sys (.command targets world now)).told -
        (d.sign * (targets.get? b.id).getD 0 -
          clampTo 0 200 (d.sign * b.plugOverheadWSmoothed.getD 0))| < writeDeadbandW + 1 := by
  obtain ⟨hleast,hmost⟩ := hstep.1 b h.battery
  obtain ⟨sp,hsp,hsp50,hnear⟩ := setpointFor_steady hleast hmost
  have hserve : overheadStep sys (.command targets world now) =
      writerStep sys (.desired sp world now) := by
    rw [overheadStep, h.battery, Option.bind_some, hsp]
  rw [hserve, writerStep]
  cases hwrite : shouldWrite sys.writer sp with
  | true =>
    obtain ⟨after,hafter,hsame⟩ := doWrite_ok (hstep.2 sp)
    rw [if_pos rfl, hafter]
    refine ⟨{ b with
      lastModbusSetpointW := some sp.toSignedWatts
      lastModbusWriteAt := some now
      lastModbusWriteError := none },⟨?_,rfl,hsp50⟩,rfl,rfl,
        hnear.trans (by norm_num [writeDeadbandW])⟩
    rw [recordSuccess, battery?_report]
    exact congrArg (Option.map _) (hsame.trans h.battery)
  | false =>
    have hskip := abs_sub_lt_of_not_shouldWrite hwrite
    rw [if_neg Bool.false_ne_true]
    refine ⟨b,h,rfl,rfl,?_⟩
    rw [← d.abs_sign_mul, mul_sub] at hskip
    rw [abs_lt] at hnear hskip ⊢
    constructor
    · have := hnear.1
      have := hskip.2
      rw [WriterSystem.told]
      linarith
    · have := hnear.2
      have := hskip.1
      rw [WriterSystem.told]
      linarith

/-! ## Runs -/

/-- After the polls so far the average is that much closer to the range of the losses. -/
structure Tracks (d : Direction) (lo hi first : ℚ) (limits : BatteryParams)
    (events : List OverheadEvent) (sys : WriterSystem) : Prop where
  forced : ∃ b, Forced d sys b ∧ b.toBatteryParams = limits ∧
    beyond lo hi (d.sign * b.plugOverheadWSmoothed.getD 0) ≤
      (7 / 10) ^ events.countP OverheadEvent.isPoll * beyond lo hi (d.sign * first)

theorem Tracks.step {first : ℚ} {limits : BatteryParams} {events : List OverheadEvent}
    {sys : WriterSystem} (h : Tracks d lo hi first limits events sys) (hlo : 0 ≤ lo)
    {e : OverheadEvent} (he : SteadyStep d lo hi sys e) :
    Tracks d lo hi first limits (events ++ [e]) (overheadStep sys e) := by
  obtain ⟨b,hforced,hlimits,hbeyond⟩ := h.forced
  cases e with
  | command targets world now =>
    obtain ⟨b',hforced',hparams,hsmooth,-⟩ := hforced.command he
    refine ⟨b',hforced',hparams.trans hlimits,?_⟩
    rw [hsmooth, List.countP_append]
    simpa [OverheadEvent.isPoll] using hbeyond
  | poll now relayOn loss =>
    obtain ⟨b',hforced',hparams,-,hcloser⟩ := hforced.poll hlo he now relayOn
    refine ⟨b',hforced',hparams.trans hlimits,hcloser.trans ?_⟩
    have hcount : (events ++ [OverheadEvent.poll now relayOn loss]).countP OverheadEvent.isPoll =
        events.countP OverheadEvent.isPoll + 1 := by
      rw [List.countP_append]
      rfl
    rw [hcount, pow_succ, mul_comm ((7 / 10 : ℚ) ^ _), mul_assoc]
    exact mul_le_mul_of_nonneg_left hbeyond (by norm_num)

/-- Whatever the average starts from and whatever is commanded on the way: once a target has been
commanded the plug shows it up to the range of the losses, the deadband of the writer and a watt,
and up to what is left of a wrong average, which each poll takes three tenths off. -/
theorem plug_lands_on_target {sys : WriterSystem} (hlo : 0 ≤ lo) (hhi : hi ≤ 200)
    (hforced : Forced d sys b) {events : List OverheadEvent} {targets : Table String ℚ}
    {world : ℕ → Attempt} {commanded polled : Instant} {relayOn : Option Bool} {loss : ℚ}
    (h : StepsMeet overheadStep (SteadyStep d lo hi) sys
      (events ++ [.command targets world commanded,.poll polled relayOn loss])) :
    ∃ plug, (run overheadStep sys (events ++ [.command targets world commanded,
        .poll polled relayOn loss])).battery?.bind BatteryState.lastPlugW = some plug ∧
      |plug - (targets.get? b.id).getD 0| ≤ hi - lo +
        (7 / 10) ^ events.countP OverheadEvent.isPoll *
          beyond lo hi (d.sign * b.plugOverheadWSmoothed.getD 0) + (writeDeadbandW + 1) := by
  have hsteady := h.prefix
  have hcommand := h events (.command targets world commanded) [.poll polled relayOn loss] rfl
  have hpoll := h (events ++ [.command targets world commanded]) (.poll polled relayOn loss) []
    (by simp)
  rw [run_concat] at hpoll
  have hstart : Tracks d lo hi (b.plugOverheadWSmoothed.getD 0) b.toBatteryParams [] sys :=
    ⟨b,hforced,rfl,by simp⟩
  obtain ⟨b₁,hforced₁,hparams,hbeyond⟩ := (run_history (Tracks d lo hi _ b.toBatteryParams)
    hstart (fun _ _ _ ht he => ht.step hlo he) hsteady).forced
  have hid : b₁.id = b.id := congrArg BatteryParams.id hparams
  obtain ⟨b₂,hforced₂,-,-,htold⟩ := hforced₁.command hcommand
  obtain ⟨b₃,hforced₃,-,hplug,-⟩ := hforced₂.poll hlo hpoll polled relayOn
  have hloss := abs_clampTo_sub_le hlo hhi hpoll.1 hpoll.2
    (d.sign * b₁.plugOverheadWSmoothed.getD 0)
  refine ⟨(overheadStep (run overheadStep sys events)
    (.command targets world commanded)).told + loss,?_,?_⟩
  · have hlast : events ++ [.command targets world commanded,.poll polled relayOn loss] =
        (events ++ [.command targets world commanded]) ++ [.poll polled relayOn loss] := by simp
    rw [hlast, run_concat, run_concat, hforced₃.battery, Option.bind_some, hplug]
  · rw [hid] at htold
    rw [← d.abs_sign_mul, mul_sub, mul_add]
    rw [abs_le] at hloss ⊢
    rw [abs_lt] at htold
    constructor
    · linarith [htold.1, hloss.2]
    · linarith [htold.2, hloss.1]

/-! ## A battery on a wall -/

/-- It discharges with 1000 W, and its average is 150 W off. -/
def lossyA : BatteryState :=
  { reported (-1000) 50 "a" with
    lastModbusSetpointW := some 1000
    plugOverheadWSmoothed := some 180 }

def lossyWall : WriterSystem where
  writer := ⟨"a",some (.discharge 1000),some 0⟩
  connected := true
  registers _ := 0
  app := { AppState.fromConfig house with batteries := Table.empty.insert "a" lossyA }
  stats := {}

def atOnce : ℕ → Attempt := fun _ => ⟨.ok (),fun _ => .ok ()⟩

theorem doWrite_atOnce (sys : WriterSystem) (sp : Setpoint) (now : Instant) :
    (doWrite sys sp atOnce now).2.isOk = true := by
  have hlink : (ensureConn sys.connected (atOnce 1)).isOk = true := by
    rw [ensureConn]
    split <;> rfl
  have htried : tryWrites (writeSetpointOn sp) (writeAttempts atOnce)
      ⟨sys.connected,sys.registers,.error "write_setpoint exhausted retries"⟩ =
        ⟨true,writeAll sys.registers (writeSetpointOn sp),.ok ()⟩ :=
    tryWrites_through hlink (fun _ _ => rfl)
  rw [doWrite, htried]
  rfl

theorem lossyA_forced : Forced .discharging lossyWall lossyA :=
  ⟨rfl,rfl,by
    have htold : lossyWall.told = 1000 := rfl
    rw [htold, Direction.sign, marstekMinW]
    norm_num⟩

/-- The average has come to within 72 W of the losses after two polls. -/
theorem plug_lands_on_target_wall : ∃ plug, (run overheadStep lossyWall
      [.poll 1 none 30,.poll 2 none 35,.command (Table.empty.insert "a" 1500) atOnce 3,
        .poll 4 none 32]).battery?.bind BatteryState.lastPlugW = some plug ∧
      |plug - 1500| ≤ 103 := by
  have hsteady : StepsMeet overheadStep (SteadyStep .discharging 30 35) lossyWall
      ([.poll 1 none 30,.poll 2 none 35] ++
        [.command (Table.empty.insert "a" 1500) atOnce 3,.poll 4 none 32]) := by
    refine stepsMeet_cons.mpr ⟨?_,stepsMeet_cons.mpr ⟨?_,stepsMeet_cons.mpr ⟨⟨?_,?_⟩,
      stepsMeet_cons.mpr ⟨?_,stepsMeet_nil _ _ _⟩⟩⟩⟩
    · norm_num [SteadyStep, Direction.sign]
    · norm_num [SteadyStep, Direction.sign]
    · intro b hb
      cases hb
      change steadyTargetW ≤ Direction.sign .discharging * 1500 ∧
        Direction.sign .discharging * 1500 ≤ min 2500 Setpoint.hardMaxW
      norm_num [Direction.sign, steadyTargetW, marstekMinW, Setpoint.hardMaxW]
    · exact fun sp => doWrite_atOnce _ sp 3
    · norm_num [SteadyStep, Direction.sign]
  obtain ⟨plug,hplug,hnear⟩ :=
    plug_lands_on_target (by norm_num) (by norm_num) lossyA_forced hsteady
  refine ⟨plug,hplug,hnear.trans ?_⟩
  have hfirst : Direction.sign .discharging * lossyA.plugOverheadWSmoothed.getD 0 = 180 := by
    norm_num [lossyA, Direction.sign]
  have hpolls : List.countP OverheadEvent.isPoll [.poll 1 none 30,.poll 2 none 35] = 2 := rfl
  have hbeyond : beyond (30 : ℚ) 35 180 = 145 := by norm_num [beyond]
  rw [hfirst, hpolls, hbeyond]
  norm_num [writeDeadbandW]

end ShellyMultiplexer
