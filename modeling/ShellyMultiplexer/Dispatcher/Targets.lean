import ShellyMultiplexer.Dispatcher.Distribution

/-! # Absolute targets of the modbus path

The desired total is distributed, small circuit totals are concentrated on one battery, every
target is limited to one ramp step from the measured power, and each circuit is scaled under its
cap. Every stage is described by what it does to a single battery.
-/
namespace ShellyMultiplexer
open Foundation

/-! ## The stages -/

def desiredTotal (eligible : List BatteryState) (gridW : ℚ) : ℚ :=
  plugTotal eligible + computeGridCorrection gridW (plugTotal eligible) eligible.length

/-- `assigned` as this path adds it up: the active batteries, then everything else in the map. -/
def assignedTargets (targets : Table String ℚ) (active : List BatteryState) : ℚ :=
  (active.map (fun b => (targets.get? b.id).getD 0)).sum +
    ((targets.entries.filter (fun e => !active.any (fun b => b.id = e.1))).map Prod.snd).sum

def distributeTargets (s : AppState) (dcfg : DispatcherConfig) (gridW : ℚ) (now : Instant) :
    Option (Table String ℚ) :=
  let eligible := s.eligible now
  let desired := desiredTotal eligible gridW
  redistribute dcfg now (weightOf dcfg now (decide (desired < 0))) assignedTargets desired 6
    (zeroTargets s.batteries.values) eligible desired

def targetSum (targets : Table String ℚ) (ids : List String) : ℚ :=
  (ids.filterMap targets.get?).sum

/-- The order behind `max_by`: the larger present target wins, then the larger priority. -/
def outranks (targets : Table String ℚ) (a b : BatteryState) : Bool :=
  let av := |(targets.get? a.id).getD 0|
  let bv := |(targets.get? b.id).getD 0|
  bv < av || (av == bv && b.priorityWeight < a.priorityWeight)

/-- The battery that takes over a circuit's whole target. -/
def consolidationPrimary (s : AppState) (dcfg : DispatcherConfig) (now : Instant)
    (targets : Table String ℚ) (cs : CircuitState) : Option BatteryState :=
  let dir := signum (targetSum targets cs.memberIds)
  maxBy (outranks targets) ((s.lookup cs.memberIds).filter (fun b =>
    b.lastPlugW.isSome &&
      if dir < 0 then decide (lowBound b dcfg now < 0) else decide (0 < highBound b dcfg now)))

def consolidateCircuit (s : AppState) (dcfg : DispatcherConfig) (now : Instant)
    (targets : Table String ℚ) (cs : CircuitState) : Option (Table String ℚ) :=
  let sum := targetSum targets cs.memberIds
  if |sum| < marstekMinW then some targets
  else if (cs.memberIds.filterMap targets.get?).any (fun t => marstekMinW ≤ |t|) then some targets
  else match consolidationPrimary s dcfg now targets cs with
    | none => some targets
    | some p => (f64Clamp sum (lowBound p dcfg now) (highBound p dcfg now)).map
        (fun concentrated => cs.memberIds.foldl
          (fun t id => t.insert id (if id = p.id then concentrated else 0)) targets)

def rateLimitTarget (rateLimit : ℚ) (targets : Table String ℚ) (b : BatteryState) :
    Option (Table String ℚ) :=
  let plug := b.lastPlugW.getD 0
  match targets.get? b.id with
  | none => some targets
  | some t => (f64Clamp (t - plug) (-rateLimit) rateLimit).map
      (fun limited => targets.insert b.id (plug + limited))

def circuitPlugSum (s : AppState) (cs : CircuitState) : ℚ :=
  ((s.lookup cs.memberIds).filterMap BatteryState.lastPlugW).sum

def capCircuit (s : AppState) (targets : Table String ℚ) (cs : CircuitState) : Table String ℚ :=
  let worstCase := max |targetSum targets cs.memberIds| |circuitPlugSum s cs|
  if cs.capW < worstCase then
    let scale := cs.capW / worstCase
    cs.memberIds.foldl (fun t id => t.modify id (fun x => x * scale)) targets
  else targets

def rateLimit (dcfg : DispatcherConfig) : ℚ := max dcfg.rateLimitWPerCycle 1

/-- The targets the cap stage starts from. -/
def targetsBeforeCap (s : AppState) (dcfg : DispatcherConfig) (gridW : ℚ) (now : Instant) :
    Option (Table String ℚ) := do
  let targets ← distributeTargets s dcfg gridW now
  let targets ← s.circuits.values.foldlM (consolidateCircuit s dcfg now) targets
  (s.eligible now).foldlM (rateLimitTarget (rateLimit dcfg)) targets

def computeTargets (s : AppState) (dcfg : DispatcherConfig) (gridW : ℚ) (now : Instant) :
    Option (Table String ℚ) :=
  if (s.eligible now).isEmpty then some (zeroTargets s.batteries.values)
  else (targetsBeforeCap s dcfg gridW now).map (fun targets =>
    s.circuits.values.foldl (capCircuit s) targets)

end ShellyMultiplexer
