import Mathlib.Algebra.BigOperators.Ring.List
import Mathlib.Algebra.Order.BigOperators.Group.List
import ShellyMultiplexer.Foundation.Adjacent
import ShellyMultiplexer.Foundation.Logs
import ShellyMultiplexer.Model.Topology
import ShellyMultiplexer.RealShelly.Energy

/-! # Measured energy

The counters of the virtual meter hold the energy between neighbouring rounds of the poller, and
none that would have to be guessed over an outage.
-/
namespace ShellyMultiplexer
open Foundation

/-- A round and the power it has measured, if it was a success. A missing power counts as none. -/
structure Sample where
  now : Instant
  power : Option ℚ

def sampleOf (p : PollerLoop) (r : PollRound) : List Sample :=
  [⟨r.now,match pollOnce (p.requestId + 1) r.exchange with
    | .ok status => some (status.totalActPower.getD 0)
    | .error _ => none⟩]

/-- The energy drawn between two neighbouring rounds, in watt-hours: at the power of the later one
for the time between them. Nothing is known when one of them has failed or they are not close. -/
def drawnWh (pair : Sample × Sample) : ℚ :=
  match pair.1.power, pair.2.power with
  | some _, some power =>
    let gap := durationSince pair.2.now pair.1.now
    if 0 < gap ∧ gap < 5 then power * (gap / 3600) else 0
  | _, _ => 0

/-- The counters hold what the neighbours among the samples have drawn and returned. -/
structure Counted (samples : List Sample) (p : PollerLoop) : Prop where
  anchor : p.lastSuccess =
    samples.getLast?.bind (fun sample => sample.power.map (fun _ => sample.now))
  consumed : p.energy.consumedWh = ((adjacent samples).map (fun pair => max (drawnWh pair) 0)).sum
  returned : p.energy.returnedWh = ((adjacent samples).map (fun pair => max (-drawnWh pair) 0)).sum

theorem PollerLoop.integrated_eq {samples : List Sample} {p : PollerLoop} (h : Counted samples p)
    (status : EmStatusIncoming) (now : Instant) : p.integrated status now =
      ⟨p.energy.consumedWh + (samples.getLast?.map (fun last =>
          max (drawnWh (last,⟨now,some (status.totalActPower.getD 0)⟩)) 0)).getD 0,
        p.energy.returnedWh + (samples.getLast?.map (fun last =>
          max (-drawnWh (last,⟨now,some (status.totalActPower.getD 0)⟩)) 0)).getD 0⟩ := by
  rw [integrated, h.anchor]
  cases samples.getLast? with
  | none => simp
  | some last =>
    cases hpower : last.power with
    | none => simp [drawnWh,hpower]
    | some power =>
      simp only [Option.bind_some,Option.map_some,Option.getD_some,drawnWh,hpower]
      split
      · rename_i hgap
        exact p.energy.integrate_eq status hgap.1
      · simp

/-- Every round counts the energy since its neighbour. -/
theorem Counted.step {samples : List Sample} {p : PollerLoop} (h : Counted samples p)
    (r : PollRound) : Counted (samples ++ sampleOf p r) (pollRound p r) := by
  unfold pollRound sampleOf
  dsimp only
  cases hreply : pollOnce (p.requestId + 1) r.exchange with
  | ok status =>
    refine ⟨by simp,?_,?_⟩
    · rw [sum_adjacent_concat, ← h.consumed]
      exact congrArg EnergyCounters.consumedWh (p.integrated_eq h status r.now)
    · rw [sum_adjacent_concat, ← h.returned]
      exact congrArg EnergyCounters.returnedWh (p.integrated_eq h status r.now)
  | error e =>
    have hnone : ∀ last : Sample, drawnWh (last,⟨r.now,none⟩) = 0 := by
      intro last
      cases hpower : last.power <;> simp [drawnWh,hpower]
    refine ⟨by simp,?_,?_⟩
    · rw [sum_adjacent_concat, ← h.consumed]
      cases samples.getLast? <;> simp [hnone]
    · rw [sum_adjacent_concat, ← h.returned]
      cases samples.getLast? <;> simp [hnone]

/-- The poller after a run of rounds, and the samples it has taken. -/
def polled (cfg : Config) (rounds : List PollRound) : PollerLoop :=
  run pollRound { app := AppState.fromConfig cfg } rounds

def samplesOf (cfg : Config) (rounds : List PollRound) : List Sample :=
  outputs pollRound sampleOf { app := AppState.fromConfig cfg } rounds

/-- The counters hold the energy between neighbouring rounds, each in its direction, and nothing for
a time that touches a failed round or is five seconds or more. -/
theorem energy_of_neighbours (cfg : Config) (rounds : List PollRound) :
    (polled cfg rounds).energy.consumedWh =
        ((adjacent (samplesOf cfg rounds)).map (fun pair => max (drawnWh pair) 0)).sum ∧
      (polled cfg rounds).energy.returnedWh =
        ((adjacent (samplesOf cfg rounds)).map (fun pair => max (-drawnWh pair) 0)).sum := by
  have h : Counted (samplesOf cfg rounds) (polled cfg rounds) :=
    outputs_inv Counted ⟨rfl,rfl,rfl⟩ (fun _ _ r h => h.step r) rounds
  exact ⟨h.consumed,h.returned⟩

/-! ## A limit over time -/

theorem samplesOf_now (p : PollerLoop) (rounds : List PollRound) :
    (outputs pollRound sampleOf p rounds).map Sample.now = rounds.map PollRound.now := by
  induction rounds generalizing p with
  | nil => rfl
  | cons r rest ih =>
    rw [outputs, List.map_append, ih]
    rfl

theorem abs_drawnWh_le {pair : Sample × Sample} {maxW : ℚ} (hw : 0 ≤ maxW)
    (hpower : ∀ power ∈ pair.2.power, |power| ≤ maxW) (hclock : pair.1.now ≤ pair.2.now) :
    |drawnWh pair| ≤ maxW / 3600 * (pair.2.now - pair.1.now) := by
  have hgap : 0 ≤ pair.2.now - pair.1.now := sub_nonneg.mpr hclock
  have hzero : 0 ≤ maxW / 3600 * (pair.2.now - pair.1.now) :=
    mul_nonneg (div_nonneg hw (by norm_num)) hgap
  unfold drawnWh
  split
  · rename_i w power _ hsome
    dsimp only
    split
    · rw [durationSince, max_eq_left hgap, abs_mul, abs_of_nonneg (div_nonneg hgap (by norm_num))]
      calc |power| * ((pair.2.now - pair.1.now) / 3600)
          ≤ maxW * ((pair.2.now - pair.1.now) / 3600) :=
            mul_le_mul_of_nonneg_right (hpower power hsome) (div_nonneg hgap (by norm_num))
        _ = maxW / 3600 * (pair.2.now - pair.1.now) := by ring
    · simpa using hzero
  · simpa using hzero

/-- However the rounds went, the counters together gain no more energy than the largest power would
bring in the time from the first round to the last. -/
theorem energy_within_elapsed (cfg : Config) (first : PollRound) (rest : List PollRound) {maxW : ℚ}
    (hw : 0 ≤ maxW)
    (hpower : ∀ sample ∈ samplesOf cfg (first::rest), ∀ power ∈ sample.power, |power| ≤ maxW)
    (hclock : (first::rest).Pairwise (fun a b => a.now ≤ b.now)) :
    (polled cfg (first::rest)).energy.consumedWh + (polled cfg (first::rest)).energy.returnedWh ≤
      maxW / 3600 * (((first::rest).getLast (List.cons_ne_nil first rest)).now - first.now) := by
  obtain ⟨hconsumed,hreturned⟩ := energy_of_neighbours cfg (first::rest)
  have hnow := samplesOf_now { app := AppState.fromConfig cfg } (first::rest)
  change (samplesOf cfg (first::rest)).map Sample.now = _ at hnow
  have hordered : (samplesOf cfg (first::rest)).Pairwise (fun a b => a.now ≤ b.now) := by
    have hnows : ((first::rest).map PollRound.now).Pairwise (· ≤ ·) := List.pairwise_map.mpr hclock
    rw [← hnow] at hnows
    exact List.pairwise_map.mp hnows
  have hpair : ∀ pair ∈ adjacent (samplesOf cfg (first::rest)),
      |drawnWh pair| ≤ maxW / 3600 * (pair.2.now - pair.1.now) := fun pair hmem =>
    abs_drawnWh_le hw (hpower _ (mem_of_mem_adjacent hmem)) (pairwise_adjacent hordered pair hmem)
  obtain ⟨a,more,hsamples⟩ : ∃ a more, samplesOf cfg (first::rest) = a::more := ⟨_,_,rfl⟩
  have htime := sum_adjacent_sub Sample.now a more
  rw [hconsumed, hreturned, ← List.sum_map_add]
  calc ((adjacent (samplesOf cfg (first::rest))).map
        (fun pair => max (drawnWh pair) 0 + max (-drawnWh pair) 0)).sum
      ≤ ((adjacent (samplesOf cfg (first::rest))).map
        (fun pair => maxW / 3600 * (pair.2.now - pair.1.now))).sum := by
        refine List.sum_le_sum (fun pair hmem => ?_)
        rw [max_zero_add_max_neg_zero_eq_abs_self]
        exact hpair pair hmem
    _ = maxW / 3600 * (((first::rest).getLast (List.cons_ne_nil first rest)).now - first.now) := by
        rw [List.sum_map_mul_left]
        simp only [hsamples]
        rw [htime]
        rw [hsamples] at hnow
        have hlast := congrArg List.getLast? hnow
        rw [List.getLast?_map, List.getLast?_map,
          List.getLast?_eq_some_getLast (List.cons_ne_nil a more),
          List.getLast?_eq_some_getLast (List.cons_ne_nil first rest)] at hlast
        rw [Option.some.inj hlast, (List.cons.inj hnow).1]

/-- The reply of the meter to a request. -/
def meterReply (requestId : Int64) (power : ℚ) : Exchange where
  received := [.frame
    { id := some requestId
      result := some (.obj [("id",.int 0),("total_act_power",.float power)]) }]

/-- Two replies, a timeout and another reply. -/
def interruptedRounds : List PollRound :=
  [⟨meterReply 3 (-1800),2⟩,⟨{},3⟩,⟨meterReply 5 900,4⟩]

def firstRound : PollRound := ⟨meterReply 2 600,1⟩

theorem energy_within_elapsed_house :
    (polled house (firstRound::interruptedRounds)).energy.consumedWh +
      (polled house (firstRound::interruptedRounds)).energy.returnedWh ≤ 1800 / 3600 * (4 - 1) := by
  have hpower : ∀ sample ∈ samplesOf house (firstRound::interruptedRounds),
      ∀ power ∈ sample.power, |power| ≤ 1800 := by decide +kernel
  exact energy_within_elapsed house firstRound interruptedRounds (by norm_num) hpower
    (by decide +kernel)

end ShellyMultiplexer
