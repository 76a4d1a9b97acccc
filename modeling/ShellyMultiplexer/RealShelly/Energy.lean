import ShellyMultiplexer.RealShelly.Poller

/-! # The loop of the poller

Every round asks the real meter once. A status that comes in is stored, and its power is taken for
the whole time since the last one, unless a round has failed in between or that time is too long.
-/
namespace ShellyMultiplexer

structure EnergyCounters where
  consumedWh : ℚ := 0
  returnedWh : ℚ := 0

def EnergyCounters.integrate (e : EnergyCounters) (snap : EmStatusIncoming)
    (dtSeconds : Duration) : EnergyCounters :=
  let dtH := dtSeconds / 3600
  let total := snap.totalActPower.getD 0
  if 0 ≤ total then { e with consumedWh := e.consumedWh + total * dtH }
  else { e with returnedWh := e.returnedWh + -total * dtH }

/-- One status adds its energy to one of the counters. -/
theorem EnergyCounters.integrate_eq (e : EnergyCounters) (status : EmStatusIncoming) {dt : Duration}
    (hdt : 0 < dt) : e.integrate status dt =
      ⟨e.consumedWh + max (status.totalActPower.getD 0 * (dt / 3600)) 0,
        e.returnedWh + max (-(status.totalActPower.getD 0 * (dt / 3600))) 0⟩ := by
  have hhours : 0 < dt / 3600 := div_pos hdt (by norm_num)
  unfold integrate
  dsimp only
  split
  · rename_i hpower
    have hdrawn := mul_nonneg hpower hhours.le
    rw [max_eq_left hdrawn, max_eq_right (neg_nonpos.mpr hdrawn), add_zero]
  · rename_i hpower
    have hdrawn := mul_neg_of_neg_of_pos (not_le.mp hpower) hhours
    rw [max_eq_right hdrawn.le, max_eq_left (neg_nonneg.mpr hdrawn.le), add_zero, neg_mul]

structure PollerLoop where
  app : AppState
  energy : EnergyCounters := {}
  requestId : Int64 := 1
  /-- The instant of the last round, if it was a success. -/
  lastSuccess : Option Instant := none
  consecutiveErrors : ℕ := 0

namespace PollerLoop

/-- Energy is only integrated over short gaps without a failure. -/
def integrated (p : PollerLoop) (status : EmStatusIncoming) (now : Instant) : EnergyCounters :=
  match p.lastSuccess with
  | some prev =>
    let dt := durationSince now prev
    if 0 < dt ∧ dt < 5 then p.energy.integrate status dt else p.energy
  | none => p.energy

end PollerLoop

/-- What comes in during a round, and the clock after it. -/
structure PollRound where
  exchange : Exchange
  now : Instant

def pollRound (p : PollerLoop) (r : PollRound) : PollerLoop :=
  let requestId := p.requestId + 1
  match pollOnce requestId r.exchange with
  | .ok status =>
    { app := storeReply p.app r.now (.ok status)
      energy := p.integrated status r.now
      requestId := requestId
      lastSuccess := some r.now }
  | .error _ =>
    { p with
      requestId := requestId
      lastSuccess := none
      consecutiveErrors := p.consecutiveErrors + 1 }

end ShellyMultiplexer
