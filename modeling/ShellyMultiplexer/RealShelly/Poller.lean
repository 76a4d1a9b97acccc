import ShellyMultiplexer.Model.Rpc
import ShellyMultiplexer.Model.State

/-! # The poller of the real meter

One request per round, answered over UDP from any address. Replies that cannot be read or that
belong to another request are passed over until the timeout.
-/
namespace ShellyMultiplexer

/-- What comes in on the socket before the timeout. -/
inductive Received
  | failed (error : String)
  /-- A packet that is no response frame. -/
  | unreadable
  | frame (f : ResponseFrame)

/-- The answer to the request, from the packets in the order of their arrival. -/
def awaitReply (requestId : Int64) : List Received → Except String EmStatusIncoming
  | [] => .error "real shelly poll timed out"
  | .failed e::_ => .error e
  | .unreadable::rest => awaitReply requestId rest
  | .frame f::rest =>
    if f.id ≠ some requestId then awaitReply requestId rest
    else match f.error, f.result with
      | some e, _ => .error s!"real shelly returned error {e.code}: {e.message}"
      | none, none => .error "real shelly returned empty result"
      | none, some result =>
        match EmStatusIncoming.fromJson result with
        | .ok status => .ok status
        | .error _ => .error "parsing EmStatus from real shelly result"

structure Exchange where
  send : Except String Unit := .ok ()
  received : List Received := []

def pollOnce (requestId : Int64) (x : Exchange) : Except String EmStatusIncoming :=
  match x.send with
  | .error e => .error e
  | .ok () => awaitReply requestId x.received

/-- The snapshot after a round: a failed one leaves it to age. -/
def storeReply (s : AppState) (now : Instant) (reply : Except String EmStatusIncoming) : AppState :=
  match reply with
  | .ok status => { s with snapshot := ⟨status.totalActPower,some now⟩ }
  | .error _ => s

end ShellyMultiplexer
