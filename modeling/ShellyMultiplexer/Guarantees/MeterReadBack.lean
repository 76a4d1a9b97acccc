import ShellyMultiplexer.Guarantees.DeliveredSamples
import ShellyMultiplexer.RealShelly.Poller

/-! # The meter read back

The virtual meter speaks the protocol of the real one: a poller that asks it gets the status that
the meter has made up for it, through all the packets that are not meant for it.
-/
namespace ShellyMultiplexer

/-! ## The status of the meter -/

/-- In an object without double names every field is found. -/
theorem Json.get?_of_mem {fields : List (String × Json)} (h : (fields.map Prod.fst).Nodup)
    {name : String} {v : Json} (hv : (name,v) ∈ fields) : (Json.obj fields).get? name = some v := by
  have hlookup : ∀ l : List (String × Json), (l.map Prod.fst).Nodup → (name,v) ∈ l →
      l.lookup name = some v := by
    intro l hn hmem
    induction l with
    | nil => cases hmem
    | cons field rest ih =>
      rw [List.map_cons, List.nodup_cons] at hn
      rw [List.lookup_cons]
      rcases List.mem_cons.mp hmem with rfl | hmem
      · simp
      · have hne : name ≠ field.1 := by
          rintro rfl
          exact hn.1 (List.mem_map.mpr ⟨_,hmem,rfl⟩)
        rw [beq_false_of_ne hne]
        exact ih hn.2 hmem
  refine hlookup fields.reverse ?_ (List.mem_reverse.mpr hv)
  rw [List.map_reverse]
  exact List.nodup_reverse.mpr h

theorem Json.skipEmpty_names (name : String) (items : List String) :
    ((Json.skipEmpty name items).map Prod.fst).Sublist [name] := by
  unfold Json.skipEmpty
  split <;> simp

theorem Json.optF64_ofOptF64 (x : Option ℚ) : Json.optF64 (some (.ofOptF64 x)) = .ok x := by
  cases x <;> rfl

/-- The names in a status with all of its lists. -/
def emJsonFields : List String :=
  ["id","a_current","a_voltage","a_act_power","a_aprt_power","a_pf","a_freq","a_errors",
    "b_current","b_voltage","b_act_power","b_aprt_power","b_pf","b_freq","b_errors",
    "c_current","c_voltage","c_act_power","c_aprt_power","c_pf","c_freq","c_errors",
    "n_current","n_errors","total_current","total_act_power","total_aprt_power",
    "user_calibrated_phase","errors"]

namespace EmStatus
variable (s : EmStatus)

/-- Whichever lists are left out, no name occurs twice. -/
theorem get?_toJson {name : String} {v : Json}
    (hv : ∀ fields, s.toJson = .obj fields → (name,v) ∈ fields) : s.toJson.get? name = some v := by
  refine Json.get?_of_mem ((by decide : emJsonFields.Nodup).sublist ?_) (hv _ rfl)
  have hlist := Json.skipEmpty_names
  simp only [List.map_append]
  exact (((((((((((List.Sublist.refl _).append (hlist _ _)).append (.refl _)).append
    (hlist _ _)).append (.refl _)).append (hlist _ _)).append (.refl _)).append
      (hlist _ _)).append (.refl _)).append (hlist _ _)).append (hlist _ _))

def readings : List (String × Option ℚ) :=
  [("a_current",s.aCurrent),("a_voltage",s.aVoltage),("a_act_power",s.aActPower),
    ("a_aprt_power",s.aAprtPower),("a_pf",s.aPf),("a_freq",s.aFreq),("b_current",s.bCurrent),
    ("b_voltage",s.bVoltage),("b_act_power",s.bActPower),("b_aprt_power",s.bAprtPower),
    ("b_pf",s.bPf),("b_freq",s.bFreq),("c_current",s.cCurrent),("c_voltage",s.cVoltage),
    ("c_act_power",s.cActPower),("c_aprt_power",s.cAprtPower),("c_pf",s.cPf),
    ("c_freq",s.cFreq),("n_current",s.nCurrent),("total_current",s.totalCurrent),
    ("total_act_power",s.totalActPower),("total_aprt_power",s.totalAprtPower)]

theorem get?_reading {name : String} {x : Option ℚ} (h : (name,x) ∈ s.readings) :
    s.toJson.get? name = some (.ofOptF64 x) := by
  refine s.get?_toJson (fun fields hfields => ?_)
  cases hfields
  have hmem : (name,Json.ofOptF64 x) ∈ s.readings.map (fun p => (p.1,Json.ofOptF64 p.2)) :=
    List.mem_map_of_mem (f := fun p : String × Option ℚ => (p.1,Json.ofOptF64 p.2)) h
  simp only [readings,List.map_cons,List.map_nil,List.mem_cons,List.not_mem_nil,or_false] at hmem
  simp only [List.mem_append,List.mem_cons,List.not_mem_nil,or_false]
  tauto

theorem optF64_reading {name : String} {x : Option ℚ} (h : (name,x) ∈ s.readings) :
    Json.optF64 (s.toJson.get? name) = .ok x := by
  rw [s.get?_reading h, Json.optF64_ofOptF64]

end EmStatus

/-- What the poller decodes from a status is what the status was encoded from, whatever errors are
reported with it. -/
theorem emStatus_round_trip (s : EmStatus) (h : -2 ^ 31 ≤ s.id ∧ s.id < 2 ^ 31) :
    EmStatusIncoming.fromJson s.toJson = .ok s.toEmStatusIncoming := by
  have hid : s.toJson.get? "id" = some (.int s.id) := by
    refine s.get?_toJson (fun fields hfields => ?_)
    cases hfields
    simp
  have hread : ∀ name x, (name,x) ∈ s.readings → Json.optF64 (s.toJson.get? name) = .ok x :=
    fun _ _ => s.optF64_reading
  simp only [EmStatus.readings,List.mem_cons,List.not_mem_nil,or_false,Prod.mk.injEq,or_imp,
    and_imp,forall_and,forall_eq_apply_imp_iff,forall_eq] at hread
  have hfields : s.toJson.structFields emStatusFields = .ok s.toJson.get? := rfl
  have hinrange : Json.defaultI32 (s.toJson.get? "id") = .ok s.id := by
    rw [hid]
    exact if_pos h
  have hnext : ∀ {α β : Type} (a : α) (f : α → Except String β), (Except.ok a >>= f) = f a :=
    fun _ _ => rfl
  simp only [EmStatusIncoming.fromJson,hfields,hinrange,hread,hnext]
  rfl

/-- A phase has reported errors, and a reading is missing. -/
def faultyStatus : EmStatus :=
  { aActPower := some (-300), totalActPower := some (-300), aPf := none
    aErrors := ["out_of_range:act_power"], errors := ["phase_sequence"] }

theorem emStatus_round_trip_faulty :
    EmStatusIncoming.fromJson faultyStatus.toJson = .ok faultyStatus.toEmStatusIncoming :=
  emStatus_round_trip faultyStatus (by decide)

/-! ## A poll through all that is on the socket -/

/-- What the poller asks. -/
def pollRequest (requestId : Int64) : RequestFrame where
  id := some requestId
  src := some "shelly-multiplexer"
  method := "EM.GetStatus"

/-- A packet that is no answer to the request. -/
def Received.Foreign (requestId : Int64) : Received → Prop
  | .failed _ => False
  | .unreadable => True
  | .frame f => f.id ≠ some requestId

theorem awaitReply_foreign {requestId : Int64} {before : List Received}
    (h : ∀ x ∈ before, x.Foreign requestId) (rest : List Received) :
    awaitReply requestId (before ++ rest) = awaitReply requestId rest := by
  induction before with
  | nil => rfl
  | cons x before ih =>
    have hx := h x List.mem_cons_self
    have hrest := ih (fun y hy => h y (List.mem_cons_of_mem _ hy))
    cases x with
    | failed e => exact hx.elim
    | unreadable => exact hrest
    | frame f => exact (if_pos hx).trans hrest

theorem emGetStatus_id {ctx : ResponseContext} {w gridStaleS : ℚ} {status : EmStatus}
    (h : emGetStatus ctx w gridStaleS = .ok status) : status.id = 0 := by
  unfold emGetStatus at h
  split at h
  · cases h
  · dsimp only at h
    split at h
    · cases h
    · cases h
      rfl

/-- Whatever else comes in before it, a poll of the virtual meter gets the status that was made up
for the sample its request has taken, or is told why there is none. -/
theorem poll_reads_meter (s : AppState) (device : DeviceContext) {r : MeterRequest}
    {requestId : Int64} (hr : r.frame = some (pollRequest requestId)) {response : ResponseFrame}
    (hserved : (serveRequest s device r).1 = some response) {before : List Received}
    (hbefore : ∀ x ∈ before, x.Foreign requestId) (after : List Received) :
    ∃ w, (handleRequest s r.peer r.now).1 = some w ∧
      pollOnce requestId { received := before ++ .frame response::after } =
        match emGetStatus r.context w r.config.dispatcher.gridStaleS with
        | .ok status => .ok status.toEmStatusIncoming
        | .error e => .error s!"real shelly returned error {e.code}: {e.message}" := by
  unfold serveRequest at hserved
  rw [hr] at hserved
  obtain ⟨w,hw,rfl⟩ := Option.map_eq_some_iff.mp hserved
  refine ⟨w,hw,?_⟩
  have hmethod : "EM.GetStatus".toLower = "em.getstatus" := by decide +kernel
  rw [pollOnce]
  dsimp only
  rw [awaitReply_foreign hbefore, awaitReply]
  unfold buildResponse dispatchMethod
  simp only [pollRequest,hmethod]
  cases hstatus : emGetStatus r.context w r.config.dispatcher.gridStaleS with
  | error e => exact if_neg (fun hno => hno rfl)
  | ok status =>
    have hread : EmStatusIncoming.fromJson status.toJson = .ok status.toEmStatusIncoming :=
      emStatus_round_trip status (by rw [emGetStatus_id hstatus]; decide)
    refine (if_neg (fun hno => hno rfl)).trans ?_
    dsimp only [Except.map]
    rw [hread]

/-- A poller asks from the address of battery a, which has a sample left. -/
def cascadedPoll : MeterRequest := { asking "" 1 with frame := some (pollRequest 7) }

theorem poll_reads_meter_house : ∃ response w,
    (serveRequest armedHouse meterDevice cascadedPoll).1 = some response ∧
    (handleRequest armedHouse "10.0.0.1" 1).1 = some w ∧
    pollOnce 7 { received := [.unreadable,.frame { id := some 6 }] ++ .frame response::[] } =
      match emGetStatus cascadedPoll.context w pulseHouse.dispatcher.gridStaleS with
      | .ok status => .ok status.toEmStatusIncoming
      | .error e => .error s!"real shelly returned error {e.code}: {e.message}" := by
  obtain ⟨response,hserved⟩ := Option.isSome_iff_exists.mp
    (by decide +kernel : (serveRequest armedHouse meterDevice cascadedPoll).1.isSome = true)
  have hforeign : ∀ x ∈ [.unreadable,.frame { id := some 6 }], Received.Foreign 7 x := by
    simp [Received.Foreign]
  obtain ⟨w,hw,hpoll⟩ := poll_reads_meter armedHouse meterDevice rfl hserved hforeign []
  exact ⟨response,w,hserved,hw,hpoll⟩

end ShellyMultiplexer
