import ShellyMultiplexer.Foundation.Runs
import ShellyMultiplexer.Guarantees.WholePulses
import ShellyMultiplexer.VirtualShelly.Server

/-! # Delivered samples

A battery learns of a sample from a power status only. Every readable request on a circuit that is
not silent uses up a sample, whatever its method and whatever comes of the response.
-/
namespace ShellyMultiplexer
open Foundation

def component (v : Json) (key : String) : Option Json :=
  match v.get? "components" with
  | some (.arr items) =>
    (items.find? (fun item => (item.get? "key").bind Json.asStr == some key)).bind
      (fun item => item.get? "status")
  | _ => none

/-- The total power in a response: at its top, in its meter or in its component of the meter. -/
def carriedPower (v : Json) : Option ℚ :=
  ([some v,v.get? "em:0",component v "em:0"].findSome?
    (fun em => em.bind (fun status => status.get? "total_act_power"))).bind Json.asF64

def powerMethods : List String := ["em.getstatus","shelly.getstatus","shelly.getcomponents"]

def RequestFrame.asksForPower (request : RequestFrame) : Bool :=
  powerMethods.contains request.method.toLower

/-- The grid reading is fresh when the response is built. -/
def ResponseContext.gridReported (ctx : ResponseContext) (gridStaleS : ℚ) : Bool :=
  match ctx.age with
  | none => false
  | some t => durationSince ctx.clock t ≤ gridStaleS

def pulseLeft (s : AppState) (id : String) : ℕ :=
  ((s.batteries.get? id).map BatteryState.pulseRemaining).getD 0

/-- The request is for a sample of the battery, and one is left. -/
def takesSample (s : AppState) (id : String) (r : MeterRequest) : Bool :=
  r.frame.isSome && s.byAddr.get? r.peer == some id && !isPollMuted s (some id) r.now &&
    decide (0 < pulseLeft s id)

/-- The response is a power status with the sample that was left for the battery. -/
def delivers (s : AppState) (id : String) (r : MeterRequest) (response : Option ResponseFrame) :
    Bool :=
  s.byAddr.get? r.peer == some id && decide (0 < pulseLeft s id) &&
    (response.bind ResponseFrame.result).bind carriedPower ==
      (s.batteries.get? id).map (fun b => milliRounded b.pendingPulseW)

structure MeterSystem where
  app : AppState
  /-- How many samples have reached each battery. -/
  delivered : String → ℕ := fun _ => 0

def meterStep (device : DeviceContext) (sys : MeterSystem) (r : MeterRequest) : MeterSystem :=
  let (response,app) := serveRequest sys.app device r
  { app := app
    delivered := fun id => sys.delivered id + if delivers sys.app id r response then 1 else 0 }

/-- A request takes a sample of a battery exactly when its response delivers it. -/
def SampleAccounted (device : DeviceContext) (sys : MeterSystem) (r : MeterRequest) : Prop :=
  ∀ id, pulseLeft (meterStep device sys r).app id + 1 = pulseLeft sys.app id ↔
    delivers sys.app id r (serveRequest sys.app device r).1 = true

/-- A readable request that comes from the address of a battery with a sample left, on a circuit
that is not silent, asks for the power, and the grid reading is fresh when it is answered. -/
def PowerReported (sys : MeterSystem) (r : MeterRequest) : Prop :=
  ∀ id request, r.frame = some request → sys.app.byAddr.get? r.peer = some id →
    isPollMuted sys.app (some id) r.now = false → 0 < pulseLeft sys.app id →
      request.asksForPower = true ∧
        r.context.gridReported r.config.dispatcher.gridStaleS = true

variable {ctx : ResponseContext} {device : DeviceContext} {w gridStaleS : ℚ}
variable {request : RequestFrame} {s : AppState} {id : String} {r : MeterRequest}

/-! ## What a response carries -/

theorem Json.lookup_skipEmpty (key name : String) (h : (key == name) = false)
    (items : List String) : (Json.skipEmpty name items).reverse.lookup key = none := by
  unfold Json.skipEmpty
  split
  · rfl
  · simp [List.lookup_cons,h]

theorem EmStatus.toJson_totalActPower (status : EmStatus) :
    status.toJson.get? "total_act_power" = some (.ofOptF64 status.totalActPower) := by
  have herrors := Json.lookup_skipEmpty "total_act_power" "errors" rfl
  have hcalibrated := Json.lookup_skipEmpty "total_act_power" "user_calibrated_phase" rfl
  simp [EmStatus.toJson,Json.get?,List.lookup_append,herrors,hcalibrated,
    List.lookup_cons]

theorem carriedPower_emStatus (status : EmStatus) :
    carriedPower status.toJson = status.totalActPower := by
  rw [carriedPower]
  simp only [List.findSome?,Option.bind_some,status.toJson_totalActPower]
  cases status.totalActPower <;> rfl

theorem carriedPower_of_part {v em : Json} {x : ℚ} (htop : v.get? "total_act_power" = none)
    (hpart : v.get? "em:0" = some em ∨ v.get? "em:0" = none ∧ component v "em:0" = some em)
    (hem : em.get? "total_act_power" = some (.float x)) : carriedPower v = some x := by
  rcases hpart with hpart | ⟨hnone,hpart⟩
  · simp [carriedPower,htop,hpart,hem,Json.asF64]
  · simp [carriedPower,htop,hnone,hpart,hem,Json.asF64]

theorem emGetStatus_of_reported (h : ctx.gridReported gridStaleS = true) (w : ℚ) :
    ∃ status, emGetStatus ctx w gridStaleS = .ok status ∧
      status.totalActPower = some (milliRounded w) := by
  unfold ResponseContext.gridReported at h
  unfold emGetStatus
  cases hage : ctx.age with
  | none => simp [hage] at h
  | some t =>
    simp only [hage,decide_eq_true_eq] at h
    simp [not_lt.mpr h]

theorem emGetStatus_of_unreported (h : ctx.gridReported gridStaleS = false) (w : ℚ) :
    ∃ e, emGetStatus ctx w gridStaleS = .error e := by
  unfold ResponseContext.gridReported at h
  unfold emGetStatus
  cases hage : ctx.age with
  | none => exact ⟨_,rfl⟩
  | some t =>
    simp only [hage,decide_eq_false_iff_not,not_le] at h
    simp [h]

/-- None of the other responses has a power where a battery looks for it. -/
theorem carriedPower_of_other (hother : request.asksForPower = false) {v : Json}
    (h : dispatchMethod ctx device w gridStaleS request = .ok v) : carriedPower v = none := by
  unfold dispatchMethod at h
  split at h
  case h_1 hmethod | h_6 hmethod | h_8 hmethod =>
    simp [RequestFrame.asksForPower,powerMethods,hmethod] at hother
  case h_29 => cases h
  all_goals
    cases h
    rfl

theorem dispatchMethod_of_power (ctx : ResponseContext) (device : DeviceContext) (w gridStaleS : ℚ)
    (hpower : request.asksForPower = true) :
    (ctx.gridReported gridStaleS = true → ∃ v,
      dispatchMethod ctx device w gridStaleS request = .ok v ∧
        carriedPower v = some (milliRounded w)) ∧
    (ctx.gridReported gridStaleS = false → ∃ e,
      dispatchMethod ctx device w gridStaleS request = .error e) := by
  have hmethod : request.method.toLower = "em.getstatus" ∨
      request.method.toLower = "shelly.getstatus" ∨
        request.method.toLower = "shelly.getcomponents" := by
    simpa [RequestFrame.asksForPower,powerMethods] using hpower
  constructor
  · intro h
    obtain ⟨status,hstatus,hv⟩ := emGetStatus_of_reported h w
    have hem : status.toJson.get? "total_act_power" = some (.float (milliRounded w)) := by
      rw [status.toJson_totalActPower, hv, Json.ofOptF64]
    rcases hmethod with hm | hm | hm
    · refine ⟨status.toJson,?_,by rw [carriedPower_emStatus, hv]⟩
      simp only [dispatchMethod,hm,hstatus]
      rfl
    · simp only [dispatchMethod,hm,shellyStatus,hstatus]
      exact ⟨_,rfl,carriedPower_of_part rfl (.inl rfl) hem⟩
    · simp only [dispatchMethod,hm,shellyGetComponents,hstatus]
      exact ⟨_,rfl,carriedPower_of_part rfl (.inr ⟨rfl,rfl⟩) hem⟩
  · intro h
    obtain ⟨e,he⟩ := emGetStatus_of_unreported h w
    refine ⟨e,?_⟩
    rcases hmethod with hm | hm | hm
    · simp only [dispatchMethod,hm,he]
      rfl
    · simp only [dispatchMethod,hm,shellyStatus,he]
      rfl
    · simp only [dispatchMethod,hm,shellyGetComponents,he]
      rfl

theorem carriedPower_buildResponse (ctx : ResponseContext) (device : DeviceContext)
    (w gridStaleS : ℚ) (request : RequestFrame) :
    (buildResponse ctx device w gridStaleS request).result.bind carriedPower =
      if request.asksForPower && ctx.gridReported gridStaleS then some (milliRounded w)
      else none := by
  unfold buildResponse
  cases hpower : request.asksForPower with
  | false =>
    cases hd : dispatchMethod ctx device w gridStaleS request with
    | error e => rfl
    | ok v => simpa using carriedPower_of_other hpower hd
  | true =>
    obtain ⟨hok,herror⟩ := dispatchMethod_of_power ctx device w gridStaleS hpower
    cases hgrid : ctx.gridReported gridStaleS with
    | false =>
      obtain ⟨e,he⟩ := herror hgrid
      simp [he]
    | true =>
      obtain ⟨v,hv,hcarried⟩ := hok hgrid
      simp [hv,hcarried]

/-! ## One request -/

theorem drainPulse_left (now : Instant) (b : BatteryState) :
    (drainPulse now b).2.pulseRemaining = b.pulseRemaining - 1 := by
  unfold drainPulse
  split
  · split <;> rfl
  · simp only
    omega

theorem pulseLeft_stampPoll (s : AppState) (batteryId : Option String) (now : Instant)
    (id : String) : pulseLeft (stampPoll s batteryId now) id = pulseLeft s id := by
  rw [pulseLeft, stampPoll_get?, Option.map_map, pulseLeft]
  congr 2
  funext b
  simp only [Function.comp_apply]
  split <;> rfl

theorem pulseLeft_drainPoll (s : AppState) (batteryId : Option String) (now : Instant)
    (id : String) :
    pulseLeft (drainPoll s batteryId now).2 id =
      pulseLeft s id - if batteryId = some id then 1 else 0 := by
  rw [pulseLeft, drainPoll_get?, pulseLeft]
  cases s.batteries.get? id with
  | none => simp
  | some b =>
    by_cases hid : batteryId = some id
    · simp [hid,drainPulse_left]
    · simp [hid]

/-- A request lowers the counter of one battery by one, or nothing. -/
theorem meterStep_pulseLeft (device : DeviceContext) (sys : MeterSystem) (r : MeterRequest)
    (id : String) :
    pulseLeft (meterStep device sys r).app id =
      pulseLeft sys.app id - if takesSample sys.app id r then 1 else 0 := by
  unfold meterStep serveRequest takesSample
  cases r.frame with
  | none => simp
  | some request =>
    simp only [handleRequest]
    by_cases hid : sys.app.byAddr.get? r.peer = some id
    · rw [hid]
      by_cases hm : isPollMuted sys.app (some id) r.now = true
      · simp [hm,pulseLeft_stampPoll]
      · have hdrain := pulseLeft_drainPoll sys.app (some id) r.now id
        by_cases hleft : 0 < pulseLeft sys.app id
        · simpa [hm,hleft] using hdrain
        · simpa [hm,Nat.eq_zero_of_not_pos hleft] using hdrain
    · by_cases hm : isPollMuted sys.app (sys.app.byAddr.get? r.peer) r.now = true
      · simp [hm,hid,pulseLeft_stampPoll]
      · simp [hm,hid,pulseLeft_drainPoll]

theorem takesSample_iff : takesSample s id r = true ↔
    (∃ request, r.frame = some request) ∧ s.byAddr.get? r.peer = some id ∧
      isPollMuted s (some id) r.now = false ∧ 0 < pulseLeft s id := by
  simp [takesSample,Option.isSome_iff_exists,and_assoc]

/-- A sample is delivered exactly when it is taken and the response reports the power. -/
theorem delivers_iff (device : DeviceContext) :
    delivers s id r (serveRequest s device r).1 = true ↔ takesSample s id r = true ∧
      ∀ request, r.frame = some request → request.asksForPower = true ∧
        r.context.gridReported r.config.dispatcher.gridStaleS = true := by
  rw [takesSample_iff]
  by_cases hid : s.byAddr.get? r.peer = some id
  · by_cases hleft : 0 < pulseLeft s id
    · obtain ⟨b,hb⟩ : ∃ b, s.batteries.get? id = some b := by
        refine Option.ne_none_iff_exists'.mp (fun hnone => ?_)
        simp [pulseLeft,hnone] at hleft
      have hpending : 0 < b.pulseRemaining := by simpa [pulseLeft,hb] using hleft
      obtain ⟨n,hn⟩ := Nat.exists_eq_succ_of_ne_zero hpending.ne'
      have hvalue := (drainPulse_of_pending hn r.now).1
      unfold delivers serveRequest
      cases hframe : r.frame with
      | none => simp [hb]
      | some request =>
        by_cases hm : isPollMuted s (some id) r.now = true
        · simp [handleRequest,hid,hm,hb]
        · simp [handleRequest,hid,hm,hb,hleft,drainPoll,hvalue,carriedPower_buildResponse]
    · simp [delivers,hleft]
  · simp [delivers,hid]

theorem sampleAccounted_iff (device : DeviceContext) (sys : MeterSystem) (r : MeterRequest) :
    SampleAccounted device sys r ↔ PowerReported sys r := by
  have hdrop : ∀ id, pulseLeft (meterStep device sys r).app id + 1 = pulseLeft sys.app id ↔
      takesSample sys.app id r = true := by
    intro id
    rw [meterStep_pulseLeft]
    cases ht : takesSample sys.app id r with
    | false => simp
    | true =>
      have hleft := (takesSample_iff.mp ht).2.2.2
      simpa using Nat.sub_add_cancel hleft
  unfold SampleAccounted PowerReported
  refine forall_congr' (fun id => ?_)
  rw [hdrop, delivers_iff, takesSample_iff]
  constructor
  · intro h request hframe hid hm hleft
    exact (h.mp ⟨⟨request,hframe⟩,hid,hm,hleft⟩).2 request hframe
  · intro h
    refine ⟨fun ht => ⟨ht,fun request hframe => ?_⟩,And.left⟩
    exact h request hframe ht.2.1 ht.2.2.1 ht.2.2.2

/-! ## Runs -/

/-- Every sample is with the battery, or still to be taken. -/
def SamplesKept (s : AppState) (sys : MeterSystem) : Prop :=
  ∀ id, sys.delivered id + pulseLeft sys.app id = pulseLeft s id

theorem SamplesKept.step {device : DeviceContext} {sys : MeterSystem} (h : SamplesKept s sys)
    (hr : PowerReported sys r) : SamplesKept s (meterStep device sys r) := by
  intro id
  have hkept := h id
  have hleft := meterStep_pulseLeft device sys r id
  have hdelivered : (meterStep device sys r).delivered id =
    sys.delivered id + if delivers sys.app id r (serveRequest sys.app device r).1 then 1 else 0 := rfl
  have hiff : delivers sys.app id r (serveRequest sys.app device r).1 = true ↔
      takesSample sys.app id r = true := by
    rw [delivers_iff, takesSample_iff]
    refine ⟨And.left,fun ht => ⟨ht,fun request hframe => ?_⟩⟩
    exact hr id request hframe ht.2.1 ht.2.2.1 ht.2.2.2
  rw [hleft, hdelivered]
  by_cases ht : takesSample sys.app id r = true
  · have hpos := (takesSample_iff.mp ht).2.2.2
    rw [if_pos ht, if_pos (hiff.mpr ht)]
    omega
  · rw [if_neg ht, if_neg (fun hd => ht (hiff.mp hd))]
    omega

/-- Every sample taken is delivered, and none is missing after any number of requests, exactly when
every request that takes one asks for the power in time. -/
theorem samples_delivered_iff (device : DeviceContext) (s : AppState)
    (requests : List MeterRequest) :
    (StepsMeet (meterStep device) (SampleAccounted device) { app := s } requests ∧
      ∀ pre post, requests = pre ++ post →
        SamplesKept s (run (meterStep device) { app := s } pre)) ↔
      StepsMeet (meterStep device) PowerReported { app := s } requests := by
  have hsame : StepsMeet (meterStep device) (SampleAccounted device) { app := s } requests ↔
      StepsMeet (meterStep device) PowerReported { app := s } requests :=
    stepsMeet_congr (fun _ => True) trivial (fun _ _ _ => trivial)
      (fun sys r _ => sampleAccounted_iff device sys r)
  refine ⟨fun h => hsame.mp h.1,fun h => ⟨hsame.mpr h,?_⟩⟩
  rintro pre post rfl
  exact run_inv (SamplesKept s) (fun _ => Nat.zero_add _) (fun _ _ hk hr => hk.step hr) h.prefix

/-! ## A battery that asks for other things -/

/-- All batteries have been sent a pulse at time zero. -/
def armedHouse : AppState :=
  (run pulseStep (PulseSystem.start pulseHouse) (meters 0 1000 (fun _ => 0) 0::pulseTick 0)).app

def meterDevice : DeviceContext where
  macHex := "B827EB364242"
  hostname := "shellypro3em-b827eb364242"
  firmware := "20250924-062729/1.7.1-gd336f31"

/-- A request of the first battery; the grid was read at time zero. -/
def asking (method : String) (now : Instant) : MeterRequest where
  peer := "10.0.0.1"
  now := now
  config := pulseHouse
  frame := some { method := method }
  context := { clock := now, age := some 0 }

/-- The device is asked for its name, for something it does not know, and too late for the power. -/
def otherQuestions : List MeterRequest :=
  [asking "Shelly.GetDeviceInfo" 1,asking "Shelly.Identify" 2,asking "EM.GetStatus" 6]

theorem samples_lost : pulseHouse.validate (fun _ => true) = .ok () ∧
    pulseLeft armedHouse "a" = pulseCount ∧
    pulseLeft (run (meterStep meterDevice) { app := armedHouse } otherQuestions).app "a" = 0 ∧
    (run (meterStep meterDevice) { app := armedHouse } otherQuestions).delivered "a" = 0 ∧
    ¬ StepsMeet (meterStep meterDevice) (SampleAccounted meterDevice) { app := armedHouse }
      otherQuestions := by
  refine ⟨pulseHouse_valid,by decide +kernel,by decide +kernel,by decide +kernel,fun h => ?_⟩
  have hfirst := (stepsMeet_cons.mp h).1 "a"
  have hlost : pulseLeft (meterStep meterDevice { app := armedHouse }
      (asking "Shelly.GetDeviceInfo" 1)).app "a" + 1 = pulseLeft armedHouse "a" ∧
      delivers armedHouse "a" (asking "Shelly.GetDeviceInfo" 1) (serveRequest armedHouse
        meterDevice (asking "Shelly.GetDeviceInfo" 1)).1 = false := by decide +kernel
  rw [hlost.2] at hfirst
  exact Bool.false_ne_true (hfirst.mp hlost.1)

end ShellyMultiplexer
