import ShellyMultiplexer.Modbus.Server

/-! # Virtual Modbus reads

A read is answered as a whole or not at all, with the words that are cached. Whatever a client
sends, the batteries and circuits stay as they are and the counters add up.
-/
namespace ShellyMultiplexer
open Foundation

inductive ModbusRequest.Reads : ModbusRequest → UInt16 → UInt16 → Prop
  | holding (addr count : UInt16) : Reads (.readHoldingRegisters addr count) addr count
  | input (addr count : UInt16) : Reads (.readInputRegisters addr count) addr count

theorem ModbusRequest.Reads.unique {req : ModbusRequest} {addr count addr' count' : UInt16}
    (h : req.Reads addr count) (h' : req.Reads addr' count') : addr = addr' ∧ count = count' := by
  cases h <;> cases h' <;> exact ⟨rfl,rfl⟩

namespace ModbusServer

def answer (m : ModbusServer) (unit : UInt8) (req : ModbusRequest) :
    Except ExceptionCode (Option ModbusResponse) := (m.handleRequest unit req).1

/-- The unit id leads to a battery whose cache has been filled. -/
structure Serves (m : ModbusServer) (unit : UInt8) (id : String) (b : BatteryState) : Prop where
  routed : m.app.byUnitId.get? unit = some id
  battery : m.app.batteries.get? id = some b
  filled : (m.cachedHoldingRegs id).entries ≠ []

structure AnswersExactly (m : ModbusServer) (unit : UInt8) (req : ModbusRequest) : Prop where
  succeeds : (∃ response, m.answer unit req = .ok response) ↔
    ∃ addr count id b, req.Reads addr count ∧ m.Serves unit id b ∧
      ∀ i < count.toNat, (m.wordAt id b addr i).isSome
  words : ∀ response, m.answer unit req = .ok response →
    ∃ words, response = some (.readHoldingRegisters words) ∧
      ∀ addr count id b, req.Reads addr count → m.Serves unit id b →
        words.length = count.toNat ∧ ∀ i < count.toNat, words[i]? = m.wordAt id b addr i
  refused : (¬ ∃ response, m.answer unit req = .ok response) →
    ∃ code, m.answer unit req = .error code
  readOnly : (serverStep m (.request unit req)).app = m.app ∧
    (serverStep m (.request unit req)).cachedHoldingRegs = m.cachedHoldingRegs

/-! ## One request -/

variable {m : ModbusServer} {unit : UInt8} {req : ModbusRequest}

theorem Serves.unique {id id' : String} {b b' : BatteryState} (h : m.Serves unit id b)
    (h' : m.Serves unit id' b') : id = id' ∧ b = b' := by
  have hid : id = id' := by simpa [h.routed] using h'.routed
  subst hid
  exact ⟨rfl,by simpa [h.battery] using h'.battery⟩

/-- What a read of a battery returns. -/
theorem readRegisters_ok_iff {stats : InboundStats} {id : String} {addr count : UInt16}
    {response : Option ModbusResponse} :
    (m.readRegisters stats id addr count).1 = .ok response ↔
      ∃ b words, m.app.batteries.get? id = some b ∧ (m.cachedHoldingRegs id).entries ≠ [] ∧
        (List.range count.toNat).mapM (m.wordAt id b addr) = some words ∧
          response = some (.readHoldingRegisters words) := by
  unfold readRegisters
  cases m.app.batteries.get? id with
  | none => simp
  | some b =>
    cases (m.cachedHoldingRegs id).entries with
    | nil => simp
    | cons e es =>
      cases hwords : (List.range count.toNat).mapM (m.wordAt id b addr) with
      | none => simp [hwords]
      | some words => simp [hwords,eq_comm]

theorem answer_ok_iff {response : Option ModbusResponse} :
    m.answer unit req = .ok response ↔ ∃ addr count id b words, req.Reads addr count ∧
      m.Serves unit id b ∧ (List.range count.toNat).mapM (m.wordAt id b addr) = some words ∧
        response = some (.readHoldingRegisters words) := by
  constructor
  · intro h
    unfold answer handleRequest at h
    cases hunit : m.app.byUnitId.get? unit with
    | none => simp [hunit] at h
    | some id =>
      cases req with
      | readHoldingRegisters addr count =>
        obtain ⟨b,words,hb,hfilled,hwords,rfl⟩ :=
          readRegisters_ok_iff.mp (by simpa [hunit] using h)
        exact ⟨addr,count,id,b,words,.holding addr count,⟨hunit,hb,hfilled⟩,hwords,rfl⟩
      | readInputRegisters addr count =>
        obtain ⟨b,words,hb,hfilled,hwords,rfl⟩ :=
          readRegisters_ok_iff.mp (by simpa [hunit] using h)
        exact ⟨addr,count,id,b,words,.input addr count,⟨hunit,hb,hfilled⟩,hwords,rfl⟩
      | _ => simp [hunit] at h
  · rintro ⟨addr,count,id,b,words,hreads,hs,hwords,rfl⟩
    have hread : (m.readRegisters m.stats.received id addr count).1 =
        .ok (some (.readHoldingRegisters words)) :=
      readRegisters_ok_iff.mpr ⟨b,words,hs.battery,hs.filled,hwords,rfl⟩
    cases hreads with
    | holding => simpa [answer,handleRequest,hs.routed] using hread
    | input => simpa [answer,handleRequest,hs.routed] using hread

theorem answersExactly (m : ModbusServer) (unit : UInt8) (req : ModbusRequest) :
    m.AnswersExactly unit req where
  succeeds := by
    constructor
    · rintro ⟨response,h⟩
      obtain ⟨addr,count,id,b,words,hreads,hs,hwords,-⟩ := answer_ok_iff.mp h
      have hall := mapM_isSome_iff.mp (Option.isSome_iff_exists.mpr ⟨words,hwords⟩)
      exact ⟨addr,count,id,b,hreads,hs,fun i hi => hall i (List.mem_range.mpr hi)⟩
    · rintro ⟨addr,count,id,b,hreads,hs,hall⟩
      have hsome : ((List.range count.toNat).mapM (m.wordAt id b addr)).isSome :=
        mapM_isSome_iff.mpr (fun i hi => hall i (List.mem_range.mp hi))
      obtain ⟨words,hwords⟩ := Option.isSome_iff_exists.mp hsome
      exact ⟨_,answer_ok_iff.mpr ⟨addr,count,id,b,words,hreads,hs,hwords,rfl⟩⟩
  words := by
    intro response h
    obtain ⟨addr,count,id,b,words,hreads,hs,hwords,rfl⟩ := answer_ok_iff.mp h
    refine ⟨words,rfl,fun addr' count' id' b' hreads' hs' => ?_⟩
    obtain ⟨rfl,rfl⟩ := hreads.unique hreads'
    obtain ⟨rfl,rfl⟩ := hs.unique hs'
    have hmap := mapM_eq_some_iff.mp hwords
    have hlen : words.length = count.toNat := by simpa using (congrArg List.length hmap).symm
    refine ⟨hlen,fun i hi => ?_⟩
    have hat := congrArg (fun l => l[i]?) hmap
    simpa [hi,hlen,List.getElem?_eq_getElem] using hat.symm
  refused := by
    intro h
    cases hanswer : m.answer unit req with
    | error code => exact ⟨code,rfl⟩
    | ok response => exact absurd ⟨response,hanswer⟩ h
  readOnly := ⟨rfl,rfl⟩

end ModbusServer

/-! ## The counters -/

namespace InboundStats

def Balanced (m : InboundStats) : Prop := m.serverRequestsTotal = m.outcomes

/-- A request that was counted on arrival ends in one of the five outcomes. -/
theorem balanced_of_outcome {m m' : InboundStats} (h : m.Balanced)
    (hm : m' ∈ [m.received.ok,m.received.illegalAddress,m.received.serverBusy,
      m.received.illegalFunction,m.received.gatewayUnavailable]) : m'.Balanced := by
  unfold Balanced outcomes at *
  simp only [List.mem_cons, List.not_mem_nil, or_false] at hm
  rcases hm with rfl | rfl | rfl | rfl | rfl <;>
    simp only [received, ok, illegalAddress, serverBusy, illegalFunction, gatewayUnavailable, h] <;>
      ac_rfl

end InboundStats

namespace ModbusServer
variable {m : ModbusServer}

theorem readRegisters_outcome (m : ModbusServer) (stats : InboundStats) (id : String)
    (addr count : UInt16) : (m.readRegisters stats id addr count).2 ∈
      [stats.ok,stats.illegalAddress,stats.serverBusy,stats.gatewayUnavailable] := by
  unfold readRegisters
  split
  · simp
  · split
    · simp
    · split <;> simp

theorem handleRequest_outcome (m : ModbusServer) (unit : UInt8) (req : ModbusRequest) :
    (m.handleRequest unit req).2 ∈ [m.stats.received.ok,m.stats.received.illegalAddress,
      m.stats.received.serverBusy,m.stats.received.illegalFunction,
      m.stats.received.gatewayUnavailable] := by
  have hread := fun id => m.readRegisters_outcome m.stats.received id
  unfold handleRequest
  cases m.app.byUnitId.get? unit with
  | none => simp
  | some id =>
    cases req with
    | readHoldingRegisters addr count =>
      have h := hread id addr count
      simp only [List.mem_cons, List.not_mem_nil, or_false] at h ⊢
      tauto
    | readInputRegisters addr count =>
      have h := hread id addr count
      simp only [List.mem_cons, List.not_mem_nil, or_false] at h ⊢
      tauto
    | _ => simp

theorem serverStep_balanced (m : ModbusServer) (e : ServerEvent) (h : m.stats.Balanced) :
    (serverStep m e).stats.Balanced := by
  cases e with
  | request unit req => exact InboundStats.balanced_of_outcome h (m.handleRequest_outcome unit req)
  | world app cache => exact h

end ModbusServer

/-- Over any run of requests the counters balance, and every further request is answered exactly. -/
theorem virtual_reads_exact (app : AppState) (cachedHoldingRegs : String → RegisterCache)
    (events : List ServerEvent) :
    (run serverStep ⟨app,cachedHoldingRegs,{}⟩ events).stats.Balanced ∧
      ∀ unit req, (run serverStep ⟨app,cachedHoldingRegs,{}⟩ events).AnswersExactly unit req := by
  refine ⟨?_,fun unit req => ModbusServer.answersExactly _ unit req⟩
  exact foldl_inv serverStep (fun m => m.stats.Balanced) events _ rfl
    (fun m e _ => m.serverStep_balanced e)

end ShellyMultiplexer
