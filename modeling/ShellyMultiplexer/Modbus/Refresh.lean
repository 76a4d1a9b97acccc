import ShellyMultiplexer.Foundation.Streaks
import ShellyMultiplexer.Modbus.Decode

/-! # The refresh of the cached registers

A pass asks for the registers of a tier one by one and gives up after three wire errors in a row.
The words that have come in are merged over the cache; a register without an answer keeps the word
it had.
-/
namespace ShellyMultiplexer
open Foundation

/-- What becomes of the request for one register. -/
inductive WireReply
  | words (values : List UInt16)
  | exception (code : String)
  | failed
  | timeout
  deriving DecidableEq

def readHoldingOn (register : UInt16) : WireReply → Except String (List UInt16)
  | .words values => .ok values
  | .exception code => .error s!"modbus exception (reg {register}): {code}"
  | .failed => .error s!"modbus read reg {register}"
  | .timeout => .error s!"modbus read timeout (reg {register})"

def isFirmwareException (e : String) : Bool := startsWith e "modbus exception"

/-- The outbound read counters of `ModbusStats`. -/
structure OutboundReads where
  outboundReadsTotal : UInt64 := 0
  outboundReadsOk : UInt64 := 0
  outboundReadsFailed : UInt64 := 0

namespace OutboundReads

def asked (m : OutboundReads) : OutboundReads :=
  { m with outboundReadsTotal := m.outboundReadsTotal + 1 }

def ok (m : OutboundReads) : OutboundReads := { m with outboundReadsOk := m.outboundReadsOk + 1 }

def failed (m : OutboundReads) : OutboundReads :=
  { m with outboundReadsFailed := m.outboundReadsFailed + 1 }

end OutboundReads

/-- The outside world during a pass. -/
structure RefreshWorld where
  connect : Except String Unit
  reply : UInt16 → WireReply
  now : Instant

def wireErrorDropThreshold : ℕ := 3

/-- The variables of the loop over the registers. -/
structure ReadLoop where
  connected : Bool
  stats : OutboundReads
  collected : RegisterCache := Table.empty
  connectionDead : Bool := false
  consecutiveWireErrors : ℕ := 0

namespace ReadLoop

def received (s : ReadLoop) (reg : UInt16) (values : List UInt16) : ReadLoop :=
  { s with
    connected := true
    stats := s.stats.asked.ok
    collected := match values.head? with
      | some v => s.collected.insert reg v
      | none => s.collected
    consecutiveWireErrors := 0 }

def refused (s : ReadLoop) : ReadLoop :=
  { s with connected := true, stats := s.stats.asked.failed, consecutiveWireErrors := 0 }

def erred (s : ReadLoop) : ReadLoop :=
  { s with
    connected := true
    stats := s.stats.asked.failed
    consecutiveWireErrors := s.consecutiveWireErrors + 1 }

end ReadLoop

/-- The loop of `tier_refresh`. -/
def readTier (w : RefreshWorld) : List UInt16 → ReadLoop → ReadLoop
  | [], s => s
  | reg::regs, s =>
    match (if s.connected then .ok () else w.connect : Except String Unit) with
    | .error _ => { s with connectionDead := true }
    | .ok () =>
      match readHoldingOn reg (w.reply reg) with
      | .ok values => readTier w regs (s.received reg values)
      | .error e =>
        if isFirmwareException e then readTier w regs s.refused
        else if wireErrorDropThreshold ≤ s.erred.consecutiveWireErrors then
          { s.erred with connected := false, connectionDead := true }
        else readTier w regs s.erred

/-- The words that a pass has collected go over those of the passes before it. -/
def mergeRegs (collected cache : RegisterCache) : RegisterCache :=
  collected.entries.foldl (fun cache e => cache.insert e.1 e.2) cache

/-- The battery power is put together from the words of one pass. -/
def deriveBatteryPower (model : MarstekModel) (collected : RegisterCache) : Option ℚ :=
  let bpReg := model.batteryPowerRegister
  if model.batteryPowerIsInt32 then
    match collected.get? bpReg, collected.get? (bpReg + 1) with
    | some hi, some lo => some ((combineWords hi lo).toInt32.toInt : ℚ)
    | _, _ => none
  else (collected.get? bpReg).map (fun r => (r.toInt16.toInt : ℚ))

/-- What the refreshes write of a battery. -/
structure RefreshedBattery where
  soc : SocState
  lastBatteryPowerW : Option ℚ := none
  cachedHoldingRegs : RegisterCache := Table.empty
  cachedRegsRefreshedAt : Option Instant := none
  /-- The pass that each cached word was read in; no code looks at it. -/
  readBy : UInt16 → Option ℕ := fun _ => none

namespace RefreshedBattery

def merged (b : RefreshedBattery) (collected : RegisterCache) (now : Instant) (pass : ℕ) :
    RefreshedBattery :=
  { b with
    cachedHoldingRegs := mergeRegs collected b.cachedHoldingRegs
    cachedRegsRefreshedAt := some now
    readBy := fun reg => if (collected.get? reg).isSome then some pass else b.readBy reg }

def refreshed (model : MarstekModel) (collected : RegisterCache) (now : Instant) (pass : ℕ)
    (b : RefreshedBattery) : Tier → RefreshedBattery
  | .fast =>
    { b.merged collected now pass with
      soc := ShellyMultiplexer.tierRefresh collected now b.soc
      lastBatteryPowerW := (deriveBatteryPower model collected).or b.lastBatteryPowerW }
  | .slow => b.merged collected now pass

end RefreshedBattery

/-- A writer with its connection and the entry of its battery in the state, if it has one. -/
structure RefreshSystem where
  model : MarstekModel
  connected : Bool
  stats : OutboundReads := {}
  lastFastRefreshAt : Option Instant := none
  lastSlowRefreshAt : Option Instant := none
  lastSocReadAt : Option Instant := none
  battery : Option RefreshedBattery
  /-- The passes so far. -/
  passes : ℕ := 0

namespace RefreshSystem

def fresh (model : MarstekModel) (active : Bool) : RefreshedBattery where
  soc := { marstekModel := model, active := active }

def start (model : MarstekModel) (active : Bool) : RefreshSystem where
  model := model
  connected := false
  battery := some (fresh model active)

def noted (sys : RefreshSystem) (now : Instant) : Tier → RefreshSystem
  | .fast => { sys with lastFastRefreshAt := some now, lastSocReadAt := some now }
  | .slow => { sys with lastSlowRefreshAt := some now }

def tierRefresh (sys : RefreshSystem) (tier : Tier) (w : RefreshWorld) :
    RefreshSystem × Except String Unit :=
  let loop := readTier w (sys.model.tierRegisters tier) ⟨sys.connected,sys.stats,.empty,false,0⟩
  let after := { sys with stats := loop.stats, passes := sys.passes + 1 }
  if loop.collected.entries.isEmpty then
    ({ after with connected := loop.connected && !loop.connectionDead },
      .error (tier.debug ++ " refresh returned no data"))
  else
    ({ after.noted w.now tier with
      connected := loop.connected
      battery := sys.battery.map (fun b =>
        b.refreshed sys.model loop.collected w.now sys.passes tier) },.ok ())

end RefreshSystem

inductive RefreshEvent
  | refresh (tier : Tier) (w : RefreshWorld)
  /-- Writes and SoC polls open the connection or drop it. -/
  | connection (connected : Bool)
  /-- An update of the configuration keeps the entry of the battery or creates it, or else removes
  it. -/
  | configured (active : Option Bool)

def refreshStep (sys : RefreshSystem) : RefreshEvent → RefreshSystem
  | .refresh tier w => (sys.tierRefresh tier w).1
  | .connection connected => { sys with connected := connected }
  | .configured none => { sys with battery := none }
  | .configured (some active) =>
    { sys with battery := some (sys.battery.getD (RefreshSystem.fresh sys.model active)) }

/-! ## What a pass collects -/

def WireReply.isWireError : WireReply → Bool
  | failed => true
  | timeout => true
  | _ => false

/-- Every error that is not the answer of the inverter counts as one of the wire. -/
theorem isFirmwareException_readHoldingOn {reg : UInt16} {reply : WireReply} {e : String}
    (h : readHoldingOn reg reply = .error e) : isFirmwareException e = !reply.isWireError := by
  have htext : ∀ text : String, toString text = text := fun _ => rfl
  cases reply with
  | words values => cases h
  | exception code =>
    cases h
    simp [isFirmwareException,startsWith,htext,WireReply.isWireError]
  | failed =>
    cases h
    simp [isFirmwareException,startsWith,htext,WireReply.isWireError,List.isPrefixOf]
  | timeout =>
    cases h
    simp [isFirmwareException,startsWith,htext,WireReply.isWireError,List.isPrefixOf]

theorem readHoldingOn_ok {reg : UInt16} {reply : WireReply} {values : List UInt16}
    (h : readHoldingOn reg reply = .ok values) : reply = .words values := by
  cases reply <;> cases h
  rfl

namespace RefreshWorld

def wireError (w : RefreshWorld) (reg : UInt16) : Bool := (w.reply reg).isWireError

/-- The word that comes in when a register is asked for. -/
def word (w : RefreshWorld) (reg : UInt16) : Option UInt16 :=
  match w.reply reg with
  | .words values => values.head?
  | _ => none

theorem word_of_error {w : RefreshWorld} {reg : UInt16} {e : String}
    (h : readHoldingOn reg (w.reply reg) = .error e) : w.word reg = none := by
  cases hr : w.reply reg with
  | words values =>
    rw [hr] at h
    cases h
  | _ => simp [word,hr]

end RefreshWorld

section Loop
variable (w : RefreshWorld) {s : ReadLoop}

/-- One round of the loop over an open connection, by what it does to the words and to the count. -/
theorem readTier_cons (reg : UInt16) (regs : List UInt16)
    (hlink : s.connected = true ∨ w.connect = .ok ()) :
    ∃ next : ReadLoop, next.connected = true ∧
      (∀ r, next.collected.get? r = if r = reg then (w.word reg).or (s.collected.get? r)
        else s.collected.get? r) ∧
      next.consecutiveWireErrors = (if w.wireError reg then s.consecutiveWireErrors + 1 else 0) ∧
      readTier w (reg::regs) s = if next.consecutiveWireErrors < wireErrorDropThreshold then
        readTier w regs next else { next with connected := false, connectionDead := true } := by
  have hopen : (if s.connected then .ok () else w.connect : Except String Unit) = .ok () := by
    rcases hlink with h | h
    · rw [if_pos h]
    · rw [h, ite_self]
  rw [readTier, hopen]
  cases hread : readHoldingOn reg (w.reply reg) with
  | ok values =>
    have hreply := readHoldingOn_ok hread
    refine ⟨s.received reg values,rfl,fun r => ?_,?_,?_⟩
    · simp only [ReadLoop.received, RefreshWorld.word, hreply]
      cases values with
      | nil => simp
      | cons v values => simp [Table.get?_insert]
    · simp [ReadLoop.received,RefreshWorld.wireError,hreply,WireReply.isWireError]
    · rfl
  | error e =>
    have hkind := isFirmwareException_readHoldingOn hread
    have hword := RefreshWorld.word_of_error hread
    cases hwire : w.wireError reg with
    | false =>
      refine ⟨s.refused,rfl,fun r => by simp [hword,ReadLoop.refused],rfl,?_⟩
      have hfirm : isFirmwareException e = true := by rw [hkind]; exact congrArg not hwire
      simp only [hfirm, if_true]
      rfl
    | true =>
      refine ⟨s.erred,rfl,fun r => by simp [hword,ReadLoop.erred],rfl,?_⟩
      have hfirm : isFirmwareException e = false := by rw [hkind]; exact congrArg not hwire
      simp only [hfirm, Bool.false_eq_true, if_false, ← not_lt, ite_not]

/-- The words of the registers that the loop gets to go over those collected before. -/
theorem get?_readTier (regs : List UInt16) (hlink : s.connected = true ∨ w.connect = .ok ())
    (hs : s.consecutiveWireErrors < wireErrorDropThreshold) (r : UInt16) :
    (readTier w regs s).collected.get? r =
      if r ∈ visited wireErrorDropThreshold w.wireError s.consecutiveWireErrors regs then
        (w.word r).or (s.collected.get? r)
      else s.collected.get? r := by
  induction regs generalizing s with
  | nil => rw [readTier, visited, if_neg List.not_mem_nil]
  | cons reg regs ih =>
    obtain ⟨next,hlinked,hnext,hcount,hread⟩ := readTier_cons w reg regs hlink
    have hrest : (readTier w (reg::regs) s).collected.get? r =
        if next.consecutiveWireErrors < wireErrorDropThreshold ∧
          r ∈ visited wireErrorDropThreshold w.wireError next.consecutiveWireErrors regs then
            (w.word r).or (next.collected.get? r)
        else next.collected.get? r := by
      rw [hread]
      by_cases hlt : next.consecutiveWireErrors < wireErrorDropThreshold
      · rw [if_pos hlt, ih (Or.inl hlinked) hlt]
        simp only [hlt, true_and]
      · rw [if_neg hlt, if_neg (fun h => hlt h.1)]
    have htail : r ∈ visited wireErrorDropThreshold w.wireError s.consecutiveWireErrors (reg::regs) ↔
        r = reg ∨ next.consecutiveWireErrors < wireErrorDropThreshold ∧
          r ∈ visited wireErrorDropThreshold w.wireError next.consecutiveWireErrors regs := by
      rw [visited, List.mem_cons, hcount]
      cases w.wireError reg with
      | false => simp [wireErrorDropThreshold]
      | true =>
        by_cases hlt : s.consecutiveWireErrors + 1 < wireErrorDropThreshold
        · simp [hlt]
        · simp [hlt]
    rw [hrest, hnext]
    by_cases hr : r = reg
    · subst hr
      rw [if_pos (htail.mpr (Or.inl rfl)), if_pos rfl, ← Option.or_assoc, Option.or_self, ite_self]
    · simp [htail,hr]

/-- Without a connection nothing is asked. -/
theorem collected_readTier_unlinked (regs : List UInt16) (hclosed : s.connected = false)
    (hconnect : w.connect ≠ .ok ()) : (readTier w regs s).collected = s.collected := by
  cases regs with
  | nil => rfl
  | cons reg regs =>
    rw [readTier, hclosed]
    cases h : w.connect with
    | error e => rfl
    | ok u => exact absurd h hconnect

end Loop

/-- A pass gets to the register over a connection, before any three wire errors in a row, and a word
comes in. -/
structure Hears (w : RefreshWorld) (connected : Bool) (regs : List UInt16) (reg : UInt16) : Prop where
  linked : connected = true ∨ w.connect = .ok ()
  reached : ∃ before after, regs = before ++ reg::after ∧
    Endures wireErrorDropThreshold 0 (before.map w.wireError)
  answered : (w.word reg).isSome = true

/-- When every register answers, everything is heard. -/
theorem hears_of_answered {w : RefreshWorld} {connected : Bool} {regs : List UInt16} {reg : UInt16}
    (hlink : connected = true ∨ w.connect = .ok ())
    (hall : ∀ r ∈ regs, (w.word r).isSome = true) (hmem : reg ∈ regs) :
    Hears w connected regs reg where
  linked := hlink
  reached := by
    obtain ⟨before,after,rfl⟩ := List.append_of_mem hmem
    refine ⟨before,after,rfl,endures_of_no_failure (by decide) (fun failed hfailed => ?_)⟩
    obtain ⟨r,hr,rfl⟩ := List.mem_map.mp hfailed
    have hword := hall r (List.mem_append_left _ hr)
    unfold RefreshWorld.wireError
    unfold RefreshWorld.word at hword
    cases hreply : w.reply r with
    | words values => rfl
    | _ =>
      rw [hreply] at hword
      cases hword
  answered := hall reg hmem

theorem get?_collected_iff (w : RefreshWorld) (connected : Bool) (stats : OutboundReads)
    (regs : List UInt16) (reg v : UInt16) :
    (readTier w regs ⟨connected,stats,.empty,false,0⟩).collected.get? reg = some v ↔
      Hears w connected regs reg ∧ w.word reg = some v := by
  by_cases hlink : connected = true ∨ w.connect = .ok ()
  · have hpass := get?_readTier w (s := ⟨connected,stats,.empty,false,0⟩) regs hlink
      (by decide : 0 < wireErrorDropThreshold) reg
    have hvisited : reg ∈ visited wireErrorDropThreshold w.wireError 0 regs ↔ _ :=
      mem_visited_iff (by decide : 0 < wireErrorDropThreshold)
    rw [hpass, Table.get?_empty, Option.or_none]
    constructor
    · intro h
      split at h
      · rename_i hmem
        exact ⟨⟨hlink,hvisited.mp hmem,by rw [h]; rfl⟩,h⟩
      · cases h
    · rintro ⟨hears,hword⟩
      rw [if_pos (hvisited.mpr hears.reached), hword]
  · have hclosed : connected = false := Bool.eq_false_iff.mpr (fun h => hlink (Or.inl h))
    rw [collected_readTier_unlinked w (s := ⟨connected,stats,.empty,false,0⟩) regs hclosed
      (fun h => hlink (Or.inr h))]
    refine iff_of_false ?_ (fun h => hlink h.1.linked)
    rw [Table.get?_empty]
    exact nofun

theorem get?_mergeRegs (collected cache : RegisterCache) (reg : UInt16) :
    (mergeRegs collected cache).get? reg = (collected.get? reg).or (cache.get? reg) := by
  refine Option.ext (fun v => ?_)
  rw [mergeRegs, Table.get?_foldl_insert_entries cache collected.entries Prod.fst Prod.snd
    collected.nodup]
  cases h : collected.get? reg with
  | none =>
    have hno : reg ∉ collected.entries.map Prod.fst := (Table.get?_eq_none_iff collected reg).mp h
    rw [Option.none_or]
    constructor
    · rintro (⟨e,he,rfl,-⟩ | ⟨-,hv⟩)
      · exact absurd (List.mem_map_of_mem he) hno
      · exact hv
    · exact fun hv => Or.inr ⟨hno,hv⟩
  | some u =>
    have hmem := (Table.get?_eq_some_iff collected reg u).mp h
    rw [Option.some_or]
    constructor
    · rintro (⟨e,he,rfl,rfl⟩ | ⟨hno,-⟩)
      · rw [← h]
        exact (Table.get?_eq_some_iff collected e.1 e.2).mpr he
      · exact absurd (List.mem_map_of_mem hmem) hno
    · intro hv
      cases hv
      exact Or.inl ⟨_,hmem,rfl,rfl⟩

/-! ## What a pass leaves behind -/

namespace RefreshSystem

def Hears (sys : RefreshSystem) (tier : Tier) (w : RefreshWorld) (reg : UInt16) : Prop :=
  ShellyMultiplexer.Hears w sys.connected (sys.model.tierRegisters tier) reg

/-- The words that come in are cached and stamped; every other word stays as it was. -/
structure Merges (sys : RefreshSystem) (tier : Tier) (w : RefreshWorld)
    (b b' : RefreshedBattery) : Prop where
  heard : ∀ reg, sys.Hears tier w reg →
    b'.cachedHoldingRegs.get? reg = w.word reg ∧ b'.readBy reg = some sys.passes
  kept : ∀ reg, ¬ sys.Hears tier w reg →
    b'.cachedHoldingRegs.get? reg = b.cachedHoldingRegs.get? reg ∧ b'.readBy reg = b.readBy reg

/-- A pass over what it has collected. -/
theorem merges_of_collected {sys : RefreshSystem} {tier : Tier} {w : RefreshWorld}
    {b b' : RefreshedBattery} {collected : RegisterCache}
    (hiff : ∀ reg v, collected.get? reg = some v ↔ sys.Hears tier w reg ∧ w.word reg = some v)
    (hcache : ∀ reg, b'.cachedHoldingRegs.get? reg =
      (collected.get? reg).or (b.cachedHoldingRegs.get? reg))
    (hstamp : ∀ reg, b'.readBy reg =
      if (collected.get? reg).isSome then some sys.passes else b.readBy reg) :
    sys.Merges tier w b b' where
  heard := by
    intro reg h
    obtain ⟨v,hv⟩ := Option.isSome_iff_exists.mp h.answered
    have hin := (hiff reg v).mpr ⟨h,hv⟩
    rw [hcache, hstamp, hin, hv]
    exact ⟨rfl,rfl⟩
  kept := by
    intro reg h
    have hout : collected.get? reg = none :=
      Option.eq_none_iff_forall_ne_some.mpr (fun v hv => h ((hiff reg v).mp hv).1)
    rw [hcache, hstamp, hout]
    exact ⟨rfl,rfl⟩

theorem tierRefresh_merges (sys : RefreshSystem) (tier : Tier) (w : RefreshWorld)
    {b : RefreshedBattery} (hb : sys.battery = some b) :
    ∃ b', (sys.tierRefresh tier w).1.battery = some b' ∧ sys.Merges tier w b b' := by
  have hiff := get?_collected_iff w sys.connected sys.stats (sys.model.tierRegisters tier)
  unfold tierRefresh
  generalize readTier w (sys.model.tierRegisters tier) ⟨sys.connected,sys.stats,.empty,false,0⟩ =
    loop at hiff
  dsimp only
  split
  · rename_i hempty
    have hnone : ∀ reg, loop.collected.get? reg = none := by
      intro reg
      rw [Table.get?, List.isEmpty_iff.mp hempty]
      rfl
    exact ⟨b,hb,merges_of_collected hiff (fun reg => by rw [hnone, Option.none_or])
      (fun reg => by rw [hnone]; rfl)⟩
  · refine ⟨_,by rw [hb]; rfl,merges_of_collected hiff (fun reg => ?_) (fun reg => ?_)⟩
    · cases tier <;> exact get?_mergeRegs loop.collected b.cachedHoldingRegs reg
    · cases tier <;> rfl

/-- Without an entry there is nothing to merge into. -/
theorem tierRefresh_absent (sys : RefreshSystem) (tier : Tier) (w : RefreshWorld)
    (hb : sys.battery = none) : (sys.tierRefresh tier w).1.battery = none := by
  unfold tierRefresh
  dsimp only
  split
  · exact hb
  · rw [hb]
    rfl

theorem tierRefresh_counts (sys : RefreshSystem) (tier : Tier) (w : RefreshWorld) :
    (sys.tierRefresh tier w).1.model = sys.model ∧
      (sys.tierRefresh tier w).1.passes = sys.passes + 1 := by
  unfold tierRefresh
  dsimp only
  split
  · exact ⟨rfl,rfl⟩
  · cases tier <;> exact ⟨rfl,rfl⟩

end RefreshSystem

section Events
variable {sys : RefreshSystem} {e : RefreshEvent} {b' : RefreshedBattery}

@[simp] theorem refreshStep_model (sys : RefreshSystem) (e : RefreshEvent) :
    (refreshStep sys e).model = sys.model := by
  cases e with
  | refresh tier w => exact (sys.tierRefresh_counts tier w).1
  | connection connected => rfl
  | configured active => cases active <;> rfl

/-- Where the entry of a battery comes from: a pass, no pass at all, or an entry that is new. -/
theorem refreshStep_cases (h : (refreshStep sys e).battery = some b') :
    (∃ tier w b, e = .refresh tier w ∧ sys.battery = some b ∧ sys.Merges tier w b b' ∧
      (refreshStep sys e).passes = sys.passes + 1) ∨
    ((refreshStep sys e).passes = sys.passes ∧
      (sys.battery = some b' ∨ ∃ active, b' = RefreshSystem.fresh sys.model active)) := by
  cases e with
  | refresh tier w =>
    cases hb : sys.battery with
    | none =>
      have hnone := sys.tierRefresh_absent tier w hb
      rw [refreshStep, hnone] at h
      cases h
    | some b =>
      obtain ⟨next,hnext,hmerge⟩ := sys.tierRefresh_merges tier w hb
      cases hnext.symm.trans h
      exact Or.inl ⟨tier,w,b,rfl,rfl,hmerge,(sys.tierRefresh_counts tier w).2⟩
  | connection connected => exact Or.inr ⟨rfl,Or.inl h⟩
  | configured active =>
    cases active with
    | none =>
      rw [refreshStep] at h
      cases h
    | some active =>
      refine Or.inr ⟨rfl,?_⟩
      cases hb : sys.battery with
      | none =>
        rw [refreshStep, hb] at h
        exact Or.inr ⟨active,(Option.some.inj h).symm⟩
      | some b =>
        rw [refreshStep, hb] at h
        exact Or.inl h

end Events

end ShellyMultiplexer
