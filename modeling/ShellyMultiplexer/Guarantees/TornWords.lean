import ShellyMultiplexer.Foundation.Runs
import ShellyMultiplexer.Guarantees.VirtualReads
import ShellyMultiplexer.Modbus.Refresh

/-! # Torn words

The two words of a field are read one after the other, and each of them may stay out. The words that
have come in are merged over the old ones all the same, so that a pass that reads one word of a field
beside an old other one leaves a value behind that never was.
-/
namespace ShellyMultiplexer
open Foundation

/-! ## What the cache serves -/

/-- One of the registers that a read asks for is served with the word of this one. -/
def Covers (model : MarstekModel) (addr count reg : UInt16) : Prop :=
  ∃ i < count.toNat, aliasProbeRegister model (addr + UInt16.ofNat i) = reg

/-- Some virtual read is answered with both words of the field. -/
def ReadTogether (model : MarstekModel) (cache : RegisterCache) (hi : UInt16) : Prop :=
  ∃ (m : ModbusServer) (unit : UInt8) (id : String) (b : BatteryState) (req : ModbusRequest)
    (addr count : UInt16) (response : Option ModbusResponse),
    m.Serves unit id b ∧ b.marstekModel = model ∧ m.cachedHoldingRegs id = cache ∧
      req.Reads addr count ∧ m.answer unit req = .ok response ∧
        Covers model addr count hi ∧ Covers model addr count (hi + 1)

/-- The decoder shows a value of the field. -/
def Shown (model : MarstekModel) (cache : RegisterCache) (hi : UInt16) : Prop :=
  ∃ d ∈ registerTable model, d.address = hi ∧ d.kind.wide = true ∧ (decodeOne d cache).value ≠ .null

def ServesBoth (model : MarstekModel) (cache : RegisterCache) (hi : UInt16) : Prop :=
  ReadTogether model cache hi ∨ Shown model cache hi

/-- Both words of a field are cached. -/
def BothCached (cache : RegisterCache) (hi : UInt16) : Prop :=
  (cache.get? hi).isSome = true ∧ (cache.get? (hi + 1)).isSome = true

section Serving
variable {model : MarstekModel} {cache : RegisterCache} {hi : UInt16}

theorem isSome_of_covers {m : ModbusServer} {unit : UInt8} {id : String} {b : BatteryState}
    {req : ModbusRequest} {addr count reg : UInt16} {response : Option ModbusResponse}
    (hs : m.Serves unit id b) (hreads : req.Reads addr count)
    (hok : m.answer unit req = .ok response) (hcovers : Covers b.marstekModel addr count reg) :
    ((m.cachedHoldingRegs id).get? reg).isSome = true := by
  obtain ⟨addr',count',id',b',hreads',hs',hall⟩ :=
    (m.answersExactly unit req).succeeds.mp ⟨response,hok⟩
  obtain ⟨rfl,rfl⟩ := hreads.unique hreads'
  obtain ⟨rfl,rfl⟩ := hs.unique hs'
  obtain ⟨i,hi,rfl⟩ := hcovers
  exact hall i hi

/-- A battery on its own behind unit id 1. -/
def aloneBattery (model : MarstekModel) : BatteryConfig where
  id := "venus"
  address := "192.168.1.50"
  circuit := "c1"
  plugUrl := "http://192.168.1.60"
  maxChargeW := 2500
  maxDischargeW := 2500
  marstekModel := model

def aloneServer (model : MarstekModel) (cache : RegisterCache) : ModbusServer where
  app := AppState.fromConfig { batteries := [aloneBattery model] }
  cachedHoldingRegs := fun _ => cache

theorem aloneServer_serves (model : MarstekModel) (hfilled : cache.entries ≠ []) :
    (aloneServer model cache).Serves 1 "venus" (BatteryState.fromConfig (aloneBattery model) false 0)
    where
  routed := rfl
  battery := rfl
  filled := hfilled

/-- The register that stands in for another one is not a word of a field. -/
theorem aliasProbeRegister_field (hmem : hi ∈ model.twoRegisterFields) :
    aliasProbeRegister model hi = hi ∧ aliasProbeRegister model (hi + 1) = hi + 1 := by
  have hall : model.twoRegisterFields.all (fun hi => decide (aliasProbeRegister model hi = hi ∧
      aliasProbeRegister model (hi + 1) = hi + 1)) = true := by cases model <;> decide
  exact of_decide_eq_true (List.all_eq_true.mp hall hi hmem)

theorem readTogether_iff (hmem : hi ∈ model.twoRegisterFields) :
    ReadTogether model cache hi ↔ BothCached cache hi := by
  obtain ⟨hhi,hlo⟩ := aliasProbeRegister_field hmem
  constructor
  · rintro ⟨m,unit,id,b,req,addr,count,response,hs,rfl,rfl,hreads,hok,hfirst,hsecond⟩
    exact ⟨isSome_of_covers hs hreads hok hfirst,isSome_of_covers hs hreads hok hsecond⟩
  · rintro ⟨hfirst,hsecond⟩
    have hfilled : cache.entries ≠ [] := by
      intro h
      rw [Table.get?, h] at hfirst
      cases hfirst
    have hserves := aloneServer_serves model hfilled
    have hwords : ∀ i < (2 : UInt16).toNat, ((aloneServer model cache).wordAt "venus"
        (BatteryState.fromConfig (aloneBattery model) false 0) hi i).isSome = true := by
      intro i hlt
      have hcases : i = 0 ∨ i = 1 := by
        have htwo : (2 : UInt16).toNat = 2 := rfl
        omega
      rcases hcases with rfl | rfl
      · have hword : (cache.get? (aliasProbeRegister model (hi + 0))).isSome = true := by
          rwa [UInt16.add_zero, hhi]
        exact hword
      · have hword : (cache.get? (aliasProbeRegister model (hi + 1))).isSome = true := by rwa [hlo]
        exact hword
    obtain ⟨response,hok⟩ := ((aloneServer model cache).answersExactly 1
      (.readHoldingRegisters hi 2)).succeeds.mpr ⟨hi,2,_,_,.holding hi 2,hserves,hwords⟩
    exact ⟨aloneServer model cache,1,_,_,_,hi,2,response,hserves,rfl,rfl,.holding hi 2,hok,
      ⟨0,by decide,(congrArg _ (UInt16.add_zero hi)).trans hhi⟩,⟨1,by decide,hlo⟩⟩

theorem servesBoth_iff (hmem : hi ∈ model.twoRegisterFields) :
    ServesBoth model cache hi ↔ BothCached cache hi := by
  constructor
  · rintro (hread | ⟨d,-,rfl,hwide,hshown⟩)
    · exact (readTogether_iff hmem).mp hread
    · exact (decodeOne_shows_iff hwide).mp hshown
  · exact fun h => Or.inl ((readTogether_iff hmem).mpr h)

end Serving

/-! ## Runs -/

/-- Both words of the field were read in one pass. -/
def SamePass (b : RefreshedBattery) (hi : UInt16) : Prop :=
  ∃ pass, b.readBy hi = some pass ∧ b.readBy (hi + 1) = some pass

/-- Every field that is served with both of its words has them from one pass. -/
def NeverTorn (sys : RefreshSystem) : Prop :=
  ∀ b, sys.battery = some b → ∀ hi ∈ sys.model.twoRegisterFields,
    ServesBoth sys.model b.cachedHoldingRegs hi → SamePass b hi

/-- A pass that one word of a field comes in with brings the other one too, unless the other one is
not cached. -/
def PairsUp (sys : RefreshSystem) : RefreshEvent → Prop
  | .refresh tier w => ∀ b, sys.battery = some b → ∀ hi ∈ sys.model.twoRegisterFields,
    (sys.Hears tier w hi → (b.cachedHoldingRegs.get? (hi + 1)).isSome = true →
      sys.Hears tier w (hi + 1)) ∧
    (sys.Hears tier w (hi + 1) → (b.cachedHoldingRegs.get? hi).isSome = true →
      sys.Hears tier w hi)
  | _ => True

/-- The stamps of a battery tell which words are cached, and only passes of the past. -/
structure Stamped (b : RefreshedBattery) (passes : ℕ) : Prop where
  cached : ∀ reg, (b.cachedHoldingRegs.get? reg).isSome = true ↔ (b.readBy reg).isSome = true
  past : ∀ reg pass, b.readBy reg = some pass → pass < passes

/-- The invariant of a run: the words of a field that are both cached carry one stamp. -/
structure Whole (sys : RefreshSystem) : Prop where
  stamped : ∀ b, sys.battery = some b → Stamped b sys.passes
  paired : ∀ b, sys.battery = some b → ∀ hi ∈ sys.model.twoRegisterFields,
    BothCached b.cachedHoldingRegs hi → b.readBy hi = b.readBy (hi + 1)

section Steps
variable {sys : RefreshSystem} {tier : Tier} {w : RefreshWorld} {b b' : RefreshedBattery}

theorem RefreshSystem.Merges.cached_iff (h : sys.Merges tier w b b') (reg : UInt16) :
    (b'.cachedHoldingRegs.get? reg).isSome = true ↔
      sys.Hears tier w reg ∨ (b.cachedHoldingRegs.get? reg).isSome = true := by
  by_cases hreg : sys.Hears tier w reg
  · rw [(h.heard reg hreg).1]
    exact iff_of_true hreg.answered (Or.inl hreg)
  · rw [(h.kept reg hreg).1, or_iff_right hreg]

theorem RefreshSystem.Merges.stamped (h : sys.Merges tier w b b') (hb : Stamped b sys.passes) :
    Stamped b' (sys.passes + 1) where
  cached := by
    intro reg
    by_cases hreg : sys.Hears tier w reg
    · obtain ⟨hword,hstamp⟩ := h.heard reg hreg
      rw [hword, hstamp]
      exact iff_of_true hreg.answered rfl
    · obtain ⟨hword,hstamp⟩ := h.kept reg hreg
      rw [hword, hstamp]
      exact hb.cached reg
  past := by
    intro reg pass hpass
    by_cases hreg : sys.Hears tier w reg
    · rw [(h.heard reg hreg).2] at hpass
      cases hpass
      exact Nat.lt_succ_self _
    · rw [(h.kept reg hreg).2] at hpass
      exact Nat.lt_succ_of_lt (hb.past reg pass hpass)

/-- A pass that reads both words or none of them keeps the pair together. -/
theorem RefreshSystem.Merges.paired (h : sys.Merges tier w b b') {hi : UInt16}
    (hb : BothCached b.cachedHoldingRegs hi → b.readBy hi = b.readBy (hi + 1))
    (hfirst : sys.Hears tier w hi → (b.cachedHoldingRegs.get? (hi + 1)).isSome = true →
      sys.Hears tier w (hi + 1))
    (hsecond : sys.Hears tier w (hi + 1) → (b.cachedHoldingRegs.get? hi).isSome = true →
      sys.Hears tier w hi)
    (hboth : BothCached b'.cachedHoldingRegs hi) : b'.readBy hi = b'.readBy (hi + 1) := by
  obtain ⟨hhi,hlo⟩ := And.imp (h.cached_iff hi).mp (h.cached_iff (hi + 1)).mp hboth
  by_cases hreg : sys.Hears tier w hi
  · have hother : sys.Hears tier w (hi + 1) := hlo.elim id (hfirst hreg)
    rw [(h.heard hi hreg).2, (h.heard (hi + 1) hother).2]
  · have hold := hhi.resolve_left hreg
    have hother : ¬ sys.Hears tier w (hi + 1) := fun hnew => hreg (hsecond hnew hold)
    rw [(h.kept hi hreg).2, (h.kept (hi + 1) hother).2]
    exact hb ⟨hold,hlo.resolve_left hother⟩

/-- A word that comes in alone beside an old one tears the pair. -/
theorem RefreshSystem.Merges.torn (h : sys.Merges tier w b b') (hb : Stamped b sys.passes)
    {new old : UInt16} (hnew : sys.Hears tier w new) (hold : ¬ sys.Hears tier w old) :
    b'.readBy new ≠ b'.readBy old := by
  rw [(h.heard new hnew).2, (h.kept old hold).2]
  intro he
  exact absurd (hb.past old _ he.symm) (lt_irrefl _)

theorem Whole.neverTorn (h : Whole sys) : NeverTorn sys := by
  intro b hb hi hmem hserves
  have hboth := (servesBoth_iff hmem).mp hserves
  obtain ⟨pass,hpass⟩ := Option.isSome_iff_exists.mp (((h.stamped b hb).cached hi).mp hboth.1)
  exact ⟨pass,hpass,(h.paired b hb hi hmem hboth).symm.trans hpass⟩

theorem stamped_fresh (model : MarstekModel) (active : Bool) (passes : ℕ) :
    Stamped (RefreshSystem.fresh model active) passes where
  cached := by
    intro reg
    exact iff_of_false nofun nofun
  past := nofun

theorem whole_start (model : MarstekModel) (active : Bool) :
    Whole (RefreshSystem.start model active) where
  stamped := by
    rintro b ⟨⟩
    exact stamped_fresh model active 0
  paired := by
    rintro b ⟨⟩ hi - hboth
    rfl

theorem Whole.step (h : Whole sys) {e : RefreshEvent} (he : PairsUp sys e) :
    Whole (refreshStep sys e) := by
  constructor
  · intro b' hb'
    rcases refreshStep_cases hb' with ⟨tier,w,b,rfl,hb,hmerge,hpasses⟩ | ⟨hpasses,hb | ⟨active,rfl⟩⟩
    · exact hpasses ▸ hmerge.stamped (h.stamped b hb)
    · exact hpasses ▸ h.stamped b' hb
    · exact stamped_fresh sys.model active _
  · intro b' hb' hi hmem hboth
    rw [refreshStep_model] at hmem
    rcases refreshStep_cases hb' with ⟨tier,w,b,rfl,hb,hmerge,-⟩ | ⟨-,hb | ⟨active,rfl⟩⟩
    · obtain ⟨hfirst,hsecond⟩ := he b hb hi hmem
      exact hmerge.paired (h.paired b hb hi hmem) hfirst hsecond hboth
    · exact h.paired b' hb hi hmem hboth
    · rfl

theorem pairsUp_of_neverTorn (h : Whole sys) {e : RefreshEvent}
    (hnext : NeverTorn (refreshStep sys e)) : PairsUp sys e := by
  cases e with
  | refresh tier w =>
    intro b hb hi hmem
    obtain ⟨b',hb',hmerge⟩ := sys.tierRefresh_merges tier w hb
    have hsame : BothCached b'.cachedHoldingRegs hi → b'.readBy hi = b'.readBy (hi + 1) := by
      intro hboth
      have hmem' : hi ∈ (refreshStep sys (.refresh tier w)).model.twoRegisterFields := by
        rwa [refreshStep_model]
      obtain ⟨pass,hhi,hlo⟩ := hnext b' hb' hi hmem' ((servesBoth_iff hmem').mpr hboth)
      rw [hhi, hlo]
    constructor
    · intro hreg hcached
      by_contra hother
      exact hmerge.torn (h.stamped b hb) hreg hother
        (hsame ⟨(hmerge.cached_iff _).mpr (Or.inl hreg),(hmerge.cached_iff _).mpr (Or.inr hcached)⟩)
    · intro hreg hcached
      by_contra hother
      exact hmerge.torn (h.stamped b hb) hreg hother
        (hsame ⟨(hmerge.cached_iff _).mpr (Or.inr hcached),
          (hmerge.cached_iff _).mpr (Or.inl hreg)⟩).symm
  | connection connected => trivial
  | configured active => trivial

/-- A pass in which every register of its tier answers keeps all pairs together. -/
theorem pairsUp_of_answered
    (hall : ∀ reg ∈ sys.model.tierRegisters tier, (w.word reg).isSome = true) :
    PairsUp sys (.refresh tier w) := by
  intro b hb hi hmem
  have htier := sys.model.twoRegisterFields_tier tier hmem
  have hmem_of : ∀ reg, sys.Hears tier w reg → reg ∈ sys.model.tierRegisters tier := by
    rintro reg ⟨-,⟨before,after,hsplit,-⟩,-⟩
    rw [hsplit]
    exact List.mem_append_right _ List.mem_cons_self
  exact ⟨fun hreg _ => hears_of_answered hreg.linked hall (htier.mp (hmem_of hi hreg)),
    fun hreg _ => hears_of_answered hreg.linked hall (htier.mpr (hmem_of (hi + 1) hreg))⟩

/-- The word has come in for the register in this pass of the run. -/
def ComesFrom (start : RefreshSystem) (events : List RefreshEvent) (pass : ℕ) (reg : UInt16)
    (word : Option UInt16) : Prop :=
  ∃ pre tier w post, events = pre ++ .refresh tier w::post ∧
    (run refreshStep start pre).passes = pass ∧ (run refreshStep start pre).Hears tier w reg ∧
      word = w.word reg

theorem ComesFrom.concat {start : RefreshSystem} {past : List RefreshEvent} {pass : ℕ}
    {reg : UInt16} {word : Option UInt16} (h : ComesFrom start past pass reg word)
    (e : RefreshEvent) : ComesFrom start (past ++ [e]) pass reg word := by
  obtain ⟨pre,tier,w,post,rfl,hcount,hears,hword⟩ := h
  exact ⟨pre,tier,w,post ++ [e],by rw [List.append_assoc]; rfl,hcount,hears,hword⟩

/-- A stamp names the pass that the cached word has come in with. -/
theorem readBy_comesFrom (model : MarstekModel) (active : Bool) (events : List RefreshEvent)
    (hb : (run refreshStep (RefreshSystem.start model active) events).battery = some b)
    {reg : UInt16} {pass : ℕ} (hpass : b.readBy reg = some pass) :
    ComesFrom (RefreshSystem.start model active) events pass reg (b.cachedHoldingRegs.get? reg) := by
  induction events using List.reverseRecOn generalizing b with
  | nil =>
    cases hb
    cases hpass
  | append_singleton past e ih =>
    rw [run_concat] at hb
    rcases refreshStep_cases hb with ⟨tier,w,b₀,rfl,hb₀,hmerge,-⟩ | ⟨-,hb₀ | ⟨active',rfl⟩⟩
    · by_cases hreg : (run refreshStep (RefreshSystem.start model active) past).Hears tier w reg
      · obtain ⟨hword,hstamp⟩ := hmerge.heard reg hreg
        exact ⟨past,tier,w,[],rfl,Option.some.inj (hstamp.symm.trans hpass),hreg,hword⟩
      · obtain ⟨hword,hstamp⟩ := hmerge.kept reg hreg
        rw [hword]
        exact (ih hb₀ (hstamp.symm.trans hpass)).concat _
    · exact (ih hb₀ hpass).concat e
    · cases hpass

end Steps

/-- No value is ever torn exactly when every pass that reads one word of a field reads the other one
too, or finds it not cached. -/
theorem never_torn_iff (model : MarstekModel) (active : Bool) (events : List RefreshEvent) :
    (∀ pre post, events = pre ++ post →
      NeverTorn (run refreshStep (RefreshSystem.start model active) pre)) ↔
        StepsMeet refreshStep PairsUp (RefreshSystem.start model active) events :=
  run_exact Whole NeverTorn (whole_start model active) (fun _ _ h he => h.step he)
    (fun _ h => h.neverTorn) (fun _ _ h => pairsUp_of_neverTorn h)

/-! ## A change of sign -/

/-- Every register is answered; the words of the battery power as given. -/
def powerWorld (hi lo : WireReply) (now : Instant) : RefreshWorld where
  connect := .ok ()
  reply := fun reg => if reg = 32102 then hi else if reg = 32103 then lo else .words [0]
  now := now

/-- The power turns from 5 W to -3 W, and the low word of the second reading stays out. -/
def signChange : List RefreshEvent :=
  [.refresh .fast (powerWorld (.words [0]) (.words [5]) 5),
    .refresh .fast (powerWorld (.words [0xFFFF]) (.exception "ServerDeviceBusy") 10)]

/-- The cache holds -65531 W: the high word of the second pass, the low word of the first. -/
theorem sign_change_torn : ¬ ∀ pre post, signChange = pre ++ post →
    NeverTorn (run refreshStep (RefreshSystem.start .venusEV1V2 true) pre) := by
  intro h
  have hend : (run refreshStep (RefreshSystem.start .venusEV1V2 true) signChange).battery.map
      (fun b => (b.cachedHoldingRegs.get? 32102,b.cachedHoldingRegs.get? 32103,
        b.readBy 32102,b.readBy 32103)) = some (some 0xFFFF,some 5,some 1,some 0) := by
    decide +kernel
  have hmem : 32102 ∈ (run refreshStep (RefreshSystem.start .venusEV1V2 true)
      signChange).model.twoRegisterFields := by decide +kernel
  obtain ⟨b,hb,hwords⟩ := Option.map_eq_some_iff.mp hend
  simp only [Prod.mk.injEq] at hwords
  obtain ⟨hhi,hlo,hnew,hold⟩ := hwords
  have hboth : BothCached b.cachedHoldingRegs 32102 :=
    ⟨Option.isSome_of_eq_some hhi,Option.isSome_of_eq_some hlo⟩
  obtain ⟨pass,hfirst,hsecond⟩ :=
    h signChange [] (List.append_nil _).symm b hb 32102 hmem ((servesBoth_iff hmem).mpr hboth)
  have hone : pass = 1 := Option.some.inj (hfirst.symm.trans hnew)
  have hzero : pass = 0 := Option.some.inj (hsecond.symm.trans hold)
  exact absurd (hone.symm.trans hzero) (by decide)

end ShellyMultiplexer
