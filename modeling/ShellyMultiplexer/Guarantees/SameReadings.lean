import ShellyMultiplexer.Modbus.Readings

/-! # One reading of the registers

The dispatcher and the admin page decode the same registers along different paths. They agree on the
state of charge and on the battery power of every model. The cutoffs are guessed by the dispatcher:
it takes a word up to a hundred for whole percent, where the page always shows tenths.
-/
namespace ShellyMultiplexer
open Foundation

/-- What the page shows under a name. -/
def reportedValue (model : MarstekModel) (contents : RegisterCache) (name : String) : Option Json :=
  ((decode model contents).find? (fun r => r.name = name)).map DecodedRegister.value

/-- Every word that a pass has collected is that of the contents. -/
def CollectedFrom (contents collected : RegisterCache) : Prop :=
  ∀ reg w, collected.get? reg = some w → contents.get? reg = some w

/-- Whatever the dispatcher derives from the contents is what the page shows of them. -/
structure DecodesAlike (model : MarstekModel) (contents : RegisterCache) : Prop where
  /-- A battery whose state of charge was empty has the one that the pass derives. -/
  tier_soc : ∀ (collected : RegisterCache) (now : Instant) (b : SocState) (soc : F64),
    CollectedFrom contents collected → b.marstekModel = model → b.socPct = none →
      (tierRefresh collected now b).socPct = some soc →
        ∃ x, soc = .finite x ∧ reportedValue model contents "battery_soc" = some (.float x)
  read_soc : ∀ (reply : WireReply) (soc : F64), Answers contents model.socRegister reply →
    readSocOn model.socRegister model.socScale (readHoldingOn model.socRegister reply) = .ok soc →
      ∃ x, soc = .finite x ∧ reportedValue model contents "battery_soc" = some (.float x)
  tier_power : ∀ (collected : RegisterCache) (p : ℚ), CollectedFrom contents collected →
    deriveBatteryPower model collected = some p →
      reportedValue model contents "battery_power" = some (.float p)
  read_power : ∀ (reply : WireReply) (p : ℚ), Answers contents model.batteryPowerRegister reply →
    readBatteryPowerOn model.batteryPowerRegister model.batteryPowerIsInt32
      (readHoldingOn model.batteryPowerRegister reply) = .ok p →
      reportedValue model contents "battery_power" = some (.float p)
  cutoffs : ∀ charging discharging : WireReply, Answers contents regChargingCutoff charging →
    Answers contents regDischargingCutoff discharging →
      (∀ v, (initCutoffs model charging discharging).chargingCutoffPct = some v →
        reportedValue model contents "bms_charging_cutoff" = some (.float v)) ∧
      ∀ v, (initCutoffs model charging discharging).dischargingCutoffPct = some v →
        reportedValue model contents "bms_discharging_cutoff" = some (.float v)

variable {model : MarstekModel} {contents collected : RegisterCache}

/-! ## What the page shows -/

theorem reported_of_find {name : String} {d : RegisterDef}
    (hd : (registerTable model).find? (fun d => d.name = name) = some d) :
    reportedValue model contents name = some (decodeOne d contents).value := by
  have hfind : (decode model contents).find? (fun r => r.name = name) =
      ((registerTable model).find? (fun d => d.name = name)).map (fun d => decodeOne d contents) :=
    List.find?_map
  rw [reportedValue, hfind, hd]
  rfl

theorem find_soc (model : MarstekModel) :
    (registerTable model).find? (fun d => d.name = "battery_soc") =
      some ⟨model.socRegister,"battery_soc","Battery",some "%",.uint16 model.socScale⟩ := by
  cases model <;> rfl

theorem find_power (model : MarstekModel) :
    (registerTable model).find? (fun d => d.name = "battery_power") =
      some ⟨model.batteryPowerRegister,"battery_power","Battery",some "W",
        if model.batteryPowerIsInt32 then .int32 1 else .int16 1⟩ := by
  cases model <;> rfl

theorem find_charging_cutoff (h : model.supportsBmsCutoffs = true) :
    (registerTable model).find? (fun d => d.name = "bms_charging_cutoff") =
      some ⟨regChargingCutoff,"bms_charging_cutoff","BMS",some "%",.uint16 (1 / 10)⟩ := by
  cases model <;> first | rfl | cases h

theorem find_discharging_cutoff (h : model.supportsBmsCutoffs = true) :
    (registerTable model).find? (fun d => d.name = "bms_discharging_cutoff") =
      some ⟨regDischargingCutoff,"bms_discharging_cutoff","BMS",some "%",.uint16 (1 / 10)⟩ := by
  cases model <;> first | rfl | cases h

theorem decodeOne_uint16 {d : RegisterDef} {scale : ℚ} (hkind : d.kind = .uint16 scale)
    (hscale : ∃ k : ℤ, scale = k / 10000) {raw : UInt16}
    (h : contents.get? d.address = some raw) :
    (decodeOne d contents).value = .float (raw.toNat * scale) := by
  simp only [decodeOne, hkind, h, Option.map_some, Option.getD_some, scaleNum_nat hscale]

theorem socScale_decimal (model : MarstekModel) : ∃ k : ℤ, model.socScale = k / 10000 := by
  cases model with
  | venusEV3 => exact ⟨1000,by norm_num [MarstekModel.socScale]⟩
  | _ => exact ⟨10000,by norm_num [MarstekModel.socScale]⟩

theorem reported_soc {raw : UInt16} (h : contents.get? model.socRegister = some raw) :
    reportedValue model contents "battery_soc" = some (.float (raw.toNat * model.socScale)) := by
  rw [reported_of_find (find_soc model), decodeOne_uint16 rfl (socScale_decimal model) h]

theorem one_decimal : ∃ k : ℤ, (1 : ℚ) = k / 10000 := ⟨10000,by norm_num⟩

theorem reported_power_wide (hwide : model.batteryPowerIsInt32 = true) {hi lo : UInt16}
    (hhi : contents.get? model.batteryPowerRegister = some hi)
    (hlo : contents.get? (model.batteryPowerRegister + 1) = some lo) :
    reportedValue model contents "battery_power" =
      some (.float (combineWords hi lo).toInt32.toInt) := by
  rw [reported_of_find (find_power model), if_pos hwide]
  simp only [decodeOne, decodeWide, hhi, hlo, scaleNum_eq one_decimal, mul_one]

theorem reported_power_narrow (hnarrow : model.batteryPowerIsInt32 = false) {raw : UInt16}
    (h : contents.get? model.batteryPowerRegister = some raw) :
    reportedValue model contents "battery_power" = some (.float raw.toInt16.toInt) := by
  rw [reported_of_find (find_power model), if_neg (Bool.eq_false_iff.mp hnarrow)]
  simp only [decodeOne, h, Option.map_some, Option.getD_some, scaleNum_eq one_decimal, mul_one]

/-! ## State of charge and power -/

theorem alike_tier_soc (h : CollectedFrom contents collected) {now : Instant} {b : SocState}
    (hmodel : b.marstekModel = model) (hnone : b.socPct = none) {soc : F64}
    (hsoc : (tierRefresh collected now b).socPct = some soc) :
    ∃ x, soc = .finite x ∧ reportedValue model contents "battery_soc" = some (.float x) := by
  obtain rfl := hmodel
  unfold tierRefresh at hsoc
  dsimp only at hsoc
  split at hsoc
  · rename_i x hx
    obtain ⟨hraw,-⟩ := Option.filter_eq_some_iff.mp hx
    obtain ⟨raw,hget,rfl⟩ := Option.map_eq_some_iff.mp hraw
    cases hsoc
    exact ⟨_,rfl,reported_soc (h _ raw hget)⟩
  · rw [hnone] at hsoc
    cases hsoc

theorem alike_read_soc {reply : WireReply} (h : Answers contents model.socRegister reply)
    {soc : F64} (hsoc : readSocOn model.socRegister model.socScale
      (readHoldingOn model.socRegister reply) = .ok soc) :
    ∃ x, soc = .finite x ∧ reportedValue model contents "battery_soc" = some (.float x) := by
  unfold readSocOn at hsoc
  split at hsoc
  · cases hsoc
  · cases hsoc
  · rename_i raw rest hwords
    dsimp only at hsoc
    split at hsoc
    · cases hsoc
      exact ⟨_,rfl,reported_soc (h.stores hwords).first⟩
    · cases hsoc

theorem alike_tier_power (h : CollectedFrom contents collected) {p : ℚ}
    (hp : deriveBatteryPower model collected = some p) :
    reportedValue model contents "battery_power" = some (.float p) := by
  unfold deriveBatteryPower at hp
  dsimp only at hp
  split at hp
  · rename_i hwide
    split at hp
    · rename_i hi lo hhi hlo
      cases hp
      exact reported_power_wide hwide (h _ hi hhi) (h _ lo hlo)
    · cases hp
  · rename_i hnarrow
    obtain ⟨raw,hget,rfl⟩ := Option.map_eq_some_iff.mp hp
    exact reported_power_narrow (Bool.eq_false_iff.mpr hnarrow) (h _ raw hget)

theorem alike_read_power {reply : WireReply}
    (h : Answers contents model.batteryPowerRegister reply) {p : ℚ}
    (hp : readBatteryPowerOn model.batteryPowerRegister model.batteryPowerIsInt32
      (readHoldingOn model.batteryPowerRegister reply) = .ok p) :
    reportedValue model contents "battery_power" = some (.float p) := by
  unfold readBatteryPowerOn at hp
  split at hp
  · cases hp
  rename_i words hwords
  have hstores := h.stores hwords
  split at hp
  · rename_i hwide
    split at hp
    · cases hp
      exact reported_power_wide hwide hstores.first hstores.second
    · cases hp
  · rename_i hnarrow
    split at hp
    · cases hp
      exact reported_power_narrow (Bool.eq_false_iff.mpr hnarrow) hstores.first
    · cases hp

/-! ## Cutoffs -/

/-- Whole percent and tenths are the same for this word, or the dispatcher takes it for tenths. -/
def Unambiguous (raw : UInt16) : Prop := raw = 0 ∨ 100 < raw

instance (raw : UInt16) : Decidable (Unambiguous raw) := inferInstanceAs (Decidable (_ ∨ _))

theorem cutoffPct_of_le {raw : UInt16} (h : ¬ 100 < raw) :
    cutoffPct raw = some (raw.toNat : ℚ) := by
  have hle : raw.toNat ≤ 100 := not_lt.mp (fun hlt => h (UInt16.lt_iff_toNat_lt.mpr hlt))
  have hq : (raw.toNat : ℚ) ≤ 100 := by exact_mod_cast hle
  unfold cutoffPct
  dsimp only
  rw [if_neg h, if_pos ⟨Nat.cast_nonneg _,hq⟩]

theorem cutoffPct_eq_tenths_iff {raw : UInt16} {v : ℚ} (h : cutoffPct raw = some v) :
    (raw.toNat : ℚ) * (1 / 10) = v ↔ Unambiguous raw := by
  by_cases hbig : 100 < raw
  · unfold cutoffPct at h
    dsimp only at h
    rw [if_pos hbig] at h
    split at h
    · cases h
      exact iff_of_true (by ring) (.inr hbig)
    · cases h
  · rw [cutoffPct_of_le hbig] at h
    cases h
    rw [Unambiguous, or_iff_left hbig]
    constructor
    · intro heq
      have hzero : (raw.toNat : ℚ) = 0 := by linarith
      exact UInt16.toNat_inj.mp (by exact_mod_cast hzero)
    · rintro rfl
      norm_num

theorem tenths_decimal : ∃ k : ℤ, (1 / 10 : ℚ) = k / 10000 := ⟨1000,by norm_num⟩

theorem float_inj {x y : ℚ} : (some (Json.float x) = some (Json.float y)) ↔ x = y := by simp

/-- The page shows what the dispatcher guesses of a cutoff exactly when its word is unambiguous: over
an ambiguous word both derive a value, and the values differ. -/
theorem reported_cutoff_iff {name : String} {d : RegisterDef}
    (hd : (registerTable model).find? (fun d => d.name = name) = some d)
    (hkind : d.kind = .uint16 (1 / 10)) {raw : UInt16} (h : contents.get? d.address = some raw) :
    (∀ v, cutoffPct raw = some v → reportedValue model contents name = some (.float v)) ↔
      Unambiguous raw := by
  have hshown : reportedValue model contents name = some (.float (raw.toNat * (1 / 10))) := by
    rw [reported_of_find hd, decodeOne_uint16 hkind tenths_decimal h]
  simp only [hshown, float_inj]
  constructor
  · intro hall
    by_cases hbig : 100 < raw
    · exact .inr hbig
    · have hv := cutoffPct_of_le hbig
      exact (cutoffPct_eq_tenths_iff hv).mp (hall _ hv)
  · exact fun hu v hv => (cutoffPct_eq_tenths_iff hv).mpr hu

/-- Where both cutoffs can be read, neither of them is ambiguous. -/
def UnambiguousCutoffs (model : MarstekModel) (contents : RegisterCache) : Prop :=
  model.supportsBmsCutoffs = true → ∀ charging discharging,
    contents.get? regChargingCutoff = some charging →
      contents.get? regDischargingCutoff = some discharging →
        Unambiguous charging ∧ Unambiguous discharging

theorem initCutoffs_cases (model : MarstekModel) {charging discharging : WireReply}
    (hc : Answers contents regChargingCutoff charging)
    (hd : Answers contents regDischargingCutoff discharging) :
    initCutoffs model charging discharging = {} ∨ model.supportsBmsCutoffs = true ∧ ∃ c d,
      contents.get? regChargingCutoff = some c ∧ contents.get? regDischargingCutoff = some d ∧
      initCutoffs model charging discharging = ⟨cutoffPct c,cutoffPct d⟩ := by
  unfold initCutoffs
  split
  · rename_i hmodel
    split
    · rename_i cutoffs hread
      obtain ⟨c,d,hcget,hdget,heq⟩ := readBmsCutoffs_ok hc hd hread
      exact .inr ⟨hmodel,c,d,hcget,hdget,heq⟩
    · exact .inl rfl
  · exact .inl rfl

theorem alike_cutoffs (h : UnambiguousCutoffs model contents) {charging discharging : WireReply}
    (hc : Answers contents regChargingCutoff charging)
    (hd : Answers contents regDischargingCutoff discharging) :
    (∀ v, (initCutoffs model charging discharging).chargingCutoffPct = some v →
      reportedValue model contents "bms_charging_cutoff" = some (.float v)) ∧
    ∀ v, (initCutoffs model charging discharging).dischargingCutoffPct = some v →
      reportedValue model contents "bms_discharging_cutoff" = some (.float v) := by
  rcases initCutoffs_cases model hc hd with hnone | ⟨hmodel,c,d,hcget,hdget,hsome⟩
  · rw [hnone]
    constructor
    · rintro v ⟨⟩
    · rintro v ⟨⟩
  · obtain ⟨hcu,hdu⟩ := h hmodel c d hcget hdget
    rw [hsome]
    exact ⟨(reported_cutoff_iff (find_charging_cutoff hmodel) rfl hcget).mpr hcu,
      (reported_cutoff_iff (find_discharging_cutoff hmodel) rfl hdget).mpr hdu⟩

theorem DecodesAlike.unambiguous (h : DecodesAlike model contents) :
    UnambiguousCutoffs model contents := by
  intro hmodel c d hc hd
  have hinit : initCutoffs model (.words [c]) (.words [d]) = ⟨cutoffPct c,cutoffPct d⟩ :=
    if_pos hmodel
  obtain ⟨hcharging,hdischarging⟩ := h.cutoffs _ _ (.single hc) (.single hd)
  rw [hinit] at hcharging hdischarging
  exact ⟨(reported_cutoff_iff (find_charging_cutoff hmodel) rfl hc).mp hcharging,
    (reported_cutoff_iff (find_discharging_cutoff hmodel) rfl hd).mp hdischarging⟩

theorem decodes_alike_iff (model : MarstekModel) (contents : RegisterCache) :
    DecodesAlike model contents ↔ UnambiguousCutoffs model contents where
  mp h := h.unambiguous
  mpr h := {
    tier_soc := fun _ _ _ _ hfrom hmodel hnone hsoc => alike_tier_soc hfrom hmodel hnone hsoc
    read_soc := fun _ _ hanswers hsoc => alike_read_soc hanswers hsoc
    tier_power := fun _ _ hfrom hp => alike_tier_power hfrom hp
    read_power := fun _ _ hanswers hp => alike_read_power hanswers hp
    cutoffs := fun _ _ hc hd => alike_cutoffs h hc hd }

/-- The documented word for ten percent. -/
theorem cutoffs_decoded_apart : ¬ ∀ (model : MarstekModel) (contents : RegisterCache),
    DecodesAlike model contents := by
  intro hclaim
  have h := hclaim .venusEV1V2 ⟨[(44000,1000),(44001,100)],by decide⟩
  obtain ⟨-,hd⟩ := h.unambiguous rfl 1000 100 (by decide) (by decide)
  exact absurd hd (by decide)

end ShellyMultiplexer
