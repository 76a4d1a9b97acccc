import Mathlib.Data.List.TakeWhile
import ShellyMultiplexer.Modbus.Packing

/-! # Reading back packed values

A value packed the documented way is decoded to itself: a number times its scale, a text as it was.
Only a text of no registers reads as missing, since nothing of it can be cached.
-/
namespace ShellyMultiplexer
open Foundation

/-- The packing of the values that a register kind can hold, with what is to be shown for each. An
enumeration shows labels and promises no number. -/
inductive Packs : RegisterKind → List UInt16 → Json → Prop
  | uint16 (scale : ℚ) (v : UInt16) : Packs (.uint16 scale) [v] (.float (v.toNat * scale))
  | int16 (scale : ℚ) (v : Int16) : Packs (.int16 scale) [v.toUInt16] (.float (v.toInt * scale))
  | uint32 (scale : ℚ) (v : UInt32) :
      Packs (.uint32 scale) (splitWords v) (.float (v.toNat * scale))
  | int32 (scale : ℚ) (v : Int32) :
      Packs (.int32 scale) (splitWords v.toUInt32) (.float (v.toInt * scale))
  | char (regs : ℕ) (s : String) (h : PackableText regs s.toList) :
      Packs (.char regs) (packChars regs s.toList) (.str s)

/-- The scale is a multiple of a ten-thousandth. -/
def RegisterKind.DecimalScale : RegisterKind → Prop
  | uint16 scale | int16 scale | uint32 scale | int32 scale => ∃ k : ℤ, scale = k / 10000
  | _ => True

section Cached
variable {cache : RegisterCache} {address : UInt16} {words : List UInt16}

theorem decodeWide_split {w : UInt32} (h : Stores cache address (splitWords w))
    (combined : UInt32 → ℚ) : decodeWide cache address combined = .float (combined w) := by
  simp only [decodeWide, h.first, h.second, combineWords_split]

/-! ## Texts -/

theorem Stores.cached (h : Stores cache address words) :
    (List.range words.length).map (fun i => cache.get? (address + UInt16.ofNat i)) =
      words.map some := by
  refine List.ext_getElem (by simp) (fun i hi hi' => ?_)
  have hw : i < words.length := by simpa using hi
  simpa using h ⟨i,hw⟩

theorem decodeChars_of_stores (h : Stores cache address words) (hne : 0 < words.length) :
    decodeChars cache address words.length =
      .str (String.ofList (trimEnd (words.flatMap asciiOf))) := by
  have hall : (words.map some).takeWhile Option.isSome = words.map some := by
    rw [List.takeWhile_eq_self_iff]
    simp
  have hsome : (words.map some).isEmpty = false := by
    rw [List.isEmpty_map, List.isEmpty_eq_false_iff]
    exact List.length_pos_iff.mp hne
  have hred : (words.map some).reduceOption = words := by
    change (words.map some).filterMap id = words
    rw [List.filterMap_map]
    exact List.filterMap_some
  rw [decodeChars, h.cached, hall, hsome, hred]
  rfl

end Cached

theorem packed_value_read_back {d : RegisterDef} {words : List UInt16} {shown : Json}
    {cache : RegisterCache} (hpacks : Packs d.kind words shown) (hscale : d.kind.DecimalScale)
    (hstores : Stores cache d.address words) (hne : 0 < words.length) :
    (decodeOne d cache).value = shown := by
  obtain ⟨address,name,sectionName,unit,kind⟩ := d
  dsimp only at hpacks hscale hstores
  cases hpacks with
  | uint16 scale v =>
    simp only [decodeOne, hstores.first, Option.map_some, Option.getD_some, scaleNum_nat hscale]
  | int16 scale v =>
    simp only [decodeOne, hstores.first, Option.map_some, Option.getD_some, Int16.toInt16_toUInt16,
      scaleNum_eq hscale]
  | uint32 scale v =>
    simp only [decodeOne, decodeWide_split hstores, scaleNum_nat hscale]
  | int32 scale v =>
    simp only [decodeOne, decodeWide_split hstores, Int32.toInt32_toUInt32, scaleNum_eq hscale]
  | char regs s htext =>
    have hlen := length_packChars regs s.toList
    have hchars := decodeChars_of_stores hstores hne
    rw [hlen, flatMap_asciiOf_packChars htext, trimEnd_eq_self htext,
      String.ofList_toList] at hchars
    exact hchars

/-! ## A negative power and a short name -/

def packedCache : RegisterCache :=
  ⟨[(32102,0xFFFF),(32103,0xFFFD),(31000,0x5645),(31001,0x3100)],by decide⟩

theorem packed_value_read_back_garage :
    (decodeOne ⟨32102,"battery_power","Battery",some "W",.int32 1⟩ packedCache).value =
        .float ((-3 : Int32).toInt * 1) ∧
      (decodeOne ⟨31000,"device_name","Metadata",none,.char 2⟩ packedCache).value = .str "VE1" :=
  ⟨packed_value_read_back (.int32 1 (-3)) ⟨10000,by norm_num⟩ (by decide +kernel) (by decide),
    packed_value_read_back (.char 2 "VE1" (.of_checks (by decide) (by decide) (by decide))) trivial
      (by decide +kernel) (by decide)⟩

/-- No register, no text: the empty one reads as missing. -/
theorem empty_text_without_registers : ¬ ∀ (d : RegisterDef) (words : List UInt16) (shown : Json)
    (cache : RegisterCache), Packs d.kind words shown → d.kind.DecimalScale →
      Stores cache d.address words → (decodeOne d cache).value = shown := by
  intro hclaim
  have h := hclaim ⟨31000,"device_name","Metadata",none,.char 0⟩ [] (.str "") Table.empty
    (.char 0 "" (.of_checks (by decide) (by decide) (by decide))) trivial (fun i => i.elim0)
  cases h

end ShellyMultiplexer
