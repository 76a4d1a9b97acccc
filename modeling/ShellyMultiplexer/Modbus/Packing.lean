import ShellyMultiplexer.Foundation.Packing
import ShellyMultiplexer.Modbus.Decode

/-! # Packed values

How an inverter lays a value out in its registers: two's complement for signed numbers, the high
word first where there are two, and for a text two characters in each register, the high byte first
and NUL behind the end.
-/
namespace ShellyMultiplexer
open Foundation

/-! ## Four decimals -/

theorem f64Round_intCast (n : ℤ) : f64Round n = n := by
  unfold f64Round
  split
  · rw [Int.floor_eq_iff]
    constructor <;> linarith
  · rw [Int.ceil_eq_iff]
    constructor <;> linarith

/-- Four decimals lose nothing of a multiple of a ten-thousandth. -/
theorem scaleNum_eq {scale : ℚ} (h : ∃ k : ℤ, scale = k / 10000) (n : ℤ) :
    scaleNum n scale = n * scale := by
  obtain ⟨k,rfl⟩ := h
  have hint : (n : ℚ) * (k / 10000) * 10000 = ((n * k : ℤ) : ℚ) := by
    push_cast
    ring
  rw [scaleNum, hint, f64Round_intCast]
  push_cast
  ring

theorem scaleNum_nat {scale : ℚ} (h : ∃ k : ℤ, scale = k / 10000) (n : ℕ) :
    scaleNum n scale = n * scale := by
  exact_mod_cast scaleNum_eq h n

/-! ## Cached words -/

/-- The words are cached from an address on. -/
def Stores (cache : RegisterCache) (address : UInt16) (words : List UInt16) : Prop :=
  ∀ i : Fin words.length, cache.get? (address + UInt16.ofNat i) = some (words.get i)

instance (cache : RegisterCache) (address : UInt16) (words : List UInt16) :
    Decidable (Stores cache address words) := inferInstanceAs (Decidable (∀ _ : Fin _, _))

namespace Stores
variable {cache : RegisterCache} {address w v : UInt16} {rest : List UInt16}

theorem first (h : Stores cache address (w::rest)) : cache.get? address = some w := by
  have hzero : address + UInt16.ofNat 0 = address := UInt16.add_zero address
  exact hzero ▸ h ⟨0,Nat.succ_pos _⟩

theorem second (h : Stores cache address (w::v::rest)) : cache.get? (address + 1) = some v :=
  h ⟨1,Nat.succ_lt_succ (Nat.succ_pos _)⟩

end Stores

/-! ## Words and bytes -/

/-- The two registers of a wide value. -/
def splitWords (w : UInt32) : List UInt16 := [(w >>> 16).toUInt16,w.toUInt16]

theorem combineWords_split (w : UInt32) : combineWords (w >>> 16).toUInt16 w.toUInt16 = w := by
  have hw := w.toNat_lt
  have hhi : w.toNat >>> 16 < 2 ^ 16 := by
    rw [Nat.shiftRight_eq_div_pow]
    omega
  have hshift : (w.toNat >>> 16) <<< 16 < 2 ^ 32 := by
    rw [Nat.shiftLeft_eq]
    omega
  apply UInt32.toNat_inj.mp
  calc (combineWords (w >>> 16).toUInt16 w.toUInt16).toNat
      = (w.toNat >>> 16 % 2 ^ 16) <<< 16 % 2 ^ 32 ||| w.toNat % 2 ^ 16 := by
        simp [combineWords]
    _ = (w.toNat >>> 16) <<< 16 ||| w.toNat % 2 ^ 16 := by
        rw [Nat.mod_eq_of_lt hhi, Nat.mod_eq_of_lt hshift]
    _ = w.toNat := split_join w.toNat 16

/-- Two bytes, the high one first. -/
def joinBytes (hi lo : UInt16) : UInt16 := hi <<< 8 ||| lo

theorem toNat_joinBytes {hi : UInt16} (hhi : hi < 256) (lo : UInt16) :
    (joinBytes hi lo).toNat = hi.toNat <<< 8 ||| lo.toNat := by
  have hshift : hi.toNat <<< 8 < 2 ^ 16 := by
    rw [Nat.shiftLeft_eq]
    have : hi.toNat < 256 := UInt16.lt_iff_toNat_lt.mp hhi
    omega
  calc (joinBytes hi lo).toNat = hi.toNat <<< 8 % 2 ^ 16 ||| lo.toNat := by simp [joinBytes]
    _ = hi.toNat <<< 8 ||| lo.toNat := by rw [Nat.mod_eq_of_lt hshift]

theorem bytes_joinBytes {hi lo : UInt16} (hhi : hi < 256) (hlo : lo < 256) :
    joinBytes hi lo >>> 8 = hi ∧ joinBytes hi lo &&& 0xFF = lo := by
  have hlo' : lo.toNat < 2 ^ 8 := UInt16.lt_iff_toNat_lt.mp hlo
  constructor
  · apply UInt16.toNat_inj.mp
    have h : (joinBytes hi lo >>> 8).toNat = (joinBytes hi lo).toNat >>> 8 := by simp
    rw [h, toNat_joinBytes hhi, shiftLeft_or_shiftRight _ hlo']
  · apply UInt16.toNat_inj.mp
    have h : (joinBytes hi lo &&& 0xFF).toNat = (joinBytes hi lo).toNat &&& (2 ^ 8 - 1) := by simp
    rw [h, toNat_joinBytes hhi, Nat.and_two_pow_sub_one_eq_mod, shiftLeft_or_mod _ hlo']

/-! ## Texts -/

/-- A text that some registers can hold and that comes back untrimmed. -/
structure PackableText (regs : ℕ) (s : List Char) : Prop where
  ascii : ∀ c ∈ s, c.toNat ≠ 0 ∧ c.toNat < 128
  untrimmed : ∀ c ∈ s.getLast?, isWhiteSpace c = false
  fits : s.length ≤ 2 * regs

/-- The same as checks that can be run. -/
theorem PackableText.of_checks {regs : ℕ} {s : List Char}
    (hascii : s.all (fun c => c.toNat ≠ 0 && c.toNat < 128) = true)
    (hlast : s.getLast?.all (fun c => !isWhiteSpace c) = true) (hfits : s.length ≤ 2 * regs) :
    PackableText regs s where
  ascii c hc := by simpa using List.all_eq_true.mp hascii c hc
  untrimmed c hc := by
    rw [Option.mem_def] at hc
    simpa [hc] using hlast
  fits := hfits

def byteOf (c : Char) : UInt16 := UInt16.ofNat c.toNat

def packChars (regs : ℕ) (s : List Char) : List UInt16 :=
  (pairUp 0 regs (s.map byteOf)).map (fun p => joinBytes p.1 p.2)

@[simp] theorem length_packChars (regs : ℕ) (s : List Char) : (packChars regs s).length = regs := by
  rw [packChars, List.length_map, length_pairUp]

/-- The characters behind a byte: at most one. -/
def charOf (byte : UInt16) : List Char :=
  if byte ≠ 0 ∧ byte < 128 then [Char.ofNat byte.toNat] else []

theorem asciiOf_eq (w : UInt16) : asciiOf w = charOf (w >>> 8) ++ charOf (w &&& 0xFF) := by
  unfold asciiOf charOf
  by_cases hh : w >>> 8 ≠ 0 ∧ w >>> 8 < 128 <;> by_cases hl : w &&& 0xFF ≠ 0 ∧ w &&& 0xFF < 128 <;>
    simp [hh,hl]

theorem asciiOf_joinBytes {hi lo : UInt16} (hhi : hi < 256) (hlo : lo < 256) :
    asciiOf (joinBytes hi lo) = charOf hi ++ charOf lo := by
  obtain ⟨hh,hl⟩ := bytes_joinBytes hhi hlo
  rw [asciiOf_eq, hh, hl]

theorem toNat_byteOf {c : Char} (h : c.toNat < 128) : (byteOf c).toNat = c.toNat :=
  UInt16.toNat_ofNat_of_lt (h.trans (by decide))

theorem charOf_byteOf {c : Char} (h0 : c.toNat ≠ 0) (h : c.toNat < 128) :
    charOf (byteOf c) = [c] := by
  have hn := toNat_byteOf h
  have hne : byteOf c ≠ 0 := fun hz => h0 (by rw [← hn, hz]; rfl)
  have hlt : byteOf c < 128 := UInt16.lt_iff_toNat_lt.mpr (hn ▸ h)
  rw [charOf, if_pos ⟨hne,hlt⟩, hn, Char.ofNat_toNat]

/-- The registers of a text give back its characters. -/
theorem flatMap_asciiOf_packChars {regs : ℕ} {s : List Char} (h : PackableText regs s) :
    (packChars regs s).flatMap asciiOf = s := by
  have hbyte : ∀ b ∈ s.map byteOf, b < 256 := by
    intro b hb
    obtain ⟨c,hc,rfl⟩ := List.mem_map.mp hb
    obtain ⟨-,hlt⟩ := h.ascii c hc
    refine UInt16.lt_iff_toNat_lt.mpr ?_
    rw [toNat_byteOf hlt]
    exact hlt.trans (by decide)
  have hpairs : ∀ p ∈ pairUp 0 regs (s.map byteOf), asciiOf (joinBytes p.1 p.2) =
      [p.1,p.2].flatMap charOf := by
    intro p hp
    obtain ⟨hhi,hlo⟩ := of_mem_pairUp (P := (· < 256)) (by decide) hbyte hp
    rw [asciiOf_joinBytes hhi hlo]
    simp
  have hfits : (s.map byteOf).length ≤ 2 * regs := by
    rw [List.length_map]
    exact h.fits
  calc (packChars regs s).flatMap asciiOf
      = (pairUp 0 regs (s.map byteOf)).flatMap (fun p => [p.1,p.2].flatMap charOf) := by
        rw [packChars, List.flatMap_map]
        exact List.flatMap_congr hpairs
    _ = ((pairUp 0 regs (s.map byteOf)).flatMap (fun p => [p.1,p.2])).flatMap charOf :=
        List.flatMap_assoc.symm
    _ = (s.map byteOf).flatMap charOf := by
        rw [flatMap_pairUp 0 hfits, List.flatMap_append, List.flatMap_replicate]
        simp [charOf]
    _ = s.flatMap (fun c => [c]) := by
        rw [List.flatMap_map]
        exact List.flatMap_congr (fun c hc => charOf_byteOf (h.ascii c hc).1 (h.ascii c hc).2)
    _ = s := List.flatMap_singleton' s

theorem trimEnd_eq_self {regs : ℕ} {s : List Char} (h : PackableText regs s) : trimEnd s = s := by
  cases hs : s.reverse with
  | nil =>
    rw [List.reverse_eq_nil_iff.mp hs]
    rfl
  | cons c rest =>
    have hlast : c ∈ s.getLast? := by
      rw [← List.head?_reverse, hs]
      rfl
    have hmem : c ∈ s := List.mem_of_getLast? hlast
    have hkeep : (c.toNat == 0 || isWhiteSpace c) = false := by
      rw [h.untrimmed c hlast, Bool.or_false]
      exact beq_false_of_ne (h.ascii c hmem).1
    rw [trimEnd, hs, List.dropWhile_cons_of_neg (by simp [hkeep]), ← hs, List.reverse_reverse]

end ShellyMultiplexer
