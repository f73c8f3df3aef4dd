import Mathlib.Data.List.Basic

/-! # Hexadecimal text

Go's `encoding/hex`: two digits a byte, lower case when written, either case when
read. Reading fails on an odd number of digits and on any other character.
-/

namespace Hex

def digit (n : Nat) : Char :=
  if n < 10 then Char.ofNat (48 + n) else Char.ofNat (87 + n)

def fromDigit (c : Char) : Option Nat :=
  if 48 ≤ c.toNat ∧ c.toNat ≤ 57 then some (c.toNat - 48)
  else if 97 ≤ c.toNat ∧ c.toNat ≤ 102 then some (c.toNat - 87)
  else if 65 ≤ c.toNat ∧ c.toNat ≤ 70 then some (c.toNat - 55)
  else none

def encode : List UInt8 → List Char
  | [] => []
  | b :: rest => digit (b.toNat / 16) :: digit (b.toNat % 16) :: encode rest

def decode : List Char → Option (List UInt8)
  | [] => some []
  | [_] => none
  | hi :: lo :: rest =>
      match fromDigit hi, fromDigit lo, decode rest with
      | some h, some l, some bytes => some (UInt8.ofNat (16 * h + l) :: bytes)
      | _, _, _ => none

/-- `hex.EncodeToString`. -/
def encodeToString (bytes : List UInt8) : String := String.ofList (encode bytes)

/-- `hex.DecodeString`; `none` stands for its error. -/
def decodeString (s : String) : Option (List UInt8) := decode s.toList

theorem fromDigit_digit {n : Nat} (small : n < 16) : fromDigit (digit n) = some n := by
  have all : ∀ k : Fin 16, fromDigit (digit k) = some k.val := by decide
  exact all ⟨n, small⟩

theorem decode_encode (bytes : List UInt8) : decode (encode bytes) = some bytes := by
  induction bytes with
  | nil => rfl
  | cons b rest ih =>
      have high : b.toNat / 16 < 16 := by have := b.toNat_lt; omega
      have low : b.toNat % 16 < 16 := Nat.mod_lt _ (by decide)
      have rebuilt : UInt8.ofNat (16 * (b.toNat / 16) + b.toNat % 16) = b := by
        rw [Nat.div_add_mod, UInt8.ofNat_toNat]
      simp only [encode, decode, fromDigit_digit high, fromDigit_digit low, ih, rebuilt]

theorem decodeString_encodeToString (bytes : List UInt8) :
    decodeString (encodeToString bytes) = some bytes := by
  rw [decodeString, encodeToString, String.toList_ofList, decode_encode]

theorem encodeToString_injective : Function.Injective encodeToString := by
  intro a b same
  have read := congrArg decodeString same
  simpa only [decodeString_encodeToString, Option.some.injEq] using read

theorem encodeToString_eq_empty {bytes : List UInt8} (h : encodeToString bytes = "") :
    bytes = [] :=
  encodeToString_injective (h.trans rfl)

theorem encode_injective : Function.Injective encode := by
  intro a b same
  have read := congrArg decode same
  simpa only [decode_encode, Option.some.injEq] using read

@[simp] theorem length_encode (bytes : List UInt8) : (encode bytes).length = 2 * bytes.length := by
  induction bytes with
  | nil => rfl
  | cons b rest ih =>
      simp only [encode, List.length_cons, ih]
      omega

theorem encode_append (front back : List UInt8) :
    encode (front ++ back) = encode front ++ encode back := by
  induction front with
  | nil => rfl
  | cons b rest ih => simp only [List.cons_append, encode, ih]

theorem encode_zeros (n : Nat) : encode (List.replicate n 0) = List.replicate (2 * n) '0' := by
  induction n with
  | zero => rfl
  | succ n ih =>
      rw [List.replicate_succ, encode, ih]
      rfl

/-! ## What can be read -/

/-- The text is the hex of `bytes`, in either case. -/
def Spells (s : String) (bytes : List UInt8) : Prop :=
  s.toList.map Char.toLower = encode bytes

theorem toNat_digit {n : Nat} (small : n < 16) :
    (digit n).toNat = if n < 10 then 48 + n else 87 + n := by
  have all : ∀ k : Fin 16, (digit k).toNat = if k.val < 10 then 48 + k.val else 87 + k.val := by
    decide
  exact all ⟨n, small⟩

theorem toNat_toLower (c : Char) :
    c.toLower.toNat = if 65 ≤ c.toNat ∧ c.toNat ≤ 90 then c.toNat + 32 else c.toNat := by
  unfold Char.toLower
  split
  · rename_i upper
    have range : 65 ≤ c.toNat ∧ c.toNat ≤ 90 := upper
    have room : c.val.toNat + 32 < 2 ^ 32 := by
      have bound : c.val.toNat ≤ 90 := range.2
      omega
    rw [if_pos range]
    change (c.val + 32).toNat = c.val.toNat + 32
    rw [UInt32.toNat_add]
    exact Nat.mod_eq_of_lt room
  · rename_i other
    exact (if_neg other).symm

theorem toLower_eq_zero_iff {c : Char} : c.toLower = '0' ↔ c = '0' := by
  have lower := toNat_toLower c
  rw [← Char.toNat_inj, ← Char.toNat_inj, lower]
  have zero : '0'.toNat = 48 := rfl
  split <;> omega

theorem fromDigit_eq_some_iff {c : Char} {n : Nat} :
    fromDigit c = some n ↔ n < 16 ∧ c.toLower = digit n := by
  have lower := toNat_toLower c
  constructor
  · intro read
    have value : n < 16 ∧ c.toLower.toNat = if n < 10 then 48 + n else 87 + n := by
      unfold fromDigit at read
      rw [lower]
      grind
    refine ⟨value.1, Char.toNat_inj.mp ?_⟩
    rw [value.2, toNat_digit value.1]
  · rintro ⟨small, same⟩
    have value := congrArg Char.toNat same
    rw [lower, toNat_digit small] at value
    unfold fromDigit
    grind

theorem map_toLower_of_decode {cs : List Char} {bytes : List UInt8}
    (read : decode cs = some bytes) : cs.map Char.toLower = encode bytes := by
  fun_induction decode cs generalizing bytes with
  | case1 =>
      obtain rfl := Option.some.inj read
      rfl
  | case2 | case4 => cases read
  | case3 hi lo rest h l decoded readRest readLow readHigh ih =>
      obtain rfl := Option.some.inj read
      obtain ⟨highSmall, high⟩ := fromDigit_eq_some_iff.mp readHigh
      obtain ⟨lowSmall, low⟩ := fromDigit_eq_some_iff.mp readLow
      have value : (UInt8.ofNat (16 * h + l)).toNat = 16 * h + l :=
        Nat.mod_eq_of_lt (by omega)
      have upper : (16 * h + l) / 16 = h := by omega
      have lower : (16 * h + l) % 16 = l := by omega
      simp only [List.map_cons, encode, value, upper, lower, high, low, ih readRest]

theorem decode_of_map_toLower {cs : List Char} {bytes : List UInt8}
    (spelled : cs.map Char.toLower = encode bytes) : decode cs = some bytes := by
  induction bytes generalizing cs with
  | nil =>
      obtain rfl : cs = [] := by simpa [encode] using spelled
      rfl
  | cons b rest ih =>
      obtain ⟨hi, tail, rfl, high, more⟩ := List.map_eq_cons_iff.mp spelled
      obtain ⟨lo, last, rfl, low, spelled⟩ := List.map_eq_cons_iff.mp more
      have bound := b.toNat_lt
      have readHigh : fromDigit hi = some (b.toNat / 16) :=
        fromDigit_eq_some_iff.mpr ⟨by omega, high⟩
      have readLow : fromDigit lo = some (b.toNat % 16) :=
        fromDigit_eq_some_iff.mpr ⟨by omega, low⟩
      have rebuilt : UInt8.ofNat (16 * (b.toNat / 16) + b.toNat % 16) = b := by
        rw [Nat.div_add_mod, UInt8.ofNat_toNat]
      simp only [decode, readHigh, readLow, ih spelled, rebuilt]

theorem decodeString_eq_some_iff {s : String} {bytes : List UInt8} :
    decodeString s = some bytes ↔ Spells s bytes :=
  ⟨map_toLower_of_decode, decode_of_map_toLower⟩

/-- Zeros are spelled with the digit zero alone. -/
theorem Spells.eq_zeros_iff {s : String} {bytes : List UInt8} (spells : Spells s bytes) :
    bytes = List.replicate bytes.length 0 ↔ ∀ c ∈ s.toList, c = '0' := by
  have lowered : (∀ c ∈ encode bytes, c = '0') ↔ ∀ c ∈ s.toList, c = '0' := by
    rw [← spells]
    simp only [List.forall_mem_map, toLower_eq_zero_iff]
  rw [← lowered]
  constructor
  · intro zeros c member
    rw [zeros, encode_zeros] at member
    exact List.eq_of_mem_replicate member
  · intro zeros
    apply encode_injective
    rw [encode_zeros, List.eq_replicate_of_mem zeros, length_encode]

example : encodeToString [0x0a, 0xff] = "0aff" ∧ decodeString "0Aff" = some [0x0a, 0xff] ∧
    decodeString "0a1" = none := by decide

end Hex
