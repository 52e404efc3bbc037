import RemoteBrowser.Text.Utf16
import Mathlib.Data.List.DropRight

/-!
# Base64

Bytes as groups of six bits, and the two alphabets in which these are written: the standard one
with padding, and the one for URLs without.  A text in the second form becomes the first again when
the two different letters are replaced and the padding is put back.
-/

namespace RemoteBrowser.Base64

/-- Groups of six bits; zeros fill the last one. -/
def sextets : List UInt8 → List ℕ
  | first :: second :: third :: rest =>
      first.toNat / 4 :: (first.toNat % 4 * 16 + second.toNat / 16) ::
        (second.toNat % 16 * 4 + third.toNat / 64) :: third.toNat % 64 :: sextets rest
  | [first, second] =>
      [first.toNat / 4, first.toNat % 4 * 16 + second.toNat / 16, second.toNat % 16 * 4]
  | [first] => [first.toNat / 4, first.toNat % 4 * 16]
  | [] => []

/-- The bytes of groups of six bits, without what is left of the last one. -/
def joinSextets : List ℕ → List UInt8
  | first :: second :: third :: fourth :: rest =>
      UInt8.ofNat (first * 4 + second / 16) :: UInt8.ofNat (second % 16 * 16 + third / 4) ::
        UInt8.ofNat (third % 4 * 64 + fourth) :: joinSextets rest
  | [first, second, third] =>
      [UInt8.ofNat (first * 4 + second / 16), UInt8.ofNat (second % 16 * 16 + third / 4)]
  | [first, second] => [UInt8.ofNat (first * 4 + second / 16)]
  | _ => []

def pad : UInt16 := 0x3D

/-- The letter of six bits; the alphabets differ in the last two. -/
def letter (plus slash : UInt16) (bits : ℕ) : UInt16 :=
  if bits < 26 then UInt16.ofNat (0x41 + bits)
  else if bits < 52 then UInt16.ofNat (0x61 + (bits - 26))
  else if bits < 62 then UInt16.ofNat (0x30 + (bits - 52))
  else if bits = 62 then plus
  else slash

/-- A letter of the standard alphabet. -/
def standardLetter : ℕ → UInt16 := letter 0x2B 0x2F

/-- A letter of the alphabet for URLs. -/
def urlLetter : ℕ → UInt16 := letter 0x2D 0x5F

/-- The six bits of a letter of either alphabet. -/
def letterBits (unit : UInt16) : Option ℕ :=
  let code := unit.toNat
  if 0x41 ≤ code ∧ code ≤ 0x5A then some (code - 0x41)
  else if 0x61 ≤ code ∧ code ≤ 0x7A then some (code - 0x61 + 26)
  else if 0x30 ≤ code ∧ code ≤ 0x39 then some (code - 0x30 + 52)
  else if code = 0x2B ∨ code = 0x2D then some 62
  else if code = 0x2F ∨ code = 0x5F then some 63
  else none

/-- How much padding brings a number of letters to a multiple of four. -/
def padding (letters : ℕ) : ℕ := (4 - letters % 4) % 4

def encode (bytes : List UInt8) : List UInt16 :=
  (sextets bytes).map standardLetter ++ List.replicate (padding (sextets bytes).length) pad

/-- Letters of both alphabets are read, everything else is skipped. -/
def decode (text : List UInt16) : List UInt8 := joinSextets (text.filterMap letterBits)

/-! ## Letters -/

theorem sextets_lt (bytes : List UInt8) : ∀ bits ∈ sextets bytes, bits < 64 := by
  induction bytes using sextets.induct with
  | case1 first second third rest ih =>
      have one := first.toNat_lt
      have two := second.toNat_lt
      have three := third.toNat_lt
      simp only [sextets, List.forall_mem_cons]
      exact ⟨by omega, by omega, by omega, by omega, ih⟩
  | case2 first second =>
      have one := first.toNat_lt
      have two := second.toNat_lt
      simp only [sextets, List.forall_mem_cons]
      exact ⟨by omega, by omega, by omega, List.forall_mem_nil _⟩
  | case3 first =>
      have one := first.toNat_lt
      simp only [sextets, List.forall_mem_cons]
      exact ⟨by omega, by omega, List.forall_mem_nil _⟩
  | case4 => exact List.forall_mem_nil _

/-- Read as a number, a letter of either alphabet gives back its bits. -/
theorem letterBits_standardLetter {bits : ℕ} (small : bits < 64) :
    letterBits (standardLetter bits) = some bits := by
  revert bits
  decide

theorem urlLetter_ne_pad {bits : ℕ} (small : bits < 64) : urlLetter bits ≠ pad := by
  revert bits
  decide

theorem urlLetter_ne_dot {bits : ℕ} (small : bits < 64) : urlLetter bits ≠ 0x2E := by
  revert bits
  decide

theorem urlLetter_lt {bits : ℕ} (small : bits < 64) : urlLetter bits < 0x80 := by
  revert bits
  decide

/-! ## Round trips -/

theorem joinSextets_sextets (bytes : List UInt8) : joinSextets (sextets bytes) = bytes := by
  have whole (byte : UInt8) {value : ℕ} (same : value = byte.toNat) :
      UInt8.ofNat value = byte := by
    rw [same, UInt8.ofNat_toNat]
  induction bytes using sextets.induct with
  | case1 first second third rest ih =>
      have one := first.toNat_lt
      have two := second.toNat_lt
      have three := third.toNat_lt
      rw [sextets, joinSextets, ih, whole first (by omega),
        whole second (by omega), whole third (by omega)]
  | case2 first second =>
      have one := first.toNat_lt
      have two := second.toNat_lt
      rw [sextets, joinSextets, whole first (by omega), whole second (by omega)]
  | case3 first =>
      have one := first.toNat_lt
      rw [sextets, joinSextets, whole first (by omega)]
  | case4 => rfl

theorem decode_encode (bytes : List UInt8) : decode (encode bytes) = bytes := by
  have letters : ∀ values : List ℕ, (∀ bits ∈ values, bits < 64) →
      (values.map standardLetter).filterMap letterBits = values := by
    intro values small
    rw [List.filterMap_map, List.filterMap_congr (g := some), List.filterMap_some]
    intro bits member
    exact letterBits_standardLetter (small bits member)
  have none : (List.replicate (padding (sextets bytes).length) pad).filterMap letterBits = [] := by
    rw [List.filterMap_replicate_of_none (by decide)]
  rw [decode, encode, List.filterMap_append, letters _ (sextets_lt bytes), none, List.append_nil,
    joinSextets_sextets]

end RemoteBrowser.Base64
