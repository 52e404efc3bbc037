import RemoteBrowser.Text.Utf16
import Mathlib.Tactic.Common

/-!
# Text in UTF-8

The bytes of a text of UTF-16 code units.  A pair of surrogates has four bytes; a surrogate without
its partner is written as the replacement character.  A well-formed text can be read back from its
bytes.
-/

namespace RemoteBrowser.Utf8

open Utf16 (isHighSurrogate isLowSurrogate isWellFormed wellFormedAfter)

/-- The bytes of the code unit with the given number, if it is alone. -/
def encodeUnit (unit : ℕ) : List UInt8 :=
  if unit < 0x80 then [UInt8.ofNat unit]
  else if unit < 0x800 then [UInt8.ofNat (0xC0 + unit / 64), UInt8.ofNat (0x80 + unit % 64)]
  else if 0xD800 ≤ unit ∧ unit < 0xE000 then [0xEF, 0xBF, 0xBD]
  else
    [UInt8.ofNat (0xE0 + unit / 4096), UInt8.ofNat (0x80 + unit / 64 % 64),
      UInt8.ofNat (0x80 + unit % 64)]

/-- The bytes of a character outside the first plane. -/
def encodeWide (point : ℕ) : List UInt8 :=
  [UInt8.ofNat (0xF0 + point / 262144), UInt8.ofNat (0x80 + point / 4096 % 64),
    UInt8.ofNat (0x80 + point / 64 % 64), UInt8.ofNat (0x80 + point % 64)]

/-- The character of a pair of surrogates. -/
def pairPoint (high low : UInt16) : ℕ :=
  0x10000 + (high.toNat - 0xD800) * 1024 + (low.toNat - 0xDC00)

def encode : List UInt16 → List UInt8
  | [] => []
  | [unit] => encodeUnit unit.toNat
  | unit :: next :: rest =>
      if isHighSurrogate unit && isLowSurrogate next then
        encodeWide (pairPoint unit next) ++ encode rest
      else encodeUnit unit.toNat ++ encode (next :: rest)

/-- The code units of a character. -/
def pointUnits (point : ℕ) : List UInt16 :=
  if point < 0x10000 then [UInt16.ofNat point]
  else
    [UInt16.ofNat (0xD800 + (point - 0x10000) / 1024),
      UInt16.ofNat (0xDC00 + (point - 0x10000) % 1024)]

/-- Read bytes; so many are missing of the character that has begun with the given bits.  Bytes
that no text has are read as they come. -/
def decodeFrom (missing bits : ℕ) : List UInt8 → List UInt16
  | [] => []
  | byte :: rest =>
      match missing with
      | 0 =>
          if byte.toNat < 0x80 then UInt16.ofNat byte.toNat :: decodeFrom 0 0 rest
          else if byte.toNat < 0xE0 then decodeFrom 1 (byte.toNat - 0xC0) rest
          else if byte.toNat < 0xF0 then decodeFrom 2 (byte.toNat - 0xE0) rest
          else decodeFrom 3 (byte.toNat - 0xF0) rest
      | 1 => pointUnits (bits * 64 + (byte.toNat - 0x80)) ++ decodeFrom 0 0 rest
      | missing + 2 => decodeFrom (missing + 1) (bits * 64 + (byte.toNat - 0x80)) rest

def decode (bytes : List UInt8) : List UInt16 := decodeFrom 0 0 bytes

section RoundTrip

variable {unit high low : UInt16} {rest : List UInt8}

theorem isHighSurrogate_iff :
    isHighSurrogate unit ↔ 0xD800 ≤ unit.toNat ∧ unit.toNat < 0xDC00 := by
  simp [isHighSurrogate, UInt16.le_iff_toNat_le, UInt16.lt_iff_toNat_lt]

theorem isLowSurrogate_iff :
    isLowSurrogate unit ↔ 0xDC00 ≤ unit.toNat ∧ unit.toNat < 0xE000 := by
  simp [isLowSurrogate, UInt16.le_iff_toNat_le, UInt16.lt_iff_toNat_lt]

/-- A continuation byte keeps its six bits. -/
theorem toNat_tail (bits : ℕ) : (UInt8.ofNat (0x80 + bits % 64)).toNat = 0x80 + bits % 64 := by
  rw [UInt8.toNat_ofNat']
  omega

theorem toNat_lead {base bits : ℕ} (small : base + bits < 256) :
    (UInt8.ofNat (base + bits)).toNat = base + bits := by
  rw [UInt8.toNat_ofNat']
  omega

theorem decodeFrom_encodeUnit (notHigh : isHighSurrogate unit = false)
    (notLow : isLowSurrogate unit = false) :
    decodeFrom 0 0 (encodeUnit unit.toNat ++ rest) = unit :: decodeFrom 0 0 rest := by
  have bound : unit.toNat < 65536 := unit.toNat_lt
  have back {point : ℕ} (same : point = unit.toNat) : pointUnits point = [unit] := by
    rw [pointUnits, if_pos (by omega), same, UInt16.ofNat_toNat]
  have notSurrogate : ¬(0xD800 ≤ unit.toNat ∧ unit.toNat < 0xE000) := by
    rintro ⟨least, most⟩
    rcases Nat.lt_or_ge unit.toNat 0xDC00 with first | second
    · rw [isHighSurrogate_iff.mpr ⟨least, first⟩] at notHigh
      cases notHigh
    · rw [isLowSurrogate_iff.mpr ⟨second, most⟩] at notLow
      cases notLow
  unfold encodeUnit
  by_cases one : unit.toNat < 0x80
  · have byte : (UInt8.ofNat unit.toNat).toNat = unit.toNat := by
      rw [UInt8.toNat_ofNat']
      omega
    rw [if_pos one, List.singleton_append, decodeFrom, byte, if_pos one, UInt16.ofNat_toNat]
  · rw [if_neg one]
    by_cases two : unit.toNat < 0x800
    · have lead := @toNat_lead 0xC0 (unit.toNat / 64) (by omega)
      rw [if_pos two, List.cons_append, List.singleton_append, decodeFrom, lead,
        if_neg (by omega), if_pos (by omega), decodeFrom, toNat_tail, back (by omega),
        List.singleton_append]
    · have lead := @toNat_lead 0xE0 (unit.toNat / 4096) (by omega)
      rw [if_neg two, if_neg notSurrogate, List.cons_append, List.cons_append,
        List.singleton_append, decodeFrom, lead, if_neg (by omega), if_neg (by omega),
        if_pos (by omega), decodeFrom, toNat_tail, decodeFrom, toNat_tail, back (by omega),
        List.singleton_append]

theorem decodeFrom_encodeWide (first : isHighSurrogate high) (second : isLowSurrogate low) :
    decodeFrom 0 0 (encodeWide (pairPoint high low) ++ rest) =
      high :: low :: decodeFrom 0 0 rest := by
  obtain ⟨leastHigh, mostHigh⟩ := isHighSurrogate_iff.mp first
  obtain ⟨leastLow, mostLow⟩ := isLowSurrogate_iff.mp second
  obtain ⟨point, same⟩ : ∃ point, point = pairPoint high low := ⟨_, rfl⟩
  have value : point = 0x10000 + (high.toNat - 0xD800) * 1024 + (low.toNat - 0xDC00) := same
  have units : pointUnits point = [high, low] := by
    have front : 0xD800 + (point - 0x10000) / 1024 = high.toNat := by omega
    have back : 0xDC00 + (point - 0x10000) % 1024 = low.toNat := by omega
    rw [pointUnits, if_neg (by omega), front, back, UInt16.ofNat_toNat, UInt16.ofNat_toNat]
  have whole : (((0xF0 + point / 262144 - 0xF0) * 64 + (0x80 + point / 4096 % 64 - 0x80)) * 64 +
      (0x80 + point / 64 % 64 - 0x80)) * 64 + (0x80 + point % 64 - 0x80) = point := by
    omega
  have lead := @toNat_lead 0xF0 (point / 262144) (by omega)
  rw [← same, encodeWide, List.cons_append, List.cons_append, List.cons_append,
    List.singleton_append, decodeFrom, lead, if_neg (by omega), if_neg (by omega),
    if_neg (by omega), decodeFrom, toNat_tail, decodeFrom, toNat_tail, decodeFrom, toNat_tail,
    whole, units, List.cons_append, List.singleton_append]

/-- A pair of surrogates leaves a well-formed text. -/
private theorem formed_pair {unit next : UInt16} {rest : List UInt16}
    (formed : wellFormedAfter false (unit :: next :: rest))
    (pair : isHighSurrogate unit && isLowSurrogate next) : wellFormedAfter false rest := by
  have both := Bool.and_eq_true_iff.mp pair
  simp only [wellFormedAfter, Bool.and_eq_true] at formed
  have notHigh : isHighSurrogate next = false := by
    cases high : isHighSurrogate next with
    | false => rfl
    | true => simp [Utf16.not_low_of_high high] at both
  rw [notHigh] at formed
  exact formed.2.2

/-- A unit that begins no pair in a well-formed text is no surrogate. -/
private theorem formed_single {unit next : UInt16} {rest : List UInt16}
    (formed : wellFormedAfter false (unit :: next :: rest))
    (single : ¬(isHighSurrogate unit && isLowSurrogate next)) :
    isHighSurrogate unit = false ∧ isLowSurrogate unit = false ∧
      wellFormedAfter false (next :: rest) := by
  rw [wellFormedAfter, Bool.and_eq_true, beq_iff_eq] at formed
  -- A high surrogate would be followed by a low one.
  have notHigh : isHighSurrogate unit = false := by
    cases high : isHighSurrogate unit with
    | false => rfl
    | true =>
        rw [high, wellFormedAfter, Bool.and_eq_true, beq_iff_eq] at formed
        rw [high, ← formed.2.1] at single
        exact absurd rfl single
  rw [notHigh] at formed
  exact ⟨notHigh, formed.1.symm, formed.2⟩

/-- A well-formed text is read back from its bytes. -/
theorem decode_encode {text : List UInt16} (formed : isWellFormed text) :
    decode (encode text) = text := by
  unfold decode
  unfold isWellFormed at formed
  induction text using encode.induct with
  | case1 => rfl
  | case2 unit =>
      simp only [wellFormedAfter, Bool.and_eq_true, beq_iff_eq, Bool.not_eq_true'] at formed
      rw [encode, ← List.append_nil (encodeUnit _),
        decodeFrom_encodeUnit formed.2 formed.1.symm, decodeFrom]
  | case3 unit next rest pair ih =>
      have both := Bool.and_eq_true_iff.mp pair
      rw [encode, if_pos pair, decodeFrom_encodeWide both.1 both.2, ih (formed_pair formed pair)]
  | case4 unit next rest single ih =>
      have lone := formed_single formed single
      rw [encode, if_neg single, decodeFrom_encodeUnit lone.1 lone.2.1, ih lone.2.2]

/-- The bytes of a well-formed text and of what follows it. -/
theorem encode_append {text more : List UInt16} (formed : isWellFormed text) :
    encode (text ++ more) = encode text ++ encode more := by
  unfold isWellFormed at formed
  induction text using encode.induct with
  | case1 => rfl
  | case2 unit =>
      simp only [wellFormedAfter, Bool.and_eq_true, beq_iff_eq, Bool.not_eq_true'] at formed
      cases more with
      | nil => rw [List.append_nil, encode, List.append_nil]
      | cons next more =>
          have first : encode (unit :: next :: more) =
              encodeUnit unit.toNat ++ encode (next :: more) := by
            rw [encode, formed.2, Bool.false_and, if_neg Bool.false_ne_true]
          rw [List.singleton_append, first, encode]
  | case3 unit next rest pair ih =>
      rw [List.cons_append, List.cons_append, encode, if_pos pair, ih (formed_pair formed pair),
        encode, if_pos pair, List.append_assoc]
  | case4 unit next rest single ih =>
      rw [List.cons_append, List.cons_append, encode, if_neg single, ← List.cons_append,
        ih (formed_single formed single).2.2, encode, if_neg single, List.append_assoc]

end RoundTrip

/-! ## ASCII -/

section Ascii

variable {text : List UInt16}

theorem encodeUnit_ascii {unit : UInt16} :
    (∀ byte ∈ encodeUnit unit.toNat, byte.toNat < 0x80) ↔ unit.toNat < 0x80 := by
  have bound := unit.toNat_lt
  unfold encodeUnit
  by_cases one : unit.toNat < 0x80
  · rw [if_pos one, List.forall_mem_singleton, UInt8.toNat_ofNat']
    omega
  · refine iff_of_false (fun all => ?_) one
    rw [if_neg one] at all
    by_cases two : unit.toNat < 0x800
    · rw [if_pos two, List.forall_mem_cons, toNat_lead (by omega)] at all
      omega
    · rw [if_neg two] at all
      split at all
      case isTrue => simp at all
      case isFalse wide =>
        rw [List.forall_mem_cons, toNat_lead (by omega)] at all
        omega

/-- Only ASCII texts have ASCII bytes. -/
theorem ascii_of_encode (bytes : ∀ byte ∈ encode text, byte.toNat < 0x80) :
    ∀ unit ∈ text, unit.toNat < 0x80 := by
  induction text using encode.induct with
  | case1 => exact List.forall_mem_nil _
  | case2 unit =>
      rw [List.forall_mem_singleton]
      exact encodeUnit_ascii.mp bytes
  | case3 unit next rest pair ih =>
      rw [Bool.and_eq_true, isHighSurrogate_iff, isLowSurrogate_iff] at pair
      rw [encode, if_pos (by simp [isHighSurrogate_iff, isLowSurrogate_iff, pair])] at bytes
      have point : pairPoint unit next / 262144 < 16 := by
        unfold pairPoint
        omega
      have lead := bytes (UInt8.ofNat (0xF0 + pairPoint unit next / 262144)) (by simp [encodeWide])
      rw [toNat_lead (by omega)] at lead
      omega
  | case4 unit next rest single ih =>
      rw [encode, if_neg single, List.forall_mem_append] at bytes
      rw [List.forall_mem_cons]
      exact ⟨encodeUnit_ascii.mp bytes.1, ih bytes.2⟩

theorem encode_ascii (units : ∀ unit ∈ text, unit.toNat < 0x80) :
    ∀ byte ∈ encode text, byte.toNat < 0x80 := by
  induction text using encode.induct with
  | case1 => exact List.forall_mem_nil _
  | case2 unit =>
      rw [List.forall_mem_singleton] at units
      exact encodeUnit_ascii.mpr units
  | case3 unit next rest pair ih =>
      rw [Bool.and_eq_true, isHighSurrogate_iff] at pair
      rw [List.forall_mem_cons] at units
      omega
  | case4 unit next rest single ih =>
      rw [List.forall_mem_cons] at units
      rw [encode, if_neg single, List.forall_mem_append]
      exact ⟨encodeUnit_ascii.mpr units.1, ih units.2⟩

theorem length_encode_ascii (units : ∀ unit ∈ text, unit.toNat < 0x80) :
    (encode text).length = text.length := by
  induction text using encode.induct with
  | case1 => rfl
  | case2 unit =>
      rw [encode, encodeUnit, if_pos (units unit List.mem_cons_self)]
      rfl
  | case3 unit next rest pair ih =>
      have high := (isHighSurrogate_iff.mp (Bool.and_eq_true_iff.mp pair).1).1
      have small := units unit List.mem_cons_self
      omega
  | case4 unit next rest single ih =>
      rw [List.forall_mem_cons] at units
      rw [encode, if_neg single, List.length_append, ih units.2, encodeUnit, if_pos units.1,
        List.length_singleton, Nat.add_comm]
      rfl

theorem isWellFormed_of_ascii (units : ∀ unit ∈ text, unit.toNat < 0x80) : isWellFormed text := by
  unfold isWellFormed
  induction text with
  | nil => rfl
  | cons unit rest ih =>
      rw [List.forall_mem_cons] at units
      have notHigh : isHighSurrogate unit = false := by
        rw [Bool.eq_false_iff, ne_eq, isHighSurrogate_iff]
        omega
      have notLow : isLowSurrogate unit = false := by
        rw [Bool.eq_false_iff, ne_eq, isLowSurrogate_iff]
        omega
      rw [wellFormedAfter, notHigh, notLow, ih units.2]
      rfl

/-- The bytes of an ASCII text are those of no other text. -/
theorem encode_inj_of_ascii {other : List UInt16} (units : ∀ unit ∈ text, unit.toNat < 0x80)
    (same : encode other = encode text) : other = text := by
  have others := ascii_of_encode (by rw [same]; exact encode_ascii units)
  rw [← decode_encode (isWellFormed_of_ascii others), same,
    decode_encode (isWellFormed_of_ascii units)]

end Ascii

theorem encode_ne_nil {text : List UInt16} (some : text ≠ []) : encode text ≠ [] := by
  have unit (value : ℕ) : encodeUnit value ≠ [] := by
    unfold encodeUnit
    split_ifs <;> exact List.cons_ne_nil _ _
  cases text using encode.induct with
  | case1 => exact absurd rfl some
  | case2 => exact unit _
  | case3 first next rest pair ih =>
      rw [encode, if_pos pair]
      exact List.append_ne_nil_of_left_ne_nil (List.cons_ne_nil _ _) _
  | case4 first next rest single ih =>
      rw [encode, if_neg single]
      exact List.append_ne_nil_of_left_ne_nil (unit _) _

end RemoteBrowser.Utf8
