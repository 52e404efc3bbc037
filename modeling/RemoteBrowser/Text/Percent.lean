import Mathlib.Data.List.Basic
import Mathlib.Data.List.Intervals

/-!
# Percent-encoded paths

A path is printed byte by byte: some bytes stand for themselves, every other one is written as a
percent sign and two hexadecimal digits.  Slashes stand for themselves, so the segments of the
printed path are the printed segments.  Reading undoes printing; a text with a percent sign is not
what is read from it.
-/

namespace RemoteBrowser.Text

/-! ## Bytes -/

/-- The bytes of a text. -/
def utf8 (chars : List Char) : List UInt8 := chars.flatMap String.utf8EncodeChar

@[simp] theorem utf8_nil : utf8 [] = [] := rfl

theorem utf8_cons (char : Char) (rest : List Char) :
    utf8 (char :: rest) = String.utf8EncodeChar char ++ utf8 rest := rfl

theorem utf8_append (first second : List Char) :
    utf8 (first ++ second) = utf8 first ++ utf8 second := by
  rw [utf8, List.flatMap_append]
  rfl

theorem utf8_eq_nil {chars : List Char} : utf8 chars = [] ↔ chars = [] := by
  cases chars with
  | nil => simp
  | cons char rest => simp [utf8_cons]

theorem utf8_injective : Function.Injective utf8 := by
  intro first second same
  have bytes : first.utf8Encode = second.utf8Encode := congrArg List.toByteArray same
  have texts : String.ofList first = String.ofList second := by
    apply String.toByteArray_inj.mp
    rw [String.toByteArray_ofList, String.toByteArray_ofList, bytes]
  exact String.ofList_injective texts

/-- A byte below 128 stands for itself. -/
theorem ascii_of_mem_utf8EncodeChar {char : Char} {byte : UInt8}
    (member : byte ∈ String.utf8EncodeChar char) (ascii : byte.toNat < 128) :
    char.toNat = byte.toNat := by
  simp only [String.utf8EncodeChar] at member
  split at member
  case isTrue small =>
    rw [List.mem_singleton.mp member, UInt8.toNat_ofNat']
    exact (Nat.mod_eq_of_lt (Nat.lt_of_le_of_lt small (by decide))).symm
  case isFalse =>
    -- Every byte of a longer code has its highest bit set.
    have high : 128 ≤ byte.toNat := by
      split at member
      · rcases List.mem_pair.mp member with rfl | rfl <;> rw [UInt8.toNat_ofNat'] <;> omega
      · split at member
        · simp only [List.mem_cons, List.not_mem_nil, or_false] at member
          rcases member with rfl | rfl | rfl <;> rw [UInt8.toNat_ofNat'] <;> omega
        · simp only [List.mem_cons, List.not_mem_nil, or_false] at member
          rcases member with rfl | rfl | rfl | rfl <;> rw [UInt8.toNat_ofNat'] <;> omega
    omega

theorem utf8EncodeChar_ascii {char : Char} (ascii : char.toNat < 128) :
    String.utf8EncodeChar char = [UInt8.ofNat char.toNat] := by
  have small : char.val.toNat ≤ 127 := Nat.le_of_lt_succ ascii
  simp only [String.utf8EncodeChar, if_pos small]
  rfl

/-! ## Reading -/

/-- The value of a hexadecimal digit. -/
def unhex (char : Char) : Option Nat :=
  if '0' ≤ char ∧ char ≤ '9' then some (char.toNat - '0'.toNat)
  else if 'a' ≤ char ∧ char ≤ 'f' then some (char.toNat - 'a'.toNat + 10)
  else if 'A' ≤ char ∧ char ≤ 'F' then some (char.toNat - 'A'.toNat + 10)
  else none

/-- `url.PathUnescape`. -/
@[grind =] def pathUnescape : List Char → Option (List UInt8)
  | [] => some []
  | '%' :: high :: low :: rest =>
      match unhex high, unhex low with
      | some high, some low => (pathUnescape rest).map (UInt8.ofNat (16 * high + low) :: ·)
      | _, _ => none
  | '%' :: _ => none
  | char :: rest => (pathUnescape rest).map (String.utf8EncodeChar char ++ ·)

theorem pathUnescape_cons {char : Char} (plain : char ≠ '%') (rest : List Char) :
    pathUnescape (char :: rest) = (pathUnescape rest).map (String.utf8EncodeChar char ++ ·) := by
  rw [pathUnescape]
  · exact fun _ _ _ same _ => plain same
  · exact plain

/-- A text without percent signs is read as it is. -/
theorem pathUnescape_of_plain {chars : List Char} (plain : '%' ∉ chars) :
    pathUnescape chars = some (utf8 chars) := by
  induction chars with
  | nil => rfl
  | cons char rest ih =>
      have different : char ≠ '%' := fun same => plain (same ▸ List.mem_cons_self)
      rw [pathUnescape_cons different, ih fun later => plain (List.mem_cons_of_mem _ later),
        utf8_cons]
      rfl

/-- Every escape that is read makes the text shorter. -/
theorem length_of_pathUnescape {chars : List Char} {bytes : List UInt8}
    (read : pathUnescape chars = some bytes) :
    bytes.length ≤ (utf8 chars).length ∧
      ('%' ∈ chars → bytes.length < (utf8 chars).length) := by
  induction chars using pathUnescape.induct generalizing bytes with
  | case1 =>
      cases read
      exact ⟨Nat.le_refl _, fun impossible => by cases impossible⟩
  | case2 high low rest highValue lowValue highRead lowRead ih =>
      rw [pathUnescape, highRead, lowRead] at read
      obtain ⟨more, reread, rfl⟩ := Option.map_eq_some_iff.mp read
      have shorter := (ih reread).1
      have escape : (utf8 ('%' :: high :: low :: rest)).length =
          '%'.utf8Size + (high.utf8Size + (low.utf8Size + (utf8 rest).length)) := by
        simp only [utf8_cons, List.length_append, String.length_utf8EncodeChar]
      have highSize := Char.utf8Size_pos high
      have lowSize := Char.utf8Size_pos low
      have sign : '%'.utf8Size = 1 := by decide
      rw [escape, List.length_cons]
      omega
  | case3 high low rest unread =>
      rw [pathUnescape] at read
      split at read
      · next highRead lowRead => exact (unread _ _ highRead lowRead).elim
      · cases read
  | case4 rest short =>
      rw [pathUnescape] at read
      · cases read
      · exact short
  | case5 char rest other different ih =>
      have plain : char ≠ '%' := different
      rw [pathUnescape_cons plain] at read
      obtain ⟨more, reread, rfl⟩ := Option.map_eq_some_iff.mp read
      obtain ⟨shorter, escaped⟩ := ih reread
      rw [utf8_cons, List.length_append, List.length_append]
      refine ⟨by omega, fun member => ?_⟩
      have later := escaped ((List.mem_cons.mp member).resolve_left (Ne.symm plain))
      omega

/-- A text is read as it is exactly if there is no percent sign in it. -/
theorem pathUnescape_eq_utf8_iff {chars : List Char} :
    pathUnescape chars = some (utf8 chars) ↔ '%' ∉ chars := by
  constructor
  · intro same escaped
    exact Nat.lt_irrefl _ ((length_of_pathUnescape same).2 escaped)
  · exact pathUnescape_of_plain

theorem toNat_of_isAlphanum {char : Char} (letter : char.isAlphanum = true) :
    char.toNat < 128 := by
  have upper : 'Z'.val.toNat = 90 := rfl
  have lower : 'z'.val.toNat = 122 := rfl
  have nine : '9'.val.toNat = 57 := rfl
  delta Char.isAlphanum Char.isAlpha Char.isUpper Char.isLower Char.isDigit at letter
  simp only [Bool.or_eq_true, Bool.and_eq_true, decide_eq_true_eq, ge_iff_le,
    UInt32.le_iff_toNat_le] at letter
  change char.val.toNat < 128
  omega

/-! ## Printing -/

/-- The bytes that stand for themselves in a path. -/
def keepsInPath (byte : UInt8) : Bool :=
  (0x61 ≤ byte && byte ≤ 0x7A) || (0x41 ≤ byte && byte ≤ 0x5A) || (0x30 ≤ byte && byte ≤ 0x39) ||
    "-_.~$&+,/:;=@".toList.any fun char => char.toNat = byte.toNat

def upperHexDigit (value : Nat) : Char := "0123456789ABCDEF".toList.getD value '0'

def escapeByte (byte : UInt8) : List Char :=
  if keepsInPath byte then [Char.ofNat byte.toNat]
  else ['%', upperHexDigit (byte.toNat / 16), upperHexDigit (byte.toNat % 16)]

/-- The form in which `net/url` prints a path. -/
def pathEscape (chars : List Char) : List Char := (utf8 chars).flatMap escapeByte

@[simp] theorem pathEscape_nil : pathEscape [] = [] := rfl

theorem pathEscape_append (first second : List Char) :
    pathEscape (first ++ second) = pathEscape first ++ pathEscape second := by
  rw [pathEscape, utf8_append, List.flatMap_append]
  rfl

/-- What is said of all bytes is checked byte by byte. -/
theorem forall_byte {holds : UInt8 → Prop}
    (each : ∀ value : Fin 256, holds (UInt8.ofNat value)) (byte : UInt8) : holds byte := by
  have checked := each ⟨byte.toNat, byte.toNat_lt⟩
  rwa [UInt8.ofNat_toNat] at checked

theorem slash_mem_escapeByte : ∀ byte, '/' ∈ escapeByte byte → byte.toNat = '/'.toNat :=
  forall_byte (by decide +kernel)

theorem kept_byte : ∀ byte, keepsInPath byte = true →
    Char.ofNat byte.toNat ≠ '%' ∧ String.utf8EncodeChar (Char.ofNat byte.toNat) = [byte] :=
  forall_byte (by decide +kernel)

theorem unhex_upperHexDigit : ∀ digit < 16, unhex (upperHexDigit digit) = some digit := by
  decide

/-- What is printed for a byte is read as the byte. -/
theorem pathUnescape_escapeByte (byte : UInt8) (rest : List Char) :
    pathUnescape (escapeByte byte ++ rest) = (pathUnescape rest).map (byte :: ·) := by
  unfold escapeByte
  split
  case isTrue kept =>
    obtain ⟨plain, single⟩ := kept_byte byte kept
    rw [List.singleton_append, pathUnescape_cons plain, single]
    rfl
  case isFalse =>
    have small := byte.toNat_lt
    have high := unhex_upperHexDigit (byte.toNat / 16) (by omega)
    have low := unhex_upperHexDigit (byte.toNat % 16) (by omega)
    have whole : UInt8.ofNat (16 * (byte.toNat / 16) + byte.toNat % 16) = byte := by
      rw [Nat.div_add_mod, UInt8.ofNat_toNat]
    simp only [List.cons_append, List.nil_append, pathUnescape, high, low, whole]

/-- Reading undoes printing. -/
theorem pathUnescape_pathEscape (chars : List Char) :
    pathUnescape (pathEscape chars) = some (utf8 chars) := by
  unfold pathEscape
  induction utf8 chars with
  | nil => rfl
  | cons byte rest ih =>
      rw [List.flatMap_cons, pathUnescape_escapeByte, ih]
      rfl

theorem pathEscape_injective : Function.Injective pathEscape := by
  intro first second same
  have read := congrArg pathUnescape same
  rw [pathUnescape_pathEscape, pathUnescape_pathEscape] at read
  exact utf8_injective (Option.some.inj read)

/-- Texts whose characters are all kept are printed as they are. -/
theorem pathEscape_of_kept {chars : List Char}
    (kept : ∀ char ∈ chars, char.toNat < 128 ∧ keepsInPath (UInt8.ofNat char.toNat) = true) :
    pathEscape chars = chars := by
  induction chars with
  | nil => rfl
  | cons char rest ih =>
      obtain ⟨⟨ascii, keeps⟩, kept⟩ := List.forall_mem_cons.mp kept
      have same : (UInt8.ofNat char.toNat).toNat = char.toNat := by
        rw [UInt8.toNat_ofNat']
        exact Nat.mod_eq_of_lt (Nat.lt_trans ascii (by decide))
      have single : pathEscape [char] = [char] := by
        rw [pathEscape, utf8_cons, utf8EncodeChar_ascii ascii, utf8_nil, List.append_nil,
          List.flatMap_singleton, escapeByte, if_pos keeps, same, Char.ofNat_toNat]
      rw [← List.singleton_append, pathEscape_append, single, ih kept]

/-! ## Segments -/

/-- Only a slash is printed as one. -/
theorem slash_mem_pathEscape {chars : List Char} (member : '/' ∈ pathEscape chars) :
    '/' ∈ chars := by
  obtain ⟨byte, inside, printed⟩ := List.mem_flatMap.mp member
  obtain ⟨char, found, encoded⟩ := List.mem_flatMap.mp inside
  have value := slash_mem_escapeByte byte printed
  have same := ascii_of_mem_utf8EncodeChar encoded (by rw [value]; decide)
  have slash : char = '/' := Char.toNat_inj.mp (same.trans value)
  rw [← slash]
  exact found

/-- What has no separator is put before the first part. -/
theorem splitOn_append_of_not_mem {α : Type} [BEq α] [LawfulBEq α] {separator : α}
    {front : List α} (free : separator ∉ front) (rest : List α) :
    (front ++ rest).splitOn separator =
      (rest.splitOn separator).modifyHead (front ++ ·) := by
  induction front with
  | nil =>
      rw [List.nil_append]
      cases rest.splitOn separator <;> rfl
  | cons first front ih =>
      have different : (first == separator) = false :=
        beq_eq_false_iff_ne.mpr fun same => free (same ▸ List.mem_cons_self)
      rw [List.cons_append, List.splitOn_cons_eq_if_modifyHead, different,
        ih fun later => free (List.mem_cons_of_mem _ later)]
      cases rest.splitOn separator <;> rfl

theorem splitOn_cons_self {α : Type} [BEq α] [LawfulBEq α] (separator : α) (rest : List α) :
    (separator :: rest).splitOn separator = [] :: rest.splitOn separator := by
  rw [List.splitOn_cons_eq_if_modifyHead, if_pos (BEq.refl separator)]

theorem not_mem_of_mem_splitOn {α : Type} [BEq α] [LawfulBEq α] {separator : α}
    {items part : List α} (member : part ∈ items.splitOn separator) : separator ∉ part := by
  induction items generalizing part with
  | nil =>
      rw [List.splitOn_nil, List.mem_singleton] at member
      rw [member]
      exact List.not_mem_nil
  | cons first rest ih =>
      by_cases same : first = separator
      · subst same
        rw [splitOn_cons_self] at member
        rcases List.mem_cons.mp member with rfl | later
        · exact List.not_mem_nil
        · exact ih later
      · have free : separator ∉ [first] := fun inside => same (List.mem_singleton.mp inside).symm
        rw [← List.singleton_append, splitOn_append_of_not_mem free] at member
        cases parts : rest.splitOn separator with
        | nil =>
            rw [parts] at member
            cases member
        | cons head others =>
            rw [parts, List.modifyHead_cons] at member
            rcases List.mem_cons.mp member with rfl | later
            · rw [List.mem_append]
              rintro (inside | inside)
              · exact free inside
              · exact ih (by rw [parts]; exact List.mem_cons_self) inside
            · exact ih (by rw [parts]; exact List.mem_cons_of_mem _ later)

/-- What has no separator is its only part. -/
theorem length_splitOn_eq_one_iff {α : Type} [BEq α] [LawfulBEq α] {separator : α}
    {items : List α} : (items.splitOn separator).length = 1 ↔ separator ∉ items := by
  constructor
  · intro one
    obtain ⟨part, split⟩ := List.length_eq_one_iff.mp one
    have joined : [separator].intercalate (items.splitOn separator) = items :=
      List.intercalate_splitOn separator
    rw [split, List.intercalate_singleton] at joined
    rw [← joined]
    exact not_mem_of_mem_splitOn (by rw [split]; exact List.mem_singleton_self part)
  · intro free
    rw [List.splitOn_eq_singleton free, List.length_singleton]

/-- The segments of the printed path are the printed segments. -/
theorem splitOn_pathEscape (chars : List Char) :
    (pathEscape chars).splitOn '/' = (chars.splitOn '/').map pathEscape := by
  induction chars with
  | nil => rfl
  | cons char rest ih =>
      rw [← List.singleton_append, pathEscape_append]
      by_cases slash : char = '/'
      · subst slash
        have kept : pathEscape ['/'] = ['/'] := by rfl
        rw [kept, List.singleton_append, List.singleton_append,
          List.splitOn_cons_eq_if_modifyHead, List.splitOn_cons_eq_if_modifyHead, ih]
        rfl
      · have free : '/' ∉ pathEscape [char] := fun member =>
          slash (List.mem_singleton.mp (slash_mem_pathEscape member)).symm
        have apart : '/' ∉ [char] := fun member => slash (List.mem_singleton.mp member).symm
        rw [splitOn_append_of_not_mem free, splitOn_append_of_not_mem apart, ih]
        cases parts : rest.splitOn '/' with
        | nil => rfl
        | cons first parts =>
            simp only [List.map_cons, List.modifyHead_cons, pathEscape_append]

end RemoteBrowser.Text
