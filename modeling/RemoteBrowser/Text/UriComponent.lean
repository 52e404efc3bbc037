import RemoteBrowser.Text.Percent
import RemoteBrowser.Text.Whitespace

/-!
# URI components

ECMAScript and Go escape texts differently, and ECMAScript reads them: escaped bytes have to form
characters, every other character stands for itself.  What ECMAScript has escaped it reads back;
Go writes a space as a plus sign, which ECMAScript leaves alone.
-/

namespace RemoteBrowser.Text

/-! ## Reading -/

/-- A character that stands for itself, or a byte that was escaped. -/
inductive Token where
  | literal (char : Char)
  | escaped (byte : UInt8)
  deriving DecidableEq

def tokens : List Char → Option (List Token)
  | [] => some []
  | '%' :: high :: low :: rest =>
      match unhex high, unhex low with
      | some high, some low =>
          (tokens rest).map (.escaped (UInt8.ofNat (16 * high + low)) :: ·)
      | _, _ => none
  | '%' :: _ => none
  | char :: rest => (tokens rest).map (.literal char :: ·)

/-- How many bytes follow the first one of a character. -/
def continuationBytes (byte : UInt8) : Option Nat :=
  if byte.toNat < 0x80 then some 0
  else if byte.toNat < 0xC0 then none
  else if byte.toNat < 0xE0 then some 1
  else if byte.toNat < 0xF0 then some 2
  else if byte.toNat < 0xF8 then some 3
  else none

/-- Within a character, the bytes that are missing are counted and those so far are kept. -/
def readTokens : Option (Nat × List UInt8) → List Token → Option (List Char)
  | none, [] => some []
  | some _, [] => none
  | none, .literal char :: rest => (readTokens none rest).map (char :: ·)
  | some _, .literal _ :: _ => none
  | none, .escaped byte :: rest =>
      match continuationBytes byte with
      | none => none
      | some 0 => (readTokens none rest).map (Char.ofNat byte.toNat :: ·)
      | some (missing + 1) => readTokens (some (missing, [byte])) rest
  | some (missing, bytes), .escaped byte :: rest =>
      match missing with
      | 0 =>
          match (bytes ++ [byte]).toByteArray.utf8DecodeChar? 0 with
          | none => none
          | some char => (readTokens none rest).map (char :: ·)
      | missing + 1 => readTokens (some (missing, bytes ++ [byte])) rest

/-- `decodeURIComponent`, which throws where there is no result. -/
def decodeURIComponent (chars : List Char) : Option (List Char) :=
  (tokens chars).bind (readTokens none)

theorem tokens_cons {char : Char} (plain : char ≠ '%') (rest : List Char) :
    tokens (char :: rest) = (tokens rest).map (.literal char :: ·) := by
  rw [tokens]
  · exact fun _ _ _ same _ => plain same
  · exact plain

theorem decodeURIComponent_cons {char : Char} (plain : char ≠ '%') (rest : List Char) :
    decodeURIComponent (char :: rest) = (decodeURIComponent rest).map (char :: ·) := by
  unfold decodeURIComponent
  rw [tokens_cons plain]
  cases tokens rest with
  | none => rfl
  | some read => rfl

/-! ## Escaped bytes -/

def percentByte (byte : UInt8) : List Char :=
  ['%', upperHexDigit (byte.toNat / 16), upperHexDigit (byte.toNat % 16)]

theorem tokens_percentByte (byte : UInt8) (rest : List Char) :
    tokens (percentByte byte ++ rest) = (tokens rest).map (.escaped byte :: ·) := by
  have small := byte.toNat_lt
  have high := unhex_upperHexDigit (byte.toNat / 16) (by omega)
  have low := unhex_upperHexDigit (byte.toNat % 16) (by omega)
  have whole : UInt8.ofNat (16 * (byte.toNat / 16) + byte.toNat % 16) = byte := by
    rw [Nat.div_add_mod, UInt8.ofNat_toNat]
  simp only [percentByte, List.cons_append, List.nil_append, tokens, high, low, whole]

theorem tokens_percentBytes (bytes : List UInt8) (rest : List Char) :
    tokens (bytes.flatMap percentByte ++ rest) =
      (tokens rest).map (bytes.map .escaped ++ ·) := by
  induction bytes with
  | nil => simp
  | cons byte bytes ih =>
      rw [List.flatMap_cons, List.append_assoc, tokens_percentByte, ih, Option.map_map]
      rfl

/-- The first byte of a character says how long it is. -/
theorem continuationBytes_utf8EncodeChar (char : Char) :
    ∃ first rest, String.utf8EncodeChar char = first :: rest ∧
      continuationBytes first = some rest.length := by
  have value (number : Nat) (small : number < 256) : (UInt8.ofNat number).toNat = number := by
    rw [UInt8.toNat_ofNat']
    exact Nat.mod_eq_of_lt small
  unfold String.utf8EncodeChar continuationBytes
  dsimp only
  split
  · refine ⟨_, _, rfl, ?_⟩
    rw [value _ (by omega), if_pos (by omega)]
    rfl
  · split
    · refine ⟨_, _, rfl, ?_⟩
      rw [value _ (by omega), if_neg (by omega), if_neg (by omega), if_pos (by omega)]
      rfl
    · split
      · refine ⟨_, _, rfl, ?_⟩
        rw [value _ (by omega), if_neg (by omega), if_neg (by omega), if_neg (by omega),
          if_pos (by omega)]
        rfl
      · refine ⟨_, _, rfl, ?_⟩
        rw [value _ (by omega), if_neg (by omega), if_neg (by omega), if_neg (by omega),
          if_neg (by omega), if_pos (by omega)]
        rfl

/-- The bytes that were missing complete a character. -/
theorem readTokens_complete {char : Char} (rest : List Token) (bytes more : List UInt8)
    (last : UInt8) (whole : bytes ++ more ++ [last] = String.utf8EncodeChar char) :
    readTokens (some (more.length, bytes)) ((more ++ [last]).map .escaped ++ rest) =
      (readTokens none rest).map (char :: ·) := by
  induction more generalizing bytes with
  | nil =>
      have decoded : (bytes ++ [last]).toByteArray.utf8DecodeChar? 0 = some char := by
        have appended := @ByteArray.utf8DecodeChar?_utf8EncodeChar_append ByteArray.empty char
        rw [ByteArray.append_empty, ← whole, List.append_nil] at appended
        exact appended
      simp only [List.length_nil, List.nil_append, List.map_cons, List.map_nil,
        List.cons_append, readTokens, decoded]
  | cons byte more ih =>
      rw [List.length_cons, List.cons_append, List.map_cons, List.cons_append, readTokens]
      exact ih (bytes ++ [byte]) (by rw [← whole]; simp)

theorem readTokens_char (char : Char) (rest : List Token) :
    readTokens none ((String.utf8EncodeChar char).map .escaped ++ rest) =
      (readTokens none rest).map (char :: ·) := by
  obtain ⟨first, bytes, encoded, length⟩ := continuationBytes_utf8EncodeChar char
  rw [encoded, List.map_cons, List.cons_append, readTokens, length]
  cases bytes using List.reverseRecOn with
  | nil =>
      -- A single byte is the character's number.
      have ascii : char.toNat = first.toNat := by
        apply ascii_of_mem_utf8EncodeChar (encoded ▸ List.mem_cons_self)
        unfold continuationBytes at length
        split at length
        · assumption
        · split at length
          · cases length
          · split at length
            · cases length
            · split at length
              · cases length
              · split at length <;> cases length
      have same : Char.ofNat first.toNat = char := by rw [← ascii, Char.ofNat_toNat]
      simp only [List.length_nil, List.map_nil, List.nil_append, same]
  | append_singleton more last =>
      have count : (more ++ [last]).length = more.length + 1 := by simp
      rw [count]
      exact readTokens_complete rest [first] more last (by rw [encoded]; rfl)

theorem decodeURIComponent_char (char : Char) (rest : List Char) :
    decodeURIComponent ((String.utf8EncodeChar char).flatMap percentByte ++ rest) =
      (decodeURIComponent rest).map (char :: ·) := by
  unfold decodeURIComponent
  rw [tokens_percentBytes]
  cases tokens rest with
  | none => rfl
  | some read => exact readTokens_char char read

/-! ## Spelled texts -/

/-- A text whose escaped bytes spell characters. -/
inductive IsSpelled : List Char → Prop where
  | nil : IsSpelled []
  | literal {char : Char} {rest : List Char} (plain : char ≠ '%') (spelled : IsSpelled rest) :
      IsSpelled (char :: rest)
  | escaped {char : Char} {written rest : List Char}
      (bytes : tokens written = some ((String.utf8EncodeChar char).map .escaped))
      (spelled : IsSpelled rest) : IsSpelled (written ++ rest)

/-- The token that a text begins with is read from a part of it. -/
theorem tokens_eq_cons {chars : List Char} {token : Token} {read : List Token}
    (tokenized : tokens chars = some (token :: read)) :
    ∃ piece rest, chars = piece ++ rest ∧ tokens rest = some read ∧
      (∀ more, tokens (piece ++ more) = (tokens more).map (token :: ·)) ∧
        ∀ char, token = .literal char → piece = [char] ∧ char ≠ '%' := by
  revert tokenized
  fun_cases tokens chars with
  | case1 => intro tokenized; cases tokenized
  | case2 high low rest highDigit lowDigit highRead lowRead =>
      intro tokenized
      obtain ⟨more, restRead, same⟩ := Option.map_eq_some_iff.mp tokenized
      cases same
      refine ⟨['%', high, low], rest, rfl, restRead, ?_, ?_⟩
      · intro more
        simp [tokens, highRead, lowRead]
      · intro char same
        cases same
  | case3 => intro tokenized; cases tokenized
  | case4 => intro tokenized; cases tokenized
  | case5 char rest escape plain =>
      intro tokenized
      obtain ⟨more, restRead, same⟩ := Option.map_eq_some_iff.mp tokenized
      cases same
      refine ⟨[char], rest, rfl, restRead, tokens_cons plain, ?_⟩
      intro other same
      cases same
      exact ⟨rfl, plain⟩

theorem eq_nil_of_tokens {chars : List Char} (tokenized : tokens chars = some []) :
    chars = [] := by
  revert tokenized
  fun_cases tokens chars <;> simp

theorem tokens_append {written : List Char} {read : List Token} (rest : List Char)
    (tokenized : tokens written = some read) :
    tokens (written ++ rest) = (tokens rest).map (read ++ ·) := by
  induction read generalizing written with
  | nil => simp [eq_nil_of_tokens tokenized]
  | cons token read ih =>
      obtain ⟨piece, more, rfl, moreRead, pieceRead, -⟩ := tokens_eq_cons tokenized
      rw [List.append_assoc, pieceRead, ih moreRead, Option.map_map]
      rfl

/-- Part of the tokens are read from a part of the text. -/
theorem tokens_eq_append {front back : List Token} :
    ∀ {chars : List Char}, tokens chars = some (front ++ back) →
      ∃ written rest, chars = written ++ rest ∧ tokens written = some front ∧
        tokens rest = some back := by
  induction front with
  | nil =>
      intro chars tokenized
      exact ⟨[], chars, rfl, rfl, tokenized⟩
  | cons token front ih =>
      intro chars tokenized
      obtain ⟨piece, rest, rfl, restRead, pieceRead, -⟩ := tokens_eq_cons tokenized
      obtain ⟨written, more, rfl, writtenRead, moreRead⟩ := ih restRead
      refine ⟨piece ++ written, more, (List.append_assoc ..).symm, ?_, moreRead⟩
      rw [pieceRead, writtenRead]
      rfl

/-- As many bytes as the first one announces form a character only together. -/
theorem eq_utf8EncodeChar {char : Char} {first : UInt8} {more : List UInt8}
    (announced : continuationBytes first = some more.length)
    (decoded : (first :: more).toByteArray.utf8DecodeChar? 0 = some char) :
    first :: more = String.utf8EncodeChar char := by
  obtain ⟨left, whole⟩ := ByteArray.exists_of_utf8DecodeChar?_eq_some decoded
  have bytes : first :: more = String.utf8EncodeChar char ++ left.data.toList := by
    have lists := congrArg (fun array : ByteArray => array.data.toList) whole
    simpa using lists
  obtain ⟨start, rest, encoded, length⟩ := continuationBytes_utf8EncodeChar char
  rw [encoded, List.cons_append, List.cons.injEq] at bytes
  obtain ⟨rfl, tail⟩ := bytes
  rw [length, Option.some.injEq] at announced
  have none : left.data.toList = [] := by
    apply List.eq_nil_of_length_eq_zero
    have lengths := congrArg List.length tail
    rw [List.length_append] at lengths
    omega
  rw [encoded, tail, none, List.append_nil]

/-- Tokens that are read to the end of a character complete it. -/
theorem readTokens_completes {first : UInt8} {read : List Token} :
    ∀ {missing : Nat} {more : List UInt8} {chars : List Char},
      continuationBytes first = some (more.length + missing + 1) →
      readTokens (some (missing, first :: more)) read = some chars →
        ∃ char later rest, read = later.map .escaped ++ rest ∧
          first :: more ++ later = String.utf8EncodeChar char ∧
            (readTokens none rest).isSome := by
  induction read with
  | nil =>
      intro missing more chars _ done
      cases done
  | cons token read ih =>
      intro missing more chars announced done
      cases token with
      | literal char => cases done
      | escaped byte =>
          cases missing with
          | zero =>
              rw [readTokens] at done
              split at done
              · cases done
              · rename_i char decoded
                obtain ⟨tail, rest, -⟩ := Option.map_eq_some_iff.mp done
                refine ⟨char, [byte], read, rfl, ?_, Option.isSome_of_eq_some rest⟩
                apply eq_utf8EncodeChar _ decoded
                exact announced.trans (by simp)
          | succ missing =>
              rw [readTokens, List.cons_append] at done
              have next : continuationBytes first =
                  some ((more ++ [byte]).length + missing + 1) := by
                rw [announced, List.length_append, List.length_singleton]
                congr 1
                omega
              obtain ⟨char, later, rest, rfl, whole, finished⟩ := ih next done
              refine ⟨char, byte :: later, rest, rfl, ?_, finished⟩
              rw [← whole]
              simp

theorem utf8EncodeChar_single : ∀ byte : UInt8, continuationBytes byte = some 0 →
    String.utf8EncodeChar (Char.ofNat byte.toNat) = [byte] :=
  forall_byte (by decide +kernel)

/-- What can be read begins with a character, plain or spelled. -/
theorem readTokens_cons {token : Token} {read : List Token}
    (done : (readTokens none (token :: read)).isSome) :
    (∃ char, token = .literal char ∧ (readTokens none read).isSome) ∨
      ∃ char rest, token :: read = (String.utf8EncodeChar char).map .escaped ++ rest ∧
        (readTokens none rest).isSome := by
  cases token with
  | literal char =>
      rw [readTokens, Option.isSome_map] at done
      exact .inl ⟨char, rfl, done⟩
  | escaped byte =>
      apply Or.inr
      rw [readTokens] at done
      split at done
      · cases done
      · rename_i single
        rw [Option.isSome_map] at done
        refine ⟨Char.ofNat byte.toNat, read, ?_, done⟩
        rw [utf8EncodeChar_single byte single]
        rfl
      · rename_i missing announced
        obtain ⟨chars, found⟩ := Option.isSome_iff_exists.mp done
        obtain ⟨char, later, rest, rfl, whole, finished⟩ :=
          readTokens_completes (by simpa using announced) found
        refine ⟨char, rest, ?_, finished⟩
        rw [← whole]
        rfl

theorem isSpelled_of_read {read : List Token} {chars : List Char}
    (tokenized : tokens chars = some read) (done : (readTokens none read).isSome) :
    IsSpelled chars := by
  induction size : read.length using Nat.strong_induction_on generalizing chars read with
  | h size ih =>
      cases read with
      | nil =>
          rw [eq_nil_of_tokens tokenized]
          exact .nil
      | cons token read =>
          cases readTokens_cons done with
          | inl literal =>
              obtain ⟨char, rfl, restDone⟩ := literal
              obtain ⟨piece, rest, rfl, restRead, -, plain⟩ := tokens_eq_cons tokenized
              obtain ⟨rfl, notPercent⟩ := plain char rfl
              apply IsSpelled.literal notPercent
              exact ih read.length (by rw [← size]; simp) restRead restDone rfl
          | inr spelled =>
              obtain ⟨char, rest, split, restDone⟩ := spelled
              rw [split] at tokenized size
              obtain ⟨written, more, rfl, writtenRead, moreRead⟩ := tokens_eq_append tokenized
              apply IsSpelled.escaped writtenRead
              apply ih rest.length _ moreRead restDone rfl
              obtain ⟨first, bytes, encoded, -⟩ := continuationBytes_utf8EncodeChar char
              rw [← size, encoded]
              simp only [List.map_cons, List.length_append, List.length_cons, List.length_map]
              omega

/-- The texts that `decodeURIComponent` reads. -/
theorem decodeURIComponent_isSome_iff {chars : List Char} :
    (decodeURIComponent chars).isSome ↔ IsSpelled chars := by
  constructor
  case mp =>
    intro decoded
    obtain ⟨text, found⟩ := Option.isSome_iff_exists.mp decoded
    obtain ⟨read, tokenized, result⟩ := Option.bind_eq_some_iff.mp found
    exact isSpelled_of_read tokenized (Option.isSome_of_eq_some result)
  case mpr =>
    intro spelled
    induction spelled with
    | nil => rfl
    | literal plain _ ih => rwa [decodeURIComponent_cons plain, Option.isSome_map]
    | @escaped char written rest bytes _ ih =>
        unfold decodeURIComponent at ih ⊢
        rw [tokens_append rest bytes]
        cases restRead : tokens rest with
        | none =>
            rw [restRead] at ih
            cases ih
        | some read =>
            rw [restRead, Option.bind_some] at ih
            rw [Option.map_some, Option.bind_some, readTokens_char, Option.isSome_map]
            exact ih

/-! ## Writing -/

/-- The characters that `encodeURIComponent` keeps. -/
def keepsInComponent (char : Char) : Bool :=
  char.isAlphanum || "-_.!~*'()".toList.contains char

def spellComponent (char : Char) : List Char :=
  if keepsInComponent char then [char] else (String.utf8EncodeChar char).flatMap percentByte

def encodeURIComponent (chars : List Char) : List Char := chars.flatMap spellComponent

/-- The bytes that `url.QueryEscape` keeps. -/
def keepsInQuery (byte : UInt8) : Bool :=
  (0x61 ≤ byte && byte ≤ 0x7A) || (0x41 ≤ byte && byte ≤ 0x5A) || (0x30 ≤ byte && byte ≤ 0x39) ||
    "-_.~".toList.any fun char => char.toNat = byte.toNat

def spellQueryByte (byte : UInt8) : List Char :=
  if byte = 0x20 then ['+']
  else if keepsInQuery byte then [Char.ofNat byte.toNat]
  else percentByte byte

/-- `url.QueryEscape`. -/
def queryEscape (chars : List Char) : List Char := (utf8 chars).flatMap spellQueryByte

/-- A space comes back as a plus sign. -/
def plusForSpace (char : Char) : Char := if char = ' ' then '+' else char

theorem keepsInComponent_plain {char : Char} (kept : keepsInComponent char = true) :
    char ≠ '%' := by
  rintro rfl
  revert kept
  decide

/-- ECMAScript reads back what it has escaped. -/
theorem decodeURIComponent_encodeURIComponent (chars : List Char) :
    decodeURIComponent (encodeURIComponent chars) = some chars := by
  induction chars with
  | nil => rfl
  | cons char rest ih =>
      rw [encodeURIComponent, List.flatMap_cons, ← encodeURIComponent, spellComponent]
      split
      case isTrue kept =>
        rw [List.singleton_append, decodeURIComponent_cons (keepsInComponent_plain kept), ih]
        rfl
      case isFalse =>
        rw [decodeURIComponent_char, ih]
        rfl

theorem spellQueryByte_kept : ∀ byte, byte ≠ 0x20 → keepsInQuery byte = true →
    Char.ofNat byte.toNat ≠ '%' ∧ byte.toNat < 128 :=
  forall_byte (by decide +kernel)

theorem keepsInQuery_ascii (byte : UInt8) (kept : keepsInQuery byte = true) : byte.toNat < 128 := by
  by_cases space : byte = 0x20
  · rw [space]
    decide
  · exact (spellQueryByte_kept byte space kept).2

/-- What Go writes for a character is read as the character, but for the space. -/
theorem decodeURIComponent_queryChar (char : Char) (rest : List Char) :
    decodeURIComponent ((String.utf8EncodeChar char).flatMap spellQueryByte ++ rest) =
      (decodeURIComponent rest).map (plusForSpace char :: ·) := by
  by_cases ascii : char.toNat < 128
  case pos =>
    rw [utf8EncodeChar_ascii ascii, List.flatMap_singleton]
    have value : (UInt8.ofNat char.toNat).toNat = char.toNat := by
      rw [UInt8.toNat_ofNat']
      exact Nat.mod_eq_of_lt (Nat.lt_trans ascii (by decide))
    unfold spellQueryByte
    split
    case isTrue space =>
      have same : char = ' ' := by
        apply Char.toNat_inj.mp
        rw [← value, space]
        rfl
      rw [same, List.singleton_append, decodeURIComponent_cons (by decide)]
      rfl
    case isFalse other =>
      have different : char ≠ ' ' := by
        rintro rfl
        exact other rfl
      have kept : plusForSpace char = char := if_neg different
      split
      case isTrue keeps =>
        obtain ⟨plain, -⟩ := spellQueryByte_kept _ other keeps
        rw [value, Char.ofNat_toNat] at plain ⊢
        rw [List.singleton_append, decodeURIComponent_cons plain, kept]
      case isFalse =>
        have spelled := decodeURIComponent_char char rest
        rw [utf8EncodeChar_ascii ascii, List.flatMap_singleton] at spelled
        rw [spelled, kept]
  case neg =>
    have different : char ≠ ' ' := by
      rintro rfl
      exact ascii (by decide)
    have kept : plusForSpace char = char := if_neg different
    have escapes : (String.utf8EncodeChar char).flatMap spellQueryByte =
        (String.utf8EncodeChar char).flatMap percentByte := by
      apply List.flatMap_congr
      intro byte member
      have large : ¬byte.toNat < 128 := fun small =>
        ascii (by rw [ascii_of_mem_utf8EncodeChar member small]; exact small)
      rw [spellQueryByte, if_neg, if_neg]
      · exact fun keeps => large (keepsInQuery_ascii byte keeps)
      · rintro rfl
        exact large (by decide)
    rw [escapes, decodeURIComponent_char, kept]

theorem decodeURIComponent_queryEscape (chars : List Char) :
    decodeURIComponent (queryEscape chars) = some (chars.map plusForSpace) := by
  induction chars with
  | nil => rfl
  | cons char rest ih =>
      rw [queryEscape, utf8_cons, List.flatMap_append, decodeURIComponent_queryChar, ← queryEscape,
        ih]
      rfl

/-! ## The characters of an escaped text -/

/-- Printable, and not a separator of cookies. -/
def isCookieChar (char : Char) : Bool :=
  0x21 ≤ char.toNat && char.toNat ≤ 0x7E && char ≠ ';'

theorem isCookieChar_percentByte : ∀ byte, (percentByte byte).all isCookieChar = true :=
  forall_byte (by decide +kernel)

theorem isCookieChar_spellQueryByte : ∀ byte, (spellQueryByte byte).all isCookieChar = true :=
  forall_byte (by decide +kernel)

theorem isCookieChar_of_kept {char : Char} (kept : keepsInComponent char = true) :
    isCookieChar char = true := by
  have marks : ∀ mark ∈ "-_.!~*'()".toList, mark.toNat < 128 := by
    decide
  have ascii : char.toNat < 128 := by
    rcases Bool.or_eq_true_iff.mp kept with letter | mark
    · exact toNat_of_isAlphanum letter
    · exact marks char (List.contains_iff_mem.mp mark)
  have each : ∀ value : Fin 128, keepsInComponent (Char.ofNat value) = true →
      isCookieChar (Char.ofNat value) = true := by
    decide
  have same : Char.ofNat char.toNat = char := Char.ofNat_toNat char
  rw [← same] at kept ⊢
  exact each ⟨char.toNat, ascii⟩ kept

theorem isCookieChar_encodeURIComponent {char : Char} {chars : List Char}
    (member : char ∈ encodeURIComponent chars) : isCookieChar char = true := by
  obtain ⟨source, -, spelled⟩ := List.mem_flatMap.mp member
  unfold spellComponent at spelled
  split at spelled
  case isTrue kept =>
    rw [List.mem_singleton.mp spelled]
    exact isCookieChar_of_kept kept
  case isFalse =>
    obtain ⟨byte, -, spelled⟩ := List.mem_flatMap.mp spelled
    exact List.all_eq_true.mp (isCookieChar_percentByte byte) char spelled

theorem isCookieChar_queryEscape {char : Char} {chars : List Char}
    (member : char ∈ queryEscape chars) : isCookieChar char = true := by
  obtain ⟨byte, -, spelled⟩ := List.mem_flatMap.mp member
  exact List.all_eq_true.mp (isCookieChar_spellQueryByte byte) char spelled

end RemoteBrowser.Text
