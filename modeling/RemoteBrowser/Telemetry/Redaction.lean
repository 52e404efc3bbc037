import RemoteBrowser.Json.Stringify

/-!
# Telemetry that a viewer posts

`redactViewerEventValue` and `sanitizeViewerEventPayload` of `server.js`.  Members with the name of
a secret are replaced at every depth, and lists and nesting are cut.  A text under the name of an
address loses its query only where it is read as an address, and such an address is not cut.
-/

namespace RemoteBrowser.Telemetry

open Utf16 (ascii)

variable {Number : Type}

/-! ## Names -/

/-- Upper case letters of ASCII in lower case. -/
def lowerAscii (unit : UInt16) : UInt16 :=
  if 0x41 ≤ unit ∧ unit ≤ 0x5A then unit + 0x20 else unit

/-- A test for one of the words, without regard to case. -/
def mentions (words : List String) (key : List UInt16) : Bool :=
  words.any fun word => (key.map lowerAscii).tails.any fun rest => (ascii word).isPrefixOf rest

def secretKey (key : List UInt16) : Bool :=
  mentions ["token", "cookie", "authorization", "secret", "password", "credential", "signature"] key

def urlKey (key : List UInt16) : Bool := mentions ["url", "href"] key

/-! ## Redaction -/

/-- `new URL(text)` with its search and hash cleared, as a text. -/
structure UrlCleaner where
  clean : List UInt16 → Option (List UInt16)
  clean_plain : ∀ text cleaned, clean text = some cleaned → 0x3F ∉ cleaned ∧ 0x23 ∉ cleaned

def redacted : JsonData Number := .str (ascii "[redacted]")

def truncated : JsonData Number := .str (ascii "[truncated]")

/-- A text of at most 512 units, or its first 512 units and an ellipsis. -/
def limitText (text : List UInt16) : List UInt16 :=
  if 512 < text.length then text.take 512 ++ ascii "..." else text

/-- The address of a text under the name of one. -/
def entryUrl (urls : UrlCleaner) (key : List UInt16) : JsonData Number → Option (List UInt16)
  | .str text => if urlKey key then urls.clean text else none
  | _ => none

mutual

def redactViewerEventValue (urls : UrlCleaner) (depth : ℕ) (value : JsonData Number) :
    JsonData Number :=
  if 4 < depth then truncated
  else
    match value with
    | .str text => .str (limitText text)
    | .arr items => .arr (redactItems urls (depth + 1) 20 items)
    | .obj fields => .obj (redactFields urls (depth + 1) fields)
    | .null => .null
    | .bool value => .bool value
    | .num value => .num value

/-- So many of the first items. -/
def redactItems (urls : UrlCleaner) (depth : ℕ) :
    ℕ → List (JsonData Number) → List (JsonData Number)
  | _, [] => []
  | 0, _ :: _ => []
  | count + 1, item :: rest =>
      redactViewerEventValue urls depth item :: redactItems urls depth count rest

/-- Setting `__proto__` gives the object no member of its own. -/
def redactFields (urls : UrlCleaner) (depth : ℕ) :
    List (List UInt16 × JsonData Number) → List (List UInt16 × JsonData Number)
  | [] => []
  | (key, entry) :: rest =>
      if key = ascii "__proto__" then redactFields urls depth rest
      else if secretKey key then (key, redacted) :: redactFields urls depth rest
      else
        match entryUrl urls key entry with
        | some cleaned => (key, .str cleaned) :: redactFields urls depth rest
        | none => (key, redactViewerEventValue urls depth entry) :: redactFields urls depth rest

end

inductive ViewerEventError where
  | typeError
  | http (status : ℕ) (message : String)
  deriving DecidableEq

def allowedKeys : List (List UInt16) :=
  ["type", "event", "state", "reason", "ts", "viewport", "stream", "media", "error", "metrics",
    "session", "events"].map ascii

/-- An own member with one of the allowed names; only objects have any. -/
def ownMember (body : JsonData Number) (key : List UInt16) : Option (JsonData Number) :=
  match body with
  | .obj fields => fields.lookup key
  | _ => none

def allowedFields (urls : UrlCleaner) (body : JsonData Number) :
    List (List UInt16 × JsonData Number) :=
  allowedKeys.filterMap fun key =>
    (ownMember body key).map fun value => (key, redactViewerEventValue urls 0 value)

def sanitizeViewerEventPayload (urls : UrlCleaner) (numbers : NumberPrinter Number)
    (viewerEventMaxBytes : ℕ) (body : JsonData Number) :
    Except ViewerEventError (JsonData Number) :=
  match body with
  | .null => .error .typeError
  | body =>
      let allowed := .obj (allowedFields urls body)
      if viewerEventMaxBytes < allowed.bytes numbers then
        .error (.http 413 "Viewer event payload is too large")
      else .ok allowed

/-! ## What a payload shows -/

/-- A text without a query and without a fragment. -/
def NoQuery (text : List UInt16) : Prop := 0x3F ∉ text ∧ 0x23 ∉ text

mutual

/-- The payload shows no secret, no long text or list, and no query of an address.  The flag says
that the value stands under the name of an address, directly or in a list. -/
def Sanitised (inUrl : Bool) : JsonData Number → Prop
  | .str text => text.length ≤ 515 ∧ (inUrl = true → NoQuery text)
  | .arr items => items.length ≤ 20 ∧ SanitisedItems inUrl items
  | .obj fields => SanitisedFields fields
  | _ => True

def SanitisedItems (inUrl : Bool) : List (JsonData Number) → Prop
  | [] => True
  | item :: rest => Sanitised inUrl item ∧ SanitisedItems inUrl rest

def SanitisedFields : List (List UInt16 × JsonData Number) → Prop
  | [] => True
  | (key, value) :: rest =>
      ((secretKey key = true → value = redacted) ∧ Sanitised (urlKey key) value) ∧
        SanitisedFields rest

end

mutual

/-- So many lists and objects stand around the innermost values. -/
def nesting : JsonData Number → ℕ
  | .arr items => itemsNesting items + 1
  | .obj fields => fieldsNesting fields + 1
  | _ => 0

def itemsNesting : List (JsonData Number) → ℕ
  | [] => 0
  | item :: rest => max (nesting item) (itemsNesting rest)

def fieldsNesting : List (List UInt16 × JsonData Number) → ℕ
  | [] => 0
  | (_, value) :: rest => max (nesting value) (fieldsNesting rest)

end

/-! ## What a body may have -/

mutual

/-- Under the name of an address, no text that is not read as one has a query among its first 512
units, and no address that is read is longer than 515 units. -/
def Cleanable (urls : UrlCleaner) (inUrl : Bool) (depth : ℕ) (value : JsonData Number) : Prop :=
  depth ≤ 4 →
    match value with
    | .str text => inUrl = true → NoQuery (text.take 512)
    | .arr items => CleanableItems urls inUrl (depth + 1) 20 items
    | .obj fields => CleanableFields urls (depth + 1) fields
    | .null | .bool _ | .num _ => True

def CleanableItems (urls : UrlCleaner) (inUrl : Bool) (depth : ℕ) :
    ℕ → List (JsonData Number) → Prop
  | _, [] => True
  | 0, _ :: _ => True
  | count + 1, item :: rest =>
      Cleanable urls inUrl depth item ∧ CleanableItems urls inUrl depth count rest

def CleanableFields (urls : UrlCleaner) (depth : ℕ) :
    List (List UInt16 × JsonData Number) → Prop
  | [] => True
  | (key, entry) :: rest =>
      (key = ascii "__proto__" ∨ secretKey key = true ∨
          match entryUrl urls key entry with
          | some cleaned => cleaned.length ≤ 515
          | none => Cleanable urls (urlKey key) depth entry) ∧
        CleanableFields urls depth rest

end

/-- Every member of the body that is read is such a value. -/
def BodyCleanable (urls : UrlCleaner) (body : JsonData Number) : Prop :=
  ∀ key ∈ allowedKeys, ∀ value, ownMember body key = some value → Cleanable urls false 0 value

/-! ## Redacted values -/

section Redacted

variable {urls : UrlCleaner} {numbers : NumberPrinter Number} {depth : ℕ} {inUrl : Bool}

theorem noQuery_ascii {text : String}
    (plain : (ascii text).all fun unit => unit ≠ 0x3F && unit ≠ 0x23) :
    NoQuery (ascii text) := by
  constructor
  · intro member
    exact absurd (List.all_eq_true.mp plain _ member) (by decide)
  · intro member
    exact absurd (List.all_eq_true.mp plain _ member) (by decide)

theorem noQuery_append {first second : List UInt16} :
    NoQuery (first ++ second) ↔ NoQuery first ∧ NoQuery second := by
  simp only [NoQuery, List.mem_append, not_or]
  tauto

theorem sanitised_truncated : Sanitised inUrl (truncated : JsonData Number) :=
  ⟨by decide, fun _ => noQuery_ascii rfl⟩

theorem sanitised_redacted : Sanitised inUrl (redacted : JsonData Number) :=
  ⟨by decide, fun _ => noQuery_ascii rfl⟩

theorem length_limitText (text : List UInt16) : (limitText text).length ≤ 515 := by
  rw [limitText]
  split
  case isTrue long =>
    rw [List.length_append, List.length_take]
    have dots : (ascii "...").length = 3 := rfl
    omega
  case isFalse => omega

/-- The ellipsis is no query. -/
theorem noQuery_limitText (text : List UInt16) :
    NoQuery (limitText text) ↔ NoQuery (text.take 512) := by
  rw [limitText]
  split
  case isTrue long =>
    rw [noQuery_append]
    exact and_iff_left (noQuery_ascii rfl)
  case isFalse short => rw [List.take_of_length_le (by omega)]

theorem redactViewerEventValue_deep (deep : 4 < depth) (value : JsonData Number) :
    redactViewerEventValue urls depth value = truncated := by
  cases value <;> rw [redactViewerEventValue, if_pos deep]

theorem cleanable_deep (deep : 4 < depth) (value : JsonData Number) :
    Cleanable urls inUrl depth value := by
  have never : ¬depth ≤ 4 := by omega
  cases value <;> · rw [Cleanable]; exact fun shallow => absurd shallow never

theorem length_redactItems (count : ℕ) (items : List (JsonData Number)) :
    (redactItems urls depth count items).length ≤ count := by
  induction items generalizing count with
  | nil =>
      rw [redactItems]
      exact Nat.zero_le _
  | cons item rest ih =>
      cases count with
      | zero => rw [redactItems, List.length_nil]
      | succ count =>
          rw [redactItems, List.length_cons]
          exact Nat.succ_le_succ (ih count)

theorem entryUrl_eq_some {key cleaned : List UInt16} {entry : JsonData Number}
    (found : entryUrl urls key entry = some cleaned) :
    urlKey key = true ∧ NoQuery cleaned := by
  cases entry with
  | str text =>
      rw [entryUrl] at found
      split at found
      case isTrue url => exact ⟨url, urls.clean_plain _ _ found⟩
      case isFalse => cases found
  | _ => cases found

theorem sanitisedItems_redactItems {items : List (JsonData Number)} (count : ℕ)
    (each : ∀ item ∈ items,
      (Sanitised inUrl (redactViewerEventValue urls depth item) ↔
        Cleanable urls inUrl depth item)) :
    SanitisedItems inUrl (redactItems urls depth count items) ↔
      CleanableItems urls inUrl depth count items := by
  induction items generalizing count with
  | nil => rw [redactItems, SanitisedItems, CleanableItems]
  | cons item rest ih =>
      rw [List.forall_mem_cons] at each
      cases count with
      | zero => rw [redactItems, SanitisedItems, CleanableItems]
      | succ count => rw [redactItems, SanitisedItems, CleanableItems, each.1, ih count each.2]

theorem sanitisedFields_redactFields {fields : List (List UInt16 × JsonData Number)}
    (each : ∀ entry ∈ fields, ∀ inUrl,
      (Sanitised inUrl (redactViewerEventValue urls depth entry.2) ↔
        Cleanable urls inUrl depth entry.2)) :
    SanitisedFields (redactFields urls depth fields) ↔ CleanableFields urls depth fields := by
  induction fields with
  | nil => rw [redactFields, SanitisedFields, CleanableFields]
  | cons entry rest ih =>
      obtain ⟨key, entry⟩ := entry
      rw [List.forall_mem_cons] at each
      rw [redactFields, CleanableFields]
      split
      case isTrue special =>
        rw [ih each.2]
        exact ⟨fun later => ⟨.inl special, later⟩, And.right⟩
      case isFalse ordinary =>
        split
        case isTrue secret =>
          have all : (secretKey key = true → (redacted : JsonData Number) = redacted) ∧
              Sanitised (urlKey key) (redacted : JsonData Number) :=
            ⟨fun _ => rfl, sanitised_redacted⟩
          rw [SanitisedFields, ih each.2]
          exact ⟨fun both => ⟨.inr (.inl secret), both.2⟩, fun both => ⟨all, both.2⟩⟩
        case isFalse plain =>
          split
          case h_1 cleaned found =>
            obtain ⟨url, noQuery⟩ := entryUrl_eq_some found
            rw [SanitisedFields, ih each.2, url, Sanitised]
            simp [ordinary, plain, noQuery]
          case h_2 =>
            rw [SanitisedFields, ih each.2, each.1]
            simp [ordinary, plain]

/-- A redacted value shows nothing if and only if the value can be cleaned. -/
theorem sanitised_redact_iff (value : JsonData Number) (inUrl : Bool) (depth : ℕ) :
    Sanitised inUrl (redactViewerEventValue urls depth value) ↔
      Cleanable urls inUrl depth value := by
  induction value using JsonData.inductionOn generalizing inUrl depth with
  | str text =>
      by_cases deep : 4 < depth
      · rw [redactViewerEventValue_deep deep, iff_true_intro (cleanable_deep deep _)]
        exact iff_true_intro sanitised_truncated
      · rw [redactViewerEventValue, if_neg deep, Cleanable, Sanitised, noQuery_limitText]
        simp [length_limitText, Nat.le_of_not_lt deep]
  | arr items ih =>
      by_cases deep : 4 < depth
      · rw [redactViewerEventValue_deep deep, iff_true_intro (cleanable_deep deep _)]
        exact iff_true_intro sanitised_truncated
      · rw [redactViewerEventValue, if_neg deep, Cleanable, Sanitised,
          sanitisedItems_redactItems 20 fun item member => ih item member inUrl (depth + 1)]
        simp [length_redactItems, Nat.le_of_not_lt deep]
  | obj fields ih =>
      by_cases deep : 4 < depth
      · rw [redactViewerEventValue_deep deep, iff_true_intro (cleanable_deep deep _)]
        exact iff_true_intro sanitised_truncated
      · rw [redactViewerEventValue, if_neg deep, Cleanable, Sanitised,
          sanitisedFields_redactFields fun entry member inUrl => ih entry member inUrl (depth + 1)]
        simp [Nat.le_of_not_lt deep]
  | _ =>
      by_cases deep : 4 < depth
      · rw [redactViewerEventValue_deep deep, iff_true_intro (cleanable_deep deep _)]
        exact iff_true_intro sanitised_truncated
      · rw [redactViewerEventValue, if_neg deep, Cleanable]
        simp [Sanitised]

/-! The nesting. -/

theorem itemsNesting_le {items : List (JsonData Number)} {bound : ℕ}
    (all : ∀ item ∈ items, nesting item ≤ bound) : itemsNesting items ≤ bound := by
  induction items with
  | nil => exact Nat.zero_le _
  | cons item rest ih =>
      rw [List.forall_mem_cons] at all
      exact Nat.max_le.mpr ⟨all.1, ih all.2⟩

theorem fieldsNesting_le {fields : List (List UInt16 × JsonData Number)} {bound : ℕ}
    (all : ∀ entry ∈ fields, nesting entry.2 ≤ bound) : fieldsNesting fields ≤ bound := by
  induction fields with
  | nil => exact Nat.zero_le _
  | cons entry rest ih =>
      rw [List.forall_mem_cons] at all
      exact Nat.max_le.mpr ⟨all.1, ih all.2⟩

theorem mem_redactItems {count : ℕ} {items : List (JsonData Number)} {shown : JsonData Number}
    (member : shown ∈ redactItems urls depth count items) :
    ∃ item ∈ items, shown = redactViewerEventValue urls depth item := by
  induction items generalizing count with
  | nil => rw [redactItems] at member; cases member
  | cons item rest ih =>
      cases count with
      | zero => rw [redactItems] at member; cases member
      | succ count =>
          rw [redactItems] at member
          rcases List.mem_cons.mp member with rfl | later
          · exact ⟨item, List.mem_cons_self, rfl⟩
          · obtain ⟨found, listed, same⟩ := ih later
            exact ⟨found, List.mem_cons_of_mem _ listed, same⟩

theorem mem_redactFields {fields : List (List UInt16 × JsonData Number)} {key : List UInt16}
    {shown : JsonData Number} (member : (key, shown) ∈ redactFields urls depth fields) :
    nesting shown = 0 ∨ ∃ entry ∈ fields, shown = redactViewerEventValue urls depth entry.2 := by
  induction fields with
  | nil => rw [redactFields] at member; cases member
  | cons entry rest ih =>
      obtain ⟨name, entry⟩ := entry
      have later (inside : (key, shown) ∈ redactFields urls depth rest) :
          nesting shown = 0 ∨ ∃ found ∈ (name, entry) :: rest,
            shown = redactViewerEventValue urls depth found.2 := by
        rcases ih inside with flat | ⟨found, listed, same⟩
        · exact .inl flat
        · exact .inr ⟨found, List.mem_cons_of_mem _ listed, same⟩
      rw [redactFields] at member
      split at member
      case isTrue => exact later member
      case isFalse =>
        split at member
        case isTrue =>
          rcases List.mem_cons.mp member with same | inside
          · obtain ⟨rfl, rfl⟩ := Prod.mk.inj same
            exact .inl rfl
          · exact later inside
        case isFalse =>
          split at member
          case h_1 cleaned _ =>
            rcases List.mem_cons.mp member with same | inside
            · obtain ⟨rfl, rfl⟩ := Prod.mk.inj same
              exact .inl rfl
            · exact later inside
          case h_2 =>
            rcases List.mem_cons.mp member with same | inside
            · obtain ⟨rfl, rfl⟩ := Prod.mk.inj same
              exact .inr ⟨(key, entry), List.mem_cons_self, rfl⟩
            · exact later inside

/-- No more than five lists and objects stand in one another. -/
theorem nesting_redact (value : JsonData Number) (depth : ℕ) :
    nesting (redactViewerEventValue urls depth value) ≤ 5 - depth := by
  induction value using JsonData.inductionOn generalizing depth with
  | arr items ih =>
      by_cases deep : 4 < depth
      · rw [redactViewerEventValue_deep deep]
        exact Nat.zero_le _
      · rw [redactViewerEventValue, if_neg deep, nesting]
        have inner : itemsNesting (redactItems urls (depth + 1) 20 items) ≤ 5 - (depth + 1) := by
          apply itemsNesting_le
          intro shown member
          obtain ⟨item, listed, rfl⟩ := mem_redactItems member
          exact ih item listed (depth + 1)
        omega
  | obj fields ih =>
      by_cases deep : 4 < depth
      · rw [redactViewerEventValue_deep deep]
        exact Nat.zero_le _
      · rw [redactViewerEventValue, if_neg deep, nesting]
        have inner : fieldsNesting (redactFields urls (depth + 1) fields) ≤ 5 - (depth + 1) := by
          apply fieldsNesting_le
          rintro ⟨key, shown⟩ member
          rcases mem_redactFields member with flat | ⟨entry, listed, rfl⟩
          · rw [flat]
            exact Nat.zero_le _
          · exact ih entry listed (depth + 1)
        omega
  | _ =>
      by_cases deep : 4 < depth
      · rw [redactViewerEventValue_deep deep]
        exact Nat.zero_le _
      · rw [redactViewerEventValue, if_neg deep]
        exact Nat.zero_le _

/-! ## Payloads -/

theorem sanitizeViewerEventPayload_eq_ok {viewerEventMaxBytes : ℕ} {body payload : JsonData Number}
    (accepted : sanitizeViewerEventPayload urls numbers viewerEventMaxBytes body = .ok payload) :
    payload = .obj (allowedFields urls body) := by
  have read : body ≠ .null := by
    rintro rfl
    cases accepted
  rw [sanitizeViewerEventPayload] at accepted
  · split at accepted
    case isTrue => cases accepted
    case isFalse => exact (Except.ok.inj accepted).symm
  · exact read

theorem sanitisedFields_iff {fields : List (List UInt16 × JsonData Number)} :
    SanitisedFields fields ↔ ∀ entry ∈ fields,
      (secretKey entry.1 = true → entry.2 = redacted) ∧ Sanitised (urlKey entry.1) entry.2 := by
  induction fields with
  | nil => simp [SanitisedFields]
  | cons entry rest ih => rw [SanitisedFields, ih, List.forall_mem_cons]

theorem mem_allowedFields {body : JsonData Number} {entry : List UInt16 × JsonData Number} :
    entry ∈ allowedFields urls body ↔
      ∃ key ∈ allowedKeys, ∃ value, ownMember body key = some value ∧
        entry = (key, redactViewerEventValue urls 0 value) := by
  rw [allowedFields, List.mem_filterMap]
  constructor
  · rintro ⟨key, listed, found⟩
    obtain ⟨value, own, rfl⟩ := Option.map_eq_some_iff.mp found
    exact ⟨key, listed, value, own, rfl⟩
  · rintro ⟨key, listed, value, own, rfl⟩
    exact ⟨key, listed, by rw [own]; rfl⟩

/-- The allowed names are no names of secrets or addresses. -/
theorem plain_allowedKeys {key : List UInt16} (listed : key ∈ allowedKeys) :
    secretKey key = false ∧ urlKey key = false := by
  have all : allowedKeys.all fun key => !secretKey key && !urlKey key := by decide
  simpa using List.all_eq_true.mp all key listed

/-- A payload that is accepted shows nothing if and only if the body can be cleaned. -/
theorem sanitised_iff {viewerEventMaxBytes : ℕ} {body payload : JsonData Number}
    (accepted : sanitizeViewerEventPayload urls numbers viewerEventMaxBytes body = .ok payload) :
    Sanitised false payload ∧ nesting payload ≤ 6 ↔ BodyCleanable urls body := by
  have depth : nesting payload ≤ 6 := by
    rw [sanitizeViewerEventPayload_eq_ok accepted, nesting]
    apply Nat.succ_le_succ
    apply fieldsNesting_le
    intro entry member
    obtain ⟨key, -, value, -, rfl⟩ := mem_allowedFields.mp member
    exact nesting_redact value 0
  rw [and_iff_left depth, sanitizeViewerEventPayload_eq_ok accepted, Sanitised, sanitisedFields_iff]
  constructor
  · intro shown key listed value own
    have plain := plain_allowedKeys listed
    have entry := shown _ (mem_allowedFields.mpr ⟨key, listed, value, own, rfl⟩)
    rw [plain.2, sanitised_redact_iff] at entry
    exact entry.2
  · intro cleanable entry member
    obtain ⟨key, listed, value, own, rfl⟩ := mem_allowedFields.mp member
    have plain := plain_allowedKeys listed
    rw [plain.1, plain.2, sanitised_redact_iff]
    exact ⟨nofun, cleanable key listed value own⟩

/-- No text is read as an address. -/
def noAddress : UrlCleaner where
  clean _ := none
  clean_plain := nofun

/-- The numbers of one digit. -/
def digits : NumberPrinter (Fin 10) where
  text digit := [UInt16.ofNat (0x30 + digit.val)]
  text_ascii digit unit member := by
    rw [List.mem_singleton.mp member, UInt16.toNat_ofNat']
    omega

/-- Texts that start as an address are read as one, and lose what follows its path. -/
def webAddresses : UrlCleaner where
  clean text :=
    if (ascii "https://").isPrefixOf text then
      some (text.takeWhile fun unit => unit ≠ 0x3F && unit ≠ 0x23)
    else none
  clean_plain text cleaned found := by
    split at found
    case isFalse => cases found
    case isTrue =>
      cases found
      have plain := List.all_eq_true.mp (List.all_takeWhile (l := text)
        (p := fun unit => unit ≠ 0x3F && unit ≠ 0x23))
      exact ⟨fun query => absurd (plain _ query) (by decide),
        fun fragment => absurd (plain _ fragment) (by decide)⟩

/-- A body with a secret, an address with a query, a list of 25 and a text of 600 units. -/
def tellingBody : JsonData (Fin 10) :=
  .obj [(ascii "session", .obj [
    (ascii "viewerToken", .str (ascii "abc")),
    (ascii "pageUrl", .str (ascii "https://a.example/p?id=7")),
    (ascii "notes", .arr (List.replicate 25 .null)),
    (ascii "text", .str (List.replicate 600 0x78))])]

def tellingPayload : JsonData (Fin 10) :=
  .obj [(ascii "session", .obj [
    (ascii "viewerToken", redacted),
    (ascii "pageUrl", .str (ascii "https://a.example/p")),
    (ascii "notes", .arr (List.replicate 20 .null)),
    (ascii "text", .str (List.replicate 512 0x78 ++ ascii "..."))])]

set_option maxRecDepth 20000 in
theorem telling_body_is_sanitised :
    sanitizeViewerEventPayload webAddresses digits 4096 tellingBody = .ok tellingPayload ∧
      Sanitised false tellingPayload ∧ nesting tellingPayload ≤ 6 := by
  have accepted : sanitizeViewerEventPayload webAddresses digits 4096 tellingBody =
      .ok tellingPayload := rfl
  refine ⟨accepted, (sanitised_iff accepted).mpr ?_⟩
  intro key listed value own
  simp only [ownMember, tellingBody, List.lookup_cons] at own
  split at own
  case h_2 => cases own
  case h_1 =>
    cases own
    intro _
    refine ⟨.inr (.inl (by decide)), .inr (.inr ?_), .inr (.inr ?_), .inr (.inr ?_), trivial⟩
    case refine_1 =>
      change (ascii "https://a.example/p").length ≤ 515
      decide
    case refine_2 =>
      intro _
      simp [CleanableItems, Cleanable, List.replicate]
    case refine_3 => exact fun _ named => absurd named (by decide)

/-- `{"viewport":{"url":"/page?id=7"}}`: an address without an origin is not read as one. -/
theorem relative_address_keeps_query :
    ∃ payload : JsonData (Fin 10),
      sanitizeViewerEventPayload noAddress digits 4096
          (.obj [(ascii "viewport", .obj [(ascii "url", .str (ascii "/page?id=7"))])]) =
        .ok payload ∧ ¬(Sanitised false payload ∧ nesting payload ≤ 6) := by
  refine ⟨.obj [(ascii "viewport", .obj [(ascii "url", .str (ascii "/page?id=7"))])], rfl, ?_⟩
  intro shown
  have text : NoQuery (ascii "/page?id=7") := shown.1.1.2.1.2.2 rfl
  exact absurd text.1 (by decide)

end Redacted

end RemoteBrowser.Telemetry
