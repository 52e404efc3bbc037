import RemoteBrowser.Text.Python
import Mathlib.Data.List.Flatten

/-!
# Rewriting session descriptions

`apply_video_bitrate_hints_to_sdp` and `filter_sdp_candidates` of `worker.py`.  The dictionaries
that the code keyes by payload are functions; each payload is handled once there.
-/

namespace RemoteBrowser.Sdp

open Python

/-- `str.lower` and `str.upper`. -/
structure CasePlatform where
  lower : Text → Text
  upper : Text → Text
  lower_min : lower (lit "x-google-min-bitrate") = lit "x-google-min-bitrate"
  lower_start : lower (lit "x-google-start-bitrate") = lit "x-google-start-bitrate"
  lower_max : lower (lit "x-google-max-bitrate") = lit "x-google-max-bitrate"

/-- The bitrates of the worker's environment. -/
structure BitrateConfig where
  videoMinBitrateBps : ℕ
  videoStartBitrateBps : ℕ
  videoMaxBitrateBps : ℕ

/-! ## Candidates -/

/-- The part after the first part `typ`. -/
def partAfterTyp : List Text → Option Text
  | part :: next :: rest => if part = lit "typ" then some next else partAfterTyp (next :: rest)
  | _ => none

def dropStart (start text : Text) : Text := if start <+: text then text.drop start.length else text

def extractCandidateType (platform : CasePlatform) (candidateLine : Text) : Text :=
  let normalized := dropStart (lit "candidate:") (dropStart (lit "a=") (strip candidateLine))
  ((partAfterTyp (words normalized)).map platform.lower).getD []

def isAllowedCandidate (platform : CasePlatform) (candidateLine : Text)
    (allowedTypes : List Text) : Bool :=
  let candidateType := extractCandidateType platform candidateLine
  allowedTypes = [] || candidateType = [] || decide (candidateType ∈ allowedTypes)

/-- The line is not a candidate of a disallowed type. -/
def keepsLine (platform : CasePlatform) (allowedTypes : List Text) (line : Text) : Bool :=
  !(decide (lit "a=candidate:" <+: line) && !isAllowedCandidate platform line allowedTypes)

def filterSdpCandidates (platform : CasePlatform) (sdp : Text) (allowedTypes : List Text) : Text :=
  if sdp = [] then sdp
  else joinLines ((splitlines sdp).filter (keepsLine platform allowedTypes))

/-! ## Format parameters -/

/-- `text.split(";")`, stripped, without empty parts. -/
def fmtpParts (params : Text) : List Text := ((params.splitOn 59).map strip).filter (· ≠ [])

def joinParts (parts : List Text) : Text := [59].intercalate parts

/-- A part `key=...` with this key. -/
def hasName (platform : CasePlatform) (name part : Text) : Bool :=
  decide (61 ∈ part) && platform.lower (strip (before 61 part)) == platform.lower (strip name)

def hintPart (name : Text) (value : ℕ) : Text := name ++ 61 :: decimal value

/-- The first part with the name is replaced; if there is none, one is added. -/
def setParameter (platform : CasePlatform) (name : Text) (value : ℕ) : List Text → List Text
  | [] => [hintPart name value]
  | part :: rest =>
      if hasName platform name part then hintPart name value :: rest
      else part :: setParameter platform name value rest

def appendFmtpParameter (platform : CasePlatform) (existing name : Text) (value : ℕ) : Text :=
  joinParts (setParameter platform name value (fmtpParts existing))

def minName : Text := lit "x-google-min-bitrate"
def startName : Text := lit "x-google-start-bitrate"
def maxName : Text := lit "x-google-max-bitrate"

/-- The three hints. -/
def bitrateHints (platform : CasePlatform) (config : BitrateConfig) (params : Text) : Text :=
  let params := appendFmtpParameter platform params minName (config.videoMinBitrateBps / 1000)
  let params := appendFmtpParameter platform params startName (config.videoStartBitrateBps / 1000)
  appendFmtpParameter platform params maxName (config.videoMaxBitrateBps / 1000)

/-! ## Sections -/

def isRtpmap (line : Text) : Bool := lit "a=rtpmap:" <+: line

def isFmtp (line : Text) : Bool := lit "a=fmtp:" <+: line

def isBandwidth (line : Text) : Bool := lit "b=AS:" <+: line || lit "b=TIAS:" <+: line

def isVideo (line : Text) : Bool := lit "m=video " <+: line

def isMedia (line : Text) : Bool := lit "m=" <+: line

def isInfo (line : Text) : Bool := lit "i=" <+: line || lit "c=" <+: line

/-- The payload of a line with the given start. -/
def payloadAfter (start line : Text) : Text := strip (before 32 (line.drop start.length))

def rtpmapPayload (line : Text) : Text := payloadAfter (lit "a=rtpmap:") line

def fmtpPayload (line : Text) : Text := payloadAfter (lit "a=fmtp:") line

def fmtpParams (line : Text) : Text := (after 32 line).getD []

def codecNameFromMimeType (platform : CasePlatform) (mimeType : Text) : Text :=
  let value := strip mimeType
  platform.upper (strip ((after 47 value).getD value))

def rtpmapCodec (platform : CasePlatform) (line : Text) : Text :=
  codecNameFromMimeType platform (((after 32 line).map (before 47)).getD [])

/-- What the loop over the lines of a section collects. -/
structure Scan where
  codecByPayload : Text → Option Text
  fmtpLines : Text → Option Text
  orderedLines : List Text

def scanLine (platform : CasePlatform) (scan : Scan) (line : Text) : Scan :=
  if isBandwidth line then scan
  else if isRtpmap line then
    { scan with
      codecByPayload := fun payload =>
        if payload = rtpmapPayload line then some (rtpmapCodec platform line)
        else scan.codecByPayload payload
      orderedLines := scan.orderedLines ++ [line] }
  else if isFmtp line then
    { scan with
      fmtpLines := fun payload =>
        if payload = fmtpPayload line then some (fmtpParams line) else scan.fmtpLines payload }
  else { scan with orderedLines := scan.orderedLines ++ [line] }

def scanSection (platform : CasePlatform) (lines : List Text) : Scan :=
  lines.foldl (scanLine platform) ⟨fun _ => none, fun _ => none, []⟩

/-- Behind the last line `i=` or `c=`, or behind the first line. -/
def insertAt (orderedLines : List Text) : ℕ :=
  (orderedLines.tail.zipIdx 1).foldl
    (fun position entry => if isInfo entry.1 then entry.2 + 1 else position) 1

def bandwidthLines (config : BitrateConfig) : List Text :=
  [lit "b=AS:" ++ decimal (max 1 (config.videoMaxBitrateBps / 1000)),
    lit "b=TIAS:" ++ decimal config.videoMaxBitrateBps]

/-- The parameters of a payload after the loop over the codecs. -/
def tunedParams (platform : CasePlatform) (config : BitrateConfig) (scan : Scan) (payload : Text) :
    Option Text :=
  if scan.codecByPayload payload = some (lit "H264") ∨
      scan.codecByPayload payload = some (lit "VP8") then
    some (bitrateHints platform config ((scan.fmtpLines payload).getD []))
  else scan.fmtpLines payload

def fmtpLine (payload params : Text) : Text := lit "a=fmtp:" ++ payload ++ 32 :: params

/-- The lines with the format parameters behind the first `rtpmap` line of their payload. -/
def rebuild (params : Text → Option Text) : List Text → List Text → List Text
  | _, [] => []
  | insertedPayloads, line :: rest =>
      if isRtpmap line ∧ rtpmapPayload line ∉ insertedPayloads then
        match params (rtpmapPayload line) with
        | some found =>
            line :: fmtpLine (rtpmapPayload line) found ::
              rebuild params (rtpmapPayload line :: insertedPayloads) rest
        | none => line :: rebuild params insertedPayloads rest
      else line :: rebuild params insertedPayloads rest

def tuneSection (platform : CasePlatform) (config : BitrateConfig) (lines : List Text) :
    List Text :=
  if lines.head?.any isVideo then
    let scan := scanSection platform lines
    let position := insertAt scan.orderedLines
    let ordered := scan.orderedLines.take position ++ bandwidthLines config ++
      scan.orderedLines.drop position
    rebuild (tunedParams platform config scan) [] ordered
  else lines

/-- A line `m=` begins a section, the first line as well. -/
def splitSections (currentSection : List Text) : List Text → List (List Text)
  | [] => if currentSection = [] then [] else [currentSection]
  | line :: rest =>
      if isMedia line ∧ currentSection ≠ [] then currentSection :: splitSections [line] rest
      else splitSections (currentSection ++ [line]) rest

/-- The sections of a text. -/
def sections (sdp : Text) : List (List Text) :=
  splitSections [] ((splitlines sdp).map (List.rdropWhile (· == 13)))

def applyVideoBitrateHintsToSdp (platform : CasePlatform) (config : BitrateConfig) (sdp : Text) :
    Text :=
  if sdp = [] then sdp
  else joinLines ((sections sdp).map (tuneSection platform config)).flatten

/-! ## Parameters -/

section Parameters

variable {platform : CasePlatform} {config : BitrateConfig} {name other : Text} {value : ℕ}
  {parts : List Text}

/-- A part as `append_fmtp_parameter` keeps it. -/
structure IsPart (part : Text) : Prop where
  some : part ≠ []
  stripped : IsStripped part
  single : 59 ∉ part

/-- One of the three names of hints. -/
def IsHintName (name : Text) : Prop := name = minName ∨ name = startName ∨ name = maxName

/-- The part sets one of the bitrates. -/
def isHint (platform : CasePlatform) (part : Text) : Bool :=
  hasName platform minName part || hasName platform startName part ||
    hasName platform maxName part

/-- The parameters besides the bitrates. -/
def otherParams (platform : CasePlatform) (params : Text) : List Text :=
  (fmtpParts params).filter fun part => !isHint platform part

theorem not_mem_of_mem_splitOn {separator : ℕ} {text part : Text}
    (member : part ∈ text.splitOn separator) : separator ∉ part := by
  induction text generalizing part with
  | nil =>
      rw [List.splitOn_nil, List.mem_singleton] at member
      rw [member]
      exact List.not_mem_nil
  | cons point rest ih =>
      rw [List.splitOn_cons_eq_if_modifyHead] at member
      split at member
      case isTrue =>
        rcases List.mem_cons.mp member with rfl | later
        · exact List.not_mem_nil
        · exact ih later
      case isFalse other =>
        cases parts : rest.splitOn separator with
        | nil => exact absurd parts (List.splitOn_ne_nil _ _)
        | cons first later =>
            rw [parts, List.modifyHead_cons, List.mem_cons] at member
            rcases member with rfl | member
            · have clean := ih (parts ▸ List.mem_cons_self)
              rw [List.mem_cons]
              rintro (rfl | inside)
              · simp at other
              · exact clean inside
            · exact ih (parts ▸ List.mem_cons_of_mem _ member)

theorem isPart_of_mem_fmtpParts {params part : Text} (member : part ∈ fmtpParts params) :
    IsPart part := by
  obtain ⟨listed, some⟩ := List.mem_filter.mp member
  obtain ⟨raw, piece, rfl⟩ := List.mem_map.mp listed
  constructor
  case some => simpa using some
  case stripped => exact isStripped_strip raw
  case single => exact fun inside => not_mem_of_mem_splitOn piece (mem_of_mem_strip inside)

/-- Parts that are joined are read back. -/
theorem fmtpParts_joinParts (some : parts ≠ []) (all : ∀ part ∈ parts, IsPart part) :
    fmtpParts (joinParts parts) = parts := by
  have single : ∀ part ∈ parts, 59 ∉ part := fun part member => (all part member).single
  rw [fmtpParts, joinParts, List.splitOn_intercalate 59 single some]
  have stripped : parts.map strip = parts := by
    rw [List.map_congr_left fun part member => strip_eq_self (all part member).stripped,
      List.map_id']
  rw [stripped, List.filter_eq_self]
  intro part member
  simpa using (all part member).some

theorem setParameter_ne_nil : setParameter platform name value parts ≠ [] := by
  cases parts with
  | nil => exact List.cons_ne_nil _ _
  | cons part rest =>
      rw [setParameter]
      split <;> exact List.cons_ne_nil _ _

theorem forall_setParameter {P : Text → Prop} (hint : P (hintPart name value))
    (all : ∀ part ∈ parts, P part) : ∀ part ∈ setParameter platform name value parts, P part := by
  induction parts with
  | nil => exact List.forall_mem_singleton.mpr hint
  | cons part rest ih =>
      rw [List.forall_mem_cons] at all
      rw [setParameter]
      split
      case isTrue => exact List.forall_mem_cons.mpr ⟨hint, all.2⟩
      case isFalse => exact List.forall_mem_cons.mpr ⟨all.1, ih all.2⟩

/-- Digits are no separators. -/
theorem mem_decimal {point : ℕ} (member : point ∈ decimal value) : 48 ≤ point ∧ point ≤ 57 := by
  obtain ⟨digit, listed, rfl⟩ := List.mem_map.mp member
  have digits : digit ∈ Nat.toDigits 10 value := by
    simpa [ToString.toString, Nat.repr] using listed
  have isDigit := Nat.isDigit_of_mem_toDigits (by decide) (by decide) digits
  rw [Char.isDigit_iff_toNat] at isDigit
  exact isDigit

theorem decimal_ne_nil (value : ℕ) : decimal value ≠ [] := by
  simp [decimal, lit, ToString.toString, Nat.repr]

theorem isPart_hintPart (hint : IsHintName name) : IsPart (hintPart name value) := by
  constructor
  case some => exact List.append_ne_nil_of_right_ne_nil _ (List.cons_ne_nil _ _)
  case stripped =>
    constructor
    case first =>
      intro point first
      rcases hint with rfl | rfl | rfl <;> · cases first; decide
    case last =>
      intro point last
      rw [hintPart, List.getLast?_append, List.getLast?_cons,
        List.getLast?_eq_some_getLast (decimal_ne_nil value)] at last
      have digit := mem_decimal (List.getLast_mem (decimal_ne_nil value))
      obtain rfl : (decimal value).getLast (decimal_ne_nil value) = point := by simpa using last
      simp only [isSpace, Bool.or_eq_false_iff, Bool.and_eq_false_iff, decide_eq_false_iff_not,
        beq_eq_false_iff_ne]
      omega
  case single =>
    have clean : 59 ∉ name := by rcases hint with rfl | rfl | rfl <;> decide
    rw [hintPart, List.mem_append, List.mem_cons]
    rintro (inside | same | digit)
    · exact clean inside
    · cases same
    · have bounds := mem_decimal digit
      omega

/-! What a hint leaves as it is. -/

theorem hasName_hintPart (hint : IsHintName name) (asked : Text) :
    hasName platform asked (hintPart name value) =
      (platform.lower name == platform.lower (strip asked)) := by
  have key : before 61 (hintPart name value) = name := by
    rcases hint with rfl | rfl | rfl <;> rfl
  have stripped : strip name = name := by rcases hint with rfl | rfl | rfl <;> rfl
  have equals : 61 ∈ hintPart name value := List.mem_append_right _ List.mem_cons_self
  rw [hasName, key, stripped, decide_eq_true equals, Bool.true_and]

theorem strip_name (hint : IsHintName name) : strip name = name := by
  rcases hint with rfl | rfl | rfl <;> rfl

theorem lower_name (hint : IsHintName name) : platform.lower name = name := by
  rcases hint with rfl | rfl | rfl
  · exact platform.lower_min
  · exact platform.lower_start
  · exact platform.lower_max

theorem hasName_self (hint : IsHintName name) :
    hasName platform name (hintPart name value) = true := by
  rw [hasName_hintPart hint, strip_name hint, beq_self_eq_true]

theorem hasName_other (hint : IsHintName name) (second : IsHintName other)
    (different : name ≠ other) : hasName platform other (hintPart name value) = false := by
  rw [hasName_hintPart hint, strip_name second, lower_name hint, lower_name second]
  exact beq_eq_false_iff_ne.mpr different

/-- No part has two names. -/
theorem not_hasName_of_hasName {part : Text} (hint : IsHintName name) (second : IsHintName other)
    (different : name ≠ other) (named : hasName platform name part = true) :
    hasName platform other part = false := by
  rw [hasName, strip_name hint, lower_name hint, Bool.and_eq_true] at named
  rw [hasName, strip_name second, lower_name second, eq_of_beq named.2,
    beq_eq_false_iff_ne.mpr different, Bool.and_false]

theorem isHint_of_hasName {part : Text} (hint : IsHintName name)
    (named : hasName platform name part = true) : isHint platform part = true := by
  rcases hint with rfl | rfl | rfl <;> simp [isHint, named]

theorem filter_setParameter (hint : IsHintName name) :
    (setParameter platform name value parts).filter (fun part => !isHint platform part) =
      parts.filter fun part => !isHint platform part := by
  have dropped : isHint platform (hintPart name value) = true :=
    isHint_of_hasName hint (hasName_self hint)
  induction parts with
  | nil => simp [setParameter, dropped]
  | cons part rest ih =>
      rw [setParameter]
      split
      case isTrue named => simp [dropped, isHint_of_hasName hint named]
      case isFalse => rw [List.filter_cons, List.filter_cons, ih]

theorem setParameter_idem (hint : IsHintName name) :
    setParameter platform name value (setParameter platform name value parts) =
      setParameter platform name value parts := by
  induction parts with
  | nil => rw [setParameter, setParameter, if_pos (hasName_self hint)]
  | cons part rest ih =>
      rw [setParameter]
      split
      case isTrue => rw [setParameter, if_pos (hasName_self hint)]
      case isFalse unnamed => rw [setParameter, if_neg unnamed, ih]

/-- A hint that is set stays set when another one is set. -/
theorem setParameter_setParameter {number : ℕ} (hint : IsHintName name)
    (second : IsHintName other) (different : name ≠ other)
    (settled : setParameter platform name value parts = parts) :
    setParameter platform name value (setParameter platform other number parts) =
      setParameter platform other number parts := by
  induction parts with
  | nil => exact absurd settled setParameter_ne_nil
  | cons part rest ih =>
      rw [setParameter] at settled
      cases named : hasName platform name part with
      | true =>
          have unnamed := not_hasName_of_hasName hint second different named
          rw [if_pos named, List.cons.injEq] at settled
          rw [setParameter, unnamed, if_neg Bool.false_ne_true, setParameter, if_pos named,
            settled.1]
      | false =>
          rw [named, if_neg Bool.false_ne_true, List.cons.injEq] at settled
          rw [setParameter]
          split
          case isTrue =>
            have unnamed : hasName platform name (hintPart other number) = false :=
              hasName_other second hint different.symm
            rw [setParameter, unnamed, if_neg Bool.false_ne_true, settled.2]
          case isFalse =>
            rw [setParameter, named, if_neg Bool.false_ne_true, ih settled.2]

/-- The parts with the three hints. -/
def hintParts (platform : CasePlatform) (config : BitrateConfig) (parts : List Text) : List Text :=
  setParameter platform maxName (config.videoMaxBitrateBps / 1000)
    (setParameter platform startName (config.videoStartBitrateBps / 1000)
      (setParameter platform minName (config.videoMinBitrateBps / 1000) parts))

theorem forall_hintParts (all : ∀ part ∈ parts, IsPart part) :
    ∀ part ∈ hintParts platform config parts, IsPart part :=
  forall_setParameter (isPart_hintPart (.inr (.inr rfl)))
    (forall_setParameter (isPart_hintPart (.inr (.inl rfl)))
      (forall_setParameter (isPart_hintPart (.inl rfl)) all))

theorem fmtpParts_appendFmtpParameter (hint : IsHintName name) (params : Text) :
    fmtpParts (appendFmtpParameter platform params name value) =
      setParameter platform name value (fmtpParts params) := by
  rw [appendFmtpParameter]
  apply fmtpParts_joinParts setParameter_ne_nil
  exact forall_setParameter (isPart_hintPart hint) fun _ => isPart_of_mem_fmtpParts

theorem bitrateHints_eq (params : Text) :
    bitrateHints platform config params =
      joinParts (hintParts platform config (fmtpParts params)) := by
  rw [bitrateHints, appendFmtpParameter, fmtpParts_appendFmtpParameter (.inr (.inl rfl)),
    fmtpParts_appendFmtpParameter (.inl rfl), hintParts]

theorem fmtpParts_bitrateHints (params : Text) :
    fmtpParts (bitrateHints platform config params) =
      hintParts platform config (fmtpParts params) := by
  rw [bitrateHints_eq]
  exact fmtpParts_joinParts setParameter_ne_nil
    (forall_hintParts fun _ => isPart_of_mem_fmtpParts)

theorem otherParams_bitrateHints (params : Text) :
    otherParams platform (bitrateHints platform config params) = otherParams platform params := by
  rw [otherParams, fmtpParts_bitrateHints, hintParts, filter_setParameter (.inr (.inr rfl)),
    filter_setParameter (.inr (.inl rfl)), filter_setParameter (.inl rfl), otherParams]

theorem hintParts_idem : hintParts platform config (hintParts platform config parts) =
    hintParts platform config parts := by
  have first : IsHintName minName := .inl rfl
  have second : IsHintName startName := .inr (.inl rfl)
  have third : IsHintName maxName := .inr (.inr rfl)
  have settledMin : setParameter platform minName (config.videoMinBitrateBps / 1000)
      (hintParts platform config parts) = hintParts platform config parts := by
    apply setParameter_setParameter first third (by decide)
    apply setParameter_setParameter first second (by decide)
    exact setParameter_idem first
  have settledStart : setParameter platform startName (config.videoStartBitrateBps / 1000)
      (hintParts platform config parts) = hintParts platform config parts := by
    apply setParameter_setParameter second third (by decide)
    exact setParameter_idem second
  have settledMax : setParameter platform maxName (config.videoMaxBitrateBps / 1000)
      (hintParts platform config parts) = hintParts platform config parts :=
    setParameter_idem third
  rw [hintParts, settledMin, settledStart, settledMax]

theorem bitrateHints_idem (params : Text) :
    bitrateHints platform config (bitrateHints platform config params) =
      bitrateHints platform config params := by
  rw [bitrateHints_eq, fmtpParts_bitrateHints, hintParts_idem, ← bitrateHints_eq]

end Parameters

end RemoteBrowser.Sdp
