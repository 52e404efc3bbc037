import RemoteBrowser.Swg.Handoff
import RemoteBrowser.Text.Lines

/-!
# Canonical strings of gateway requests

A bootstrap request and a handoff are signed under one secret over lines `name:value`.  The
lines of a bootstrap request with a contract version determine its normalised fields, and no
handoff has the same lines: a handoff has one line more, and a newline inside of a value only
adds to their number.
-/

namespace RemoteBrowser.Swg

namespace Platform

variable (platform : Platform)

/-- `normalizeSwgRequestFields`; a bootstrap request has no `sessionId`. -/
def normalizeSwgRequestFields (input : SwgFields) : SwgFields
  | .token => ""
  | .signature => ""
  | .sessionId => ""
  | .method => platform.normalizeMethod (input .method) "POST"
  | .originalMethod => platform.normalizeMethod (input .originalMethod) ""
  | .upstreamHost =>
      platform.trim (orElse (input .upstreamHost) (platform.deriveUpstreamDefaults input).1)
  | .upstreamScheme =>
      platform.trim (orElse (input .upstreamScheme) (platform.deriveUpstreamDefaults input).2.1)
  | .upstreamPort =>
      platform.trim (orElse (input .upstreamPort) (platform.deriveUpstreamDefaults input).2.2)
  | field => platform.trim (input field)

/-- The lines of the canonical string, some of which only a request with a contract version
has. -/
def requestOrder (versioned : Bool) : List SwgField :=
  let ifVersioned (fields : List SwgField) := if versioned then fields else []
  [SwgField.method] ++ ifVersioned [.contractVersion, .requestKind, .originalMethod] ++
    [SwgField.targetUrl, .timestamp, .transactionId] ++
    ifVersioned [.orgId, .boundaryType, .boundaryId, .originId, .originType] ++
    [SwgField.tenantId, .profileId, .policy] ++
    ifVersioned
      [.provider, .providerCategory, .fallbackProvider, .fallbackReason, .nonce, .keyId] ++
    [SwgField.upstreamHost, .upstreamScheme, .upstreamPort]

/-- One line of a canonical string. -/
def line (fields : SwgFields) (field : SwgField) : String := field.name ++ ":" ++ fields field

def buildSwgCanonicalString (input : SwgFields) : String :=
  let fields := platform.normalizeSwgRequestFields input
  "\n".intercalate ((requestOrder (fields .contractVersion != "")).map (line fields))

def signSwgRequest (input : SwgFields) : String :=
  platform.hmac (platform.buildSwgCanonicalString input)

/-- `verifySwgRequest`, which compares the trimmed texts. -/
def verifySwgRequest (input : SwgFields) (signature : String) : Bool :=
  platform.trim (platform.signSwgRequest input) = platform.trim signature

end Platform

/-! ## Lines -/

open Platform

/-- No value contains a newline, as in headers and in normalised URLs. -/
def SwgFields.OneLine (fields : SwgFields) : Prop := ∀ field, '\n' ∉ (fields field).toList

theorem newline_not_mem_name (field : SwgField) : '\n' ∉ field.name.toList := by
  cases field <;> decide

theorem newline_not_mem_line {fields : SwgFields} {field : SwgField}
    (single : '\n' ∉ (fields field).toList) : '\n' ∉ (line fields field).toList := by
  have name := newline_not_mem_name field
  simp [line, name, single]

theorem count_newline_lines {fields : SwgFields} {order : List SwgField} :
    ((order.map (line fields)).map fun part => part.toList.count '\n').sum = 0 ↔
      ∀ field ∈ order, '\n' ∉ (fields field).toList := by
  simp only [List.map_map, List.sum_eq_zero_iff_forall_eq_nat, List.mem_map, Function.comp_apply,
    forall_exists_index, and_imp, forall_apply_eq_imp_iff₂, List.count_eq_zero]
  constructor
  · intro free field member inside
    apply free field member
    simp [line, inside]
  · intro single field member
    exact newline_not_mem_line (single field member)

/-- Lines in one order that give the same text have the same values, if those on one side
have no newline: the text then has as many newlines as the order requires, and no value on the
other side has one. -/
theorem values_eq_of_lines_eq {left right : SwgFields} {order : List SwgField}
    (leftLines : ∀ field ∈ order, '\n' ∉ (left field).toList) (present : order ≠ [])
    (same : "\n".intercalate (order.map (line left)) =
      "\n".intercalate (order.map (line right))) :
    ∀ field ∈ order, left field = right field := by
  have rightLines : ∀ field ∈ order, '\n' ∉ (right field).toList := by
    apply count_newline_lines.mp
    have leftCount := Text.count_join '\n' (order.map (line left))
    have rightCount := Text.count_join '\n' (order.map (line right))
    have text : (Char.toString '\n').intercalate (order.map (line left)) =
        (Char.toString '\n').intercalate (order.map (line right)) := same
    rw [count_newline_lines.mpr leftLines, text, List.length_map] at leftCount
    rw [List.length_map] at rightCount
    omega
  have parts : order.map (line left) = order.map (line right) := by
    apply @Text.join_injective '\n' _ _ (by simpa using present) (by simpa using present)
    · intro part member
      obtain ⟨field, listed, rfl⟩ := List.mem_map.mp member
      exact newline_not_mem_line (leftLines field listed)
    · intro part member
      obtain ⟨field, listed, rfl⟩ := List.mem_map.mp member
      exact newline_not_mem_line (rightLines field listed)
    · exact same
  intro field member
  have equal : line left field = line right field := List.map_inj_left.mp parts field member
  exact (String.append_right_inj _).mp equal

/-! ## Bootstrap requests and handoffs -/

section Purposes

variable {platform : Platform} {input other : SwgFields}

theorem buildSwgCanonicalString_versioned
    (versioned : platform.normalizeSwgRequestFields input .contractVersion ≠ "") :
    platform.buildSwgCanonicalString input =
      "\n".intercalate
        ((requestOrder true).map (line (platform.normalizeSwgRequestFields input))) := by
  have flag : (platform.normalizeSwgRequestFields input .contractVersion != "") = true := by
    simpa using versioned
  rw [buildSwgCanonicalString, flag]

/-- The lines with a version name every field of a bootstrap request. -/
theorem mem_requestOrder (field : SwgField) :
    field ∈ requestOrder true ∨ field = .token ∨ field = .signature ∨ field = .sessionId := by
  cases field <;> decide

theorem normalizeSwgRequestFields_injective_lines
    (inputLines : (platform.normalizeSwgRequestFields input).OneLine)
    (inputVersion : platform.normalizeSwgRequestFields input .contractVersion ≠ "")
    (otherVersion : platform.normalizeSwgRequestFields other .contractVersion ≠ "")
    (same : platform.buildSwgCanonicalString input = platform.buildSwgCanonicalString other) :
    platform.normalizeSwgRequestFields input = platform.normalizeSwgRequestFields other := by
  rw [buildSwgCanonicalString_versioned inputVersion,
    buildSwgCanonicalString_versioned otherVersion] at same
  have values := values_eq_of_lines_eq (fun field _ => inputLines field) (by decide) same
  funext field
  rcases mem_requestOrder field with member | rfl | rfl | rfl
  · exact values field member
  · rfl
  · rfl
  · rfl

/-- A bootstrap request has 24 lines. -/
theorem newlines_of_request (lines : (platform.normalizeSwgRequestFields input).OneLine)
    (versioned : platform.normalizeSwgRequestFields input .contractVersion ≠ "") :
    (platform.buildSwgCanonicalString input).toList.count '\n' = 23 := by
  have count := Text.count_join '\n'
    ((requestOrder true).map (line (platform.normalizeSwgRequestFields input)))
  rw [count_newline_lines.mpr fun field _ => lines field, List.length_map] at count
  rw [buildSwgCanonicalString_versioned versioned]
  have length : (requestOrder true).length = 24 := by decide
  rw [length] at count
  exact Nat.succ.inj count

/-- A handoff has at least 25 lines. -/
theorem newlines_of_handoff (handoff : SwgFields) :
    24 ≤ (platform.buildSwgHandoffCanonicalString handoff).toList.count '\n' := by
  have count := Text.count_join '\n'
    (canonicalOrder.map (line (platform.normalizeSwgHandoffFields handoff)))
  have length : canonicalOrder.length = 25 := by decide
  rw [List.length_map, length] at count
  have joined : platform.buildSwgHandoffCanonicalString handoff =
      (Char.toString '\n').intercalate
        (canonicalOrder.map (line (platform.normalizeSwgHandoffFields handoff))) := rfl
  rw [joined]
  omega

theorem request_ne_handoff (lines : (platform.normalizeSwgRequestFields input).OneLine)
    (versioned : platform.normalizeSwgRequestFields input .contractVersion ≠ "")
    (handoff : SwgFields) :
    platform.buildSwgCanonicalString input ≠
      platform.buildSwgHandoffCanonicalString handoff := by
  intro same
  have fewer := newlines_of_request lines versioned
  have more := @newlines_of_handoff platform handoff
  rw [same] at fewer
  omega

/-- The main result: the canonical string of a bootstrap request binds all of its fields, and
no signature of a bootstrap request verifies for a handoff or the other way round.  Digests
are in hexadecimal, which trimming leaves as it is. -/
theorem canonical_strings_bind_and_separate (platform : Platform)
    (collisionFree : Function.Injective platform.hmac)
    (trimmed : ∀ text, platform.trim (platform.hmac text) = platform.hmac text)
    (input : SwgFields) (lines : (platform.normalizeSwgRequestFields input).OneLine)
    (versioned : platform.normalizeSwgRequestFields input .contractVersion ≠ "") :
    (∀ other, (platform.normalizeSwgRequestFields other).OneLine →
      platform.normalizeSwgRequestFields other .contractVersion ≠ "" →
      platform.buildSwgCanonicalString input = platform.buildSwgCanonicalString other →
      ∀ field, platform.normalizeSwgRequestFields input field =
        platform.normalizeSwgRequestFields other field) ∧
    ∀ handoff,
      platform.buildSwgCanonicalString input ≠
          platform.buildSwgHandoffCanonicalString handoff ∧
        platform.verifySwgHandoffRequest handoff (platform.signSwgRequest input) = false ∧
        platform.verifySwgRequest input (platform.signSwgHandoffRequest handoff) = false := by
  constructor
  · intro other _ otherVersion same field
    rw [normalizeSwgRequestFields_injective_lines lines versioned otherVersion same]
  · intro handoff
    have different := request_ne_handoff lines versioned handoff
    refine ⟨different, ?_, ?_⟩
    · rw [verifySwgHandoffRequest, signSwgHandoffRequest, signSwgRequest, trimmed, trimmed,
        decide_eq_false_iff_not]
      intro digests
      exact different (collisionFree digests).symm
    · rw [verifySwgRequest, signSwgHandoffRequest, signSwgRequest, trimmed, trimmed,
        decide_eq_false_iff_not]
      intro digests
      exact different (collisionFree digests)

/-- A platform on which the digest of a text shows the text. -/
def plainPlatform : Platform where
  trim := id
  toUpperCase := id
  toLowerCase := id
  number _ := none
  url _ := none
  encipher _ _ := ("", "", "")
  decipher _ _ _ := none
  hmac text := text
  tokenPayload _ := .error "Malformed token"

/-- A bootstrap request of version 1 for one tenant. -/
def plainRequest : SwgFields
  | .contractVersion => "1"
  | .orgId => "org-1"
  | .boundaryId => "org-1"
  | .tenantId => "org-1"
  | _ => ""

theorem plainRequest_oneLine : (plainPlatform.normalizeSwgRequestFields plainRequest).OneLine := by
  intro field
  cases field <;> decide

/-- A handoff whose session id imitates further lines does not verify with the signature of
the bootstrap request. -/
theorem imitated_lines_do_not_verify :
    plainPlatform.verifySwgHandoffRequest
      (fun field => if field = .sessionId then "s\ntargetUrl:" else plainRequest field)
      (plainPlatform.signSwgRequest plainRequest) = false :=
  ((canonical_strings_bind_and_separate plainPlatform (fun _ _ same => same) (fun _ => rfl)
    plainRequest plainRequest_oneLine (by decide)).2 _).2.1

end Purposes

end RemoteBrowser.Swg
