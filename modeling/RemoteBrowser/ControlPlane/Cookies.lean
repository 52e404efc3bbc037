import Mathlib.Data.Rat.Floor
import RemoteBrowser.Text.UriComponent

/-!
# The viewer's cookie

The control plane and the media gateway both set the cookie that carries a viewer's token, and
each escapes the token in its own way.  Only the control plane reads cookies, and it reads all of
them: a cookie that cannot be decoded fails the whole header.
-/

namespace RemoteBrowser.ControlPlane

open RemoteBrowser.Text

/-! ## Cookies that are set -/

structure CookieOptions where
  maxAge : Option ℚ := none
  domain : String := ""
  sameSite : String := ""
  secure : Bool := false

def buildCookie (name value : String) (options : CookieOptions) : String :=
  let maxAge := match options.maxAge with
    | none => []
    | some seconds => ["Max-Age=" ++ toString (max 0 ⌊seconds⌋)]
  let domain := if options.domain = "" then [] else ["Domain=" ++ options.domain]
  let sameSite := if options.sameSite = "" then "Lax" else options.sameSite
  "; ".intercalate
    ([name ++ "=" ++ String.ofList (encodeURIComponent value.toList), "Path=/", "HttpOnly"] ++
      maxAge ++ domain ++ ["SameSite=" ++ sameSite] ++ if options.secure then ["Secure"] else [])

def viewerCookieName (sessionId : String) : String := "rbi_viewer_" ++ sessionId

end RemoteBrowser.ControlPlane

namespace RemoteBrowser.MediaGateway

open RemoteBrowser.Text

def buildCookie (name value : String) (secure : Bool) (maxAge : Int) : String :=
  "; ".intercalate
    ([name ++ "=" ++ String.ofList (queryEscape value.toList), "Path=/", "HttpOnly"] ++
      (if 0 ≤ maxAge then ["Max-Age=" ++ toString maxAge] else []) ++ ["SameSite=Lax"] ++
      if secure then ["Secure"] else [])

end RemoteBrowser.MediaGateway

namespace RemoteBrowser.ControlPlane

open RemoteBrowser.Text

/-- What a client sends back of a cookie: the text up to the first semicolon. -/
def cookiePair (cookie : String) : List Char := cookie.toList.takeWhile (· ≠ ';')

/-! ## Cookies that are read -/

/-- A header as the server finds it. -/
inductive HeaderValue where
  | missing
  | text (value : String)
  | texts (values : List String)
  deriving DecidableEq

def normalizeHeaderValue : HeaderValue → String
  | .missing => ""
  | .text value => value
  | .texts values => values.headD ""

/-- The name and the escaped value in a part of the header; a part without a name is skipped. -/
def cookiePart (part : List Char) : Option (String × String) :=
  let separator := part.idxOf '='
  if separator = 0 ∨ part.length ≤ separator then none
  else
    let key := strip (String.ofList (part.take separator))
    let value := strip (String.ofList (part.drop (separator + 1)))
    if key = "" then none else some (key, value)

/-- The cookies are an object, whose prototype no text replaces. -/
def assignCookie (cookies : List (String × String)) (key value : String) :
    List (String × String) :=
  if key = "__proto__" then cookies else (key, value) :: cookies

def decodeValue (value : String) : Option String :=
  (decodeURIComponent value.toList).map String.ofList

def parseParts (cookies : List (String × String)) :
    List (List Char) → Option (List (String × String))
  | [] => some cookies
  | part :: rest =>
      match cookiePart part with
      | none => parseParts cookies rest
      | some (key, value) =>
          match decodeValue value with
          | none => none
          | some decoded => parseParts (assignCookie cookies key decoded) rest

/-- The newest assignment comes first.  There is no result where decoding throws. -/
def parseCookies (header : HeaderValue) : Option (List (String × String)) :=
  parseParts [] ((normalizeHeaderValue header).toList.splitOn ';')

def getViewerCookieToken (header : HeaderValue) (sessionId : String) : Option String :=
  (parseCookies header).map fun cookies =>
    (cookies.lookup (viewerCookieName sessionId)).getD ""

/-- The value that a part gives to a name. -/
def valueFor (name : String) (part : List Char) : Option String :=
  match cookiePart part with
  | none => none
  | some (key, value) => if key = name then decodeValue value else none

/-- The part does not make the whole header unreadable. -/
def Decodes (part : List Char) : Prop :=
  ∀ key value, cookiePart part = some (key, value) → decodeValue value ≠ none

/-- A header is read when all of its parts are. -/
theorem isSome_parseParts_iff (cookies : List (String × String)) (parts : List (List Char)) :
    (parseParts cookies parts).isSome ↔ ∀ part ∈ parts, Decodes part := by
  induction parts generalizing cookies with
  | nil => simp [parseParts]
  | cons part rest ih =>
      rw [parseParts, List.forall_mem_cons]
      cases read : cookiePart part with
      | none =>
          have decodes : Decodes part := by
            intro key value found
            rw [read] at found
            cases found
          simp only [ih, decodes, true_and]
      | some pair =>
          obtain ⟨key, value⟩ := pair
          dsimp only
          cases decoded : decodeValue value with
          | none =>
              have fails : ¬Decodes part := fun decodes => decodes key value read decoded
              simp [fails]
          | some text =>
              have decodes : Decodes part := by
                intro otherKey otherValue found
                rw [read] at found
                cases found
                simp [decoded]
              simp only [ih, decodes, true_and]

/-- The last part that has a name gives it its value. -/
theorem lookup_of_parseParts {name : String} (own : name ≠ "__proto__")
    {parts : List (List Char)} {cookies final : List (String × String)}
    (read : parseParts cookies parts = some final) :
    final.lookup name = (parts.filterMap (valueFor name)).getLast?.or (cookies.lookup name) := by
  induction parts generalizing cookies with
  | nil =>
      cases read
      rfl
  | cons part rest ih =>
      rw [parseParts] at read
      cases found : cookiePart part with
      | none =>
          rw [found] at read
          have value : valueFor name part = none := by simp only [valueFor, found]
          rw [List.filterMap_cons_none value]
          exact ih read
      | some pair =>
          obtain ⟨key, value⟩ := pair
          simp only [found] at read
          cases decoded : decodeValue value with
          | none =>
              rw [decoded] at read
              cases read
          | some text =>
              rw [decoded] at read
              rw [ih read]
              by_cases same : key = name
              case pos =>
                have given : valueFor name part = some text := by
                  simp only [valueFor, found, if_pos same, decoded]
                have kept : assignCookie cookies key text = (name, text) :: cookies := by
                  rw [assignCookie, same, if_neg own]
                rw [List.filterMap_cons_some given, kept, List.lookup_cons_self,
                  List.getLast?_cons]
                cases (rest.filterMap (valueFor name)).getLast? <;> rfl
              case neg =>
                have none : valueFor name part = none := by
                  simp only [valueFor, found, if_neg same]
                have other : (assignCookie cookies key text).lookup name =
                    cookies.lookup name := by
                  unfold assignCookie
                  split
                  · rfl
                  · rw [List.lookup_cons]
                    have different : (name == key) = false := by
                      simpa using fun equal : name = key => same equal.symm
                    rw [different]
                rw [List.filterMap_cons_none none, other]

/-! ## The viewer's cookie among others -/

/-- The characters of a cookie's name: printable, and not a separator. -/
def isCookieNameChar (char : Char) : Bool :=
  0x21 ≤ char.toNat && char.toNat ≤ 0x7E && !"()<>@,;:\\\"/[]?=\x7b\x7d".toList.contains char

/-- A client puts white space around a cookie, and other cookies before and after it. -/
structure Surroundings where
  before : List (List Char) := []
  lead : List Char := []
  trail : List Char := []
  after : List (List Char) := []
  separate : ∀ part ∈ before ++ after, ';' ∉ part
  leadBlank : ∀ char ∈ lead, isSpace char = true
  trailBlank : ∀ char ∈ trail, isSpace char = true

def Surroundings.header (around : Surroundings) (pair : List Char) : HeaderValue :=
  .text (String.ofList ([';'].intercalate
    (around.before ++ (around.lead ++ pair ++ around.trail) :: around.after)))

theorem isSpace_of_isCookieChar {char : Char} (printable : isCookieChar char = true) :
    isSpace char = false := by
  simp only [isCookieChar, Bool.and_eq_true, decide_eq_true_eq] at printable
  obtain ⟨⟨low, high⟩, -⟩ := printable
  simp only [isSpace, List.contains_eq_mem, List.mem_cons, List.not_mem_nil, or_false,
    Bool.or_eq_false_iff, Bool.and_eq_false_iff, decide_eq_false_iff_not]
  omega

theorem viewerCookieName_chars {sessionId : String}
    (named : ∀ char ∈ sessionId.toList, isCookieNameChar char = true) :
    ∀ char ∈ (viewerCookieName sessionId).toList, isCookieNameChar char = true := by
  have start : ∀ char ∈ "rbi_viewer_".toList, isCookieNameChar char = true := by
    decide
  intro char member
  rw [viewerCookieName, String.toList_append, List.mem_append] at member
  cases member with
  | inl member => exact start char member
  | inr member => exact named char member

theorem isCookieChar_of_name {char : Char} (named : isCookieNameChar char = true) :
    isCookieChar char = true ∧ char ≠ '=' := by
  simp only [isCookieNameChar, Bool.and_eq_true, decide_eq_true_eq, Bool.not_eq_true'] at named
  obtain ⟨⟨low, high⟩, free⟩ := named
  constructor
  · have different : char ≠ ';' := by
      rintro rfl
      revert free
      decide
    simp [isCookieChar, low, high, different]
  · rintro rfl
    revert free
    decide

/-- The pair with its white space is read as the name and the escaped value. -/
theorem cookiePart_padded {name : String} {value lead trail : List Char}
    (named : ∀ char ∈ name.toList, isCookieNameChar char = true) (present : name ≠ "")
    (printable : ∀ char ∈ value, isCookieChar char = true)
    (leadBlank : ∀ char ∈ lead, isSpace char = true)
    (trailBlank : ∀ char ∈ trail, isSpace char = true) :
    cookiePart (lead ++ (name.toList ++ '=' :: value) ++ trail) =
      some (name, String.ofList value) := by
  have whole : lead ++ (name.toList ++ '=' :: value) ++ trail =
      (lead ++ name.toList) ++ '=' :: (value ++ trail) := by
    simp
  have blank : isSpace '=' = false := by decide
  have absent : '=' ∉ lead ++ name.toList := by
    intro member
    cases List.mem_append.mp member with
    | inl member => simp [leadBlank _ member] at blank
    | inr member => exact (isCookieChar_of_name (named _ member)).2 rfl
  have separator : ((lead ++ name.toList) ++ '=' :: (value ++ trail)).idxOf '=' =
      (lead ++ name.toList).length := by
    rw [List.idxOf_append_of_notMem absent, List.idxOf_cons_self, Nat.add_zero]
  have long : 0 < name.toList.length := by
    apply List.length_pos_iff.mpr
    intro empty
    exact present (String.toList_inj.mp (by rw [empty]; rfl))
  have key : strip (String.ofList (lead ++ name.toList)) = name := by
    have padded := @strip_padded lead name.toList [] leadBlank (by simp) fun char member =>
      isSpace_of_isCookieChar (isCookieChar_of_name (named char member)).1
    rw [List.append_nil, String.ofList_toList] at padded
    exact padded
  have content : strip (String.ofList (value ++ trail)) = String.ofList value :=
    @strip_padded [] value trail (by simp) trailBlank fun char member =>
      isSpace_of_isCookieChar (printable char member)
  rw [whole]
  unfold cookiePart
  dsimp only
  have dropped : ((lead ++ name.toList) ++ '=' :: (value ++ trail)).drop
      ((lead ++ name.toList).length + 1) = value ++ trail := by
    rw [← List.drop_drop, List.drop_left]
    rfl
  rw [separator, List.take_left, dropped, key, content, if_neg, if_neg present]
  simp only [List.length_append, List.length_cons]
  omega

/-- What is sent back of a cookie is its first part. -/
theorem cookiePair_intercalate {first : String} (separate : ';' ∉ first.toList)
    (rest : List String) : cookiePair ("; ".intercalate (first :: rest)) = first.toList := by
  have plain : ∀ char ∈ first.toList, decide (char ≠ ';') = true := by
    intro char member
    simpa using fun same : char = ';' => separate (same ▸ member)
  rw [cookiePair, String.toList_intercalate, List.map_cons]
  cases rest with
  | nil =>
      rw [List.map_nil, List.intercalate_singleton]
      exact List.takeWhile_eq_self_iff.mpr plain
  | cons second rest =>
      rw [List.map_cons, List.intercalate_cons_cons, List.append_assoc,
        List.takeWhile_append_of_pos plain]
      exact List.append_nil _

/-- What the last of these parts with the name gives to it. -/
def lastValue (name : String) (parts : List (List Char)) : Option String :=
  (parts.filterMap (valueFor name)).getLast?

/-- A cookie is read when the whole header is, unless a later cookie has its name. -/
theorem getViewerCookieToken_header (around : Surroundings) {sessionId : String}
    {value read : List Char}
    (named : ∀ char ∈ sessionId.toList, isCookieNameChar char = true)
    (printable : ∀ char ∈ value, isCookieChar char = true)
    (decoded : decodeURIComponent value = some read) (token : String) :
    getViewerCookieToken
        (around.header ((viewerCookieName sessionId).toList ++ '=' :: value)) sessionId =
          some token ↔
      (∀ part ∈ around.before ++ around.after, Decodes part) ∧
        (lastValue (viewerCookieName sessionId) around.after).getD (String.ofList read) =
          token := by
  let name := viewerCookieName sessionId
  let own := around.lead ++ (name.toList ++ '=' :: value) ++ around.trail
  have chars := viewerCookieName_chars named
  have starts : 'b' ∈ name.toList := by
    rw [show name = "rbi_viewer_" ++ sessionId from rfl, String.toList_append]
    exact List.mem_append_left _ (by decide)
  have present : name ≠ "" := by
    intro empty
    rw [empty] at starts
    cases starts
  have notPrototype : name ≠ "__proto__" := by
    intro same
    rw [same] at starts
    revert starts
    decide
  have found : cookiePart own = some (name, String.ofList value) :=
    cookiePart_padded chars present printable around.leadBlank around.trailBlank
  have reads : decodeValue (String.ofList value) = some (String.ofList read) := by
    rw [decodeValue, String.toList_ofList, decoded]
    rfl
  -- The semicolons of the header are those between the parts.
  have separate : ';' ∉ own := by
    intro member
    rcases List.mem_append.mp member with member | blank
    · rcases List.mem_append.mp member with blank | member
      · have space := around.leadBlank _ blank
        revert space
        decide
      · rcases List.mem_append.mp member with member | member
        · have printed := (isCookieChar_of_name (chars _ member)).1
          revert printed
          decide
        · cases member with
          | tail _ member =>
              have printed := printable _ member
              revert printed
              decide
    · have space := around.trailBlank _ blank
      revert space
      decide
  have parts : (normalizeHeaderValue (around.header (name.toList ++ '=' :: value))).toList.splitOn
      ';' = around.before ++ own :: around.after := by
    rw [Surroundings.header, normalizeHeaderValue, String.toList_ofList]
    apply List.splitOn_intercalate
    · intro part member
      rcases List.mem_append.mp member with earlier | later
      · exact around.separate part (List.mem_append_left _ earlier)
      · cases later with
        | head => exact separate
        | tail _ later => exact around.separate part (List.mem_append_right _ later)
    · simp
  have ownDecodes : Decodes own := by
    intro key text same
    rw [found] at same
    cases same
    simp [reads]
  have everyPart : (∀ part ∈ around.before ++ own :: around.after, Decodes part) ↔
      ∀ part ∈ around.before ++ around.after, Decodes part := by
    simp only [List.forall_mem_append, List.forall_mem_cons, ownDecodes, true_and]
  have given : valueFor name own = some (String.ofList read) := by
    simp only [valueFor, found, if_true, reads]
  have last : ((around.before ++ own :: around.after).filterMap (valueFor name)).getLast? =
      some ((lastValue name around.after).getD (String.ofList read)) := by
    rw [List.filterMap_append, List.filterMap_cons_some given, List.getLast?_append,
      List.getLast?_cons]
    rfl
  unfold getViewerCookieToken parseCookies
  rw [parts, ← everyPart, ← isSome_parseParts_iff []]
  cases outcome : parseParts [] (around.before ++ own :: around.after) with
  | none => simp
  | some cookies =>
      have looked := lookup_of_parseParts notPrototype outcome
      rw [last] at looked
      change some ((cookies.lookup name).getD "") = some token ↔ _
      rw [looked, Option.some_inj]
      simp only [Option.isSome_some, true_and]
      rfl

/-! ## Both cookies -/

/-- Every other cookie can be decoded.  If a later one has the name, its value is the token; if
none has, the token has no spaces. -/
structure Legible (around : Surroundings) (sessionId token : String) : Prop where
  decodes : ∀ part ∈ around.before ++ around.after, Decodes part
  repeated : ∀ value,
    lastValue (viewerCookieName sessionId) around.after = some value → value = token
  spaceless : lastValue (viewerCookieName sessionId) around.after = none → ' ' ∉ token.toList

/-- The pair of a cookie whose value is escaped. -/
theorem cookiePair_escaped {name : String}
    (named : ∀ char ∈ name.toList, isCookieNameChar char = true) {escaped : List Char}
    (printable : ∀ char ∈ escaped, isCookieChar char = true) (rest : List String) :
    cookiePair ("; ".intercalate ((name ++ "=" ++ String.ofList escaped) :: rest)) =
      name.toList ++ '=' :: escaped := by
  have spelled : (name ++ "=" ++ String.ofList escaped).toList = name.toList ++ '=' :: escaped := by
    simp only [String.toList_append, String.toList_ofList, List.append_assoc]
    rfl
  rw [← spelled]
  apply cookiePair_intercalate
  rw [spelled]
  intro member
  rcases List.mem_append.mp member with member | member
  · have printed := (isCookieChar_of_name (named _ member)).1
    revert printed
    decide
  · cases member with
    | tail _ member =>
        have printed := printable _ member
        revert printed
        decide

theorem cookiePair_buildCookie {name : String}
    (named : ∀ char ∈ name.toList, isCookieNameChar char = true) (value : String)
    (options : CookieOptions) :
    cookiePair (buildCookie name value options) =
      name.toList ++ '=' :: encodeURIComponent value.toList :=
  cookiePair_escaped named (fun _ => isCookieChar_encodeURIComponent) _

theorem cookiePair_gatewayCookie {name : String}
    (named : ∀ char ∈ name.toList, isCookieNameChar char = true) (value : String)
    (secure : Bool) (maxAge : Int) :
    cookiePair (MediaGateway.buildCookie name value secure maxAge) =
      name.toList ++ '=' :: queryEscape value.toList :=
  cookiePair_escaped named (fun _ => isCookieChar_queryEscape) _

/-- A text is kept when it has no spaces that become plus signs. -/
theorem map_plusForSpace_eq_iff (chars : List Char) :
    chars.map plusForSpace = chars ↔ ' ' ∉ chars := by
  induction chars with
  | nil => simp
  | cons char rest ih =>
      rw [List.map_cons, List.cons.injEq, ih, List.mem_cons, not_or]
      apply and_congr_left
      intro _
      unfold plusForSpace
      split
      case isTrue space => simp [space]
      case isFalse other => simpa using fun same : ' ' = char => other same.symm

/-- When the control plane reads the token, from its own cookie and from the gateway's. -/
theorem viewer_cookie_is_read_iff (around : Surroundings) (sessionId token : String)
    (named : ∀ char ∈ sessionId.toList, isCookieNameChar char = true)
    (options : CookieOptions) (secure : Bool) (maxAge : Int) :
    (getViewerCookieToken (around.header
        (cookiePair (buildCookie (viewerCookieName sessionId) token options))) sessionId =
          some token ∧
      getViewerCookieToken (around.header
        (cookiePair (MediaGateway.buildCookie (viewerCookieName sessionId) token secure maxAge)))
          sessionId = some token) ↔
      Legible around sessionId token := by
  have chars := viewerCookieName_chars named
  rw [cookiePair_buildCookie chars, cookiePair_gatewayCookie chars,
    getViewerCookieToken_header around named (fun char => isCookieChar_encodeURIComponent)
      (decodeURIComponent_encodeURIComponent token.toList),
    getViewerCookieToken_header around named (fun char => isCookieChar_queryEscape)
      (decodeURIComponent_queryEscape token.toList), String.ofList_toList]
  cases last : lastValue (viewerCookieName sessionId) around.after with
  | none =>
      have spaces : String.ofList (token.toList.map plusForSpace) = token ↔
          ' ' ∉ token.toList := by
        rw [← map_plusForSpace_eq_iff, ← String.toList_inj, String.toList_ofList]
      simp only [Option.getD_none, spaces]
      constructor
      case mp =>
        intro readable
        exact ⟨readable.1.1, fun value given => (by rw [last] at given; cases given),
          fun _ => readable.2.2⟩
      case mpr =>
        intro legible
        exact ⟨⟨legible.decodes, trivial⟩, legible.decodes, legible.spaceless last⟩
  | some value =>
      simp only [Option.getD_some, and_self]
      constructor
      case mp =>
        intro readable
        constructor
        case decodes => exact readable.1
        case repeated =>
          intro other given
          rw [last, Option.some_inj] at given
          rw [← given]
          exact readable.2
        case spaceless =>
          intro none
          rw [last] at none
          cases none
      case mpr =>
        intro legible
        exact ⟨legible.decodes, legible.repeated value last⟩

/-- A cookie of another application, whose value is no escaped text, in front. -/
def strangerInFront : Surroundings where
  before := ["theme=100%".toList]
  lead := [' ']
  separate := by decide
  leadBlank := by decide
  trailBlank := by decide

/-- The viewer's cookie alone. -/
def aloneInHeader : Surroundings where
  separate := by decide
  leadBlank := by decide
  trailBlank := by decide

/-- A cookie of another application makes the header unreadable; and the gateway's cookie brings a
plus sign back for a space. -/
theorem stranger_hides_viewer_cookie :
    getViewerCookieToken (strangerInFront.header
        (cookiePair (buildCookie (viewerCookieName "s1") "token" {}))) "s1" = none ∧
      getViewerCookieToken (aloneInHeader.header
        (cookiePair (MediaGateway.buildCookie (viewerCookieName "s1") "a b" true 60))) "s1" =
          some "a+b" := by
  decide

/-- Other cookies before and after. -/
def amongOthers : Surroundings where
  before := ["lang=en%20GB".toList, " flag".toList]
  lead := [' ']
  after := [" theme=dark".toList]
  separate := by decide
  leadBlank := by decide
  trailBlank := by decide

theorem cookie_among_others_is_read :
    getViewerCookieToken (amongOthers.header
        (cookiePair (buildCookie (viewerCookieName "s1") "a+b/c=" {}))) "s1" = some "a+b/c=" ∧
      getViewerCookieToken (amongOthers.header
        (cookiePair (MediaGateway.buildCookie (viewerCookieName "s1") "a+b/c=" true 60))) "s1" =
          some "a+b/c=" := by
  apply (viewer_cookie_is_read_iff amongOthers "s1" "a+b/c=" (by decide) {} true 60).mpr
  constructor
  case decodes => exact (isSome_parseParts_iff [] _).mp (by decide)
  case repeated =>
    intro value given
    cases given
  case spaceless =>
    intro _
    decide

end RemoteBrowser.ControlPlane
