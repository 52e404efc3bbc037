import RemoteBrowser.MediaGateway.Contracts
import RemoteBrowser.Text.Percent

/-!
# The URLs of a session

Go's URL library parses what it has printed to the same scheme, host and path.  On that assumption
every URL that the gateway builds from an absolute base is absolute, and its path is known.
-/

namespace RemoteBrowser.MediaGateway

open Text

/-! ## The URL library -/

/-- The path begins with a slash. -/
def Rooted (path : String) : Prop := path.toList.head? = some '/'

instance (path : String) : Decidable (Rooted path) :=
  inferInstanceAs (Decidable (path.toList.head? = some '/'))

def webSchemes : List String := ["http", "https", "ws", "wss"]

namespace Platform

variable (platform : Platform)

/-- A query that was encoded, or none. -/
def IsQuery (query : String) : Prop :=
  query = "" ∨ ∃ url pairs, query = platform.withQuery url pairs

/-- What `net/url` promises for hierarchical URLs. -/
structure UrlLaws : Prop where
  hostless : ∀ raw url, platform.urlParse raw = some url → trimSpace raw = "" → url.host = ""
  rooted : ∀ raw url, platform.urlParse raw = some url → url.host ≠ "" →
    url.path = "" ∨ Rooted url.path
  reparsed : ∀ raw base scheme path query, platform.urlParse raw = some base →
    base.scheme ∈ webSchemes → base.host ≠ "" → scheme ∈ webSchemes → Rooted path →
    platform.IsQuery query →
      let printed := platform.urlString
        { base with scheme := scheme, path := path, rawQuery := query }
      trimSpace printed = printed ∧ ∃ target, platform.urlParse printed = some target ∧
        target.scheme = scheme ∧ target.host = base.host ∧ target.path = path

/-- The text is an absolute URL with one of the schemes. -/
structure IsAbsolute (schemes : List String) (raw : String) (url : Url) : Prop where
  parsed : platform.urlParse raw = some url
  scheme : url.scheme ∈ schemes
  host : url.host ≠ ""

def Serves (schemes : List String) (raw : String) : Prop :=
  ∃ url, platform.IsAbsolute schemes raw url

/-- The text is an absolute URL as it is printed. -/
structure Reaches (schemes : List String) (path printed : String) : Prop where
  trimmed : trimSpace printed = printed
  absolute : ∃ target, platform.IsAbsolute schemes printed target ∧ target.path = path

end Platform

/-! ## Paths -/

theorem Rooted.append {path : String} (rooted : Rooted path) (more : String) :
    Rooted (path ++ more) := by
  unfold Rooted at *
  rw [String.toList_append, List.head?_append, rooted]
  rfl

theorem trimRightSlashes_rooted {path : String} (rooted : Rooted path)
    (some : trimRightSlashes path ≠ "") : Rooted (trimRightSlashes path) := by
  unfold Rooted trimRightSlashes at *
  rw [String.toList_ofList]
  have front := List.rdropWhile_prefix (· = '/') path.toList
  obtain ⟨rest, whole⟩ := front
  cases kept : path.toList.rdropWhile (· = '/') with
  | nil =>
      rw [kept] at some
      exact absurd rfl some
  | cons first others =>
      rw [kept] at whole
      rw [← whole] at rooted
      exact rooted

theorem joinURLPath_rooted {base : String} (rooted : base = "" ∨ Rooted base) (next : String) :
    Rooted (joinURLPath base next) := by
  have slash : Rooted ("/" ++ trimLeftSlashes next) := by
    unfold Rooted
    rw [String.toList_append]
    rfl
  unfold joinURLPath
  dsimp only
  split
  · exact slash
  · next kept =>
      refine (trimRightSlashes_rooted ?_ kept).append _
      rcases rooted with rfl | rooted
      · exact absurd rfl kept
      · exact rooted

/-- The path begins with exactly one slash. -/
def OneSlash (path : String) : Prop := ∃ first rest, path.toList = '/' :: first :: rest ∧ first ≠ '/'

theorem OneSlash.append {path : String} (slash : OneSlash path) (more : String) :
    OneSlash (path ++ more) := by
  obtain ⟨first, rest, spelled, solid⟩ := slash
  exact ⟨first, rest ++ more.toList, by rw [String.toList_append, spelled]; rfl, solid⟩

theorem OneSlash.rooted {path : String} (slash : OneSlash path) : Rooted path := by
  obtain ⟨first, rest, spelled, -⟩ := slash
  rw [Rooted, spelled]
  rfl

/-- What has one slash is put behind the base without its slashes. -/
theorem joinURLPath_eq {next : String} (slash : OneSlash next) (base : String) :
    joinURLPath base next = trimRightSlashes base ++ next := by
  obtain ⟨first, rest, spelled, solid⟩ := slash
  have same : "/" ++ trimLeftSlashes next = next := by
    apply String.toList_injective
    simp only [String.toList_append, trimLeftSlashes, String.toList_ofList, spelled]
    rw [List.dropWhile_cons_of_pos (by decide), List.dropWhile_cons_of_neg (by simp [solid])]
    rfl
  unfold joinURLPath
  dsimp only
  rw [same]
  split
  · next none => rw [none, String.empty_append]
  · rfl

theorem trimRightSlashes_of_getLast {path : String} (last : path.toList.getLast? ≠ some '/') :
    trimRightSlashes path = path := by
  have kept : path.toList.rdropWhile (· = '/') = path.toList := by
    rw [List.rdropWhile_eq_self_iff]
    intro present slash
    rw [List.getLast?_eq_some_getLast present] at last
    exact last (congrArg some (of_decide_eq_true slash))
  rw [trimRightSlashes, kept, String.ofList_toList]

theorem trimSpace_rooted {path : String} (rooted : Rooted path) : Rooted (trimSpace path) := by
  unfold Rooted trimSpace at *
  rw [String.toList_ofList]
  cases chars : path.toList with
  | nil =>
      rw [chars] at rooted
      cases rooted
  | cons first rest =>
      rw [chars] at rooted
      cases rooted
      rw [List.dropWhile_cons_of_neg (by decide)]
      obtain ⟨dropped, whole⟩ := List.rdropWhile_prefix isUnicodeSpace ('/' :: rest)
      cases kept : ('/' :: rest).rdropWhile isUnicodeSpace with
      | nil =>
          have space := List.rdropWhile_eq_nil_iff.mp kept '/' List.mem_cons_self
          exact absurd space (by decide)
      | cons head others =>
          rw [kept] at whole
          cases whole
          rfl

theorem gatewayWebSocketPath_rooted {base next : String} (rooted : base = "" ∨ Rooted base)
    (slash : Rooted next) : Rooted (gatewayWebSocketPath base next) := by
  unfold gatewayWebSocketPath
  dsimp only
  split
  · exact slash
  · next kept =>
      have some : trimRightSlashes (trimSpace base) ≠ "" := fun empty => kept (.inl empty)
      refine joinURLPath_rooted (.inr (trimRightSlashes_rooted ?_ some)) next
      rcases rooted with rfl | rooted
      · exact absurd rfl some
      · exact trimSpace_rooted rooted

theorem signalingRoute_oneSlash : OneSlash "/gateway/signaling/" :=
  ⟨'g', "ateway/signaling/".toList, by rfl, by decide⟩

theorem viewerRoute_oneSlash : OneSlash "/gateway/viewer/" :=
  ⟨'g', "ateway/viewer/".toList, by rfl, by decide⟩

theorem mediaRoute_oneSlash : OneSlash "/gateway/media/" :=
  ⟨'g', "ateway/media/".toList, by rfl, by decide⟩

theorem webrtcRoute_oneSlash : OneSlash "/gateway/webrtc/" :=
  ⟨'g', "ateway/webrtc/".toList, by rfl, by decide⟩

/-! ## What is built from an absolute base -/

section Builders

variable {platform : Platform} (laws : platform.UrlLaws)

include laws in
theorem Platform.IsAbsolute.rebuilt {schemes : List String} (web : schemes ⊆ webSchemes)
    {raw : String} {base : Url} (absolute : platform.IsAbsolute schemes raw base)
    {path query : String} (rooted : Rooted path) (encoded : platform.IsQuery query) :
    platform.Reaches schemes path
      (platform.urlString { base with path := path, rawQuery := query }) := by
  have scheme := web absolute.scheme
  obtain ⟨trimmed, target, parsed, same, host, reached⟩ := laws.reparsed raw base base.scheme path
    query absolute.parsed scheme absolute.host scheme rooted encoded
  refine ⟨trimmed, target, ⟨parsed, ?_, ?_⟩, reached⟩
  · rw [same]
    exact absolute.scheme
  · rw [host]
    exact absolute.host

include laws in
theorem Platform.IsAbsolute.rooted {schemes : List String} {raw : String} {base : Url}
    (absolute : platform.IsAbsolute schemes raw base) : base.path = "" ∨ Rooted base.path :=
  laws.rooted raw base absolute.parsed absolute.host

include laws in
theorem buildViewerURL_reaches {schemes : List String} (web : schemes ⊆ webSchemes)
    {raw : String} {base : Url} (absolute : platform.IsAbsolute schemes raw base)
    (sessionID transport token : String) :
    platform.Reaches schemes (joinURLPath base.path ("/gateway/viewer/" ++ sessionID))
      (buildViewerURL platform raw sessionID transport token) := by
  unfold buildViewerURL
  rw [absolute.parsed]
  exact absolute.rebuilt laws web (joinURLPath_rooted (absolute.rooted laws) _) (.inr ⟨_, _, rfl⟩)

include laws in
theorem buildMediaRelayURL_reaches {schemes : List String} (web : schemes ⊆ webSchemes)
    {raw : String} {base : Url} (absolute : platform.IsAbsolute schemes raw base)
    (sessionID role transport : String) :
    platform.Reaches schemes
      (joinURLPath base.path ("/gateway/media/" ++ sessionID ++ "/" ++ role))
      (buildMediaRelayURL platform raw sessionID role transport) := by
  unfold buildMediaRelayURL
  rw [absolute.parsed]
  exact absolute.rebuilt laws web (joinURLPath_rooted (absolute.rooted laws) _) (.inr ⟨_, _, rfl⟩)

include laws in
theorem buildMediaGatewayURL_reaches {schemes : List String} (web : schemes ⊆ webSchemes)
    {raw : String} {base : Url} (absolute : platform.IsAbsolute schemes raw base)
    (sessionID role : String) :
    platform.Reaches schemes
      (joinURLPath base.path ("/gateway/webrtc/" ++ sessionID ++ "/" ++ role))
      (buildMediaGatewayURL platform raw sessionID role) := by
  unfold buildMediaGatewayURL
  rw [absolute.parsed]
  exact absolute.rebuilt laws web (joinURLPath_rooted (absolute.rooted laws) _) (.inl rfl)

include laws in
theorem buildSignalingURL_reaches {schemes : List String} (web : schemes ⊆ webSchemes)
    {raw : String} {base : Url} (absolute : platform.IsAbsolute schemes raw base)
    (sessionID transport : String) :
    platform.Reaches schemes
      (gatewayWebSocketPath base.path ("/gateway/signaling/" ++ sessionID ++ "/viewer"))
      (buildSignalingURL platform raw sessionID transport) := by
  have slash := (signalingRoute_oneSlash.rooted.append sessionID).append "/viewer"
  have rooted := gatewayWebSocketPath_rooted (absolute.rooted laws) slash
  unfold buildSignalingURL
  rw [absolute.parsed]
  dsimp only
  exact absolute.rebuilt laws web rooted (.inr ⟨_, _, rfl⟩)

include laws in
/-- The derived URL is a web socket URL. -/
theorem deriveWSURL_reaches {raw : String} {base : Url}
    (absolute : platform.IsAbsolute ["http", "https"] raw base) :
    platform.Reaches ["ws", "wss"] (joinURLPath base.path "/ws") (deriveWSURL platform raw) := by
  have scheme : base.scheme ∈ webSchemes :=
    List.Subset.trans (by decide : ["http", "https"] ⊆ webSchemes) (List.Subset.refl _)
      absolute.scheme
  have derived : (if base.scheme = "https" then "wss" else if base.scheme = "http" then "ws"
      else base.scheme) ∈ ["ws", "wss"] := by
    rcases List.mem_pair.mp absolute.scheme with same | same <;> rw [same] <;> decide
  obtain ⟨trimmed, target, parsed, same, host, reached⟩ := laws.reparsed raw base _
    (joinURLPath base.path "/ws") "" absolute.parsed scheme absolute.host
    ((by decide : ["ws", "wss"] ⊆ webSchemes) derived)
    (joinURLPath_rooted (absolute.rooted laws) _) (.inl rfl)
  unfold deriveWSURL
  rw [absolute.parsed]
  refine ⟨trimmed, target, ⟨parsed, ?_, ?_⟩, reached⟩
  · rw [same]
    exact derived
  · rw [host]
    exact absolute.host

end Builders

/-! ## A sample URL library -/

namespace Spelled

/-- The characters that a path is printed with as they are. -/
def isPlain (char : Char) : Bool :=
  0x21 ≤ char.toNat && char.toNat ≤ 0x7E && !(['%', '?', '#', ';', '"'].contains char)

/-- Every other character is printed as its number, in unary digits. -/
def encode : List Char → List Char
  | [] => []
  | char :: rest =>
      if isPlain char then char :: encode rest
      else '%' :: (List.replicate char.toNat '0' ++ ';' :: encode rest)

/-- Within an escape, the digits so far are counted. -/
def decode : Option Nat → List Char → Option (List Char)
  | none, [] => some []
  | none, char :: rest =>
      if char = '%' then decode (some 0) rest else (decode none rest).map (char :: ·)
  | some count, '0' :: rest => decode (some (count + 1)) rest
  | some count, ';' :: rest => (decode none rest).map (Char.ofNat count :: ·)
  | some _, _ => none

theorem decode_replicate (count more : Nat) (rest : List Char) :
    decode (some count) (List.replicate more '0' ++ ';' :: rest) =
      (decode none rest).map (Char.ofNat (count + more) :: ·) := by
  induction more generalizing count with
  | zero => rfl
  | succ more ih =>
      rw [List.replicate_succ, List.cons_append, decode, ih, Nat.add_right_comm, Nat.add_assoc]

theorem decode_encode (chars : List Char) : decode none (encode chars) = some chars := by
  induction chars with
  | nil => rfl
  | cons char rest ih =>
      unfold encode
      split
      case isTrue plain =>
        have literal : char ≠ '%' := by
          rintro rfl
          revert plain
          decide
        rw [decode, if_neg literal, ih]
        rfl
      case isFalse =>
        rw [decode, if_pos rfl, decode_replicate, ih, Nat.zero_add, Char.ofNat_toNat]
        rfl

theorem encode_append (first second : List Char) :
    encode (first ++ second) = encode first ++ encode second := by
  induction first with
  | nil => rfl
  | cons char rest ih =>
      rw [List.cons_append, encode, encode, ih]
      split
      case isTrue => rfl
      case isFalse => simp

/-- What is printed is plain or part of an escape. -/
theorem mem_encode {char : Char} {chars : List Char} (member : char ∈ encode chars) :
    isPlain char = true ∨ char = '%' ∨ char = ';' := by
  induction chars with
  | nil => cases member
  | cons first rest ih =>
      unfold encode at member
      split at member
      case isTrue plain =>
        rcases List.mem_cons.mp member with rfl | later
        · exact .inl plain
        · exact ih later
      case isFalse =>
        rcases List.mem_cons.mp member with rfl | later
        · exact .inr (.inl rfl)
        · rcases List.mem_append.mp later with digit | later
          · rw [List.eq_of_mem_replicate digit]
            exact .inl (by decide)
          · rcases List.mem_cons.mp later with rfl | later
            · exact .inr (.inr rfl)
            · exact ih later

def isHostChar (char : Char) : Bool := char ≠ '/' && char ≠ '?'

/-- The text before a separator and the rest. -/
def parseChars (chars : List Char) : Option Url :=
  match chars.dropWhile (· ≠ ':') with
  | ':' :: '/' :: '/' :: rest =>
      let located := rest.dropWhile isHostChar
      (decode none (located.takeWhile (· ≠ '?'))).map fun path =>
        { scheme := String.ofList (chars.takeWhile (· ≠ ':'))
          host := String.ofList (rest.takeWhile isHostChar)
          path := String.ofList path
          rawPath := ""
          rawQuery := String.ofList ((located.dropWhile (· ≠ '?')).drop 1)
          rest := "" }
  | _ => none

def printChars (url : Url) : List Char :=
  url.scheme.toList ++ (':' :: '/' :: '/' :: (url.host.toList ++ (encode url.path.toList ++
    if url.rawQuery = "" then [] else '?' :: url.rawQuery.toList)))

end Spelled

open Spelled in
/-- URLs of the form `scheme://host/path?query` without white space. -/
def spelledPlatform : Platform where
  urlParse := fun raw =>
    if raw.toList.any isUnicodeSpace then none else parseChars raw.toList
  urlString := fun url => String.ofList (printChars url)
  hostname := fun url => url.host
  escapedPath := fun url => String.ofList (pathEscape url.path.toList)
  withQuery := fun _ pairs => String.ofList
    (encode ("&".intercalate (pairs.reverse.map fun pair => pair.1 ++ "=" ++ pair.2)).toList)
  isIP := fun _ => false
  toLower := fun text => text.toLower

namespace Spelled

/-- No white space and no separator is printed. -/
theorem printed_char {char : Char} {chars : List Char} (member : char ∈ encode chars) :
    isUnicodeSpace char = false ∧ char ≠ '?' := by
  rcases mem_encode member with plain | rfl | rfl
  · refine ⟨?_, ?_⟩
    · simp only [isPlain, Bool.and_eq_true, decide_eq_true_eq] at plain
      obtain ⟨⟨above, below⟩, -⟩ := plain
      refine Bool.eq_false_iff.mpr fun space => ?_
      simp only [isUnicodeSpace, List.contains_cons, List.contains_nil, Bool.or_eq_true,
        Bool.and_eq_true, decide_eq_true_eq, beq_iff_eq, Bool.false_eq_true, or_false] at space
      omega
    · rintro rfl
      revert plain
      decide
  · decide
  · decide

theorem encode_rooted {path : String} (rooted : Rooted path) :
    ∃ rest, path.toList = '/' :: rest ∧ encode path.toList = '/' :: encode rest := by
  unfold Rooted at rooted
  cases chars : path.toList with
  | nil =>
      rw [chars] at rooted
      cases rooted
  | cons first rest =>
      rw [chars] at rooted
      cases rooted
      exact ⟨rest, rfl, by rw [encode, if_pos (by decide)]⟩

/-- What a parsed URL consists of. -/
theorem parseChars_inv {chars : List Char} {url : Url} (parsed : parseChars chars = some url) :
    ':' ∈ chars ∧ (∀ char ∈ url.host.toList, char ∈ chars ∧ isHostChar char = true) ∧
      (url.path = "" ∨ Rooted url.path) := by
  unfold parseChars at parsed
  split at parsed
  case h_2 => cases parsed
  case h_1 rest separated =>
    have inside : ∀ char, char ∈ ':' :: '/' :: '/' :: rest → char ∈ chars := by
      intro char member
      rw [← separated] at member
      exact (List.dropWhile_suffix _).subset member
    obtain ⟨path, decoded, rfl⟩ := Option.map_eq_some_iff.mp parsed
    refine ⟨inside ':' (by simp), ?_, ?_⟩
    · intro char member
      rw [String.toList_ofList] at member
      refine ⟨inside char ?_, List.mem_takeWhile_imp member⟩
      exact List.mem_cons_of_mem _ (List.mem_cons_of_mem _ (List.mem_cons_of_mem _
        ((List.takeWhile_prefix _).subset member)))
    · -- What follows the host is empty or begins with a separator.
      cases located : rest.dropWhile isHostChar with
      | nil =>
          rw [located] at decoded
          cases decoded
          exact .inl rfl
      | cons first others =>
          have stops : isHostChar first = false := by
            have head := List.head?_dropWhile_not isHostChar rest
            rw [located] at head
            simpa using head
          rw [located] at decoded
          by_cases query : first = '?'
          · subst query
            cases decoded
            exact .inl rfl
          · have slash : first = '/' := by
              unfold isHostChar at stops
              simpa [query] using stops
            subst slash
            rw [List.takeWhile_cons_of_pos (by decide), decode, if_neg (by decide)] at decoded
            obtain ⟨tail, -, rfl⟩ := Option.map_eq_some_iff.mp decoded
            exact .inr (by simp [Rooted])

/-- Printing is undone by parsing. -/
theorem parseChars_printChars {scheme host path : String} (web : ':' ∉ scheme.toList)
    (plain : ∀ char ∈ host.toList, isHostChar char = true) (rooted : Rooted path)
    (query rawPath others : String) :
    parseChars (printChars ⟨scheme, host, path, rawPath, query, others⟩) =
      some ⟨scheme, host, path, "", query, ""⟩ := by
  obtain ⟨rest, spelled, encoded⟩ := encode_rooted rooted
  have schemeChars : ∀ char ∈ scheme.toList, decide (char ≠ ':') = true := by
    intro char member
    refine decide_eq_true fun same => web ?_
    rw [← same]
    exact member
  have pathChars : ∀ char ∈ encode path.toList, decide (char ≠ '?') = true :=
    fun char member => decide_eq_true (printed_char member).2
  have ends : ∀ more : List Char,
      (encode path.toList ++ more).dropWhile isHostChar = encode path.toList ++ more := by
    intro more
    rw [encoded, List.cons_append, List.dropWhile_cons_of_neg (by decide)]
  have starts : ∀ more : List Char,
      (encode path.toList ++ more).takeWhile isHostChar = [] := by
    intro more
    rw [encoded, List.cons_append, List.takeWhile_cons_of_neg (by decide)]
  unfold parseChars printChars
  rw [List.dropWhile_append_of_pos schemeChars, List.takeWhile_append_of_pos schemeChars,
    List.dropWhile_cons_of_neg (by decide), List.takeWhile_cons_of_neg (by decide)]
  split
  case h_2 _ otherwise => exact absurd rfl (otherwise _)
  case h_1 _ _ same =>
    cases same
    rw [List.dropWhile_append_of_pos plain, List.takeWhile_append_of_pos plain, ends, starts]
    dsimp only
    rw [List.takeWhile_append_of_pos pathChars, List.dropWhile_append_of_pos pathChars]
    split
    case isTrue none =>
      subst none
      simp [decode_encode]
    case isFalse => simp [decode_encode]

end Spelled

open Spelled in
/-- What is printed for a URL that was parsed and changed is parsed to the changed URL. -/
theorem spelledPlatform_reparsed {raw scheme path query : String} {base : Url}
    (parsed : spelledPlatform.urlParse raw = some base) (web : scheme ∈ webSchemes)
    (rooted : Rooted path) (tight : ∀ char ∈ query.toList, isUnicodeSpace char = false) :
    let printed := spelledPlatform.urlString
      { base with scheme := scheme, path := path, rawQuery := query }
    trimSpace printed = printed ∧
      spelledPlatform.urlParse printed = some ⟨scheme, base.host, path, "", query, ""⟩ := by
  simp only [spelledPlatform] at parsed
  split at parsed
  case isTrue => cases parsed
  case isFalse solid =>
    obtain ⟨-, host, -⟩ := parseChars_inv parsed
    have schemes : ∀ scheme ∈ webSchemes,
        ':' ∉ scheme.toList ∧ ∀ char ∈ scheme.toList, isUnicodeSpace char = false := by
      decide
    have solidPrint : ∀ char ∈ printChars { base with
        scheme := scheme, path := path, rawQuery := query }, isUnicodeSpace char = false := by
      intro char member
      simp only [printChars, List.mem_append, List.mem_cons] at member
      rcases member with inScheme | rfl | rfl | rfl | inHost | inPath | inQuery
      · exact (schemes scheme web).2 char inScheme
      · decide
      · decide
      · decide
      · exact Bool.eq_false_iff.mpr fun space =>
          solid (List.any_eq_true.mpr ⟨char, (host char inHost).1, space⟩)
      · exact (printed_char inPath).1
      · split at inQuery
        case isTrue => cases inQuery
        case isFalse =>
          rcases List.mem_cons.mp inQuery with rfl | later
          · decide
          · exact tight char later
    have reread := parseChars_printChars (schemes scheme web).1 (fun char member =>
      (host char member).2) rooted query base.rawPath base.rest
    constructor
    · exact trimSpace_of_forall (by simpa [spelledPlatform] using solidPrint)
    · simp only [spelledPlatform, String.toList_ofList]
      rw [if_neg, reread]
      simpa using solidPrint

open Spelled in
theorem spelledPlatform_laws : spelledPlatform.UrlLaws := by
  constructor
  case hostless =>
    intro raw url parsed blank
    simp only [spelledPlatform] at parsed
    split at parsed
    case isTrue => cases parsed
    case isFalse solid =>
      have whole : trimSpace raw = raw := trimSpace_of_forall (by simpa using solid)
      rw [← whole, blank] at parsed
      exact absurd (parseChars_inv parsed).1 (by simp)
  case rooted =>
    intro raw url parsed _
    simp only [spelledPlatform] at parsed
    split at parsed
    case isTrue => cases parsed
    case isFalse => exact (parseChars_inv parsed).2.2
  case reparsed =>
    intro raw base scheme path query parsed _ _ web rooted encoded
    have tight : ∀ char ∈ query.toList, isUnicodeSpace char = false := by
      intro char member
      rcases encoded with rfl | ⟨url, pairs, rfl⟩
      · cases member
      · simp only [spelledPlatform, String.toList_ofList] at member
        exact (printed_char member).1
    obtain ⟨trimmed, reread⟩ := spelledPlatform_reparsed parsed web rooted tight
    exact ⟨trimmed, _, reread, rfl, rfl, rfl⟩

end RemoteBrowser.MediaGateway
