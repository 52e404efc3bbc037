import RemoteBrowser.MediaGateway.Hub
import RemoteBrowser.MediaGateway.Idempotence
import RemoteBrowser.MediaGateway.Responses
import RemoteBrowser.Text.Percent

/-!
# Routes of the gateway

Requests are handed to handlers by the segments of their paths, and the handlers read the session
and the role from the path.  The URLs that a response hands out come back to the gateway exactly
if their base URLs add nothing to the routes and the session's id stands for itself in a path.
-/

namespace RemoteBrowser.MediaGateway

open Text

/-! ## The multiplexer -/

/-- One step of `path.Clean`, with the segments that are kept so far, the last one first. -/
def pushSegment (kept : List (List Char)) (segment : List Char) : List (List Char) :=
  if segment = [] ∨ segment = ['.'] then kept
  else if segment = ['.', '.'] then kept.tail
  else segment :: kept

def cleanSegments (segments : List (List Char)) : List (List Char) :=
  (segments.foldl pushSegment []).reverse

/-- `cleanPath` of `net/http`. -/
def cleanPath (path : List Char) : List Char :=
  let rooted := if path.head? = some '/' then path else '/' :: path
  let cleaned := '/' :: ['/'].intercalate (cleanSegments (rooted.splitOn '/'))
  if rooted.getLast? = some '/' ∧ cleaned ≠ ['/'] then cleaned ++ ['/'] else cleaned

inductive MuxHandler where
  | healthz
  | summary
  | createSession
  | sessionRoute
  | gatewayViewer
  | signaling
  | mediaRelay
  | webRTCRelay
  | viewerProxy
  deriving DecidableEq

/-- `Handler`: no two of the patterns match the same path. -/
def muxPatterns : List (String × MuxHandler) :=
  [("/healthz", .healthz), ("/v1/summary", .summary), ("/v1/sessions", .createSession),
    ("/v1/sessions/", .sessionRoute), ("/gateway/viewer/", .gatewayViewer),
    ("/gateway/signaling/", .signaling), ("/ws/gateway/signaling/", .signaling),
    ("/gateway/media/", .mediaRelay), ("/gateway/webrtc/", .webRTCRelay),
    ("/viewer", .viewerProxy), ("/viewer/", .viewerProxy), ("/viewer.html", .viewerProxy),
    ("/viewer.js", .viewerProxy), ("/viewer.css", .viewerProxy), ("/shared/", .viewerProxy),
    ("/api/sessions/", .viewerProxy)]

/-- A pattern that ends in a slash matches every path below it. -/
def patternMatches (pattern : String) (segments : List (List UInt8)) : Bool :=
  let parts := (pattern.toList.splitOn '/').map utf8
  if parts.getLast? = some [] then
    parts.dropLast.isPrefixOf segments && decide (parts.length ≤ segments.length)
  else parts = segments

def readSegment (segment : List Char) : List UInt8 :=
  (pathUnescape segment).getD (utf8 segment)

/-- The handler of a request; a path that is not clean is redirected. -/
def muxHandler (escapedPath : List Char) : Option MuxHandler :=
  if cleanPath escapedPath = escapedPath then
    (muxPatterns.find? fun entry =>
      patternMatches entry.1 ((escapedPath.splitOn '/').map readSegment)).map Prod.snd
  else none

/-! ## The parsers of the routes -/

structure Route where
  sessionID : List UInt8
  role : Role
  deriving DecidableEq

/-- `strings.TrimSuffix(path, "/")`. -/
def trimSuffixSlash (path : List Char) : List Char :=
  if path.getLast? = some '/' then path.dropLast else path

/-- `strings.TrimPrefix(path, "/ws")`. -/
def trimPrefixWs (path : List Char) : List Char :=
  if ['/', 'w', 's'].isPrefixOf path then path.drop 3 else path

def parseRole (part : List Char) : Option Role :=
  if part = (roleName .viewer).toList then some .viewer
  else if part = (roleName .worker).toList then some .worker
  else none

/-- The session and the role, from the last two parts. -/
def parseEnds (sessionID role : List Char) : Option Route := do
  let role ← parseRole role
  let sessionID ← pathUnescape sessionID
  if sessionID = [] then none else return ⟨sessionID, role⟩

/-- The five parts of a route of such a kind. -/
def parseParts (kind : String) : List (List Char) → Option Route
  | [_, gateway, name, sessionID, role] =>
      if gateway = "gateway".toList ∧ name = kind.toList then parseEnds sessionID role else none
  | _ => none

def parseSignalRoute (path : List Char) : Option Route :=
  parseParts "signaling" ((trimPrefixWs (trimSuffixSlash path)).splitOn '/')

def parseMediaRoute (path : List Char) : Option Route :=
  parseParts "media" ((trimSuffixSlash path).splitOn '/')

def parseWebRTCRoute (path : List Char) : Option (Route × List Char) :=
  match (trimSuffixSlash path).splitOn '/' with
  | [front, gateway, name, sessionID, role, action] =>
      if action = "offer".toList ∨ action = "ice".toList then
        (parseParts "webrtc" [front, gateway, name, sessionID, role]).map (·, action)
      else none
  | _ => none

/-! ## Clean paths -/

/-- The segments that `path.Clean` keeps. -/
def IsProper (segment : List Char) : Prop :=
  segment ≠ [] ∧ segment ≠ ['.'] ∧ segment ≠ ['.', '.']

theorem pushSegment_proper {kept : List (List Char)} {segment : List Char}
    (proper : IsProper segment) : pushSegment kept segment = segment :: kept := by
  obtain ⟨filled, dot, dots⟩ := proper
  rw [pushSegment, if_neg (by simp [filled, dot]), if_neg dots]

theorem cleanSegments_proper {segments : List (List Char)}
    (proper : ∀ segment ∈ segments, IsProper segment) : cleanSegments segments = segments := by
  have pushed : ∀ kept, segments.foldl pushSegment kept = segments.reverse ++ kept := by
    induction segments with
    | nil => exact fun kept => rfl
    | cons segment rest ih =>
        intro kept
        obtain ⟨first, others⟩ := List.forall_mem_cons.mp proper
        rw [List.foldl_cons, pushSegment_proper first, ih others, List.reverse_cons,
          List.append_assoc]
        rfl
  rw [cleanSegments, pushed, List.append_nil, List.reverse_reverse]

/-- What is kept is proper and was there. -/
theorem mem_cleanSegments {segments : List (List Char)} {segment : List Char}
    (member : segment ∈ cleanSegments segments) : IsProper segment ∧ segment ∈ segments := by
  have pushed : ∀ kept, segment ∈ segments.foldl pushSegment kept →
      segment ∈ kept ∨ IsProper segment ∧ segment ∈ segments := by
    clear member
    induction segments with
    | nil => exact fun kept member => .inl member
    | cons first rest ih =>
        intro kept member
        rcases ih _ member with early | ⟨proper, later⟩
        · unfold pushSegment at early
          split at early
          · exact .inl early
          · next other =>
              split at early
              · exact .inl (List.mem_of_mem_tail early)
              · next dots =>
                  rcases List.mem_cons.mp early with rfl | early
                  · exact .inr ⟨⟨fun none => other (.inl none), fun dot => other (.inr dot),
                      dots⟩, List.mem_cons_self⟩
                  · exact .inl early
        · exact .inr ⟨proper, List.mem_cons_of_mem _ later⟩
  rcases pushed [] (List.mem_reverse.mp member) with impossible | found
  · cases impossible
  · exact found

/-- A path that ends in a slash has an empty segment at its end. -/
theorem nil_mem_of_getLast {path : List Char} {segments : List (List Char)}
    (split : path.splitOn '/' = [] :: segments) (some : segments ≠ [])
    (last : path.getLast? = Option.some '/') : [] ∈ segments := by
  obtain ⟨front, rfl⟩ := List.getLast?_eq_some_iff.mp last
  rw [List.splitOn_append_cons_self, List.splitOn_nil] at split
  have ends := congrArg List.getLast? split
  rw [List.getLast?_append_of_ne_nil _ (by simp), List.getLast?_singleton,
    List.getLast?_cons_of_ne_nil some] at ends
  exact List.mem_of_getLast? ends.symm

/-- A rooted path of proper segments is clean. -/
theorem cleanPath_of_proper {path : List Char} {segments : List (List Char)}
    (split : path.splitOn '/' = [] :: segments) (some : segments ≠ [])
    (proper : ∀ segment ∈ segments, IsProper segment) : cleanPath path = path := by
  have whole : '/' :: ['/'].intercalate segments = path := by
    have joined : ['/'].intercalate (path.splitOn '/') = path := List.intercalate_splitOn '/'
    rw [split, List.intercalate_cons_of_ne_nil some] at joined
    exact joined
  have rooted : path.head? = Option.some '/' := by rw [← whole]; rfl
  have cleaned : cleanSegments ([] :: segments) = segments := by
    rw [cleanSegments, List.foldl_cons]
    exact cleanSegments_proper proper
  have last : path.getLast? ≠ Option.some '/' := fun slash =>
    (proper [] (nil_mem_of_getLast split some slash)).1 rfl
  unfold cleanPath
  rw [if_pos rooted]
  dsimp only
  rw [split, cleaned, whole, if_neg fun both => last both.1]

/-- A clean path has no dots for segments. -/
theorem proper_of_cleanPath {path : List Char} (clean : cleanPath path = path)
    {segment : List Char} (member : segment ∈ path.splitOn '/') (filled : segment ≠ []) :
    IsProper segment := by
  unfold cleanPath at clean
  generalize (if path.head? = some '/' then path else '/' :: path) = rooted at clean
  dsimp only at clean
  have inside : ∀ part ∈ ('/' :: ['/'].intercalate (cleanSegments
      (rooted.splitOn '/'))).splitOn '/', part ≠ [] → IsProper part := by
    intro part member present
    rw [splitOn_cons_self] at member
    have later := (List.mem_cons.mp member).resolve_left present
    by_cases none : cleanSegments (rooted.splitOn '/') = []
    · rw [none, List.intercalate_nil, List.splitOn_nil, List.mem_singleton] at later
      exact absurd later present
    · rw [List.splitOn_intercalate _ (fun segment kept =>
        not_mem_of_mem_splitOn (mem_cleanSegments kept).2) none] at later
      exact (mem_cleanSegments later).1
  rw [← clean] at member
  split at member
  · rw [List.splitOn_append_cons_self, List.splitOn_nil] at member
    rcases List.mem_append.mp member with early | last
    · exact inside segment early filled
    · exact absurd (List.mem_singleton.mp last) filled
  · exact inside segment member filled

/-- Printing keeps and makes no dots. -/
theorem isProper_pathEscape {segment : List Char} :
    IsProper (pathEscape segment) ↔ IsProper segment := by
  have dot : pathEscape ['.'] = ['.'] := by rfl
  have dots : pathEscape ['.', '.'] = ['.', '.'] := by rfl
  have same (other : List Char) (kept : pathEscape other = other) :
      pathEscape segment = other ↔ segment = other := by
    constructor
    · intro printed
      exact pathEscape_injective (printed.trans kept.symm)
    · rintro rfl
      exact kept
  simp only [IsProper, ne_eq, same _ pathEscape_nil, same _ dot, same _ dots]

/-! ## Paths of routes -/

/-- The path of a route of such a kind, before its last parts. -/
def routeChars (kind : String) (rest : List Char) : List Char :=
  '/' :: ("gateway".toList ++ '/' :: (kind.toList ++ '/' :: rest))

/-- The kinds of routes are segments. -/
def kinds : List String := ["viewer", "signaling", "media", "webrtc"]

theorem slash_not_mem_kind {kind : String} (known : kind ∈ kinds) : '/' ∉ kind.toList := by
  revert kind
  decide

theorem splitOn_routeChars {kind : String} (known : kind ∈ kinds) (front rest : List Char) :
    (front ++ routeChars kind rest).splitOn '/' =
      front.splitOn '/' ++ "gateway".toList :: kind.toList :: rest.splitOn '/' := by
  have gateway : '/' ∉ "gateway".toList := by decide
  rw [routeChars, List.splitOn_append_cons_self, List.splitOn_append_cons_self,
    List.splitOn_append_cons_self, List.splitOn_eq_singleton gateway,
    List.splitOn_eq_singleton (slash_not_mem_kind known)]
  rfl

theorem splitOn_routeChars_nil {kind : String} (known : kind ∈ kinds) (rest : List Char) :
    (routeChars kind rest).splitOn '/' =
      [] :: "gateway".toList :: kind.toList :: rest.splitOn '/' :=
  splitOn_routeChars known [] rest

def handlerOf (kind : String) : Option MuxHandler :=
  [("viewer", MuxHandler.gatewayViewer), ("signaling", .signaling), ("media", .mediaRelay),
    ("webrtc", .webRTCRelay)].lookup kind

/-- The patterns of the routes. -/
theorem find_pattern {kind : String} (known : kind ∈ kinds) (part : List UInt8)
    (parts : List (List UInt8)) :
    (muxPatterns.find? fun entry => patternMatches entry.1
      ([] :: utf8 "gateway".toList :: utf8 kind.toList :: part :: parts)).map Prod.snd =
        handlerOf kind := by
  simp only [kinds, List.mem_cons, List.not_mem_nil, or_false] at known
  rcases known with rfl | rfl | rfl | rfl <;> rfl

/-- The segments that the multiplexer compares are those of the path. -/
theorem readSegments_pathEscape (path : List Char) :
    ((pathEscape path).splitOn '/').map readSegment = (path.splitOn '/').map utf8 := by
  rw [splitOn_pathEscape, List.map_map]
  refine List.map_congr_left fun segment _ => ?_
  rw [Function.comp_apply, readSegment, pathUnescape_pathEscape, Option.getD_some]

/-- A route of proper segments is handed to the handler of its kind. -/
theorem muxHandler_route {kind : String} (known : kind ∈ kinds) {rest : List Char}
    (proper : ∀ segment ∈ rest.splitOn '/', IsProper segment) :
    muxHandler (pathEscape (routeChars kind rest)) = handlerOf kind := by
  have named : ∀ kind ∈ kinds, IsProper kind.toList := by
    unfold IsProper
    decide
  have gateway : IsProper "gateway".toList := by
    unfold IsProper
    decide
  have split := splitOn_routeChars_nil known rest
  have printed : (pathEscape (routeChars kind rest)).splitOn '/' =
      [] :: ("gateway".toList :: kind.toList :: rest.splitOn '/').map pathEscape := by
    rw [splitOn_pathEscape, split]
    rfl
  have clean : cleanPath (pathEscape (routeChars kind rest)) =
      pathEscape (routeChars kind rest) := by
    refine cleanPath_of_proper printed (by simp) fun segment member => ?_
    obtain ⟨part, inside, rfl⟩ := List.mem_map.mp member
    rw [isProper_pathEscape]
    rcases List.mem_cons.mp inside with rfl | inside
    · exact gateway
    · rcases List.mem_cons.mp inside with rfl | inside
      · exact named kind known
      · exact proper part inside
  unfold muxHandler
  rw [if_pos clean, readSegments_pathEscape, split]
  cases below : rest.splitOn '/' with
  | nil => exact absurd below (List.splitOn_ne_nil '/' rest)
  | cons first parts => exact find_pattern known (utf8 first) (parts.map utf8)

/-- Only clean paths are handed to handlers. -/
theorem proper_of_muxHandler {path : List Char} {handler : MuxHandler}
    (found : muxHandler (pathEscape path) = some handler) {segment : List Char}
    (member : segment ∈ path.splitOn '/') (filled : segment ≠ []) : IsProper segment := by
  unfold muxHandler at found
  split at found
  case isFalse => cases found
  case isTrue clean =>
    have inside : pathEscape segment ∈ (pathEscape path).splitOn '/' := by
      rw [splitOn_pathEscape]
      exact List.mem_map_of_mem member
    have present : pathEscape segment ≠ [] := fun none =>
      filled (pathEscape_injective (none.trans pathEscape_nil.symm))
    exact isProper_pathEscape.mp (proper_of_cleanPath clean inside present)

/-! ## Sessions that stand for themselves -/

/-- The id is one segment, which is neither unescaped nor cleaned away. -/
structure IsPlainID (sessionID : List Char) : Prop where
  segment : '/' ∉ sessionID
  literal : '%' ∉ sessionID
  dot : sessionID ≠ ['.']
  dots : sessionID ≠ ['.', '.']

theorem parseRole_roleName (role : Role) : parseRole (roleName role).toList = some role := by
  cases role <;> rfl

theorem roleName_proper (role : Role) :
    '/' ∉ (roleName role).toList ∧ IsProper (roleName role).toList := by
  unfold IsProper
  cases role <;> decide +kernel

/-- The session and the role are read back exactly if the id has no escapes. -/
theorem parseEnds_iff {sessionID : List Char} (filled : sessionID ≠ []) (role : Role) :
    parseEnds sessionID (roleName role).toList = some ⟨utf8 sessionID, role⟩ ↔
      '%' ∉ sessionID := by
  have present : utf8 sessionID ≠ [] := fun none => filled (utf8_eq_nil.mp none)
  constructor
  · intro parsed
    unfold parseEnds at parsed
    rw [parseRole_roleName] at parsed
    obtain ⟨read, unescaped, passed⟩ := Option.bind_eq_some_iff.mp
      ((Option.bind_some ..).symm.trans parsed)
    split at passed
    · cases passed
    · cases passed
      exact pathUnescape_eq_utf8_iff.mp unescaped
  · intro literal
    unfold parseEnds
    rw [parseRole_roleName, pathUnescape_of_plain literal]
    exact if_neg present

theorem length_of_parseParts {kind : String} {parts : List (List Char)} {route : Route}
    (parsed : parseParts kind parts = some route) : parts.length = 5 := by
  unfold parseParts at parsed
  split at parsed
  · rfl
  · cases parsed

theorem parseParts_five {kind : String} (front sessionID role : List Char) :
    parseParts kind [front, "gateway".toList, kind.toList, sessionID, role] =
      parseEnds sessionID role := by
  rw [parseParts, if_pos ⟨rfl, rfl⟩]

/-- The parts of a route. -/
theorem splitOn_route {kind : String} (known : kind ∈ kinds) (front sessionID role : List Char)
    (segment : '/' ∉ role) :
    (front ++ routeChars kind (sessionID ++ '/' :: role)).splitOn '/' =
      front.splitOn '/' ++ "gateway".toList :: kind.toList ::
        (sessionID.splitOn '/' ++ [role]) := by
  rw [splitOn_routeChars known, List.splitOn_append_cons_self, List.splitOn_eq_singleton segment]

/-- Two texts with two parts between them are segments. -/
theorem segments_of_parts {front sessionID : List Char}
    (two : (front.splitOn '/').length + (sessionID.splitOn '/').length = 2) :
    '/' ∉ front ∧ '/' ∉ sessionID := by
  have frontParts := List.length_pos_of_ne_nil (List.splitOn_ne_nil '/' front)
  have idParts := List.length_pos_of_ne_nil (List.splitOn_ne_nil '/' sessionID)
  constructor <;> exact length_splitOn_eq_one_iff.mp (by omega)

/-- The five parts of a route are read back exactly if nothing is put before the route and its id
is a segment without escapes. -/
theorem parseParts_route {kind : String} (known : kind ∈ kinds) {front sessionID : List Char}
    (filled : sessionID ≠ []) (role : Role) :
    parseParts kind ((front ++ routeChars kind
        (sessionID ++ '/' :: (roleName role).toList)).splitOn '/') =
      some ⟨utf8 sessionID, role⟩ ↔ '/' ∉ front ∧ '/' ∉ sessionID ∧ '%' ∉ sessionID := by
  rw [splitOn_route known _ _ _ (roleName_proper role).1]
  constructor
  · intro parsed
    have five := length_of_parseParts parsed
    simp only [List.length_append, List.length_cons, List.length_nil] at five
    obtain ⟨alone, segment⟩ := @segments_of_parts front sessionID (by omega)
    rw [List.splitOn_eq_singleton alone, List.splitOn_eq_singleton segment] at parsed
    exact ⟨alone, segment, (parseEnds_iff filled role).mp ((parseParts_five _ _ _).symm.trans
      parsed)⟩
  · rintro ⟨alone, segment, literal⟩
    rw [List.splitOn_eq_singleton alone, List.splitOn_eq_singleton segment]
    exact (parseParts_five _ _ _).trans ((parseEnds_iff filled role).mpr literal)

/-- A path that ends in a name has no slash at its end. -/
theorem trimSuffixSlash_of_segment {front name : List Char} (filled : name ≠ [])
    (segment : '/' ∉ name) : trimSuffixSlash (front ++ name) = front ++ name := by
  refine if_neg fun last => ?_
  rw [List.getLast?_append_of_ne_nil _ filled] at last
  exact segment (List.mem_of_getLast? last)

/-- The path of a route of three more parts, behind a base. -/
def rolePath (front : List Char) (kind : String) (sessionID : List Char) (role : Role) : List Char :=
  front ++ routeChars kind (sessionID ++ '/' :: (roleName role).toList)

theorem rolePath_eq (front : List Char) (kind : String) (sessionID : List Char) (role : Role) :
    ∃ before, rolePath front kind sessionID role = before ++ (roleName role).toList := by
  refine ⟨front ++ routeChars kind (sessionID ++ ['/']), ?_⟩
  simp [rolePath, routeChars]

theorem trimSuffixSlash_rolePath (front : List Char) (kind : String) (sessionID : List Char)
    (role : Role) :
    trimSuffixSlash (rolePath front kind sessionID role) = rolePath front kind sessionID role := by
  obtain ⟨before, same⟩ := rolePath_eq front kind sessionID role
  rw [same]
  exact trimSuffixSlash_of_segment (roleName_proper role).2.1 (roleName_proper role).1

/-- The segments of such a route without a base are proper exactly if its id is. -/
theorem muxHandler_rolePath {kind : String} (known : kind ∈ kinds) {sessionID : List Char}
    (filled : sessionID ≠ []) (plain : IsPlainID sessionID) (role : Role) :
    muxHandler (pathEscape (rolePath [] kind sessionID role)) = handlerOf kind := by
  refine muxHandler_route known fun segment member => ?_
  rw [List.splitOn_append_cons_self, List.splitOn_eq_singleton plain.segment,
    List.splitOn_eq_singleton (roleName_proper role).1] at member
  rcases List.mem_pair.mp member with rfl | rfl
  · exact ⟨filled, plain.dot, plain.dots⟩
  · exact (roleName_proper role).2

/-- A route with an id that is handed to a handler has a proper id. -/
theorem proper_of_rolePath {kind : String} (known : kind ∈ kinds) {front sessionID : List Char}
    {role : Role} {handler : MuxHandler} (filled : sessionID ≠ []) (segment : '/' ∉ sessionID)
    (found : muxHandler (pathEscape (rolePath front kind sessionID role)) = some handler) :
    IsProper sessionID := by
  refine proper_of_muxHandler found ?_ filled
  rw [rolePath, splitOn_route known _ _ _ (roleName_proper role).1,
    List.splitOn_eq_singleton segment]
  simp

/-- A media route comes back exactly if nothing is put before it and its id is plain. -/
theorem mediaRoute_iff {front sessionID : List Char} (filled : sessionID ≠ [])
    (rooted : front = [] ∨ front.head? = some '/') (role : Role) :
    muxHandler (pathEscape (rolePath front "media" sessionID role)) = some .mediaRelay ∧
        parseMediaRoute (rolePath front "media" sessionID role) = some ⟨utf8 sessionID, role⟩ ↔
      front = [] ∧ IsPlainID sessionID := by
  have known : "media" ∈ kinds := by decide
  unfold parseMediaRoute
  rw [trimSuffixSlash_rolePath]
  constructor
  · rintro ⟨found, parsed⟩
    obtain ⟨alone, segment, literal⟩ := (parseParts_route known filled role).mp parsed
    obtain ⟨-, dot, dots⟩ := proper_of_rolePath known filled segment found
    refine ⟨rooted.resolve_right fun slash => alone (List.mem_of_head? slash), segment, literal,
      dot, dots⟩
  · rintro ⟨rfl, plain⟩
    exact ⟨muxHandler_rolePath known filled plain role, (parseParts_route known filled role).mpr
      ⟨List.not_mem_nil, plain.segment, plain.literal⟩⟩

/-! ## The viewer's entrance -/

/-- The id is read back exactly if nothing is put before the route and the id is a segment. -/
theorem gatewayViewerSession_iff {front : List Char} {sessionID path : String}
    (filled : sessionID ≠ "") (spelled : path.toList = front ++ routeChars "viewer" sessionID.toList) :
    gatewayViewerSession path = some sessionID ↔ front = [] ∧ '/' ∉ sessionID.toList := by
  have entry : "/gateway/viewer/".toList = routeChars "viewer" [] := by rfl
  have whole : routeChars "viewer" sessionID.toList =
      "/gateway/viewer/".toList ++ sessionID.toList := by
    rw [entry]
    simp [routeChars]
  have slash : '/' ∈ path.toList := by
    rw [spelled]
    exact List.mem_append_right _ List.mem_cons_self
  unfold gatewayViewerSession
  dsimp only
  constructor
  · intro read
    by_cases starts : path.startsWith "/gateway/viewer/" = true
    · obtain ⟨rest, same⟩ := String.startsWith_string_iff.mp starts
      have dropped : path.toList.drop "/gateway/viewer/".length = rest := by
        rw [← same, ← String.length_toList, List.drop_left]
      rw [if_pos starts, dropped] at read
      split at read
      · cases read
      · next passed =>
          have named : sessionID.toList = rest := by
            rw [← Option.some.inj read, String.toList_ofList]
          rw [String.toList_ofList, ← named] at passed
          have lengths := congrArg List.length same
          rw [spelled, whole, named] at lengths
          simp only [List.length_append] at lengths
          exact ⟨List.eq_nil_of_length_eq_zero (by omega), fun member => passed (.inr member)⟩
    · rw [if_neg starts] at read
      split at read
      · cases read
      · next passed => exact absurd (.inr slash) passed
  · rintro ⟨rfl, segment⟩
    rw [List.nil_append, whole] at spelled
    have starts : path.startsWith "/gateway/viewer/" = true :=
      String.startsWith_string_iff.mpr (spelled ▸ List.prefix_append _ _)
    have rest : String.ofList (path.toList.drop "/gateway/viewer/".length) = sessionID := by
      rw [spelled, ← String.length_toList, List.drop_left, String.ofList_toList]
    rw [if_pos starts, rest, if_neg]
    rintro (none | member)
    · exact filled none
    · exact segment member

/-- The viewer's entrance comes back exactly if nothing is put before it and the id is a segment
that is not cleaned away. -/
theorem viewerRoute_iff {front : List Char} {sessionID path : String} (filled : sessionID ≠ "")
    (spelled : path.toList = front ++ routeChars "viewer" sessionID.toList) :
    muxHandler (pathEscape path.toList) = some .gatewayViewer ∧
        gatewayViewerSession path = some sessionID ↔
      front = [] ∧ '/' ∉ sessionID.toList ∧ sessionID.toList ≠ ['.'] ∧
        sessionID.toList ≠ ['.', '.'] := by
  have known : "viewer" ∈ kinds := by decide
  have present : sessionID.toList ≠ [] := fun none => filled (String.toList_eq_nil_iff.mp none)
  rw [gatewayViewerSession_iff filled spelled]
  constructor
  · rintro ⟨found, rfl, segment⟩
    have proper : IsProper sessionID.toList := by
      refine proper_of_muxHandler found ?_ present
      rw [spelled, splitOn_routeChars known, List.splitOn_eq_singleton segment]
      simp
    exact ⟨rfl, segment, proper.2⟩
  · rintro ⟨rfl, segment, dots⟩
    refine ⟨?_, rfl, segment⟩
    rw [spelled]
    refine muxHandler_route known fun part member => ?_
    rw [List.splitOn_eq_singleton segment, List.mem_singleton] at member
    rw [member]
    exact ⟨present, dots⟩

/-! ## The routes of the relay -/

def relayActions : List String := ["offer", "ice"]

theorem relayAction_proper {action : String} (known : action ∈ relayActions) :
    '/' ∉ action.toList ∧ IsProper action.toList := by
  revert action
  unfold IsProper
  decide

theorem splitOn_actionPath (front sessionID : List Char) (role : Role) {action : String}
    (known : action ∈ relayActions) :
    (rolePath front "webrtc" sessionID role ++ '/' :: action.toList).splitOn '/' =
      front.splitOn '/' ++ "gateway".toList :: "webrtc".toList ::
        (sessionID.splitOn '/' ++ [(roleName role).toList, action.toList]) := by
  rw [List.splitOn_append_cons_self, rolePath,
    splitOn_route (by decide) _ _ _ (roleName_proper role).1,
    List.splitOn_eq_singleton (relayAction_proper known).1]
  simp

theorem parseWebRTCRoute_actionPath {front sessionID : List Char} (filled : sessionID ≠ [])
    (role : Role) {action : String} (known : action ∈ relayActions) :
    parseWebRTCRoute (rolePath front "webrtc" sessionID role ++ '/' :: action.toList) =
        some (⟨utf8 sessionID, role⟩, action.toList) ↔
      '/' ∉ front ∧ '/' ∉ sessionID ∧ '%' ∉ sessionID := by
  have acts : action.toList = "offer".toList ∨ action.toList = "ice".toList := by
    rcases List.mem_pair.mp known with rfl | rfl
    · exact .inl rfl
    · exact .inr rfl
  have ending := @trimSuffixSlash_of_segment (rolePath front "webrtc" sessionID role ++ ['/']) _
    (relayAction_proper known).2.1 (relayAction_proper known).1
  rw [List.append_assoc, List.singleton_append] at ending
  unfold parseWebRTCRoute
  rw [ending, splitOn_actionPath front sessionID role known]
  constructor
  · intro parsed
    have six : (front.splitOn '/' ++ "gateway".toList :: "webrtc".toList ::
        (sessionID.splitOn '/' ++ [(roleName role).toList, action.toList])).length = 6 := by
      split at parsed
      · next same => rw [same]; rfl
      · cases parsed
    simp only [List.length_append, List.length_cons, List.length_nil] at six
    obtain ⟨alone, segment⟩ := @segments_of_parts front sessionID (by omega)
    rw [List.splitOn_eq_singleton alone, List.splitOn_eq_singleton segment] at parsed
    simp only [List.cons_append, List.nil_append, acts, if_true, parseParts_five] at parsed
    obtain ⟨route, ends, same⟩ := Option.map_eq_some_iff.mp parsed
    rw [(Prod.mk.inj same).1] at ends
    exact ⟨alone, segment, (parseEnds_iff filled role).mp ends⟩
  · rintro ⟨alone, segment, literal⟩
    rw [List.splitOn_eq_singleton alone, List.splitOn_eq_singleton segment]
    simp only [List.cons_append, List.nil_append, acts, if_true, parseParts_five,
      (parseEnds_iff filled role).mpr literal]
    rfl

/-- A route of the relay comes back exactly if nothing is put before it and its id is plain. -/
theorem webrtcRoute_iff {front sessionID : List Char} (filled : sessionID ≠ [])
    (rooted : front = [] ∨ front.head? = some '/') (role : Role) {action : String}
    (known : action ∈ relayActions) :
    muxHandler (pathEscape (rolePath front "webrtc" sessionID role ++ '/' :: action.toList)) =
        some .webRTCRelay ∧
      parseWebRTCRoute (rolePath front "webrtc" sessionID role ++ '/' :: action.toList) =
        some (⟨utf8 sessionID, role⟩, action.toList) ↔
      front = [] ∧ IsPlainID sessionID := by
  have listed : "webrtc" ∈ kinds := by decide
  rw [parseWebRTCRoute_actionPath filled role known]
  constructor
  · rintro ⟨found, alone, segment, literal⟩
    obtain ⟨-, dot, dots⟩ : IsProper sessionID := by
      refine proper_of_muxHandler found ?_ filled
      rw [splitOn_actionPath front sessionID role known, List.splitOn_eq_singleton segment]
      simp
    exact ⟨rooted.resolve_right fun slash => alone (List.mem_of_head? slash), segment, literal,
      dot, dots⟩
  · rintro ⟨rfl, plain⟩
    refine ⟨?_, List.not_mem_nil, plain.segment, plain.literal⟩
    have whole : rolePath [] "webrtc" sessionID role ++ '/' :: action.toList =
        routeChars "webrtc" (sessionID ++ '/' :: ((roleName role).toList ++ '/' ::
          action.toList)) := by
      simp [rolePath, routeChars]
    rw [whole]
    refine muxHandler_route listed fun segment member => ?_
    rw [List.splitOn_append_cons_self, List.splitOn_append_cons_self,
      List.splitOn_eq_singleton plain.segment,
      List.splitOn_eq_singleton (roleName_proper role).1,
      List.splitOn_eq_singleton (relayAction_proper known).1] at member
    simp only [List.singleton_append, List.mem_cons, List.not_mem_nil, or_false] at member
    rcases member with rfl | rfl | rfl
    · exact ⟨filled, plain.dot, plain.dots⟩
    · exact (roleName_proper role).2
    · exact (relayAction_proper known).2

/-- Without an action the path is no route of the relay. -/
theorem parseWebRTCRoute_rolePath (front sessionID : List Char) (role : Role) :
    parseWebRTCRoute (rolePath front "webrtc" sessionID role) = none := by
  unfold parseWebRTCRoute
  rw [trimSuffixSlash_rolePath, rolePath, splitOn_route (by decide) _ _ _ (roleName_proper role).1]
  split
  · next first gateway name id part action same =>
      have ends : (roleName role).toList = action := by
        have last := congrArg List.getLast? same
        rw [← List.cons_append, ← List.cons_append, ← List.append_assoc, List.getLast?_concat] at last
        exact Option.some.inj last
      rw [if_neg]
      rw [← ends]
      cases role <;> decide +kernel
  · rfl

/-! ## The signaling route -/

/-- A path whose second segment is another is not handed to the handler of signaling. -/
theorem second_of_signaling {second : List UInt8} {rest : List (List UInt8)}
    (found : (muxPatterns.find? fun entry =>
      patternMatches entry.1 ([] :: second :: rest)).map Prod.snd = some .signaling) :
    second = utf8 "gateway".toList ∨ second = utf8 "ws".toList := by
  obtain ⟨entry, located, same⟩ := Option.map_eq_some_iff.mp found
  have matched := List.find?_some located
  have listed := List.mem_of_find?_eq_some located
  have names : ∀ entry ∈ muxPatterns, entry.2 = .signaling →
      entry.1 = "/gateway/signaling/" ∨ entry.1 = "/ws/gateway/signaling/" := by decide
  have direct : ("/gateway/signaling/".toList.splitOn '/').map utf8 =
      [[], utf8 "gateway".toList, utf8 "signaling".toList, []] := by rfl
  have behind : ("/ws/gateway/signaling/".toList.splitOn '/').map utf8 =
      [[], utf8 "ws".toList, utf8 "gateway".toList, utf8 "signaling".toList, []] := by
    rfl
  rcases names entry listed same with named | named
  · rw [named] at matched
    simp only [patternMatches, direct, List.getLast?_cons_cons, List.getLast?_singleton, if_true,
      List.dropLast_cons_cons, List.isPrefixOf, Bool.and_eq_true, beq_iff_eq] at matched
    exact .inl matched.1.2.1.symm
  · rw [named] at matched
    simp only [patternMatches, behind, List.getLast?_cons_cons, List.getLast?_singleton, if_true,
      List.dropLast_cons_cons, List.isPrefixOf, Bool.and_eq_true, beq_iff_eq] at matched
    exact .inr matched.1.2.1.symm

/-- What is put before the signaling route, if anything is, does not make another route. -/
theorem not_signalingRoute {front sessionID : List Char} (filled : sessionID ≠ [])
    (rooted : front.head? = some '/') (last : front.getLast? ≠ some '/')
    (other : front ≠ ['/', 'w', 's']) (role : Role) :
    ¬(muxHandler (pathEscape (rolePath front "signaling" sessionID role)) = some .signaling ∧
      parseSignalRoute (rolePath front "signaling" sessionID role) =
        some ⟨utf8 sessionID, role⟩) := by
  have known : "signaling" ∈ kinds := by decide
  rintro ⟨found, parsed⟩
  unfold parseSignalRoute at parsed
  rw [trimSuffixSlash_rolePath] at parsed
  by_cases ws : ['/', 'w', 's'].isPrefixOf (rolePath front "signaling" sessionID role)
  · -- Only `/ws…` with one slash passes the parser, and no pattern begins with it.
    obtain ⟨rest, same⟩ := List.isPrefixOf_iff_prefix.mp ws
    obtain ⟨more, rfl⟩ : ∃ more, front = '/' :: 'w' :: 's' :: more := by
      rcases front with _ | ⟨slash, _ | ⟨first, _ | ⟨second, more⟩⟩⟩
      · cases rooted
      · cases rooted
        exact absurd rfl last
      · cases rooted
        simp [rolePath, routeChars] at same
      · simp only [rolePath, List.cons_append, List.cons.injEq] at same
        obtain ⟨rfl, rfl, rfl, -⟩ := same
        exact ⟨more, rfl⟩
    have kept : trimPrefixWs (rolePath ('/' :: 'w' :: 's' :: more) "signaling" sessionID role) =
        rolePath more "signaling" sessionID role := rfl
    rw [kept] at parsed
    obtain ⟨alone, -, -⟩ := (parseParts_route known filled role).mp parsed
    have present : more ≠ [] := by
      rintro rfl
      exact other rfl
    have segment : '/' ∉ 'w' :: 's' :: more := by
      simp [alone]
    unfold muxHandler at found
    split at found
    case isFalse => cases found
    case isTrue =>
      rw [readSegments_pathEscape, rolePath, splitOn_routeChars known, splitOn_cons_self,
        List.splitOn_eq_singleton segment] at found
      rcases second_of_signaling found with gateway | prefixed
      · have same := utf8_injective gateway
        revert same
        simp
      · have same := utf8_injective prefixed
        revert same
        simp [present]
  · have kept : trimPrefixWs (rolePath front "signaling" sessionID role) =
        rolePath front "signaling" sessionID role := if_neg ws
    rw [kept] at parsed
    obtain ⟨alone, -, -⟩ := (parseParts_route known filled role).mp parsed
    exact alone (List.mem_of_head? rooted)

/-- The signaling route without a base comes back exactly if its id is plain. -/
theorem signalingRoute_iff {sessionID : List Char} (filled : sessionID ≠ []) (role : Role) :
    muxHandler (pathEscape (rolePath [] "signaling" sessionID role)) = some .signaling ∧
        parseSignalRoute (rolePath [] "signaling" sessionID role) = some ⟨utf8 sessionID, role⟩ ↔
      IsPlainID sessionID := by
  have known : "signaling" ∈ kinds := by decide
  have unchanged : trimPrefixWs (rolePath [] "signaling" sessionID role) =
      rolePath [] "signaling" sessionID role := rfl
  unfold parseSignalRoute
  rw [trimSuffixSlash_rolePath, unchanged]
  constructor
  · rintro ⟨found, parsed⟩
    obtain ⟨-, segment, literal⟩ := (parseParts_route known filled role).mp parsed
    obtain ⟨-, dot, dots⟩ := proper_of_rolePath known filled segment found
    exact ⟨segment, literal, dot, dots⟩
  · intro plain
    exact ⟨muxHandler_rolePath known filled plain role, (parseParts_route known filled role).mpr
      ⟨List.not_mem_nil, plain.segment, plain.literal⟩⟩

/-! ## Paths behind a base -/

theorem trimRightSlashes_idempotent (path : String) :
    trimRightSlashes (trimRightSlashes path) = trimRightSlashes path := by
  simp only [trimRightSlashes, String.toList_ofList, List.rdropWhile_idempotent]

theorem getLast?_trimRightSlashes (path : String) :
    (trimRightSlashes path).toList.getLast? ≠ some '/' := by
  rw [trimRightSlashes, String.toList_ofList]
  intro last
  have present : path.toList.rdropWhile (· = '/') ≠ [] := by
    intro none
    rw [none] at last
    cases last
  rw [List.getLast?_eq_some_getLast present] at last
  have stops := List.rdropWhile_last_not (· = '/') path.toList present
  exact stops (decide_eq_true (Option.some.inj last))

/-- What is put before a route is empty or rooted. -/
theorem front_rooted {path : String} (rooted : path = "" ∨ Rooted path) :
    (trimRightSlashes path).toList = [] ∨ (trimRightSlashes path).toList.head? = some '/' := by
  by_cases none : trimRightSlashes path = ""
  · exact .inl (String.toList_eq_nil_iff.mpr none)
  · rcases rooted with rfl | rooted
    · exact absurd rfl none
    · exact .inr (trimRightSlashes_rooted rooted none)

/-- A path that begins with a slash and ends in a solid character is not trimmed. -/
theorem trimSpace_of_rooted {path : String} (rooted : Rooted path) {last : Char}
    (ends : path.toList.getLast? = some last) (solid : isUnicodeSpace last = false) :
    trimSpace path = path := by
  have start : path.toList.dropWhile isUnicodeSpace = path.toList := by
    unfold Rooted at rooted
    cases chars : path.toList with
    | nil => rfl
    | cons first rest =>
        rw [chars] at rooted
        cases rooted
        rw [List.dropWhile_cons_of_neg (by decide)]
  have stop : path.toList.rdropWhile isUnicodeSpace = path.toList := by
    rw [List.rdropWhile_eq_self_iff]
    intro present
    rw [List.getLast?_eq_some_getLast present] at ends
    simp [Option.some.inj ends, solid]
  rw [trimSpace, start, stop, String.ofList_toList]

/-- A path with something put behind it is another. -/
theorem joinURLPath_ne {next : String} (slash : OneSlash next) (base : String) :
    joinURLPath base next ≠ base := by
  rw [joinURLPath_eq slash]
  obtain ⟨first, rest, spelled, solid⟩ := slash
  intro same
  have chars := congrArg String.toList same
  rw [String.toList_append, trimRightSlashes, String.toList_ofList] at chars
  have whole := List.rdropWhile_append_rtakeWhile (p := (· = '/')) (l := base.toList)
  have slashes := List.append_cancel_left (chars.trans whole.symm)
  have inside : first ∈ base.toList.rtakeWhile (· = '/') := by
    rw [← slashes, spelled]
    simp
  have other := List.mem_rtakeWhile_imp inside
  exact solid (of_decide_eq_true other)

/-- The signaling route behind a base is another path than the base. -/
theorem gatewayWebSocketPath_ne {base next : String} (rooted : base = "" ∨ Rooted base)
    (slash : OneSlash next) {last : Char} (ends : next.toList.getLast? = some last)
    (solid : isUnicodeSpace last = false) (name : last ≠ '/') (long : next ≠ "/ws") :
    gatewayWebSocketPath base next ≠ base := by
  intro same
  have present : next.toList ≠ [] := by
    intro none
    rw [none] at ends
    cases ends
  -- The path ends as the route does, so nothing is trimmed from it.
  have ending : base.toList.getLast? = some last := by
    rw [← same]
    unfold gatewayWebSocketPath
    dsimp only
    split
    · exact ends
    · rw [joinURLPath_eq slash, String.toList_append, List.getLast?_append_of_ne_nil _ present]
      exact ends
  have based : Rooted base := rooted.resolve_left fun none => by
    rw [none] at ending
    cases ending
  have trimmed : trimSpace base = base := trimSpace_of_rooted based ending solid
  have kept : trimRightSlashes base = base := trimRightSlashes_of_getLast (by
    rw [ending]
    exact fun other => name (Option.some.inj other))
  unfold gatewayWebSocketPath at same
  rw [trimmed, kept] at same
  dsimp only at same
  split at same
  · next short =>
      rw [← same] at short
      rcases short with none | ws
      · exact present (String.toList_eq_nil_iff.mpr none)
      · exact long ws
  · exact joinURLPath_ne slash base same

/-! ## Requests for URLs -/

namespace Platform

variable (platform : Platform)

/-- A request for the URL comes to a handler that reads its path so. -/
def Arrives (raw : String) (handler : MuxHandler) (reads : String → Prop) : Prop :=
  ∃ target, platform.urlParse raw = some target ∧
    muxHandler (platform.escapedPath target).toList = some handler ∧ reads target.path

/-- What `net/url` promises for paths that have been changed since the URL was parsed: they are
printed with the usual escapes, and what is put behind a URL that ends with its path is read as a
part of the path. -/
structure PathLaws (isBare : Url → Bool) : Prop extends platform.UrlLaws where
  escaped : ∀ raw base path query target, platform.urlParse raw = some base →
    base.scheme ∈ webSchemes → base.host ≠ "" → Rooted path → path ≠ base.path →
    platform.IsQuery query →
    platform.urlParse (platform.urlString { base with path := path, rawQuery := query }) =
      some target →
    platform.escapedPath target = String.ofList (pathEscape path.toList)
  extended : ∀ raw base path, ∀ action ∈ relayActions, platform.urlParse raw = some base →
    base.scheme ∈ webSchemes → base.host ≠ "" → Rooted path → path ≠ base.path →
    ∃ target, platform.urlParse (platform.urlString { base with path := path, rawQuery := "" } ++
        "/" ++ action) = some target ∧
      if isBare base then
        target.path = path ++ "/" ++ action ∧ platform.escapedPath target =
          String.ofList (pathEscape (path ++ "/" ++ action).toList)
      else target.path = path

/-- The path of a URL. -/
def pathOf (raw : String) : String := ((platform.urlParse raw).map Url.path).getD ""

end Platform

section Arrivals

variable {platform : Platform} {isBare : Url → Bool} (laws : platform.PathLaws isBare)

include laws in
/-- A request for a rebuilt URL comes to the handler of its path. -/
theorem arrives_rebuilt_iff {schemes : List String} (web : schemes ⊆ webSchemes) {raw : String}
    {base : Url} (absolute : platform.IsAbsolute schemes raw base) {path query : String}
    (rooted : Rooted path) (other : path ≠ base.path) (encoded : platform.IsQuery query)
    (handler : MuxHandler) (reads : String → Prop) :
    platform.Arrives (platform.urlString { base with path := path, rawQuery := query }) handler
        reads ↔
      muxHandler (pathEscape path.toList) = some handler ∧ reads path := by
  obtain ⟨target, parsed, reached⟩ :=
    (absolute.rebuilt laws.toUrlLaws web rooted encoded).absolute
  have escaped := laws.escaped raw base path query target absolute.parsed (web absolute.scheme)
    absolute.host rooted other encoded parsed.parsed
  constructor
  · rintro ⟨found, same, handled, read⟩
    cases parsed.parsed.symm.trans same
    rw [escaped, String.toList_ofList] at handled
    rw [reached] at read
    exact ⟨handled, read⟩
  · rintro ⟨handled, read⟩
    refine ⟨target, parsed.parsed, ?_, ?_⟩
    · rw [escaped, String.toList_ofList]
      exact handled
    · rw [reached]
      exact read

end Arrivals

/-! ## The URLs of a response -/

/-- Every URL that is handed out comes back: it is handed to the handler of its route, which reads
the session and the role. -/
structure RoutesBack (platform : Platform) (sessionID : String) (resp : SessionResponse) :
    Prop where
  viewer : platform.Arrives resp.transport.viewerURL .gatewayViewer fun path =>
    gatewayViewerSession path = some sessionID
  signaling : platform.Arrives resp.transport.signalingURL .signaling fun path =>
    parseSignalRoute path.toList = some ⟨utf8 sessionID.toList, .viewer⟩
  mediaRelay : resp.transport.mediaRelayURL ≠ "" →
    platform.Arrives resp.transport.mediaRelayURL .mediaRelay fun path =>
      parseMediaRoute path.toList = some ⟨utf8 sessionID.toList, .viewer⟩
  workerMediaRelay : resp.workerBridge.mediaRelayURL ≠ "" →
    platform.Arrives resp.workerBridge.mediaRelayURL .mediaRelay fun path =>
      parseMediaRoute path.toList = some ⟨utf8 sessionID.toList, .worker⟩
  mediaGateway : resp.transport.mediaGatewayURL ≠ "" → ∀ action ∈ relayActions,
    platform.Arrives (resp.transport.mediaGatewayURL ++ "/" ++ action) .webRTCRelay fun path =>
      parseWebRTCRoute path.toList = some (⟨utf8 sessionID.toList, .viewer⟩, action.toList)
  workerMediaGateway : resp.workerBridge.mediaGatewayURL ≠ "" → ∀ action ∈ relayActions,
    platform.Arrives (resp.workerBridge.mediaGatewayURL ++ "/" ++ action) .webRTCRelay fun path =>
      parseWebRTCRoute path.toList = some (⟨utf8 sessionID.toList, .worker⟩, action.toList)

/-- The base URLs add nothing to the routes, and the session's id is plain. -/
structure Routable (platform : Platform) (isBare : Url → Bool) (cfg : Config)
    (req : SessionRequest) : Prop where
  plain : IsPlainID req.sessionID.toList
  viewer : trimRightSlashes (platform.pathOf (publicBaseURLFor cfg req)) = ""
  signaling : trimRightSlashes (trimSpace (platform.pathOf (publicWsURLFor platform cfg req))) ∈
    ["", "/ws"]
  mediaRelay : relayModeFor cfg req = relayModeGatewayMediaRelay →
    trimRightSlashes (platform.pathOf (publicWsURLFor platform cfg req)) = "" ∧
      trimRightSlashes (platform.pathOf (workerWsURLFor platform cfg req)) = ""
  mediaGateway : relayModeFor cfg req = relayModeGatewayMediaRelay →
    trimRightSlashes (platform.pathOf (workerBaseURLFor cfg req)) = "" ∧
      (platform.urlParse (publicBaseURLFor cfg req)).any isBare = true ∧
      (platform.urlParse (workerBaseURLFor cfg req)).any isBare = true

theorem Platform.IsAbsolute.pathOf {platform : Platform} {schemes : List String} {raw : String}
    {base : Url} (absolute : platform.IsAbsolute schemes raw base) :
    platform.pathOf raw = base.path := by
  rw [Platform.pathOf, absolute.parsed]
  rfl

/-- The path of a route with a role, behind the path of a base. -/
theorem toList_joinURLPath {kind : String} {route : String} (slash : OneSlash route)
    (same : route.toList = routeChars kind []) (base sessionID : String) (role : Role) :
    (joinURLPath base (route ++ sessionID ++ "/" ++ roleName role)).toList =
      rolePath (trimRightSlashes base).toList kind sessionID.toList role := by
  rw [joinURLPath_eq (((slash.append sessionID).append "/").append (roleName role))]
  simp only [String.toList_append, same, rolePath, routeChars]
  simp

section Arrivals

variable {platform : Platform} {isBare : Url → Bool} (laws : platform.PathLaws isBare)
  {schemes : List String} (web : schemes ⊆ webSchemes) {raw : String} {base : Url}
  (absolute : platform.IsAbsolute schemes raw base) {sessionID : String} (filled : sessionID ≠ "")

include laws web absolute filled

theorem viewerURL_arrives_iff (transport token : String) :
    platform.Arrives (buildViewerURL platform raw sessionID transport token) .gatewayViewer
        (fun path => gatewayViewerSession path = some sessionID) ↔
      trimRightSlashes (platform.pathOf raw) = "" ∧ '/' ∉ sessionID.toList ∧
        sessionID.toList ≠ ['.'] ∧ sessionID.toList ≠ ['.', '.'] := by
  have slash := viewerRoute_oneSlash.append sessionID
  have rooted := joinURLPath_rooted (absolute.rooted laws.toUrlLaws) ("/gateway/viewer/" ++ sessionID)
  have spelled : (joinURLPath base.path ("/gateway/viewer/" ++ sessionID)).toList =
      (trimRightSlashes base.path).toList ++ routeChars "viewer" sessionID.toList := by
    have route : "/gateway/viewer/".toList = routeChars "viewer" [] := by rfl
    rw [joinURLPath_eq slash, String.toList_append, String.toList_append, route]
    simp [routeChars]
  unfold buildViewerURL
  rw [absolute.parsed]
  dsimp only
  rw [arrives_rebuilt_iff laws web absolute rooted (joinURLPath_ne slash base.path)
    (.inr ⟨_, _, rfl⟩), viewerRoute_iff filled spelled, absolute.pathOf,
    String.toList_eq_nil_iff]

theorem mediaRelayURL_arrives_iff (role : Role) (transport : String) :
    platform.Arrives (buildMediaRelayURL platform raw sessionID (roleName role) transport)
        .mediaRelay (fun path => parseMediaRoute path.toList = some ⟨utf8 sessionID.toList, role⟩) ↔
      trimRightSlashes (platform.pathOf raw) = "" ∧ IsPlainID sessionID.toList := by
  have present : sessionID.toList ≠ [] := fun none => filled (String.toList_eq_nil_iff.mp none)
  have slash := ((mediaRoute_oneSlash.append sessionID).append "/").append (roleName role)
  have based := absolute.rooted laws.toUrlLaws
  have spelled := @toList_joinURLPath "media" _ mediaRoute_oneSlash (by rfl) base.path
    sessionID role
  unfold buildMediaRelayURL
  rw [absolute.parsed]
  dsimp only
  rw [arrives_rebuilt_iff laws web absolute (joinURLPath_rooted based _)
    (joinURLPath_ne slash base.path) (.inr ⟨_, _, rfl⟩), spelled,
    mediaRoute_iff present (front_rooted based) role, absolute.pathOf, String.toList_eq_nil_iff]

theorem signalingURL_arrives_iff (transport : String) :
    platform.Arrives (buildSignalingURL platform raw sessionID transport) .signaling
        (fun path => parseSignalRoute path.toList = some ⟨utf8 sessionID.toList, .viewer⟩) ↔
      trimRightSlashes (trimSpace (platform.pathOf raw)) ∈ ["", "/ws"] ∧
        IsPlainID sessionID.toList := by
  have present : sessionID.toList ≠ [] := fun none => filled (String.toList_eq_nil_iff.mp none)
  have slash := (signalingRoute_oneSlash.append sessionID).append "/viewer"
  have based := absolute.rooted laws.toUrlLaws
  have signaling : "/gateway/signaling/".toList = routeChars "signaling" [] := by rfl
  have viewer : "/viewer".toList = '/' :: (roleName .viewer).toList := by rfl
  have spelled : ("/gateway/signaling/" ++ sessionID ++ "/viewer").toList =
      rolePath [] "signaling" sessionID.toList .viewer := by
    rw [String.toList_append, String.toList_append, signaling, viewer]
    simp [rolePath, routeChars]
  have ends : ("/gateway/signaling/" ++ sessionID ++ "/viewer").toList.getLast? = some 'r' := by
    rw [String.toList_append, List.getLast?_append_of_ne_nil _ (by decide)]
    rfl
  have long : "/gateway/signaling/" ++ sessionID ++ "/viewer" ≠ "/ws" := by
    intro same
    have length := congrArg (fun text : String => text.toList.length) same
    rw [String.toList_append, viewer] at length
    simp at length
  have other := gatewayWebSocketPath_ne based slash ends (by decide) (by decide) long
  have rooted := gatewayWebSocketPath_rooted based slash.rooted
  unfold buildSignalingURL
  rw [absolute.parsed]
  dsimp only
  rw [arrives_rebuilt_iff laws web absolute rooted other (.inr ⟨_, _, rfl⟩), absolute.pathOf]
  generalize "/gateway/signaling/" ++ sessionID ++ "/viewer" = route at *
  unfold gatewayWebSocketPath
  dsimp only
  split
  · next short =>
      rw [spelled, signalingRoute_iff present .viewer]
      have listed : trimRightSlashes (trimSpace base.path) ∈ ["", "/ws"] := by simpa using short
      exact ⟨fun plain => ⟨listed, plain⟩, And.right⟩
  · next kept =>
      have some : trimRightSlashes (trimSpace base.path) ≠ "" := fun none => kept (.inl none)
      have front : Rooted (trimRightSlashes (trimSpace base.path)) := by
        refine trimRightSlashes_rooted ?_ some
        rcases based with none | based
        · rw [none] at some
          exact absurd rfl some
        · exact trimSpace_rooted based
      have whole : (joinURLPath (trimRightSlashes (trimSpace base.path)) route).toList =
          rolePath (trimRightSlashes (trimSpace base.path)).toList "signaling" sessionID.toList
            .viewer := by
        rw [joinURLPath_eq slash, trimRightSlashes_idempotent, String.toList_append, spelled]
        rfl
      rw [whole]
      refine iff_of_false (not_signalingRoute present front (getLast?_trimRightSlashes _) ?_
        .viewer) ?_
      · intro ws
        exact kept (.inr (String.toList_injective ws))
      · rintro ⟨listed, -⟩
        exact kept (by simpa using listed)

theorem mediaGatewayURL_arrives_iff (role : Role) {action : String}
    (known : action ∈ relayActions) :
    platform.Arrives (buildMediaGatewayURL platform raw sessionID (roleName role) ++ "/" ++ action)
        .webRTCRelay (fun path => parseWebRTCRoute path.toList =
          some (⟨utf8 sessionID.toList, role⟩, action.toList)) ↔
      trimRightSlashes (platform.pathOf raw) = "" ∧ (platform.urlParse raw).any isBare = true ∧
        IsPlainID sessionID.toList := by
  have present : sessionID.toList ≠ [] := fun none => filled (String.toList_eq_nil_iff.mp none)
  have slash := ((webrtcRoute_oneSlash.append sessionID).append "/").append (roleName role)
  have based := absolute.rooted laws.toUrlLaws
  have spelled := @toList_joinURLPath "webrtc" _ webrtcRoute_oneSlash (by rfl) base.path
    sessionID role
  have rooted := joinURLPath_rooted based ("/gateway/webrtc/" ++ sessionID ++ "/" ++ roleName role)
  have other := joinURLPath_ne slash base.path
  unfold buildMediaGatewayURL
  rw [absolute.parsed, absolute.pathOf]
  dsimp only
  generalize joinURLPath base.path ("/gateway/webrtc/" ++ sessionID ++ "/" ++ roleName role) =
    path at *
  obtain ⟨target, parsed, reached⟩ := laws.extended raw base path action known absolute.parsed
    (web absolute.scheme) absolute.host rooted other
  rw [Option.any_some, ← String.toList_eq_nil_iff]
  cases bare : isBare base with
  | true =>
      rw [bare, if_pos rfl] at reached
      have whole : (path ++ "/" ++ action).toList =
          rolePath (trimRightSlashes base.path).toList "webrtc" sessionID.toList role ++
            '/' :: action.toList := by
        rw [String.toList_append, String.toList_append, spelled, List.append_assoc]
        rfl
      obtain ⟨same, escaped⟩ := reached
      have route := webrtcRoute_iff present (front_rooted based) role known
      rw [← whole] at route
      constructor
      · rintro ⟨found, reparsed, handled, read⟩
        cases parsed.symm.trans reparsed
        rw [escaped, String.toList_ofList] at handled
        rw [same] at read
        obtain ⟨none, plain⟩ := route.mp ⟨handled, read⟩
        exact ⟨none, rfl, plain⟩
      · rintro ⟨none, -, plain⟩
        obtain ⟨handled, read⟩ := route.mpr ⟨none, plain⟩
        refine ⟨target, parsed, ?_, ?_⟩
        · rw [escaped, String.toList_ofList]
          exact handled
        · rw [same]
          exact read
  | false =>
      rw [bare] at reached
      refine iff_of_false ?_ (by simp)
      rintro ⟨found, same, -, read⟩
      cases parsed.symm.trans same
      rw [if_neg Bool.false_ne_true] at reached
      rw [reached, spelled, parseWebRTCRoute_rolePath] at read
      cases read

end Arrivals

theorem Platform.Reaches.ne_empty {platform : Platform} {schemes : List String}
    {path printed : String} (reaches : platform.Reaches schemes path printed)
    (laws : platform.UrlLaws) : printed ≠ "" := by
  obtain ⟨target, absolute, -⟩ := reaches.absolute
  rintro rfl
  exact Platform.IsAbsolute.not_blank laws ⟨target, absolute⟩ rfl

/-- Nothing is printed behind the path of these URLs, unless they have a query. -/
theorem spelledPlatform_pathLaws : spelledPlatform.PathLaws fun _ => true := by
  constructor
  case toUrlLaws => exact spelledPlatform_laws
  case escaped =>
    intro raw base path query target parsed web _ rooted _ encoded reread
    have tight : ∀ char ∈ query.toList, isUnicodeSpace char = false := by
      intro char member
      rcases encoded with rfl | ⟨url, pairs, rfl⟩
      · cases member
      · simp only [spelledPlatform, String.toList_ofList] at member
        exact (Spelled.printed_char member).1
    have same := (spelledPlatform_reparsed parsed web rooted tight).2
    cases same.symm.trans reread
    rfl
  case extended =>
    intro raw base path action known parsed web _ rooted _
    have plain : ∀ action ∈ relayActions, Spelled.encode action.toList = action.toList := by
      decide
    have whole : Rooted (path ++ "/" ++ action) := (rooted.append "/").append action
    have printed : spelledPlatform.urlString { base with path := path, rawQuery := "" } ++ "/" ++
        action = spelledPlatform.urlString
          { base with path := path ++ "/" ++ action, rawQuery := "" } := by
      apply String.toList_inj.mp
      have slash : Spelled.encode "/".toList = "/".toList := by rfl
      simp only [spelledPlatform, Spelled.printChars, String.toList_append, String.toList_ofList,
        Spelled.encode_append, plain action known, slash, if_true]
      simp
    have tight : ∀ char ∈ "".toList, isUnicodeSpace char = false := by simp
    rw [printed]
    exact ⟨_, (spelledPlatform_reparsed parsed web whole tight).2, rfl, rfl⟩

/-- All URLs of a response come back to the gateway exactly if their base URLs add nothing to the
routes and the session's id stands for itself in a path. -/
theorem urls_route_back_iff (platform : Platform) (isBare : Url → Bool)
    (laws : platform.PathLaws isBare) (cfg : Config) (own : cfg.HasAbsoluteURLs platform)
    (raw req : SessionRequest) (validated : validateRequest platform cfg raw = .ok req)
    (draws : Draws) :
    RoutesBack platform req.sessionID (buildResponse platform cfg req draws) ↔
      Routable platform isBare cfg req := by
  have accepted := validateRequest_accepted validated
  have filled := accepted.sessionID
  have urls := laws.toUrlLaws
  have http : ["http", "https"] ⊆ webSchemes := by decide
  have ws : ["ws", "wss"] ⊆ webSchemes := by decide
  obtain ⟨⟨base, baseAbsolute⟩, -⟩ := publicBaseURLFor_absolute urls own accepted
  obtain ⟨⟨wsBase, wsAbsolute⟩, -⟩ := publicWsURLFor_absolute urls own accepted
  obtain ⟨⟨workerBase, workerAbsolute⟩, -⟩ := workerBaseURLFor_absolute urls own accepted
  obtain ⟨⟨workerWs, workerWsAbsolute⟩, -⟩ := workerWsURLFor_absolute urls own accepted
  have viewer := viewerURL_arrives_iff laws http baseAbsolute filled
    (selectTransport cfg req.preferredTransport) draws.viewerEntryToken
  have signaling := signalingURL_arrives_iff laws ws wsAbsolute filled
    (selectTransport cfg req.preferredTransport)
  have relay := mediaRelayURL_arrives_iff laws ws wsAbsolute filled .viewer
    (selectTransport cfg req.preferredTransport)
  have workerRelay := mediaRelayURL_arrives_iff laws ws workerWsAbsolute filled .worker
    (selectTransport cfg req.preferredTransport)
  have gateway (action : String) (known : action ∈ relayActions) :=
    mediaGatewayURL_arrives_iff laws http baseAbsolute filled .viewer known
  have workerGateway (action : String) (known : action ∈ relayActions) :=
    mediaGatewayURL_arrives_iff laws http workerAbsolute filled .worker known
  rw [← buildResponse_viewerURL] at viewer
  rw [← buildResponse_signalingURL platform cfg req draws] at signaling
  constructor
  · intro back
    obtain ⟨flat, -⟩ := viewer.mp back.viewer
    obtain ⟨listed, plain⟩ := signaling.mp back.signaling
    refine ⟨plain, flat, listed, fun relayed => ?_, fun relayed => ?_⟩
    · obtain ⟨relayURL, -, workerRelayURL, -⟩ := buildResponse_relayed platform cfg req draws relayed
      have first := back.mediaRelay
      have second := back.workerMediaRelay
      rw [relayURL] at first
      rw [workerRelayURL] at second
      have some := (buildMediaRelayURL_reaches urls ws wsAbsolute req.sessionID "viewer"
        (selectTransport cfg req.preferredTransport)).ne_empty urls
      have workerSome := (buildMediaRelayURL_reaches urls ws workerWsAbsolute req.sessionID "worker"
        (selectTransport cfg req.preferredTransport)).ne_empty urls
      exact ⟨(relay.mp (first some)).1, (workerRelay.mp (second workerSome)).1⟩
    · obtain ⟨-, gatewayURL, -, workerGatewayURL⟩ :=
        buildResponse_relayed platform cfg req draws relayed
      have first := back.mediaGateway
      have second := back.workerMediaGateway
      rw [gatewayURL] at first
      rw [workerGatewayURL] at second
      have offer : "offer" ∈ relayActions := List.mem_cons_self
      have some := (buildMediaGatewayURL_reaches urls http baseAbsolute req.sessionID
        "viewer").ne_empty urls
      have workerSome := (buildMediaGatewayURL_reaches urls http workerAbsolute req.sessionID
        "worker").ne_empty urls
      obtain ⟨-, bare, -⟩ := (gateway "offer" offer).mp (first some _ offer)
      obtain ⟨same, workerBare, -⟩ := (workerGateway "offer" offer).mp (second workerSome _ offer)
      exact ⟨same, bare, workerBare⟩
  · intro routable
    have plain := routable.plain
    have entrance := viewer.mpr ⟨routable.viewer, plain.segment, plain.dot, plain.dots⟩
    have sockets := signaling.mpr ⟨routable.signaling, plain⟩
    by_cases relayed : relayModeFor cfg req = relayModeGatewayMediaRelay
    · obtain ⟨relayURL, gatewayURL, workerRelayURL, workerGatewayURL⟩ :=
        buildResponse_relayed platform cfg req draws relayed
      obtain ⟨relayPath, workerRelayPath⟩ := routable.mediaRelay relayed
      obtain ⟨workerPath, bare, workerBare⟩ := routable.mediaGateway relayed
      refine ⟨entrance, sockets, fun _ => ?_, fun _ => ?_, fun _ action known => ?_,
        fun _ action known => ?_⟩
      · rw [relayURL]
        exact relay.mpr ⟨relayPath, plain⟩
      · rw [workerRelayURL]
        exact workerRelay.mpr ⟨workerRelayPath, plain⟩
      · rw [gatewayURL]
        exact (gateway action known).mpr ⟨routable.viewer, bare, plain⟩
      · rw [workerGatewayURL]
        exact (workerGateway action known).mpr ⟨workerPath, workerBare, plain⟩
    · obtain ⟨relayURL, gatewayURL, workerRelayURL, workerGatewayURL⟩ :=
        buildResponse_unrelayed platform cfg req draws relayed
      exact ⟨entrance, sockets, fun some => absurd relayURL some, fun some =>
        absurd workerRelayURL some, fun some => absurd gatewayURL some, fun some =>
        absurd workerGatewayURL some⟩

/-- The sample gateway with web sockets at the root. -/
def flatConfig : Config :=
  { defaultConfig with
    publicWsURL := "wss://gateway.example.com"
    workerWsURL := "wss://gateway.example.com" }

theorem flatConfig_hasAbsoluteURLs : flatConfig.HasAbsoluteURLs spelledPlatform := by
  have ws : spelledPlatform.IsAbsolute ["ws", "wss"] "wss://gateway.example.com"
      ⟨"wss", "gateway.example.com", "", "", "", ""⟩ :=
    ⟨by rfl, by decide, by decide⟩
  exact hasAbsoluteURLs_of_webSockets rfl rfl rfl ws

/-- An accepted request is the completed one. -/
theorem validateRequest_completed {platform : Platform} {cfg : Config} {raw : SessionRequest}
    (passes : (validateRequest platform cfg raw).isOk = true) :
    validateRequest platform cfg raw = .ok (raw.trimmed.completed cfg) := by
  cases validated : validateRequest platform cfg raw with
  | error failure =>
      rw [validated] at passes
      cases passes
  | ok req => rw [(validateRequest_accepted validated).completed]

abbrev flatRequest : SessionRequest := (plainRequest "rbi-1" "worker-a").trimmed.completed flatConfig

theorem flat_urls_route_back :
    RoutesBack spelledPlatform flatRequest.sessionID
      (buildResponse spelledPlatform flatConfig flatRequest ⟨"entry-1", "bridge-1"⟩) := by
  have validated := @validateRequest_completed spelledPlatform flatConfig
    (plainRequest "rbi-1" "worker-a") (by rfl)
  apply (urls_route_back_iff spelledPlatform _ spelledPlatform_pathLaws flatConfig
    flatConfig_hasAbsoluteURLs _ _ validated _).mpr
  constructor
  case plain =>
    constructor <;> decide +kernel
  case viewer => rfl
  case signaling => decide
  case mediaRelay =>
    intro _
    constructor <;> rfl
  case mediaGateway =>
    intro _
    refine ⟨?_, ?_, ?_⟩ <;> rfl

/-- With the default configuration a viewer is sent to a relay of media that is not there. -/
theorem default_urls_do_not_route_back :
    ¬∀ (platform : Platform) (isBare : Url → Bool), platform.PathLaws isBare →
      ∀ cfg : Config, cfg.HasAbsoluteURLs platform →
        (∀ raw ∈ [cfg.publicBaseURL, cfg.publicWsURL, cfg.workerBaseURL, cfg.workerWsURL],
          platform.pathOf raw ∈ ["", "/", "/ws"]) →
        ∀ raw req, validateRequest platform cfg raw = .ok req → ∀ draws,
          RoutesBack platform req.sessionID (buildResponse platform cfg req draws) := by
  intro always
  have validated := @validateRequest_completed spelledPlatform defaultConfig
    (plainRequest "rbi-1" "worker-a") (by rfl)
  have back := always spelledPlatform _ spelledPlatform_pathLaws defaultConfig
    defaultConfig_hasAbsoluteURLs (by decide) _ _ validated ⟨"entry_1", "bridge_1"⟩
  obtain ⟨url, parsed, handled, -⟩ := back.mediaRelay (by decide)
  have nowhere : (spelledPlatform.urlParse (buildResponse spelledPlatform defaultConfig
      ((plainRequest "rbi-1" "worker-a").trimmed.completed defaultConfig)
      ⟨"entry_1", "bridge_1"⟩).transport.mediaRelayURL).all fun url =>
        muxHandler (spelledPlatform.escapedPath url).toList = none := by
    rfl
  rw [parsed, Option.all_some, decide_eq_true_eq, handled] at nowhere
  cases nowhere

end RemoteBrowser.MediaGateway
