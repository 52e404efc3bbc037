import RemoteBrowser.Gateway.Signaling
import RemoteBrowser.MediaGateway.Routes

/-!
# The service prefix of signaling URLs

The gateway puts its signaling route behind the path of a base URL, and so does the control plane.
Both leave out the end of a base path that addresses the old socket of the service: the gateway
only where this is the whole path, the control plane wherever it stands.
-/

namespace RemoteBrowser.Gateway

open Text

/-! ## Paths of segments -/

/-- Every segment behind a slash. -/
def slashed (parts : List (List Char)) : List Char := parts.flatMap ('/' :: ·)

theorem slashed_append (front back : List (List Char)) :
    slashed (front ++ back) = slashed front ++ slashed back := List.flatMap_append

theorem splitOn_slashed {parts : List (List Char)} (plain : ∀ part ∈ parts, '/' ∉ part) :
    (slashed parts).splitOn '/' = [] :: parts := by
  induction parts with
  | nil => rfl
  | cons part rest ih =>
      obtain ⟨free, plain⟩ := List.forall_mem_cons.mp plain
      have whole : slashed (part :: rest) = '/' :: (part ++ slashed rest) := rfl
      rw [whole, splitOn_cons_self, splitOn_append_of_not_mem free, ih plain]
      simp

/-- The segments that are not empty. -/
def parts (path : List Char) : List (List Char) := (path.splitOn '/').filter (· ≠ [])

theorem parts_spec {path part : List Char} (member : part ∈ parts path) :
    part ≠ [] ∧ '/' ∉ part := by
  obtain ⟨listed, named⟩ := List.mem_filter.mp member
  exact ⟨of_decide_eq_true named, not_mem_of_mem_splitOn listed⟩

/-- The control plane's base path, by its segments. -/
def keptParts (all : List (List Char)) : List (List Char) :=
  if all.getLast? = some "worker".toList ∧ all.dropLast.getLast? = some "ws".toList then
    all.dropLast.dropLast
  else if all.getLast? ∈ [some "ws".toList, some "viewer".toList, some "viewer.html".toList] then
    all.dropLast
  else all

theorem segments_eq (path : String) : segments path = (parts path.toList).map String.ofList := by
  unfold segments parts
  rw [List.filter_map]
  congr 1
  apply List.filter_congr
  intro part _
  simp

theorem map_ofList_getLast? (all : List (List Char)) (name : String) :
    (all.map String.ofList).getLast? = some name ↔ all.getLast? = some name.toList := by
  rw [List.getLast?_map, Option.map_eq_some_iff]
  constructor
  case mp =>
    rintro ⟨part, last, rfl⟩
    rw [last, String.toList_ofList]
  case mpr =>
    intro last
    exact ⟨name.toList, last, String.ofList_toList⟩

/-- The segments that remain are the same, as texts. -/
theorem keptParts_map (all : List (List Char)) :
    (if (all.map String.ofList).getLast? = some "worker" ∧
        (all.map String.ofList).dropLast.getLast? = some "ws" then
      (all.map String.ofList).dropLast.dropLast
    else if (all.map String.ofList).getLast? ∈ [some "ws", some "viewer", some "viewer.html"] then
      (all.map String.ofList).dropLast
    else all.map String.ofList) = (keptParts all).map String.ofList := by
  simp only [← List.map_dropLast, List.mem_cons, List.not_mem_nil, or_false,
    map_ofList_getLast?, keptParts]
  split
  · rfl
  · split <;> rfl

theorem intercalate_slash {all : List (List Char)} (present : all ≠ []) :
    '/' :: ['/'].intercalate all = slashed all := by
  induction all with
  | nil => exact absurd rfl present
  | cons part rest ih =>
      have whole : slashed (part :: rest) = '/' :: (part ++ slashed rest) := rfl
      cases rest with
      | nil => simp [slashed]
      | cons next more =>
          rw [List.intercalate_cons_of_ne_nil (by simp), whole, ← ih (by simp)]
          simp

theorem toList_joined (all : List (List Char)) :
    (if all.map String.ofList = [] then ""
      else "/" ++ String.intercalate "/" (all.map String.ofList)).toList = slashed all := by
  split
  case isTrue none => rw [List.map_eq_nil_iff.mp none]; rfl
  case isFalse some =>
    have same : (all.map String.ofList).map String.toList = all := by simp
    have present : all ≠ [] := fun none => some (by rw [none]; rfl)
    rw [String.toList_append, String.toList_intercalate, same, ← intercalate_slash present]
    rfl

/-- Slashes at the end add no segment. -/
theorem parts_rdropWhile (path : List Char) :
    parts (path.rdropWhile (· = '/')) = parts path := by
  induction path using List.reverseRecOn with
  | nil => rfl
  | append_singleton front last ih =>
      rw [List.rdropWhile_concat]
      split
      case isTrue slash =>
        rw [of_decide_eq_true slash, ih, parts, parts, List.splitOn_append_cons_self,
          List.splitOn_nil, List.filter_append]
        simp
      case isFalse => rfl

theorem toList_deriveServiceBasePath (pathname : String) :
    (deriveServiceBasePath pathname).toList = slashed (keptParts (parts pathname.toList)) := by
  have trimmed : (stripTrailing pathname).toList = pathname.toList.rdropWhile (· = '/') := by
    rw [stripTrailing, String.toList_ofList]
    rfl
  unfold deriveServiceBasePath
  dsimp only
  rw [segments_eq, trimmed, parts_rdropWhile, keptParts_map, toList_joined]

theorem keptParts_subset (all : List (List Char)) : keptParts all ⊆ all := by
  unfold keptParts
  split
  · exact List.Subset.trans (List.dropLast_subset _) (List.dropLast_subset _)
  · split
    · exact List.dropLast_subset _
    · exact List.Subset.refl _

/-! ## What is left out -/

/-- The ends of a base path that address a socket or a page of the service. -/
def serviceEndings : List (List (List Char)) :=
  [["ws", "worker"], ["ws"], ["viewer"], ["viewer.html"]].map (·.map String.toList)

theorem keptParts_append {ending : List (List Char)} (ends : ending ∈ serviceEndings)
    (front : List (List Char)) : keptParts (front ++ ending) = front := by
  simp only [serviceEndings, List.map_cons, List.map_nil, List.mem_cons, List.not_mem_nil,
    or_false] at ends
  rcases ends with rfl | rfl | rfl | rfl
  · have first : (front ++ ["ws".toList, "worker".toList]).dropLast = front ++ ["ws".toList] := by
      simp [List.dropLast_append_of_ne_nil]
    rw [keptParts, first, List.getLast?_append_of_ne_nil _ (by simp), List.getLast?_concat,
      if_pos ⟨rfl, rfl⟩, List.dropLast_concat]
  all_goals
    rw [keptParts, List.getLast?_concat, if_neg (by simp), if_pos (by simp),
      List.dropLast_concat]

theorem keptParts_of_free {all : List (List Char)}
    (free : ∀ ending ∈ serviceEndings, ¬ending <:+ all) : keptParts all = all := by
  unfold keptParts
  split
  case isTrue both =>
    obtain ⟨front, rfl⟩ := List.getLast?_eq_some_iff.mp both.1
    rw [List.dropLast_concat] at both
    obtain ⟨start, rfl⟩ := List.getLast?_eq_some_iff.mp both.2
    exact absurd ⟨start, by simp⟩ (free ["ws".toList, "worker".toList] (by simp [serviceEndings]))
  case isFalse =>
    split
    case isTrue last =>
      obtain ⟨name, named, ends⟩ : ∃ name, [name] ∈ serviceEndings ∧ all.getLast? = some name := by
        simp only [List.mem_cons, List.not_mem_nil, or_false] at last
        rcases last with last | last | last <;>
          exact ⟨_, by simp [serviceEndings], last⟩
      obtain ⟨front, rfl⟩ := List.getLast?_eq_some_iff.mp ends
      exact absurd ⟨front, rfl⟩ (free [name] named)
    case isFalse => rfl

/-- The control plane leaves out one ending, if there is one. -/
theorem keptParts_eq_iff {all front : List (List Char)} :
    keptParts all = front ↔
      (∃ ending ∈ serviceEndings, all = front ++ ending) ∨
        all = front ∧ ∀ ending ∈ serviceEndings, ¬ending <:+ front := by
  constructor
  case mp =>
    rintro rfl
    by_cases free : ∀ ending ∈ serviceEndings, ¬ending <:+ all
    · rw [keptParts_of_free free]
      exact .inr ⟨rfl, free⟩
    · push Not at free
      obtain ⟨ending, ends, front, rfl⟩ := free
      rw [keptParts_append ends]
      exact .inl ⟨ending, ends, rfl⟩
  case mpr =>
    rintro (⟨ending, ends, rfl⟩ | ⟨rfl, free⟩)
    · exact keptParts_append ends front
    · exact keptParts_of_free free

/-! ## The control plane's path -/

/-- The characters that no part of a URL reserves. -/
def isUnreserved (char : Char) : Bool :=
  char.isAlphanum || "-._~".toList.contains char

def IsUnreserved (chars : List Char) : Prop := ∀ char ∈ chars, isUnreserved char = true

theorem slash_not_mem {segment : List Char} (unreserved : IsUnreserved segment) :
    '/' ∉ segment := by
  have reserved : isUnreserved '/' = false := by rfl
  intro member
  exact absurd (unreserved '/' member) (by simp [reserved])

def IsDots (segment : List Char) : Prop := segment = ['.'] ∨ segment = ['.', '.']

instance (segment : List Char) : Decidable (IsDots segment) := inferInstanceAs (Decidable (_ ∨ _))

def Url.IsWebSocket (url : Url) : Prop :=
  "ws://".toList <+: url.origin.toList ∨ "wss://".toList <+: url.origin.toList

namespace UrlPlatform

variable (platform : UrlPlatform)

def KeepsSegment (segment : List Char) : Prop :=
  platform.storedPath (String.ofList ('/' :: segment)) = String.ofList ('/' :: segment)

/-- The path of a URL as it is printed. -/
def printedPath (text : String) : Option String := (platform.parse text).map Url.pathname

/-- What the URL parser promises for URLs of WebSockets: paths are stored segment by segment,
without dots, and what was stored once is stored again as it is. -/
structure PathLaws : Prop where
  component : ∀ text : String, IsUnreserved text.toList → platform.encodeURIComponent text = text
  read : ∀ raw url, platform.parse raw = some url → url.IsWebSocket →
    url.rigid = false ∧ ∀ segment ∈ url.pathname.toList.splitOn '/', platform.KeepsSegment segment
  plain : ∀ segment, IsUnreserved segment → ¬IsDots segment → platform.KeepsSegment segment
  kept : ∀ all, all ≠ [] → (∀ segment ∈ all, '/' ∉ segment ∧ platform.KeepsSegment segment) →
    platform.storedPath (String.ofList (slashed all)) = String.ofList (slashed all)
  dotless : ∀ path, ∀ segment ∈ (platform.storedPath path).toList.splitOn '/', ¬IsDots segment
  printed : ∀ raw base path query, platform.parse raw = some base → base.IsWebSocket →
    platform.printedPath (platform.href
        { base with pathname := platform.storedPath path, query := query, fragment := "" }) =
      some (platform.storedPath path)

end UrlPlatform

/-- The segments of the viewer's route. -/
def routeParts (sessionId : String) : List (List Char) :=
  ["gateway".toList, "signaling".toList, sessionId.toList, "viewer".toList]

theorem rdropWhile_slashed {all : List (List Char)}
    (plain : ∀ part ∈ all, part ≠ [] ∧ '/' ∉ part) :
    (slashed all).rdropWhile (· = '/') = slashed all := by
  rw [List.rdropWhile_eq_self_iff]
  intro present slash
  rcases List.eq_nil_or_concat all with rfl | ⟨front, last, rfl⟩
  · exact present rfl
  · obtain ⟨named, free⟩ := plain last (by simp)
    have ends : slashed (front ++ [last]) = (slashed front ++ ['/']) ++ last := by
      simp [slashed]
    simp only [List.concat_eq_append, ends, List.getLast_append_of_ne_nil _ named] at slash
    exact free (of_decide_eq_true slash ▸ List.getLast_mem named)

/-- The route behind a slash, and its last letter. -/
theorem slashed_routeParts (sessionId : String) :
    '/' :: ("gateway/signaling/" ++ sessionId ++ "/" ++ Role.viewer.name).toList =
      slashed (routeParts sessionId) := by
  have front : '/' :: "gateway/signaling/".toList =
      '/' :: "gateway".toList ++ ('/' :: "signaling".toList ++ ['/']) := by rfl
  have back : "/".toList ++ Role.viewer.name.toList = '/' :: "viewer".toList := by rfl
  rw [String.toList_append, String.toList_append, String.toList_append, ← List.cons_append,
    ← List.cons_append, ← List.cons_append, List.append_assoc, back, front]
  simp [slashed, routeParts]

theorem getLast?_slashed_routeParts (front : List Char) (sessionId : String) :
    (front ++ slashed (routeParts sessionId)).getLast? = some 'r' := by
  have split : routeParts sessionId =
      ["gateway".toList, "signaling".toList, sessionId.toList] ++ ["viewer".toList] := rfl
  have back : slashed (routeParts sessionId) =
      slashed ["gateway".toList, "signaling".toList, sessionId.toList] ++ "/viewer".toList := by
    rw [split, slashed_append]
    exact congrArg _ (by rfl)
  rw [back, ← List.append_assoc, List.getLast?_append_of_ne_nil _ (by decide)]
  rfl

theorem stripTrailing_of_getLast? {path : String} {last : Char}
    (ends : path.toList.getLast? = some last) (name : last ≠ '/') : stripTrailing path = path := by
  have kept : path.toList.rdropWhile (· == '/') = path.toList := by
    rw [List.rdropWhile_eq_self_iff]
    intro present slash
    rw [List.getLast?_eq_some_getLast present] at ends
    exact name ((Option.some.inj ends).symm.trans (beq_iff_eq.mp slash))
  rw [stripTrailing, kept, String.ofList_toList]

theorem joinPath_slashed {all : List (List Char)} (plain : ∀ part ∈ all, part ≠ [] ∧ '/' ∉ part)
    (sessionId : String) :
    joinPath (String.ofList (slashed all))
      ("gateway/signaling/" ++ sessionId ++ "/" ++ Role.viewer.name) =
        String.ofList (slashed (all ++ routeParts sessionId)) := by
  have left : stripTrailing (String.ofList (slashed all)) = String.ofList (slashed all) := by
    rw [stripTrailing, String.toList_ofList]
    exact congrArg String.ofList (rdropWhile_slashed plain)
  have right : stripLeading ("gateway/signaling/" ++ sessionId ++ "/" ++ Role.viewer.name) =
      "gateway/signaling/" ++ sessionId ++ "/" ++ Role.viewer.name := by
    have front : "gateway/signaling/".toList = 'g' :: "ateway/signaling/".toList := by
      rfl
    apply String.toList_injective
    simp only [stripLeading, String.toList_ofList, String.toList_append, front, List.cons_append]
    exact List.dropWhile_cons_of_neg (by decide)
  have whole : String.ofList (slashed all) ++ "/" ++
      ("gateway/signaling/" ++ sessionId ++ "/" ++ Role.viewer.name) =
        String.ofList (slashed (all ++ routeParts sessionId)) := by
    apply String.toList_injective
    have slash : "/".toList = ['/'] := rfl
    simp only [String.toList_append, String.toList_ofList, slash, List.append_assoc,
      slashed_append, ← slashed_routeParts, List.singleton_append]
  have stripped : stripTrailing (String.ofList (slashed (all ++ routeParts sessionId))) =
      String.ofList (slashed (all ++ routeParts sessionId)) := by
    refine @stripTrailing_of_getLast? _ 'r' ?_ (by decide)
    rw [String.toList_ofList, slashed_append]
    exact getLast?_slashed_routeParts _ sessionId
  have filled : String.ofList (slashed (all ++ routeParts sessionId)) ≠ "" := by
    intro none
    have chars := congrArg String.toList none
    rw [String.toList_ofList, slashed_append] at chars
    have last := getLast?_slashed_routeParts (slashed all) sessionId
    rw [chars] at last
    cases last
  unfold joinPath
  dsimp only
  rw [left, right]
  split
  case isTrue none =>
    rw [none, String.empty_append] at whole
    rw [whole, stripped, firstText, if_neg filled]
  case isFalse => rw [whole, stripped, firstText, if_neg filled]

section ControlPlane

variable {platform : UrlPlatform} (laws : platform.PathLaws) {raw : String} {url : Url}
  (parsed : platform.parse raw = some url) (web : url.IsWebSocket) {sessionId : String}
  (unreserved : IsUnreserved sessionId.toList)

/-- The path that the control plane asks for. -/
def askedPath (url : Url) (sessionId : String) : String :=
  String.ofList (slashed (keptParts (parts url.pathname.toList) ++ routeParts sessionId))

include laws parsed web unreserved

/-- The path of the control plane's URL. -/
theorem printedPath_buildGatewaySignalingUrl :
    (platform.buildGatewaySignalingUrl raw sessionId .viewer none).bind platform.printedPath =
      some (platform.storedPath (askedPath url sessionId)) := by
  have free := (laws.read raw url parsed web).1
  have derived : deriveServiceBasePath url.pathname =
      String.ofList (slashed (keptParts (parts url.pathname.toList))) := by
    apply String.toList_injective
    rw [toList_deriveServiceBasePath, String.toList_ofList]
  have plain : ∀ part ∈ keptParts (parts url.pathname.toList), part ≠ [] ∧ '/' ∉ part :=
    fun part member => parts_spec (keptParts_subset _ member)
  have built : platform.endpoint raw sessionId .viewer =
      some { url with
        pathname := platform.storedPath (askedPath url sessionId)
        query := []
        fragment := "" } := by
    unfold UrlPlatform.endpoint
    rw [parsed, Option.bind_eq_bind, Option.bind_some]
    dsimp only
    rw [derived, laws.component sessionId unreserved, joinPath_slashed plain,
      UrlPlatform.setPathname, if_neg (by simp [free])]
    rfl
  unfold UrlPlatform.buildGatewaySignalingUrl
  rw [built]
  exact laws.printed raw url _ _ parsed web

/-- It is the path that was asked for, unless the id is made of dots. -/
theorem storedPath_askedPath (solid : ¬IsDots sessionId.toList) :
    platform.storedPath (askedPath url sessionId) = askedPath url sessionId := by
  apply laws.kept
  · simp [routeParts]
  · have names : ∀ name ∈ ["gateway".toList, "signaling".toList, "viewer".toList],
        '/' ∉ name ∧ name.all isUnreserved = true ∧ name ≠ ['.'] ∧ name ≠ ['.', '.'] := by
      decide
    have fixed : ∀ name ∈ ["gateway".toList, "signaling".toList, "viewer".toList],
        '/' ∉ name ∧ platform.KeepsSegment name := by
      intro name member
      obtain ⟨plain, all, dot, dots⟩ := names name member
      exact ⟨plain, laws.plain name (List.all_eq_true.mp all) (not_or.mpr ⟨dot, dots⟩)⟩
    have named := slash_not_mem unreserved
    intro segment member
    rcases List.mem_append.mp member with base | route
    · have original := keptParts_subset _ base
      exact ⟨(parts_spec original).2,
        (laws.read raw url parsed web).2 segment (List.mem_of_mem_filter original)⟩
    · simp only [routeParts, List.mem_cons, List.not_mem_nil, or_false] at route
      rcases route with rfl | rfl | rfl | rfl
      · exact fixed _ (by simp)
      · exact fixed _ (by simp)
      · exact ⟨named, laws.plain _ unreserved solid⟩
      · exact fixed _ (by simp)

end ControlPlane

/-! ## The gateway's path -/

/-- The prefix of the gateway's routes, as it is printed. -/
def gatewayFront (path : String) : List Char :=
  let cleaned := MediaGateway.trimRightSlashes (trimSpace path)
  if cleaned = "/ws" then [] else pathEscape cleaned.toList

theorem keepsInPath_of_unreserved {char : Char} (free : isUnreserved char = true) :
    char.toNat < 128 ∧ keepsInPath (UInt8.ofNat char.toNat) = true := by
  have marks : ∀ mark ∈ "-._~".toList, mark.toNat < 128 := by decide
  have ascii : char.toNat < 128 := by
    rcases Bool.or_eq_true_iff.mp free with letter | mark
    · exact toNat_of_isAlphanum letter
    · exact marks char (List.contains_iff_mem.mp mark)
  have each : ∀ value : Fin 128, isUnreserved (Char.ofNat value) = true →
      keepsInPath (UInt8.ofNat value) = true := by
    decide
  rw [← Char.ofNat_toNat char] at free
  exact ⟨ascii, each ⟨char.toNat, ascii⟩ free⟩

/-- The viewer's route as the gateway writes it. -/
theorem toList_viewerRoute (sessionId : String) :
    ("/gateway/signaling/" ++ sessionId ++ "/viewer").toList = slashed (routeParts sessionId) := by
  have front : "/gateway/signaling/".toList =
      '/' :: "gateway".toList ++ ('/' :: "signaling".toList ++ ['/']) := by rfl
  have back : "/viewer".toList = '/' :: "viewer".toList := by rfl
  rw [String.toList_append, String.toList_append, front, back]
  simp [slashed, routeParts]

/-- The route is printed as it is. -/
theorem pathEscape_routeParts {sessionId : String} (unreserved : IsUnreserved sessionId.toList) :
    pathEscape (slashed (routeParts sessionId)) = slashed (routeParts sessionId) := by
  have id := pathEscape_of_kept fun char member =>
    keepsInPath_of_unreserved (unreserved char member)
  have front : pathEscape "/gateway/signaling/".toList = "/gateway/signaling/".toList := by
    rfl
  have back : pathEscape "/viewer".toList = "/viewer".toList := by rfl
  rw [← toList_viewerRoute, String.toList_append, String.toList_append, pathEscape_append,
    pathEscape_append, id, front, back]

section Gateway

open MediaGateway

variable {platform : Platform} {isBare : MediaGateway.Url → Bool}
  (laws : platform.PathLaws isBare) {raw : String} {base : MediaGateway.Url}
  (absolute : platform.IsAbsolute ["ws", "wss"] raw base) {sessionId : String}
  (unreserved : IsUnreserved sessionId.toList)

include unreserved in
theorem pathEscape_gatewayWebSocketPath (path : String) :
    pathEscape (gatewayWebSocketPath path
      ("/gateway/signaling/" ++ sessionId ++ "/viewer")).toList =
        gatewayFront path ++ slashed (routeParts sessionId) := by
  have slash := (signalingRoute_oneSlash.append sessionId).append "/viewer"
  have route := toList_viewerRoute sessionId
  have printed := pathEscape_routeParts unreserved
  generalize "/gateway/signaling/" ++ sessionId ++ "/viewer" = next at *
  unfold gatewayWebSocketPath gatewayFront
  dsimp only
  by_cases ws : trimRightSlashes (trimSpace path) = "/ws"
  · rw [if_pos (.inr ws), if_pos ws, route, printed, List.nil_append]
  · rw [if_neg ws]
    split
    case isTrue short =>
      rw [short.resolve_right ws, route, printed]
      rfl
    case isFalse =>
      rw [joinURLPath_eq slash, trimRightSlashes_idempotent, String.toList_append,
        pathEscape_append, route, printed]

include laws absolute unreserved in
/-- The path of the gateway's URL, as it is printed. -/
theorem escapedPath_buildSignalingURL (transport : String) :
    (platform.urlParse (buildSignalingURL platform raw sessionId transport)).map
        platform.escapedPath =
      some (String.ofList (gatewayFront base.path ++ slashed (routeParts sessionId))) := by
  have slash := (signalingRoute_oneSlash.append sessionId).append "/viewer"
  have based := absolute.rooted laws.toUrlLaws
  have route := toList_viewerRoute sessionId
  have ends : ("/gateway/signaling/" ++ sessionId ++ "/viewer").toList.getLast? = some 'r' := by
    rw [route]
    exact getLast?_slashed_routeParts [] sessionId
  have long : "/gateway/signaling/" ++ sessionId ++ "/viewer" ≠ "/ws" := by
    intro same
    rw [same] at ends
    revert ends
    decide
  have other := gatewayWebSocketPath_ne based slash ends (by decide) (by decide) long
  have rooted := gatewayWebSocketPath_rooted based slash.rooted
  have schemes : ["ws", "wss"] ⊆ webSchemes := by decide
  unfold buildSignalingURL
  rw [absolute.parsed]
  dsimp only
  obtain ⟨target, parsed, -⟩ :=
    (absolute.rebuilt laws.toUrlLaws schemes rooted (.inr ⟨_, _, rfl⟩)).absolute
  have escaped := laws.escaped raw base _ _ target absolute.parsed (schemes absolute.scheme)
    absolute.host rooted other (.inr ⟨_, _, rfl⟩) parsed.parsed
  rw [pathEscape_gatewayWebSocketPath unreserved] at escaped
  rw [← escaped]
  exact congrArg (Option.map platform.escapedPath) parsed.parsed

end Gateway

/-! ## Agreement -/

/-- The viewer's URL of the gateway and that of the control plane have the same path. -/
def PathsAgree (gateway : MediaGateway.Platform) (platform : UrlPlatform)
    (raw sessionId transport : String) : Prop :=
  (gateway.urlParse (MediaGateway.buildSignalingURL gateway raw sessionId transport)).map
      gateway.escapedPath =
    (platform.buildGatewaySignalingUrl raw sessionId .viewer none).bind platform.printedPath

/-- The segments that the control plane reads are those that the gateway prints, with one ending
behind them or with none at their end. -/
def SamePrefix (path pathname : String) : Prop :=
  ∃ front, slashed front = gatewayFront path ∧
    ((∃ ending ∈ serviceEndings, parts pathname.toList = front ++ ending) ∨
      parts pathname.toList = front ∧ ∀ ending ∈ serviceEndings, ¬ending <:+ front)

theorem samePrefix_iff {path pathname : String} :
    SamePrefix path pathname ↔
      gatewayFront path = slashed (keptParts (parts pathname.toList)) := by
  constructor
  case mp =>
    rintro ⟨front, same, read⟩
    rw [keptParts_eq_iff.mpr read, same]
  case mpr =>
    intro same
    exact ⟨_, same.symm, keptParts_eq_iff.mp rfl⟩

/-- The id is a segment of its route. -/
theorem mem_splitOn_routeParts (front : List Char) {sessionId : String}
    (segment : '/' ∉ sessionId.toList) :
    sessionId.toList ∈ (front ++ slashed (routeParts sessionId)).splitOn '/' := by
  have whole : front ++ slashed (routeParts sessionId) =
      (front ++ slashed ["gateway".toList, "signaling".toList]) ++
        '/' :: (sessionId.toList ++ '/' :: "viewer".toList) := by
    simp [slashed, routeParts]
  rw [whole, List.splitOn_append_cons_self, List.splitOn_append_cons_self,
    List.splitOn_eq_singleton segment]
  simp

theorem signaling_paths_agree_iff {gateway : MediaGateway.Platform}
    {isBare : MediaGateway.Url → Bool} (gatewayLaws : gateway.PathLaws isBare)
    {platform : UrlPlatform} (laws : platform.PathLaws) {raw : String} {base : MediaGateway.Url}
    (absolute : gateway.IsAbsolute ["ws", "wss"] raw base) {url : Url}
    (parsed : platform.parse raw = some url) (web : url.IsWebSocket) {sessionId : String}
    (unreserved : IsUnreserved sessionId.toList) (transport : String) :
    PathsAgree gateway platform raw sessionId transport ↔
      ¬IsDots sessionId.toList ∧ SamePrefix base.path url.pathname := by
  rw [PathsAgree, escapedPath_buildSignalingURL gatewayLaws absolute unreserved,
    printedPath_buildGatewaySignalingUrl laws parsed web unreserved, samePrefix_iff]
  by_cases dots : IsDots sessionId.toList
  · -- The URL parser resolves the id, and the gateway prints it.
    refine iff_of_false ?_ fun both => both.1 dots
    intro same
    have member := mem_splitOn_routeParts (gatewayFront base.path) (slash_not_mem unreserved)
    rw [← String.toList_ofList (l := gatewayFront base.path ++ _), Option.some.inj same] at member
    exact laws.dotless _ _ member dots
  · rw [storedPath_askedPath laws parsed web unreserved dots, askedPath, slashed_append]
    constructor
    case mp =>
      intro same
      exact ⟨dots, List.append_cancel_right (String.ofList_injective (Option.some.inj same))⟩
    case mpr =>
      rintro ⟨-, same⟩
      rw [same]

/-! ## A sample URL parser -/

/-- Paths whose characters are all unreserved, without dots for segments. -/
def isSimplePath (path : List Char) : Bool :=
  decide (path.head? = some '/') && (path.splitOn '/').all fun segment =>
    segment.all isUnreserved && !decide (IsDots segment)

def sampleOrigin : String := "wss://gateway.example.com"

def sampleParse (rest : List Char) : Option Url :=
  if rest = [] then some ⟨sampleOrigin, false, "/", [], ""⟩
  else if isSimplePath rest then some ⟨sampleOrigin, false, String.ofList rest, [], ""⟩
  else none

/-- The URLs of one host with simple paths. -/
def sampleUrls : UrlPlatform where
  trim := trimSpace
  toLowerCase := String.toLower
  number := fun _ => ""
  encodeURIComponent := id
  parse := fun raw =>
    if sampleOrigin.toList.isPrefixOf raw.toList then
      sampleParse ((raw.toList.drop sampleOrigin.length).takeWhile (· ≠ '?'))
    else none
  storedPath := fun path => if isSimplePath path.toList then path else "/"
  href := fun url => url.origin ++ url.pathname ++
    if url.query = [] then "" else
      "?" ++ String.intercalate "&" (url.query.map fun pair => pair.1 ++ "=" ++ pair.2)

theorem isSimplePath_iff {path : List Char} :
    isSimplePath path = true ↔ path.head? = some '/' ∧
      ∀ segment ∈ path.splitOn '/', IsUnreserved segment ∧ ¬IsDots segment := by
  unfold isSimplePath IsUnreserved
  simp only [Bool.and_eq_true, decide_eq_true_eq, List.all_eq_true, Bool.not_eq_true',
    decide_eq_false_iff_not]

theorem isSimplePath_slashed {all : List (List Char)} (some : all ≠ [])
    (plain : ∀ segment ∈ all, '/' ∉ segment) :
    isSimplePath (slashed all) = true ↔
      ∀ segment ∈ all, IsUnreserved segment ∧ ¬IsDots segment := by
  have rooted : (slashed all).head? = Option.some '/' := by
    cases all with
    | nil => exact absurd rfl some
    | cons first rest => rfl
  have blank : IsUnreserved [] ∧ ¬IsDots [] := by
    unfold IsUnreserved
    decide
  rw [isSimplePath_iff, splitOn_slashed plain]
  constructor
  case mp => exact fun simple => (List.forall_mem_cons.mp simple.2).2
  case mpr => exact fun simple => ⟨rooted, List.forall_mem_cons.mpr ⟨blank, simple⟩⟩

theorem sampleUrls_keepsSegment {segment : List Char} (plain : '/' ∉ segment) :
    sampleUrls.KeepsSegment segment ↔ IsUnreserved segment ∧ ¬IsDots segment := by
  have alone := @isSimplePath_slashed [segment] (by simp) (by simpa using plain)
  have whole : slashed [segment] = '/' :: segment := by simp [slashed]
  rw [whole] at alone
  simp only [List.mem_singleton, forall_eq] at alone
  rw [← alone]
  unfold UrlPlatform.KeepsSegment sampleUrls
  dsimp only
  rw [String.toList_ofList]
  constructor
  case mp =>
    intro kept
    split at kept
    case isTrue simple => exact simple
    case isFalse =>
      have chars := congrArg String.toList kept
      simp only [String.toList_ofList] at chars
      obtain rfl : segment = [] := (List.cons.inj chars).2.symm
      rfl
  case mpr =>
    intro simple
    rw [if_pos simple]

theorem sampleParse_spec {rest : List Char} {url : Url} (parsed : sampleParse rest = some url) :
    url.origin = sampleOrigin ∧ url.rigid = false ∧ isSimplePath url.pathname.toList = true := by
  unfold sampleParse at parsed
  split at parsed
  case isTrue =>
    cases parsed
    exact ⟨rfl, rfl, by rfl⟩
  case isFalse =>
    split at parsed
    case isTrue simple =>
      cases parsed
      exact ⟨rfl, rfl, by rw [String.toList_ofList]; exact simple⟩
    case isFalse => cases parsed

theorem sampleUrls_parse {raw : String} {url : Url} (parsed : sampleUrls.parse raw = some url) :
    url.origin = sampleOrigin ∧ url.rigid = false ∧ isSimplePath url.pathname.toList = true := by
  unfold sampleUrls at parsed
  dsimp only at parsed
  split at parsed
  · exact sampleParse_spec parsed
  · cases parsed

theorem isSimplePath_storedPath (path : String) :
    isSimplePath (sampleUrls.storedPath path).toList = true := by
  unfold sampleUrls
  dsimp only
  split
  case isTrue simple => exact simple
  case isFalse => rfl

/-- What follows the path is not read as a part of it. -/
theorem sampleUrls_printed {path : String} (simple : isSimplePath path.toList = true)
    (query : List (String × String)) :
    sampleUrls.printedPath (sampleUrls.href ⟨sampleOrigin, false, path, query, ""⟩) =
      some path := by
  obtain ⟨rooted, segments⟩ := isSimplePath_iff.mp simple
  obtain ⟨tail, spelled⟩ := List.head?_eq_some_iff.mp rooted
  have whole : path.toList = slashed (tail.splitOn '/') := by
    rw [spelled, ← intercalate_slash (List.splitOn_ne_nil '/' tail), List.intercalate_splitOn]
  have free : ∀ char ∈ path.toList, decide (char ≠ '?') = true := by
    intro char member
    rw [whole] at member
    obtain ⟨segment, inside, found⟩ := List.mem_flatMap.mp member
    rcases List.mem_cons.mp found with rfl | found
    · decide
    · have named := (segments segment (by
        rw [spelled, splitOn_cons_self]
        exact List.mem_cons_of_mem _ inside)).1 char found
      refine decide_eq_true fun mark => ?_
      rw [mark] at named
      revert named
      decide
  obtain ⟨more, printed, cut⟩ : ∃ more,
      (sampleUrls.href ⟨sampleOrigin, false, path, query, ""⟩).toList =
        sampleOrigin.toList ++ (path.toList ++ more) ∧ more.takeWhile (· ≠ '?') = [] := by
    unfold sampleUrls
    dsimp only
    split
    · exact ⟨[], by simp, rfl⟩
    · refine ⟨'?' :: (String.intercalate "&" (query.map fun pair =>
        pair.1 ++ "=" ++ pair.2)).toList, ?_, by rw [List.takeWhile_cons_of_neg (by simp)]⟩
      rw [String.toList_append, String.toList_append, String.toList_append, List.append_assoc]
      rfl
  have read : sampleUrls.parse (sampleUrls.href ⟨sampleOrigin, false, path, query, ""⟩) =
      sampleParse path.toList := by
    have starts : sampleOrigin.toList.isPrefixOf (sampleUrls.href
        ⟨sampleOrigin, false, path, query, ""⟩).toList = true := by
      rw [printed, List.isPrefixOf_iff_prefix]
      exact List.prefix_append _ _
    have unfolded (text : String) (starts : sampleOrigin.toList.isPrefixOf text.toList = true) :
        sampleUrls.parse text =
          sampleParse ((text.toList.drop sampleOrigin.length).takeWhile (· ≠ '?')) := if_pos starts
    rw [unfolded _ starts, printed, ← String.length_toList, List.drop_left,
      List.takeWhile_append_of_pos free, cut, List.append_nil]
  have present : path.toList ≠ [] := by simp [spelled]
  rw [UrlPlatform.printedPath, read, sampleParse, if_neg present, if_pos simple, Option.map_some,
    String.ofList_toList]

theorem sampleUrls_laws : sampleUrls.PathLaws := by
  constructor
  case component => exact fun _ _ => rfl
  case read =>
    intro raw url parsed _
    obtain ⟨-, free, simple⟩ := sampleUrls_parse parsed
    refine ⟨free, fun segment member => ?_⟩
    have named := (isSimplePath_iff.mp simple).2 segment member
    exact (sampleUrls_keepsSegment (slash_not_mem named.1)).mpr named
  case plain =>
    intro segment unreserved solid
    exact (sampleUrls_keepsSegment (slash_not_mem unreserved)).mpr ⟨unreserved, solid⟩
  case kept =>
    intro all some each
    have simple := (isSimplePath_slashed some fun segment member => (each segment member).1).mpr
      fun segment member =>
        (sampleUrls_keepsSegment (each segment member).1).mp (each segment member).2
    unfold sampleUrls
    dsimp only
    rw [String.toList_ofList, if_pos simple]
  case dotless =>
    intro path segment member
    exact ((isSimplePath_iff.mp (isSimplePath_storedPath path)).2 segment member).2
  case printed =>
    intro raw base path query parsed _
    obtain ⟨origin, free, -⟩ := sampleUrls_parse parsed
    cases base with
    | mk origin rigid pathname query fragment =>
        cases origin
        cases free
        exact sampleUrls_printed (isSimplePath_storedPath path) _

def sampleHostUrl (path : String) : Url := ⟨sampleOrigin, false, path, [], ""⟩

theorem prefixed_paths_agree :
    PathsAgree MediaGateway.spelledPlatform sampleUrls "wss://gateway.example.com/rbi" "sess_123"
      "webrtc" := by
  have absolute : MediaGateway.spelledPlatform.IsAbsolute ["ws", "wss"]
      "wss://gateway.example.com/rbi" ⟨"wss", "gateway.example.com", "/rbi", "", "", ""⟩ := by
    constructor <;> decide +kernel
  have parsed : sampleUrls.parse "wss://gateway.example.com/rbi" = some (sampleHostUrl "/rbi") := by
    rfl
  have web : (sampleHostUrl "/rbi").IsWebSocket :=
    .inr ⟨"gateway.example.com".toList, by rfl⟩
  apply (signaling_paths_agree_iff MediaGateway.spelledPlatform_pathLaws sampleUrls_laws absolute
    parsed web (by unfold IsUnreserved; decide) "webrtc").mpr
  constructor
  · decide
  · exact ⟨["rbi".toList], by rfl, .inr ⟨by rfl, by decide⟩⟩

/-- The gateway keeps the socket of a service that is not at the root. -/
theorem nested_socket_is_kept :
    ¬∀ (gateway : MediaGateway.Platform) (isBare : MediaGateway.Url → Bool),
      gateway.PathLaws isBare → ∀ platform : UrlPlatform, platform.PathLaws →
      ∀ raw base, gateway.IsAbsolute ["ws", "wss"] raw base →
      ∀ url, platform.parse raw = some url → url.IsWebSocket →
      ∀ sessionId : String, IsUnreserved sessionId.toList → ∀ transport,
        PathsAgree gateway platform raw sessionId transport := by
  intro agree
  have absolute : MediaGateway.spelledPlatform.IsAbsolute ["ws", "wss"]
      "wss://gateway.example.com/rbi/ws" ⟨"wss", "gateway.example.com", "/rbi/ws", "", "", ""⟩ := by
    constructor <;> decide +kernel
  have parsed : sampleUrls.parse "wss://gateway.example.com/rbi/ws" =
      some (sampleHostUrl "/rbi/ws") := by
    rfl
  have web : (sampleHostUrl "/rbi/ws").IsWebSocket :=
    .inr ⟨"gateway.example.com".toList, by rfl⟩
  have same := agree _ _ MediaGateway.spelledPlatform_pathLaws _ sampleUrls_laws _ _ absolute _
    parsed web "sess_123" (by unfold IsUnreserved; decide) "webrtc"
  revert same
  unfold PathsAgree
  decide

end RemoteBrowser.Gateway
