import RemoteBrowser.Events.Runs
import Mathlib.Tactic.Common

/-!
# The signaling socket of the viewer

`connectSignaling` of `viewer.js` creates a socket and makes it the shared `ws`; the handlers of
all sockets write `ws` and the reconnect timer.  An event whose occasion is not there changes
nothing.
-/

namespace RemoteBrowser.ViewerSignaling

inductive ReadyState where
  | connecting
  | opened
  | closing
  | closed
  deriving DecidableEq

/-- Connecting or open. -/
def ReadyState.live : ReadyState → Bool
  | connecting | opened => true
  | closing | closed => false

/-- The variables of the page; the sockets are numbered as they are created. -/
structure Page where
  sockets : List ReadyState
  ws : Option ℕ
  signalingReconnectTimer : Bool
  restartIceTimer : Bool
  sessionEnded : Bool
  unloadSent : Bool
  deriving DecidableEq

/-- What the callback of the restart timer finds. -/
structure PeerStatus where
  /-- `peer.connectionState === "connected"`. -/
  connected : Bool
  /-- `peer.signalingState === "stable"`. -/
  stable : Bool
  /-- `isViewerGatewayWebrtcRelaySession()`. -/
  gatewayRelay : Bool
  sendThrows : Bool

inductive Event where
  | opened (socket : ℕ)
  /-- The closing handshake of a socket begins. -/
  | closing (socket : ℕ)
  | closed (socket : ℕ)
  | error (socket : ℕ)
  | reconnectTimer
  /-- A call of `requestIceRestart`; `peer` and `canRequestIceRestart` at that time. -/
  | requestIceRestart (peer canRequestIceRestart : Bool)
  /-- The callback of `restartIceTimer`; without a peer it finds nothing. -/
  | restartIceTimer (peer : Option PeerStatus)
  /-- A message `session-terminated`. -/
  | sessionTerminated
  /-- A message `error`. -/
  | errorMessage
  | endSession

namespace Page

variable (page : Page)

/-- The state of `ws`, if it is not `null`. -/
def wsState : Option ReadyState := page.ws.bind fun socket => page.sockets[socket]?

def ended : Bool := page.sessionEnded || page.unloadSent

def scheduleSignalingReconnect : Page :=
  if page.ended then page
  else if page.signalingReconnectTimer then page
  else if page.wsState.any ReadyState.live then page
  else { page with signalingReconnectTimer := true }

def connectSignaling : Page :=
  { page with
    signalingReconnectTimer := false
    sockets := page.sockets ++ [.connecting]
    ws := some page.sockets.length }

/-- `ws?.close()`. -/
def closeWs : Page :=
  match page.ws with
  | none => page
  | some socket =>
      if page.sockets[socket]?.any ReadyState.live then
        { page with sockets := page.sockets.set socket .closing }
      else page

/-- The `close` handler. -/
def onClose : Page :=
  let page := { page with ws := none }
  if page.ended then page else page.scheduleSignalingReconnect

/-- The `error` handler. -/
def onError : Page := if page.ended then page else page.scheduleSignalingReconnect

def requestIceRestart (peer canRequestIceRestart : Bool) : Page :=
  if !peer || page.ended then page
  else if !canRequestIceRestart then page
  else if page.restartIceTimer then page
  else { page with restartIceTimer := true }

/-- The callback of `restartIceTimer`. -/
def restartIce (peer : Option PeerStatus) : Page :=
  let page := { page with restartIceTimer := false }
  match peer with
  | none => page
  | some peer =>
      if page.ended then page
      else if peer.connected then page
      else if !peer.stable then page
      else if peer.gatewayRelay then page
      else if page.wsState ≠ some .opened then page.scheduleSignalingReconnect
      else if peer.sendThrows then page.scheduleSignalingReconnect
      else page

def step : Event → Page
  | .opened socket =>
      if page.sockets[socket]? = some .connecting then
        { page with sockets := page.sockets.set socket .opened }
      else page
  | .closing socket =>
      if page.sockets[socket]?.any ReadyState.live then
        { page with sockets := page.sockets.set socket .closing }
      else page
  | .closed socket =>
      if page.sockets[socket]?.any (· ≠ .closed) then
        { page with sockets := page.sockets.set socket .closed }.onClose
      else page
  | .error socket => if socket < page.sockets.length then page.onError else page
  | .reconnectTimer =>
      if page.signalingReconnectTimer then
        { page with signalingReconnectTimer := false }.connectSignaling
      else page
  | .requestIceRestart peer canRequestIceRestart =>
      page.requestIceRestart peer canRequestIceRestart
  | .restartIceTimer peer => if page.restartIceTimer then page.restartIce peer else page
  | .sessionTerminated =>
      { page with
        sessionEnded := true
        restartIceTimer := false
        signalingReconnectTimer := false }.closeWs
  | .errorMessage =>
      { page with
        sessionEnded := true
        restartIceTimer := false
        signalingReconnectTimer := false }
  | .endSession =>
      if page.unloadSent then page else { page with unloadSent := true, sessionEnded := true }

/-- The page when it has called `connectSignaling` for the first time. -/
def initial : Page :=
  connectSignaling
    { sockets := []
      ws := none
      signalingReconnectTimer := false
      restartIceTimer := false
      sessionEnded := false
      unloadSent := false }

end Page

/-- There is one signaling socket: `ws` is `null` or the latest one, no other one is open or
connecting, and without one a reconnect is due. -/
structure OneSocket (page : Page) : Prop where
  latest : page.ws = none ∨ page.ws = some (page.sockets.length - 1)
  others : ∀ socket state, page.sockets[socket]? = some state → state.live → page.ws = some socket
  due : page.ws = none → page.ended = false → page.signalingReconnectTimer

/-- A reconnect is due only while `ws` is not in use, and `ws` is a socket of the page. -/
structure Sound (page : Page) : Prop where
  exists_ws : ∀ socket, page.ws = some socket → socket < page.sockets.length
  idle : page.signalingReconnectTimer → page.wsState.any ReadyState.live = false

/-- A socket is closed while it is `ws`, or while `ws` is not in use. -/
def Page.ClosesOwn (page : Page) : Event → Prop
  | .closed socket =>
      page.sockets[socket]?.any (· ≠ .closed) → page.ws ≠ some socket →
        page.wsState.any ReadyState.live = false
  | _ => True

section Steps

variable {page : Page}

theorem sound_initial : Sound Page.initial := by
  constructor
  case exists_ws =>
    rintro socket ⟨⟩
    decide
  case idle => nofun

theorem oneSocket_initial : OneSocket Page.initial := by
  constructor
  case latest => exact .inr rfl
  case others =>
    intro socket state found live
    cases socket with
    | zero => rfl
    | succ socket => cases found
  case due => nofun

theorem Sound.scheduleSignalingReconnect (sound : Sound page) :
    Sound page.scheduleSignalingReconnect := by
  unfold Page.scheduleSignalingReconnect
  split_ifs with ended armed live
  · exact sound
  · exact sound
  · exact sound
  · exact ⟨sound.exists_ws, fun _ => Bool.eq_false_iff.mpr live⟩

theorem OneSocket.scheduleSignalingReconnect (one : OneSocket page) :
    OneSocket page.scheduleSignalingReconnect := by
  unfold Page.scheduleSignalingReconnect
  split_ifs with ended armed live
  · exact one
  · exact one
  · exact one
  · exact ⟨one.latest, one.others, fun _ _ => rfl⟩

theorem Sound.connectSignaling : Sound page.connectSignaling := by
  constructor
  case exists_ws =>
    rintro socket ⟨⟩
    simp [Page.connectSignaling]
  case idle => nofun

/-- A live socket is the one in use. -/
theorem wsState_of_live (one : OneSocket page) {socket : ℕ} {state : ReadyState}
    (found : page.sockets[socket]? = some state) (live : state.live) :
    page.wsState.any ReadyState.live := by
  rw [Page.wsState, one.others socket state found live, Option.bind_some, found]
  exact live

theorem OneSocket.connectSignaling (one : OneSocket page)
    (idle : page.wsState.any ReadyState.live = false) : OneSocket page.connectSignaling := by
  constructor
  case latest => exact .inr (by simp [Page.connectSignaling])
  case others =>
    intro socket state found live
    simp only [Page.connectSignaling] at found ⊢
    rcases Nat.lt_trichotomy socket page.sockets.length with old | rfl | beyond
    · rw [List.getElem?_append_left old] at found
      rw [wsState_of_live one found live] at idle
      cases idle
    · rfl
    · rw [List.getElem?_eq_none (by simp; omega)] at found
      cases found
  case due =>
    intro none
    cases none

/-- After the handler there is one socket if none is live any more. -/
theorem oneSocket_onClose_iff :
    OneSocket page.onClose ↔
      ∀ (socket : ℕ) (state : ReadyState),
        page.sockets[socket]? = some state → state.live = false := by
  have shape : ∃ timer, page.onClose = { page with ws := none, signalingReconnectTimer := timer } ∧
      (page.ended = false → timer = true) := by
    unfold Page.onClose
    dsimp only
    split_ifs with ended
    · exact ⟨_, rfl, fun open' => absurd (ended.symm.trans open') (by simp)⟩
    · unfold Page.scheduleSignalingReconnect
      split_ifs with armed live
      · exact ⟨_, rfl, fun _ => armed⟩
      · cases live
      · exact ⟨true, rfl, fun _ => rfl⟩
  obtain ⟨timer, same, armed⟩ := shape
  rw [same]
  constructor
  case mp =>
    intro one socket state found
    by_contra live
    rw [Bool.not_eq_false] at live
    cases one.others socket state found live
  case mpr =>
    intro quiet
    constructor
    case latest => exact .inl rfl
    case others =>
      intro socket state found live
      rw [quiet socket state found] at live
      cases live
    case due => exact fun _ => armed

theorem sound_onClose : Sound page.onClose := by
  have base : Sound { page with ws := none } := ⟨nofun, fun _ => rfl⟩
  unfold Page.onClose
  dsimp only
  split_ifs
  · exact base
  · exact base.scheduleSignalingReconnect

/-- The state of a socket changes to one that is not live. -/
theorem Sound.set (sound : Sound page) {socket : ℕ} {state : ReadyState}
    (quiet : state.live = false) :
    Sound { page with sockets := page.sockets.set socket state } := by
  constructor
  case exists_ws =>
    intro current same
    rw [List.length_set]
    exact sound.exists_ws current same
  case idle =>
    intro armed
    have idle := sound.idle armed
    unfold Page.wsState at idle ⊢
    cases current : page.ws with
    | none => rfl
    | some current' =>
        simp only [current, Option.bind_some, List.getElem?_set] at idle ⊢
        split_ifs with here within
        · exact quiet
        · rfl
        · exact idle

theorem OneSocket.set (one : OneSocket page) {socket : ℕ} {state : ReadyState}
    (quiet : state.live = false) :
    OneSocket { page with sockets := page.sockets.set socket state } := by
  constructor
  case latest =>
    rw [List.length_set]
    exact one.latest
  case others =>
    intro other state' found live
    rw [List.getElem?_set] at found
    split_ifs at found with here within
    · cases found
      rw [quiet] at live
      cases live
    · exact one.others other state' found live
  case due => exact one.due

theorem Sound.closeWs (sound : Sound page) : Sound page.closeWs := by
  unfold Page.closeWs
  split
  case h_1 => exact sound
  case h_2 =>
    split_ifs
    · exact sound.set rfl
    · exact sound

theorem OneSocket.closeWs (one : OneSocket page) : OneSocket page.closeWs := by
  unfold Page.closeWs
  split
  case h_1 => exact one
  case h_2 =>
    split_ifs
    · exact one.set rfl
    · exact one

/-- A socket that is connecting opens. -/
theorem Sound.opened (sound : Sound page) {socket : ℕ}
    (connecting : page.sockets[socket]? = some .connecting) :
    Sound { page with sockets := page.sockets.set socket .opened } := by
  constructor
  case exists_ws =>
    intro current same
    rw [List.length_set]
    exact sound.exists_ws current same
  case idle =>
    intro armed
    have idle := sound.idle armed
    unfold Page.wsState at idle ⊢
    cases current : page.ws with
    | none => rfl
    | some current' =>
        simp only [current, Option.bind_some, List.getElem?_set] at idle ⊢
        split_ifs with here within
        · rw [← here, connecting] at idle
          cases idle
        · rfl
        · exact idle

theorem OneSocket.opened (one : OneSocket page) {socket : ℕ}
    (connecting : page.sockets[socket]? = some .connecting) :
    OneSocket { page with sockets := page.sockets.set socket .opened } := by
  constructor
  case latest =>
    rw [List.length_set]
    exact one.latest
  case others =>
    intro other state found live
    rw [List.getElem?_set] at found
    split_ifs at found with here within
    · rw [← here]
      exact one.others socket .connecting connecting rfl
    · exact one.others other state found live
  case due => exact one.due

/-- Only the close of a socket that is not in use any more can leave a second socket. -/
theorem OneSocket.closed_iff (one : OneSocket page) (socket : ℕ) :
    OneSocket { page with sockets := page.sockets.set socket .closed }.onClose ↔
      (page.ws ≠ some socket → page.wsState.any ReadyState.live = false) := by
  rw [oneSocket_onClose_iff]
  constructor
  case mp =>
    intro quiet other
    cases current : page.ws with
    | none => simp [Page.wsState, current]
    | some current' =>
        rw [Page.wsState, current, Option.bind_some]
        cases found : page.sockets[current']? with
        | none => rfl
        | some state =>
            apply quiet current' state
            rw [List.getElem?_set_ne, found]
            rintro rfl
            exact other current
  case mpr =>
    intro idle other state found
    rw [List.getElem?_set] at found
    split_ifs at found with here within
    · cases found
      rfl
    · by_contra live
      rw [Bool.not_eq_false] at live
      have inUse := one.others other state found live
      have away : page.ws ≠ some socket := by
        rw [inUse]
        rintro ⟨⟩
        exact here rfl
      have inUse := wsState_of_live one found live
      rw [idle away] at inUse
      cases inUse

theorem Sound.restartIce (sound : Sound page) (peer : Option PeerStatus) :
    Sound (page.restartIce peer) := by
  have base : Sound { page with restartIceTimer := false } := ⟨sound.exists_ws, sound.idle⟩
  unfold Page.restartIce
  cases peer with
  | none => exact base
  | some peer =>
      dsimp only
      split_ifs
      all_goals first | exact base | exact base.scheduleSignalingReconnect

theorem OneSocket.restartIce (one : OneSocket page) (peer : Option PeerStatus) :
    OneSocket (page.restartIce peer) := by
  have base : OneSocket { page with restartIceTimer := false } := ⟨one.latest, one.others, one.due⟩
  unfold Page.restartIce
  cases peer with
  | none => exact base
  | some peer =>
      dsimp only
      split_ifs
      all_goals first | exact base | exact base.scheduleSignalingReconnect

/-- A change of the other variables. -/
theorem requestIceRestart_eq (peer canRequestIceRestart : Bool) :
    ∃ timer, page.requestIceRestart peer canRequestIceRestart =
      { page with restartIceTimer := timer } := by
  unfold Page.requestIceRestart
  split_ifs
  all_goals exact ⟨_, rfl⟩

theorem Sound.step (sound : Sound page) (event : Event) : Sound (page.step event) := by
  cases event with
  | opened socket =>
      simp only [Page.step]
      split_ifs with connecting
      · exact sound.opened connecting
      · exact sound
  | closing socket =>
      simp only [Page.step]
      split_ifs
      · exact sound.set rfl
      · exact sound
  | closed socket =>
      simp only [Page.step]
      split_ifs
      · exact sound_onClose
      · exact sound
  | error socket =>
      simp only [Page.step, Page.onError]
      split_ifs
      · exact sound
      · exact sound.scheduleSignalingReconnect
      · exact sound
  | reconnectTimer =>
      simp only [Page.step]
      split_ifs
      · exact Sound.connectSignaling
      · exact sound
  | requestIceRestart peer canRequestIceRestart =>
      obtain ⟨timer, same⟩ := @requestIceRestart_eq page peer canRequestIceRestart
      rw [Page.step, same]
      exact ⟨sound.exists_ws, sound.idle⟩
  | restartIceTimer peer =>
      simp only [Page.step]
      split_ifs
      · exact sound.restartIce peer
      · exact sound
  | sessionTerminated => exact Sound.closeWs ⟨sound.exists_ws, nofun⟩
  | errorMessage => exact ⟨sound.exists_ws, nofun⟩
  | endSession =>
      simp only [Page.step]
      split_ifs
      · exact sound
      · exact ⟨sound.exists_ws, sound.idle⟩

/-- One step keeps the single socket exactly if it closes no socket behind the one in use. -/
theorem OneSocket.step_iff (sound : Sound page) (one : OneSocket page) (event : Event) :
    OneSocket (page.step event) ↔ page.ClosesOwn event := by
  cases event with
  | closed socket =>
      simp only [Page.step, Page.ClosesOwn]
      split_ifs with open'
      · rw [one.closed_iff]
        exact ⟨fun idle _ => idle, fun idle => idle open'⟩
      · exact iff_of_true one fun closes => absurd closes open'
  | opened socket =>
      refine iff_of_true ?_ trivial
      simp only [Page.step]
      split_ifs with connecting
      · exact one.opened connecting
      · exact one
  | closing socket =>
      refine iff_of_true ?_ trivial
      simp only [Page.step]
      split_ifs
      · exact one.set rfl
      · exact one
  | error socket =>
      refine iff_of_true ?_ trivial
      simp only [Page.step, Page.onError]
      split_ifs
      · exact one
      · exact one.scheduleSignalingReconnect
      · exact one
  | reconnectTimer =>
      refine iff_of_true ?_ trivial
      simp only [Page.step]
      split_ifs with armed
      · exact one.connectSignaling (sound.idle armed)
      · exact one
  | requestIceRestart peer canRequestIceRestart =>
      obtain ⟨timer, same⟩ := @requestIceRestart_eq page peer canRequestIceRestart
      rw [Page.step, same]
      exact iff_of_true ⟨one.latest, one.others, one.due⟩ trivial
  | restartIceTimer peer =>
      refine iff_of_true ?_ trivial
      simp only [Page.step]
      split_ifs
      · exact one.restartIce peer
      · exact one
  | sessionTerminated =>
      exact iff_of_true (OneSocket.closeWs ⟨one.latest, one.others, fun _ => nofun⟩) trivial
  | errorMessage =>
      exact iff_of_true ⟨one.latest, one.others, fun _ => nofun⟩ trivial
  | endSession =>
      refine iff_of_true ?_ trivial
      simp only [Page.step]
      split_ifs
      · exact one
      · exact ⟨one.latest, one.others, fun _ => nofun⟩

end Steps

/-- The viewer keeps one signaling socket in every state of a run exactly if no socket is closed
while a later one is connecting or open as `ws`. -/
theorem one_signaling_socket_iff (events : List Event) :
    (∀ before, before <+: events → OneSocket (Runs.run Page.step Page.initial before)) ↔
      Runs.Throughout Page.step Page.initial Page.ClosesOwn events :=
  Runs.always_iff_throughout sound_initial (fun _ event sound => sound.step event)
    oneSocket_initial (fun _ event sound one => one.step_iff sound event) events

/-- While the first socket is closing, a restart connects a second one; the late close of the
first one takes it out of `ws`. -/
theorem late_close_drops_new_socket :
    ¬OneSocket (Runs.run Page.step Page.initial
      [.opened 0, .closing 0, .requestIceRestart true true,
        .restartIceTimer (some ⟨false, true, false, false⟩), .reconnectTimer, .closed 0]) := by
  intro one
  cases one.others 1 .connecting rfl rfl

end RemoteBrowser.ViewerSignaling
