import Mathlib.Data.List.Basic
import RemoteBrowser.Events.Machine
import RemoteBrowser.Viewer.Signaling

/-!
# Offer and answer in direct mode

The signaling of one viewer (`viewer.js`) and one worker (`worker.py`) without the media gateway.
The worker makes the offers; the viewer answers them, and asks for a new offer with
`ice-restart-request` when its connection is lost. Each side puts off what it cannot do now: the
worker in `pending_offer_reason`, the viewer in `pendingIceRestart`.

The links between the two deliver in order. The viewer's socket may close at any time and is
replaced by a new one; what the viewer sends without an open socket is lost. The worker handles
one message after the other; each message of the viewer starts a handler of its own, which waits
at every WebRTC call.
-/

namespace RemoteBrowser.Renegotiation

inductive SignalingState where
  | stable
  | haveLocalOffer
  | haveRemoteOffer
  deriving DecidableEq

inductive ConnectionState where
  | fresh
  | connecting
  | connected
  | disconnected
  | failed
  deriving DecidableEq

inductive Signal where
  | sdpOffer
  | sdpAnswer
  | iceRestartRequest
  deriving DecidableEq

/-- The WebRTC call that a message handler of the viewer waits for: the three of the branch for
`sdp-offer` and the one of the branch for `sdp-answer`. -/
inductive ViewerCall where
  | setRemoteOffer
  | createAnswer
  | setLocalAnswer
  | setRemoteAnswer
  deriving DecidableEq

/-- The variables of the viewer page, whose session does not end. -/
structure ViewerPeer extends ViewerSignaling.Page where
  signalingState : SignalingState
  connectionState : ConnectionState
  canRequestIceRestart : Bool
  pendingIceRestart : Bool
  handlers : List ViewerCall
  deriving DecidableEq

inductive OfferReason where
  | initial
  | iceRestartRequest
  deriving DecidableEq

/-- Where the worker's signaling loop waits. -/
inductive WorkerPhase where
  -- connecting and registering, before the initial offer
  | starting
  | idle
  -- `send_offer`
  | createOffer
  | setLocalOffer
  | gatherOffer
  | sendOffer
  -- the branches for the three messages
  | setRemoteAnswer
  | recoverMedia
  | setRemoteOffer
  | createAnswer
  | setLocalAnswer
  | gatherAnswer
  | sendAnswer
  -- an exception has ended the loop
  | ended
  deriving DecidableEq

structure WorkerPeer where
  signalingState : SignalingState
  pendingOfferReason : Option OfferReason
  offerLock : Bool
  phase : WorkerPhase
  deriving DecidableEq

/-- Both peers and the messages between them. `registering` counts the `registered` replies that
are on their way to the viewer. -/
structure Negotiation where
  viewer : ViewerPeer
  worker : WorkerPeer
  toViewer : List Signal
  toWorker : List Signal
  registering : ℕ
  deriving DecidableEq

/-! ## The viewer -/

def scheduleSignalingReconnect (viewer : ViewerPeer) : ViewerPeer :=
  { viewer with toPage := viewer.toPage.scheduleSignalingReconnect }

def connectSignaling (viewer : ViewerPeer) : ViewerPeer :=
  { viewer with toPage := viewer.toPage.connectSignaling }

def requestIceRestart (viewer : ViewerPeer) : ViewerPeer :=
  { viewer with
    toPage := viewer.toPage.requestIceRestart true viewer.canRequestIceRestart
    pendingIceRestart :=
      viewer.pendingIceRestart || (!viewer.ended && !viewer.canRequestIceRestart) }

/-- The callback of the timer that `requestIceRestart` sets. -/
def onRestartIceTimer (state : Negotiation) : Negotiation :=
  let viewer := { state.viewer with restartIceTimer := false }
  if viewer.connectionState = .connected then
    { state with viewer := { viewer with pendingIceRestart := false } }
  else if viewer.signalingState ≠ .stable then
    { state with viewer := { viewer with pendingIceRestart := true } }
  else if viewer.wsState ≠ some .opened then
    { state with viewer := scheduleSignalingReconnect { viewer with pendingIceRestart := true } }
  else
    { state with
      viewer := { viewer with pendingIceRestart := false }
      toWorker := state.toWorker ++ [.iceRestartRequest] }

/-- The listener for `signalingstatechange`. -/
def onSignalingStateChange (viewer : ViewerPeer) : ViewerPeer :=
  if viewer.signalingState ≠ .stable ∨ viewer.canRequestIceRestart = false ∨
      viewer.pendingIceRestart = false then viewer
  else requestIceRestart viewer

def setSignalingState (signalingState : SignalingState) (viewer : ViewerPeer) : ViewerPeer :=
  if viewer.signalingState = signalingState then viewer
  else onSignalingStateChange { viewer with signalingState }

/-- The listener for `connectionstatechange`. -/
def onConnectionStateChange (connectionState : ConnectionState) (viewer : ViewerPeer) :
    ViewerPeer :=
  let viewer := { viewer with connectionState }
  if connectionState = .disconnected ∨ connectionState = .failed then requestIceRestart viewer
  else viewer

/-- `markLiveState`, as far as it is about signaling. -/
def markLiveState (viewer : ViewerPeer) : ViewerPeer :=
  { viewer with canRequestIceRestart := true, pendingIceRestart := false, restartIceTimer := false }

/-- The `registered` message. -/
def onRegistered (viewer : ViewerPeer) : ViewerPeer :=
  if viewer.canRequestIceRestart ∧ (viewer.pendingIceRestart ∨
      viewer.connectionState = .disconnected ∨ viewer.connectionState = .failed) then
    requestIceRestart viewer
  else viewer

/-- The socket's `open` event: `register` is sent on the current socket. -/
def onSocketOpen (index : ℕ) (state : Negotiation) : Negotiation :=
  let viewer := { state.viewer with sockets := state.viewer.sockets.set index .opened }
  if viewer.wsState = some .opened then
    { state with viewer, registering := state.registering + 1 }
  else { state with viewer }

/-- The `close` event of any socket clears the variable. -/
def onSocketClose (index : ℕ) (viewer : ViewerPeer) : ViewerPeer :=
  let viewer := { viewer with sockets := viewer.sockets.set index .closed, ws := none }
  if viewer.connectionState = .connected then scheduleSignalingReconnect viewer
  else scheduleSignalingReconnect { viewer with pendingIceRestart := true }

def onSocketError (viewer : ViewerPeer) : ViewerPeer :=
  scheduleSignalingReconnect { viewer with pendingIceRestart := true }

/-- A message of the worker arrives. -/
def onSignal (signal : Signal) (viewer : ViewerPeer) : ViewerPeer :=
  match signal with
  | .sdpOffer =>
      if viewer.signalingState ≠ .stable ∧ viewer.signalingState ≠ .haveRemoteOffer then
        { viewer with pendingIceRestart := true }
      else { viewer with handlers := viewer.handlers ++ [.setRemoteOffer] }
  | .sdpAnswer =>
      if viewer.signalingState ≠ .haveLocalOffer then viewer
      else { viewer with handlers := viewer.handlers ++ [.setRemoteAnswer] }
  | .iceRestartRequest => viewer

/-- `ws.send` of the answer. It throws without a socket or before it is open, and the handler
catches that; on a socket that is closing or closed it does nothing. -/
def sendAnswer (state : Negotiation) : Negotiation :=
  match state.viewer.wsState with
  | some .opened =>
      { state with
        viewer := { state.viewer with pendingIceRestart := false }
        toWorker := state.toWorker ++ [.sdpAnswer] }
  | none | some .connecting =>
      { state with viewer := { state.viewer with pendingIceRestart := true } }
  | some .closing | some .closed =>
      { state with viewer := { state.viewer with pendingIceRestart := false } }

/-- A WebRTC call fails and its handler ends in the `catch` branch. -/
def failCall (index : ℕ) (viewer : ViewerPeer) : ViewerPeer :=
  { viewer with handlers := viewer.handlers.eraseIdx index, pendingIceRestart := true }

/-- A WebRTC call succeeds, in a signaling state that permits it, and its handler goes on. -/
def finishCall (index : ℕ) (state : Negotiation) : Option Negotiation :=
  let viewer := state.viewer
  match viewer.handlers[index]? with
  | none => none
  | some .setRemoteOffer =>
      if viewer.signalingState = .haveLocalOffer then none
      else
        let viewer := setSignalingState .haveRemoteOffer viewer
        some { state with
          viewer := { viewer with handlers := viewer.handlers.set index .createAnswer } }
  | some .createAnswer =>
      if viewer.signalingState ≠ .haveRemoteOffer then none
      else
        some { state with
          viewer := { viewer with handlers := viewer.handlers.set index .setLocalAnswer } }
  | some .setLocalAnswer =>
      if viewer.signalingState ≠ .haveRemoteOffer then none
      else
        let viewer := setSignalingState .stable viewer
        some (sendAnswer { state with
          viewer := { viewer with handlers := viewer.handlers.eraseIdx index } })
  | some .setRemoteAnswer =>
      if viewer.signalingState ≠ .haveLocalOffer then none
      else
        let viewer := setSignalingState .stable viewer
        some { state with
          viewer :=
            { viewer with
              handlers := viewer.handlers.eraseIdx index, pendingIceRestart := false } }

/-! ## The worker -/

/-- `send_offer` up to its first wait. -/
def sendOffer (reason : OfferReason) (worker : WorkerPeer) : WorkerPeer :=
  if worker.offerLock ∨ worker.signalingState ≠ .stable then
    { worker with pendingOfferReason := some reason, phase := .idle }
  else { worker with offerLock := true, phase := .createOffer }

/-- `flush_pending_offer`, after which the loop goes on to its next message. -/
def flushPendingOffer (worker : WorkerPeer) : WorkerPeer :=
  match worker.pendingOfferReason with
  | none => { worker with phase := .idle }
  | some reason =>
      if worker.offerLock ∨ worker.signalingState ≠ .stable then { worker with phase := .idle }
      else sendOffer reason { worker with pendingOfferReason := none }

/-- The loop takes a message. -/
def onWorkerSignal (signal : Signal) (worker : WorkerPeer) : WorkerPeer :=
  match signal with
  | .sdpOffer => { worker with phase := .setRemoteOffer }
  | .sdpAnswer => { worker with phase := .setRemoteAnswer }
  | .iceRestartRequest => { worker with phase := .recoverMedia }

/-- The loop goes on after its wait. A description that the signaling state does not permit
raises an exception. -/
def workerStep (state : Negotiation) : Option Negotiation :=
  let worker := state.worker
  let goOn (worker : WorkerPeer) : Option Negotiation := some { state with worker }
  match worker.phase with
  | .idle | .ended => none
  | .starting => goOn (sendOffer .initial worker)
  | .createOffer => goOn { worker with phase := .setLocalOffer }
  | .setLocalOffer => goOn { worker with signalingState := .haveLocalOffer, phase := .gatherOffer }
  | .gatherOffer => goOn { worker with phase := .sendOffer }
  | .sendOffer =>
      some { state with
        worker := flushPendingOffer { worker with offerLock := false }
        toViewer := state.toViewer ++ [.sdpOffer] }
  | .setRemoteAnswer =>
      if worker.signalingState = .haveLocalOffer then
        goOn (flushPendingOffer { worker with signalingState := .stable })
      else goOn { worker with phase := .ended }
  | .recoverMedia => goOn (sendOffer .iceRestartRequest worker)
  | .setRemoteOffer =>
      if worker.signalingState = .haveLocalOffer then goOn { worker with phase := .ended }
      else goOn { worker with signalingState := .haveRemoteOffer, phase := .createAnswer }
  | .createAnswer => goOn { worker with phase := .setLocalAnswer }
  | .setLocalAnswer => goOn { worker with signalingState := .stable, phase := .gatherAnswer }
  | .gatherAnswer => goOn { worker with phase := .sendAnswer }
  | .sendAnswer =>
      some { state with
        worker := flushPendingOffer worker
        toViewer := state.toViewer ++ [.sdpAnswer] }

/-! ## Both -/

inductive Action where
  | viewerConnection (connectionState : ConnectionState)
  -- the ICE connection is lost, or the video stalls
  | iceRestartWanted
  | live
  | restartTimer
  | reconnectTimer
  | socketOpens (index : ℕ)
  | socketCloses (index : ℕ)
  | socketClosed (index : ℕ)
  | socketFails
  | registered
  | toViewer
  | viewerCall (index : ℕ) (succeeds : Bool)
  | toWorker
  | worker
  deriving DecidableEq

def Negotiation.onViewer (state : Negotiation) (change : ViewerPeer → ViewerPeer) : Negotiation :=
  { state with viewer := change state.viewer }

def step (state : Negotiation) : Action → Option Negotiation
  | .viewerConnection connectionState =>
      some (state.onViewer (onConnectionStateChange connectionState))
  | .iceRestartWanted => some (state.onViewer requestIceRestart)
  | .live => some (state.onViewer markLiveState)
  | .restartTimer => if state.viewer.restartIceTimer then some (onRestartIceTimer state) else none
  | .reconnectTimer =>
      if state.viewer.signalingReconnectTimer then some (state.onViewer connectSignaling) else none
  | .socketOpens index =>
      if state.viewer.sockets[index]? = some .connecting then some (onSocketOpen index state)
      else none
  | .socketCloses index =>
      if state.viewer.sockets[index]? = some .connecting ∨
          state.viewer.sockets[index]? = some .opened then
        some (state.onViewer fun viewer =>
          { viewer with sockets := viewer.sockets.set index .closing })
      else none
  | .socketClosed index =>
      if state.viewer.sockets[index]? = some .closing then
        some (state.onViewer (onSocketClose index))
      else none
  | .socketFails => some (state.onViewer onSocketError)
  | .registered =>
      match state.registering with
      | 0 => none
      | left + 1 => some { state.onViewer onRegistered with registering := left }
  | .toViewer =>
      match state.toViewer with
      | [] => none
      | signal :: rest =>
          if .opened ∈ state.viewer.sockets then
            some { state.onViewer (onSignal signal) with toViewer := rest }
          else none
  | .viewerCall index succeeds =>
      if succeeds then finishCall index state
      else if index < state.viewer.handlers.length then some (state.onViewer (failCall index))
      else none
  | .toWorker =>
      match state.worker.phase, state.toWorker with
      | .idle, signal :: rest =>
          some { state with worker := onWorkerSignal signal state.worker, toWorker := rest }
      | _, _ => none
  | .worker => workerStep state

/-- The page has just opened its first socket and the worker is starting. -/
def negotiation : Machine Negotiation Action where
  initial :=
    { viewer :=
        { ViewerSignaling.Page.initial with
          signalingState := .stable
          connectionState := .fresh
          canRequestIceRestart := false
          pendingIceRestart := false
          handlers := [] }
      worker :=
        { signalingState := .stable, pendingOfferReason := none, offerLock := false,
          phase := .starting }
      toViewer := []
      toWorker := []
      registering := 0 }
  step := step

end RemoteBrowser.Renegotiation
