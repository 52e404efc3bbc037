import RemoteBrowser.Async.Monitor
import RemoteBrowser.MediaGateway.Contracts
import RemoteBrowser.MediaGateway.Relay
import RemoteBrowser.Text.Whitespace
import Mathlib.Algebra.Order.Group.Multiset

/-!
# The WebRTC relay of one session

Offers, new data channels, messages and terminations of a session reach its relay on goroutines of
their own, which share the fields of the relay under one lock.  A section under the lock and a
call of the peer connections between two sections are each one step of the interleaving.

Media, statistics and the negotiation itself are left out.  Messages carry the place at which they
arrived, and the relay remembers what it has received and handed on; nothing depends on these.
-/

namespace RemoteBrowser.MediaGateway

open Async Text

/-! ## State -/

def pionRelayMaxPendingDataMessages : Nat := 512

def pionRelayPointerBufferHighBytes : Nat := 16 * 1024

def isPointerChannel (label : String) : Bool := label = inputPointerChannelName

structure QueuedDataMessage where
  payload : List UInt8
  isString : Bool
  arrival : Nat
  deriving DecidableEq

/-- What belongs to the worker in the source is kept under its role, and so for the viewer: the
peer connection, the data channels by label, and what is pending for them. -/
structure PionRelaySession where
  peer : Role → Option Nat := fun _ => none
  channels : Role → List (String × Nat) := fun _ => []
  pending : Role → String → List QueuedDataMessage := fun _ _ => []
  dataMessages : Role → Nat := fun _ => 0
  pointerDroppedMessages : Nat := 0
  controlDroppedMessages : Nat := 0
  terminated : Bool := false
  terminationReason : String := ""
  received : Role → String → List QueuedDataMessage := fun _ _ => []
  delivered : Role → String → List QueuedDataMessage := fun _ _ => []
  peersStored : Nat := 0
  peersClosed : List Nat := []

/-- Change one entry of a table of channels. -/
def assign {β : Type} (table : Role → String → β) (side : Role) (label : String) (value : β) :
    Role → String → β :=
  fun role name => if role = side ∧ name = label then value else table role name

section Assign

variable {β : Type} {table : Role → String → β} {side role : Role} {label name : String} {value : β}

@[simp] theorem assign_self : assign table side label value side label = value :=
  if_pos ⟨rfl, rfl⟩

theorem assign_of_ne (different : ¬(role = side ∧ name = label)) :
    assign table side label value role name = table role name :=
  if_neg different

end Assign

/-! ## Sections -/

/-- What a section leaves open: the state of the data channel it looks at, and whether that takes
a message. -/
structure PionChoice where
  ready : Bool := true
  bufferedAmount : Nat := 0
  takes : Bool := true

/-- A message taken from what is pending, and whether the maps were then those of a closed
relay. -/
structure Taken where
  target : Nat
  message : QueuedDataMessage
  closed : Bool
  deriving DecidableEq

/-- What a closed relay leaves behind. -/
structure Remains where
  channels : List Nat
  peers : List Nat

inductive PionOp where
  | storePeer (role : Role)
  | closePeer (peer : Nat)
  | storeChannel (role : Role) (label : String) (channel : Nat)
  | channelReady (channel : Nat)
  | dispatch (side : Role) (label : String) (payload : List UInt8) (isString : Bool)
  | sendDirect (side : Role) (label : String) (target : Nat) (message : QueuedDataMessage)
  | takePending (side : Role) (label : String)
  | sendPending (side : Role) (label : String) (target : Nat) (message : QueuedDataMessage)
  | putBack (side : Role) (label : String) (closed : Bool) (message : QueuedDataMessage)
  | countDelivered (side : Role)
  | terminate (reason : String)
  | closeChannel (channel : Nat)
  | cleanupRelaySession (reason : String)
  deriving DecidableEq

@[reducible] def PionOp.Reply : PionOp → Type
  | .storePeer _ => Option Nat
  | .closePeer _ => Unit
  | .storeChannel _ _ _ => Unit
  | .channelReady _ => Bool
  | .dispatch _ _ _ _ => Option (Nat × QueuedDataMessage)
  | .sendDirect _ _ _ _ => Bool
  | .takePending _ _ => Option Taken
  | .sendPending _ _ _ _ => Bool
  | .putBack _ _ _ _ => Unit
  | .countDelivered _ => Unit
  | .terminate _ => Option Remains
  | .closeChannel _ => Unit
  | .cleanupRelaySession _ => Unit

abbrev pionFace : Interface := ⟨PionOp, PionOp.Reply⟩

abbrev PionHandler := Program pionFace

def PionOp.await (op : PionOp) : PionHandler op.Reply := @Program.call pionFace op

namespace PionRelaySession

/-- The channel for the label, if a message can be sent to it. -/
def openChannel (relay : PionRelaySession) (choice : PionChoice) (side : Role) (label : String) :
    Option Nat :=
  if choice.ready then (relay.channels side).lookup label else none

/-- Only messages for the worker's pointer channel wait for its buffer. -/
def directTarget (relay : PionRelaySession) (choice : PionChoice) (side : Role) (label : String) :
    Option Nat :=
  if side = .worker ∧ isPointerChannel label ∧
      pionRelayPointerBufferHighBytes < choice.bufferedAmount then none
  else relay.openChannel choice side label

/-- The loop that drops the first message of a queue while it is too long; the number counts the
messages that are dropped. -/
def trimQueue : List QueuedDataMessage → List QueuedDataMessage × Nat
  | [] => ([], 0)
  | first :: rest =>
      if pionRelayMaxPendingDataMessages < (first :: rest).length then
        let trimmed := trimQueue rest
        (trimmed.1, trimmed.2 + 1)
      else (first :: rest, 0)

def enqueueDataMessage (relay : PionRelaySession) (side : Role) (label : String)
    (message : QueuedDataMessage) : PionRelaySession :=
  let queue := relay.pending side label
  if isPointerChannel label then
    { relay with
      pending := assign relay.pending side label [message]
      pointerDroppedMessages := relay.pointerDroppedMessages + queue.length }
  else
    let trimmed := trimQueue (queue ++ [message])
    { relay with
      pending := assign relay.pending side label trimmed.1
      controlDroppedMessages := relay.controlDroppedMessages +
        if side = .worker then trimmed.2 else 0 }

/-- The message that arrives next for the channel. -/
def arriving (relay : PionRelaySession) (side : Role) (label : String) (payload : List UInt8)
    (isString : Bool) : QueuedDataMessage :=
  ⟨payload, isString, (relay.received side label).length⟩

def receive (relay : PionRelaySession) (side : Role) (label : String)
    (message : QueuedDataMessage) : PionRelaySession :=
  { relay with received := assign relay.received side label (relay.received side label ++ [message]) }

/-- The first section of `forwardDataToWorker` and `forwardDataToViewer`. -/
def dispatch (relay : PionRelaySession) (choice : PionChoice) (side : Role) (label : String)
    (message : QueuedDataMessage) : PionRelaySession × Option (Nat × QueuedDataMessage) :=
  match relay.directTarget choice side label with
  | some target => (relay, some (target, message))
  | none => (relay.enqueueDataMessage side label message, none)

/-- `sendDataChannelMessage`. -/
def send (relay : PionRelaySession) (choice : PionChoice) (side : Role) (label : String)
    (message : QueuedDataMessage) : PionRelaySession × Bool :=
  if choice.ready && choice.takes then
    ({ relay with
        delivered := assign relay.delivered side label (relay.delivered side label ++ [message]) },
      true)
  else (relay, false)

/-- The first section of a round of `flushPending`. -/
def takePending (relay : PionRelaySession) (choice : PionChoice) (side : Role) (label : String) :
    PionRelaySession × Option Taken :=
  match relay.openChannel choice side label, relay.pending side label with
  | some target, message :: rest =>
      ({ relay with pending := assign relay.pending side label rest },
        some ⟨target, message, relay.terminated⟩)
  | _, _ => (relay, none)

/-- What is put back into maps that were replaced meanwhile is lost with them. -/
def putBack (relay : PionRelaySession) (side : Role) (label : String) (closed : Bool)
    (message : QueuedDataMessage) : PionRelaySession :=
  if relay.terminated = closed then
    { relay with pending := assign relay.pending side label (message :: relay.pending side label) }
  else relay

/-- The section of `close`. -/
def terminate (relay : PionRelaySession) (reason : String) :
    PionRelaySession × Option Remains :=
  if relay.terminated then (relay, none)
  else
    ({ relay with
        peer := fun _ => none
        channels := fun _ => []
        pending := fun _ _ => []
        terminated := true
        terminationReason := reason },
      some {
        channels := ((relay.channels .worker) ++ (relay.channels .viewer)).map Prod.snd
        peers := (relay.peer .worker).toList ++ (relay.peer .viewer).toList })

/-- A peer connection is numbered when it is stored. -/
def storePeer (relay : PionRelaySession) (role : Role) : PionRelaySession × Option Nat :=
  ({ relay with
      peer := Function.update relay.peer role (some relay.peersStored)
      peersStored := relay.peersStored + 1 },
    relay.peer role)

def storeChannel (relay : PionRelaySession) (role : Role) (label : String) (channel : Nat) :
    PionRelaySession :=
  { relay with
    channels := Function.update relay.channels role
      ((label, channel) :: (relay.channels role).filter fun entry => entry.1 ≠ label) }

end PionRelaySession

@[grind =] def pionExec (choice : PionChoice) :
    (op : PionOp) → PionRelaySession → PionRelaySession × op.Reply
  | .storePeer role, relay => relay.storePeer role
  | .closePeer peer, relay => ({ relay with peersClosed := peer :: relay.peersClosed }, ())
  | .storeChannel role label channel, relay => (relay.storeChannel role label channel, ())
  | .channelReady _, relay => (relay, choice.ready)
  | .dispatch side label payload isString, relay =>
      let message := relay.arriving side label payload isString
      (relay.receive side label message).dispatch choice side label message
  | .sendDirect side label _ message, relay => relay.send choice side label message
  | .takePending side label, relay => relay.takePending choice side label
  | .sendPending side label _ message, relay => relay.send choice side label message
  | .putBack side label closed message, relay => (relay.putBack side label closed message, ())
  | .countDelivered side, relay =>
      ({ relay with
          dataMessages := Function.update relay.dataMessages side (relay.dataMessages side + 1) },
        ())
  | .terminate reason, relay => relay.terminate reason
  | .closeChannel _, relay => (relay, ())
  | .cleanupRelaySession _, relay => (relay, ())

/-! ## Handlers -/

/-- `handleWorkerOffer` and `handleViewerOffer`. -/
def handleOffer (role : Role) : PionHandler Unit := do
  match ← PionOp.await (.storePeer role) with
  | none => pure ()
  | some old => PionOp.await (.closePeer old)

/-- `flushPendingToWorker` and `flushPendingToViewer`. -/
def flushPending (side : Role) (label : String) : Nat → PionHandler Unit
  | 0 => .stalled
  | budget + 1 => do
      match ← PionOp.await (.takePending side label) with
      | none => pure ()
      | some taken =>
          if ← PionOp.await (.sendPending side label taken.target taken.message) then
            PionOp.await (.countDelivered side)
            flushPending side label budget
          else PionOp.await (.putBack side label taken.closed taken.message)

/-- `registerWorkerDataChannel` and `registerViewerDataChannel`. -/
def registerDataChannel (role : Role) (label : String) (channel budget : Nat) :
    PionHandler Unit := do
  PionOp.await (.storeChannel role label channel)
  if ← PionOp.await (.channelReady channel) then flushPending role label budget

/-- `forwardDataToWorker` and `forwardDataToViewer`. -/
def forwardData (side : Role) (label : String) (payload : List UInt8) (isString : Bool) :
    PionHandler Unit := do
  match ← PionOp.await (.dispatch side label payload isString) with
  | none => pure ()
  | some (target, message) =>
      if ← PionOp.await (.sendDirect side label target message) then
        PionOp.await (.countDelivered side)

/-- What `close` does after its section. -/
def closeRemains (reason : String) (remains : Remains) : PionHandler Unit := do
  Program.forEach remains.channels fun channel => PionOp.await (.closeChannel channel)
  Program.forEach remains.peers fun peer => PionOp.await (.closePeer peer)
  PionOp.await (.cleanupRelaySession reason)

def closeRelay (reason : String) : PionHandler Unit := do
  let reason := if trimSpace reason = "" then "webrtc relay closed" else trimSpace reason
  match ← PionOp.await (.terminate reason) with
  | none => pure ()
  | some remains => closeRemains reason remains

/-- What reaches the relay.  Flushes are started when a channel opens and when its buffer runs
low; a budget bounds their rounds. -/
inductive PionJob where
  | offer (role : Role)
  | register (role : Role) (label : String) (channel budget : Nat)
  | flush (side : Role) (label : String) (budget : Nat)
  | forward (side : Role) (label : String) (payload : List UInt8) (isString : Bool)
  | close (reason : String)

/-- All interleavings of the goroutines of one relay. -/
@[reducible] def pionRelay : System where
  face := pionFace
  State := PionRelaySession
  Choice := PionChoice
  Job := PionJob
  exec := pionExec
  body
    | .offer role => handleOffer role
    | .register role label channel budget => registerDataChannel role label channel budget
    | .flush side label budget => flushPending side label budget
    | .forward side label payload isString => forwardData side label payload isString
    | .close reason => closeRelay reason
  canStart := fun _ _ => true

/-- A new relay. -/
def newRelay : Async.Config pionRelay := ⟨{}, []⟩

end RemoteBrowser.MediaGateway
