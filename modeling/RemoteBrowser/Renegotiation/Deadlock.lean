import RemoteBrowser.Renegotiation.Peers

/-!
# Whether renegotiation can deadlock

While the worker has an offer out, exactly one thing is on its way: the offer, a handler of the
viewer that works on it, the answer, or the worker's handling of the answer. An answer is lost
when a WebRTC call of the viewer fails or its socket is not open at the end. Nothing replaces a
lost answer: the worker makes no new offer while the old one is out, and the viewer answers only
offers. So the worker gets out of `have-local-offer` as long as no answer is lost, and never again
after one is.
-/

namespace RemoteBrowser.Renegotiation

/-- The steps at which no answer is lost: every WebRTC call of the viewer succeeds, and its socket
is open when it sends the answer. -/
def Answering (state : Negotiation) : Action → Prop
  | .viewerCall _ false => False
  | .viewerCall index true =>
      state.viewer.handlers[index]? = some .setLocalAnswer →
        state.viewer.wsState = some .opened
  | _ => True

instance (state : Negotiation) (action : Action) : Decidable (Answering state action) :=
  match action with
  | .viewerCall _ false => inferInstanceAs (Decidable False)
  | .viewerCall _ true => inferInstanceAs (Decidable (_ → _))
  | .viewerConnection _ | .iceRestartWanted | .live | .restartTimer | .reconnectTimer
  | .socketOpens _ | .socketCloses _ | .socketClosed _ | .socketFails | .registered | .toViewer
  | .toWorker | .worker => inferInstanceAs (Decidable True)

/-- No message is in flight, and no handler or timer is pending. -/
structure Negotiation.Quiescent (state : Negotiation) : Prop where
  toViewer : state.toViewer = []
  toWorker : state.toWorker = []
  registering : state.registering = 0
  handlers : state.viewer.handlers = []
  restartIceTimer : state.viewer.restartIceTimer = false
  signalingReconnectTimer : state.viewer.signalingReconnectTimer = false
  sockets : ∀ socket ∈ state.viewer.sockets, socket = .opened ∨ socket = .closed
  worker : state.worker.phase = .idle

/-! ## What is on its way -/

/-- The worker is about to send an offer that it has already set, or is setting an answer. -/
def WorkerPhase.carries : WorkerPhase → ℕ
  | .gatherOffer | .sendOffer | .setRemoteAnswer => 1
  | _ => 0

/-- The offers, handlers and answers on their way. -/
def Negotiation.underway (state : Negotiation) : ℕ :=
  state.toViewer.count .sdpOffer + state.viewer.handlers.length + state.toWorker.count .sdpAnswer +
    state.worker.phase.carries

/-- The answers that a peer in this state waits for. -/
def SignalingState.owed : SignalingState → ℕ
  | .haveLocalOffer => 1
  | _ => 0

/-- What the phase of the worker's loop says about its signaling state and its lock; the branch
for `sdp-offer` is never entered. -/
def WorkerPeer.InPhase (worker : WorkerPeer) : Prop :=
  match worker.phase with
  | .starting => worker.signalingState = .stable ∧ worker.offerLock = false
  | .createOffer | .setLocalOffer => worker.signalingState = .stable ∧ worker.offerLock = true
  | .gatherOffer | .sendOffer =>
      worker.signalingState = .haveLocalOffer ∧ worker.offerLock = true
  | .idle | .recoverMedia => worker.signalingState ≠ .haveRemoteOffer ∧ worker.offerLock = false
  | .setRemoteAnswer => worker.signalingState = .haveLocalOffer ∧ worker.offerLock = false
  | _ => False

/-- The worker has an offer out when something is on its way or has been lost. -/
structure Negotiation.Balanced (state : Negotiation) (lost : ℕ) : Prop where
  viewer : state.viewer.signalingState ≠ .haveLocalOffer
  handlers : .setRemoteAnswer ∉ state.viewer.handlers
  noAnswer : .sdpAnswer ∉ state.toViewer
  noOffer : .sdpOffer ∉ state.toWorker
  phase : state.worker.InPhase
  deferred : state.worker.signalingState = .stable → state.worker.pendingOfferReason = none
  exchange : state.underway + lost = state.worker.signalingState.owed

/-! ## The viewer's own steps -/

section Viewer

variable (viewer : ViewerPeer)

/-- The change leaves the handlers and the signaling state alone. -/
def Keeps (change : ViewerPeer → ViewerPeer) : Prop :=
  ∀ viewer, (change viewer).handlers = viewer.handlers ∧
    (change viewer).signalingState = viewer.signalingState

theorem keeps_scheduleSignalingReconnect : Keeps scheduleSignalingReconnect :=
  fun _ => ⟨rfl, rfl⟩

theorem keeps_requestIceRestart : Keeps requestIceRestart := fun _ => ⟨rfl, rfl⟩

theorem keeps_onConnectionStateChange (connectionState : ConnectionState) :
    Keeps (onConnectionStateChange connectionState) := by
  intro viewer
  unfold onConnectionStateChange
  dsimp only
  split
  · exact keeps_requestIceRestart _
  · exact ⟨rfl, rfl⟩

theorem keeps_onRegistered : Keeps onRegistered := by
  intro viewer
  unfold onRegistered
  split
  · exact keeps_requestIceRestart viewer
  · exact ⟨rfl, rfl⟩

theorem keeps_onSocketClose (index : ℕ) : Keeps (onSocketClose index) := by
  intro viewer
  unfold onSocketClose
  dsimp only
  split <;> exact keeps_scheduleSignalingReconnect _

theorem wsState_requestIceRestart : (requestIceRestart viewer).wsState = viewer.wsState := by
  unfold requestIceRestart ViewerSignaling.Page.requestIceRestart
  split_ifs <;> rfl

/-- Setting the signaling state runs the listener, which touches neither handlers nor socket. -/
theorem setSignalingState_spec (signalingState : SignalingState) :
    (setSignalingState signalingState viewer).handlers = viewer.handlers ∧
      (setSignalingState signalingState viewer).signalingState = signalingState ∧
      (setSignalingState signalingState viewer).wsState = viewer.wsState := by
  unfold setSignalingState onSignalingStateChange
  split
  case isTrue same => exact ⟨rfl, same, rfl⟩
  case isFalse =>
      split
      · exact ⟨rfl, rfl, rfl⟩
      · have kept := keeps_requestIceRestart { viewer with signalingState }
        exact ⟨kept.1, kept.2, wsState_requestIceRestart _⟩

end Viewer

section Steps

variable {state after : Negotiation} {lost : ℕ} {action : Action}

/-- Only the viewer's handlers and signaling state matter. -/
theorem Negotiation.Balanced.of_viewer (balanced : state.Balanced lost) {viewer : ViewerPeer}
    (handlers : viewer.handlers = state.viewer.handlers)
    (signalingState : viewer.signalingState = state.viewer.signalingState) :
    ({ state with viewer } : Negotiation).Balanced lost := by
  refine ⟨?_, ?_, balanced.noAnswer, balanced.noOffer, balanced.phase, balanced.deferred, ?_⟩
  · simpa only [signalingState] using balanced.viewer
  · simpa only [handlers] using balanced.handlers
  · simpa only [Negotiation.underway, handlers] using balanced.exchange

theorem Negotiation.Balanced.onViewer (balanced : state.Balanced lost)
    {change : ViewerPeer → ViewerPeer} (keeps : Keeps change) :
    (state.onViewer change).Balanced lost :=
  balanced.of_viewer (keeps state.viewer).1 (keeps state.viewer).2

theorem balanced_onRestartIceTimer (balanced : state.Balanced lost) :
    (onRestartIceTimer state).Balanced lost := by
  unfold onRestartIceTimer
  dsimp only
  split
  · exact balanced.of_viewer rfl rfl
  · split
    · exact balanced.of_viewer rfl rfl
    · split
      · exact balanced.of_viewer (keeps_scheduleSignalingReconnect _).1
          (keeps_scheduleSignalingReconnect _).2
      · obtain ⟨viewer, handlers, noAnswer, noOffer, phase, deferred, exchange⟩ := balanced
        refine ⟨viewer, handlers, noAnswer, by simpa using noOffer, phase, deferred, ?_⟩
        simpa [Negotiation.underway] using exchange

theorem balanced_onSocketOpen (balanced : state.Balanced lost) (index : ℕ) :
    (onSocketOpen index state).Balanced lost := by
  unfold onSocketOpen
  dsimp only
  have opened : ({ state with
      viewer := { state.viewer with sockets := state.viewer.sockets.set index .opened } } :
        Negotiation).Balanced lost :=
    balanced.of_viewer rfl rfl
  split
  · obtain ⟨viewer, handlers, noAnswer, noOffer, phase, deferred, exchange⟩ := opened
    exact ⟨viewer, handlers, noAnswer, noOffer, phase, deferred, exchange⟩
  · exact opened

/-- A message of the worker is an offer, and starts a handler. -/
theorem balanced_onSignal (balanced : state.Balanced lost) {signal : Signal} {rest : List Signal}
    (toViewer : state.toViewer = signal :: rest) :
    ({ state.onViewer (onSignal signal) with toViewer := rest } : Negotiation).Balanced lost := by
  obtain ⟨viewer, handlers, noAnswer, noOffer, phase, deferred, exchange⟩ := balanced
  rw [toViewer] at noAnswer
  simp only [Negotiation.underway, toViewer] at exchange
  cases signal with
  | sdpOffer =>
      have handled : onSignal .sdpOffer state.viewer =
          { state.viewer with handlers := state.viewer.handlers ++ [.setRemoteOffer] } := by
        unfold onSignal
        cases current : state.viewer.signalingState <;> simp_all
      rw [Negotiation.onViewer, handled]
      refine ⟨viewer, by simpa using handlers, ?_, noOffer, phase, deferred, ?_⟩
      · exact fun mem => noAnswer (List.mem_cons_of_mem _ mem)
      · simp only [Negotiation.underway, List.length_append, List.length_singleton]
        rw [List.count_cons_self] at exchange
        omega
  | sdpAnswer => simp at noAnswer
  | iceRestartRequest =>
      refine ⟨viewer, handlers, ?_, noOffer, phase, deferred, ?_⟩
      · exact fun mem => noAnswer (List.mem_cons_of_mem _ mem)
      · simpa [Negotiation.underway, Negotiation.onViewer, onSignal] using exchange

/-- A failed call loses the answer. -/
theorem balanced_failCall (balanced : state.Balanced lost) {index : ℕ}
    (isHandler : index < state.viewer.handlers.length) :
    (state.onViewer (failCall index)).Balanced (lost + 1) := by
  obtain ⟨viewer, handlers, noAnswer, noOffer, phase, deferred, exchange⟩ := balanced
  refine ⟨viewer, fun mem => handlers (List.mem_of_mem_eraseIdx mem), noAnswer, noOffer, phase,
    deferred, ?_⟩
  simp only [Negotiation.underway, Negotiation.onViewer, failCall,
    List.length_eraseIdx_of_lt isHandler] at exchange ⊢
  omega

/-- How the account of lost answers changes in a step. -/
def Accounts (state : Negotiation) (action : Action) (after : Negotiation) (lost : ℕ) : Prop :=
  (Answering state action → after.Balanced lost) ∧
    (¬ Answering state action → after.Balanced (lost + 1))

theorem Accounts.of_balanced (answering : Answering state action) (balanced : after.Balanced lost) :
    Accounts state action after lost :=
  ⟨fun _ => balanced, fun silent => absurd answering silent⟩

/-- The handler that finishes either puts the answer on its way or loses it. -/
theorem balanced_sendAnswer (balanced : state.Balanced lost) {index : ℕ} {viewer : ViewerPeer}
    (handler : state.viewer.handlers[index]? = some .setLocalAnswer)
    (stable : viewer.signalingState = .stable)
    (handlers : viewer.handlers = state.viewer.handlers.eraseIdx index)
    (socket : viewer.wsState = state.viewer.wsState) :
    Accounts state (.viewerCall index true) (sendAnswer { state with viewer }) lost := by
  have isHandler : index < state.viewer.handlers.length := by
    rw [List.getElem?_eq_some_iff] at handler
    exact handler.1
  have fewer : viewer.handlers.length + 1 = state.viewer.handlers.length := by
    rw [handlers, List.length_eraseIdx_of_lt isHandler]
    omega
  obtain ⟨-, noHandler, noAnswer, noOffer, phase, deferred, exchange⟩ := balanced
  have noHandler : .setRemoteAnswer ∉ viewer.handlers := by
    rw [handlers]
    exact fun mem => noHandler (List.mem_of_mem_eraseIdx mem)
  simp only [Negotiation.underway] at exchange
  constructor
  · intro answering
    have opened : viewer.wsState = some .opened := by
      rw [socket]
      exact answering handler
    simp only [sendAnswer, opened]
    refine ⟨by simp [stable], noHandler, noAnswer, by simpa using noOffer, phase, deferred, ?_⟩
    simp only [Negotiation.underway, List.count_append, List.count_singleton_self]
    omega
  · intro silent
    have notOpen : viewer.wsState ≠ some .opened := by
      rw [socket]
      exact fun opened => silent fun _ => opened
    have dropped : (sendAnswer { state with viewer }).toWorker = state.toWorker ∧
        (sendAnswer { state with viewer }).toViewer = state.toViewer ∧
        (sendAnswer { state with viewer }).worker = state.worker ∧
        (sendAnswer { state with viewer }).viewer.handlers = viewer.handlers ∧
        (sendAnswer { state with viewer }).viewer.signalingState = viewer.signalingState := by
      unfold sendAnswer
      split
      · exact absurd ‹_› notOpen
      all_goals exact ⟨rfl, rfl, rfl, rfl, rfl⟩
    obtain ⟨toWorker, toViewer, worker, sameHandlers, sameState⟩ := dropped
    refine ⟨by simp [sameState, stable], by rwa [sameHandlers], by rwa [toViewer],
      by rwa [toWorker], by rwa [worker], by rwa [worker], ?_⟩
    simp only [Negotiation.underway, toWorker, toViewer, worker, sameHandlers]
    omega

theorem accounts_finishCall (balanced : state.Balanced lost) {index : ℕ}
    (taken : finishCall index state = some after) :
    Accounts state (.viewerCall index true) after lost := by
  simp only [finishCall] at taken
  split at taken
  case h_1 => simp at taken
  case h_2 handler =>
      obtain ⟨sameHandlers, newState, -⟩ :=
        setSignalingState_spec state.viewer .haveRemoteOffer
      split at taken
      case isTrue => simp at taken
      case isFalse =>
          obtain rfl : _ = after := by simpa using taken
          refine .of_balanced (by simp [Answering, handler]) ?_
          refine ⟨by simp [newState], ?_, balanced.noAnswer, balanced.noOffer, balanced.phase,
            balanced.deferred, ?_⟩
          · rw [sameHandlers]
            intro mem
            rcases List.mem_or_eq_of_mem_set mem with old | new
            · exact balanced.handlers old
            · simp at new
          · simpa [Negotiation.underway, sameHandlers] using balanced.exchange
  case h_3 handler =>
      split at taken
      case isTrue => simp at taken
      case isFalse =>
          obtain rfl : _ = after := by simpa using taken
          refine .of_balanced (by simp [Answering, handler]) ?_
          refine ⟨balanced.viewer, ?_, balanced.noAnswer, balanced.noOffer, balanced.phase,
            balanced.deferred, ?_⟩
          · intro mem
            rcases List.mem_or_eq_of_mem_set mem with old | new
            · exact balanced.handlers old
            · simp at new
          · simpa [Negotiation.underway] using balanced.exchange
  case h_4 handler =>
      obtain ⟨sameHandlers, newState, sameSocket⟩ :=
        setSignalingState_spec state.viewer .stable
      split at taken
      case isTrue => simp at taken
      case isFalse =>
          obtain rfl : _ = after := by simpa using taken
          exact balanced_sendAnswer balanced handler newState (by rw [sameHandlers]) sameSocket
  case h_5 handler =>
      exact absurd (List.mem_of_getElem? handler) balanced.handlers

/-! ## The worker's steps -/

theorem balanced_onWorkerSignal (balanced : state.Balanced lost) {signal : Signal}
    {rest : List Signal} (idle : state.worker.phase = .idle)
    (toWorker : state.toWorker = signal :: rest) :
    ({ state with worker := onWorkerSignal signal state.worker, toWorker := rest } :
      Negotiation).Balanced lost := by
  obtain ⟨viewer, handlers, noAnswer, noOffer, phase, deferred, exchange⟩ := balanced
  rw [toWorker] at noOffer
  simp only [WorkerPeer.InPhase, idle] at phase
  simp only [Negotiation.underway, toWorker, idle, WorkerPhase.carries] at exchange
  have noOffer' : .sdpOffer ∉ rest := fun mem => noOffer (List.mem_cons_of_mem _ mem)
  cases signal with
  | sdpOffer => simp at noOffer
  | sdpAnswer =>
      rw [List.count_cons_self] at exchange
      refine ⟨viewer, handlers, noAnswer, noOffer', ?_, deferred, ?_⟩
      · refine ⟨?_, phase.2⟩
        cases current : state.worker.signalingState with
        | haveLocalOffer => exact current
        | stable => simp only [current, SignalingState.owed] at exchange; omega
        | haveRemoteOffer => simp [current] at phase
      · simp only [Negotiation.underway, onWorkerSignal, WorkerPhase.carries]
        omega
  | iceRestartRequest =>
      refine ⟨viewer, handlers, noAnswer, noOffer', phase, deferred, ?_⟩
      simpa [Negotiation.underway, onWorkerSignal, WorkerPhase.carries] using exchange

/-- Replacing the worker needs only the facts about it. -/
theorem Negotiation.Balanced.of_worker (balanced : state.Balanced lost) {worker : WorkerPeer}
    (phase : worker.InPhase)
    (deferred : worker.signalingState = .stable → worker.pendingOfferReason = none)
    (exchange : worker.phase.carries + state.worker.signalingState.owed =
      state.worker.phase.carries + worker.signalingState.owed) :
    ({ state with worker } : Negotiation).Balanced lost := by
  obtain ⟨viewer, handlers, noAnswer, noOffer, -, -, before⟩ := balanced
  refine ⟨viewer, handlers, noAnswer, noOffer, phase, deferred, ?_⟩
  simp only [Negotiation.underway] at before ⊢
  omega

/-- A worker between two messages, or at the start of an offer. -/
structure WorkerPeer.Ready (worker next : WorkerPeer) : Prop where
  phase : next.InPhase
  deferred : next.signalingState = .stable → next.pendingOfferReason = none
  carries : next.phase.carries = 0
  signalingState : next.signalingState = worker.signalingState

theorem ready_sendOffer {worker : WorkerPeer} (reason : OfferReason)
    (direct : worker.signalingState ≠ .haveRemoteOffer) (unlocked : worker.offerLock = false)
    (deferred : worker.signalingState = .stable → worker.pendingOfferReason = none) :
    worker.Ready (sendOffer reason worker) := by
  unfold sendOffer
  split
  case isTrue busy =>
      have offered : worker.signalingState ≠ .stable := by simpa [unlocked] using busy
      exact ⟨⟨direct, unlocked⟩, fun stable => absurd stable offered, rfl, rfl⟩
  case isFalse free =>
      have stable : worker.signalingState = .stable := by simpa [unlocked] using free
      exact ⟨⟨stable, rfl⟩, deferred, rfl, rfl⟩

theorem ready_flushPendingOffer {worker : WorkerPeer}
    (direct : worker.signalingState ≠ .haveRemoteOffer) (unlocked : worker.offerLock = false) :
    worker.Ready (flushPendingOffer worker) := by
  unfold flushPendingOffer
  split
  case h_1 none => exact ⟨⟨direct, unlocked⟩, fun _ => none, rfl, rfl⟩
  case h_2 reason some =>
      split
      case isTrue busy =>
          have offered : worker.signalingState ≠ .stable := by simpa [unlocked] using busy
          exact ⟨⟨direct, unlocked⟩, fun stable => absurd stable offered, rfl, rfl⟩
      case isFalse =>
          have ready := @ready_sendOffer { worker with pendingOfferReason := none } reason direct
            unlocked fun _ => rfl
          exact ⟨ready.phase, ready.deferred, ready.carries, ready.signalingState⟩

theorem balanced_workerStep (balanced : state.Balanced lost)
    (taken : workerStep state = some after) : after.Balanced lost := by
  have inPhase := balanced.phase
  simp only [workerStep] at taken
  simp only [WorkerPeer.InPhase] at inPhase
  cases phase : state.worker.phase with
  | idle => simp [phase] at taken
  | ended => simp [phase] at taken
  | setRemoteOffer => simp [phase] at inPhase
  | createAnswer => simp [phase] at inPhase
  | setLocalAnswer => simp [phase] at inPhase
  | gatherAnswer => simp [phase] at inPhase
  | sendAnswer => simp [phase] at inPhase
  | starting =>
      simp only [phase, Option.some.injEq] at inPhase taken
      subst taken
      have ready := ready_sendOffer .initial (by simp [inPhase.1]) inPhase.2 balanced.deferred
      refine balanced.of_worker ready.phase ready.deferred ?_
      rw [ready.carries, ready.signalingState, phase]
      rfl
  | recoverMedia =>
      simp only [phase, Option.some.injEq] at inPhase taken
      subst taken
      have ready := ready_sendOffer .iceRestartRequest inPhase.1 inPhase.2 balanced.deferred
      refine balanced.of_worker ready.phase ready.deferred ?_
      rw [ready.carries, ready.signalingState, phase]
      rfl
  | createOffer =>
      simp only [phase, Option.some.injEq] at inPhase taken
      subst taken
      exact balanced.of_worker inPhase balanced.deferred (by rw [phase]; rfl)
  | setLocalOffer =>
      simp only [phase, Option.some.injEq] at inPhase taken
      subst taken
      refine balanced.of_worker ⟨rfl, inPhase.2⟩ (by simp) ?_
      rw [phase, inPhase.1]
      rfl
  | gatherOffer =>
      simp only [phase, Option.some.injEq] at inPhase taken
      subst taken
      exact balanced.of_worker inPhase balanced.deferred (by rw [phase]; rfl)
  | setRemoteAnswer =>
      simp only [phase] at inPhase taken
      rw [if_pos inPhase.1, Option.some.injEq] at taken
      subst taken
      have ready : WorkerPeer.Ready _ (flushPendingOffer
          ⟨.stable, state.worker.pendingOfferReason, state.worker.offerLock, .setRemoteAnswer⟩) :=
        ready_flushPendingOffer (by simp) inPhase.2
      refine balanced.of_worker ready.phase ready.deferred ?_
      rw [ready.carries, ready.signalingState, phase, inPhase.1]
      rfl
  | sendOffer =>
      simp only [phase, Option.some.injEq] at inPhase taken
      subst taken
      have ready : WorkerPeer.Ready _ (flushPendingOffer
          ⟨state.worker.signalingState, state.worker.pendingOfferReason, false, .sendOffer⟩) :=
        ready_flushPendingOffer (by simp [inPhase.1]) rfl
      obtain ⟨viewer, handlers, noAnswer, noOffer, -, -, exchange⟩ := balanced
      refine ⟨viewer, handlers, by simpa using noAnswer, noOffer, ready.phase, ready.deferred, ?_⟩
      simp only [Negotiation.underway, phase, WorkerPhase.carries] at exchange
      simp only [Negotiation.underway, List.count_append, List.count_singleton_self,
        ready.carries, ready.signalingState]
      omega

/-- A step that is not answering loses one answer; the others keep the account. -/
theorem accounts_step (balanced : state.Balanced lost) (taken : step state action = some after) :
    Accounts state action after lost := by
  cases action with
  | viewerCall index succeeds =>
      cases succeeds with
      | true => exact accounts_finishCall balanced (by simpa [step] using taken)
      | false =>
          simp only [step, Bool.false_eq_true, if_false] at taken
          split at taken
          case isFalse => simp at taken
          case isTrue isHandler =>
              obtain rfl : _ = after := by simpa using taken
              exact ⟨fun answering => absurd answering id,
                fun _ => balanced_failCall balanced isHandler⟩
  | viewerConnection connectionState =>
      obtain rfl : _ = after := by simpa [step] using taken
      exact .of_balanced trivial (balanced.onViewer (keeps_onConnectionStateChange _))
  | iceRestartWanted =>
      obtain rfl : _ = after := by simpa [step] using taken
      exact .of_balanced trivial (balanced.onViewer keeps_requestIceRestart)
  | live =>
      obtain rfl : _ = after := by simpa [step] using taken
      exact .of_balanced trivial (balanced.onViewer fun _ => ⟨rfl, rfl⟩)
  | restartTimer =>
      simp only [step] at taken
      split at taken
      case isFalse => simp at taken
      case isTrue =>
          obtain rfl : _ = after := by simpa using taken
          exact .of_balanced trivial (balanced_onRestartIceTimer balanced)
  | reconnectTimer =>
      simp only [step] at taken
      split at taken
      case isFalse => simp at taken
      case isTrue =>
          obtain rfl : _ = after := by simpa using taken
          exact .of_balanced trivial (balanced.onViewer fun _ => ⟨rfl, rfl⟩)
  | socketOpens index =>
      simp only [step] at taken
      split at taken
      case isFalse => simp at taken
      case isTrue =>
          obtain rfl : _ = after := by simpa using taken
          exact .of_balanced trivial (balanced_onSocketOpen balanced index)
  | socketCloses index =>
      simp only [step] at taken
      split at taken
      case isFalse => simp at taken
      case isTrue =>
          obtain rfl : _ = after := by simpa using taken
          exact .of_balanced trivial (balanced.onViewer fun _ => ⟨rfl, rfl⟩)
  | socketClosed index =>
      simp only [step] at taken
      split at taken
      case isFalse => simp at taken
      case isTrue =>
          obtain rfl : _ = after := by simpa using taken
          exact .of_balanced trivial (balanced.onViewer (keeps_onSocketClose index))
  | socketFails =>
      obtain rfl : _ = after := by simpa [step] using taken
      exact .of_balanced trivial (balanced.onViewer fun _ => keeps_scheduleSignalingReconnect _)
  | registered =>
      simp only [step] at taken
      split at taken
      case h_1 => simp at taken
      case h_2 left _ =>
          obtain rfl : _ = after := by simpa using taken
          obtain ⟨viewer, handlers, noAnswer, noOffer, phase, deferred, exchange⟩ :=
            balanced.onViewer keeps_onRegistered
          exact .of_balanced trivial
            ⟨viewer, handlers, noAnswer, noOffer, phase, deferred, exchange⟩
  | toViewer =>
      simp only [step] at taken
      split at taken
      case h_1 => simp at taken
      case h_2 signal rest toViewer =>
          split at taken
          case isFalse => simp at taken
          case isTrue =>
              obtain rfl : _ = after := by simpa using taken
              exact .of_balanced trivial (balanced_onSignal balanced toViewer)
  | toWorker =>
      simp only [step] at taken
      split at taken
      case h_2 => simp at taken
      case h_1 signal rest idle toWorker =>
          obtain rfl : _ = after := by simpa using taken
          exact .of_balanced trivial (balanced_onWorkerSignal balanced idle toWorker)
  | worker => exact .of_balanced trivial (balanced_workerStep balanced (by simpa [step] using taken))

theorem balanced_initial : negotiation.initial.Balanced 0 := by
  constructor <;> simp [negotiation, WorkerPeer.InPhase, Negotiation.underway,
    WorkerPhase.carries, SignalingState.owed]

end Steps

/-- In every run in which no answer is lost, the worker is not left in `have-local-offer` when
nothing is on its way any more, and no offer is left deferred. -/
theorem renegotiation_settles {state : Negotiation}
    (reached : negotiation.Reached Answering state) (quiescent : state.Quiescent) :
    state.worker.signalingState ≠ .haveLocalOffer ∧ state.worker.pendingOfferReason = none := by
  have balanced : state.Balanced 0 :=
    reached.invariant (fun state => state.Balanced 0) balanced_initial
      fun before action after balanced answering taken =>
        (accounts_step balanced taken).1 answering
  have exchange := balanced.exchange
  have phase := balanced.phase
  simp only [Negotiation.underway, quiescent.toViewer, quiescent.toWorker, quiescent.handlers,
    quiescent.worker, WorkerPhase.carries, List.count_nil, List.length_nil] at exchange
  simp only [WorkerPeer.InPhase, quiescent.worker] at phase
  cases current : state.worker.signalingState with
  | stable => exact ⟨by simp, balanced.deferred current⟩
  | haveLocalOffer => simp [current, SignalingState.owed] at exchange
  | haveRemoteOffer => exact absurd current phase.1

theorem Negotiation.Balanced.haveLocalOffer {state : Negotiation} {lost : ℕ}
    (balanced : state.Balanced (lost + 1)) : state.worker.signalingState = .haveLocalOffer := by
  have exchange := balanced.exchange
  cases current : state.worker.signalingState with
  | haveLocalOffer => rfl
  | stable => simp [current, SignalingState.owed] at exchange
  | haveRemoteOffer => simp [current, SignalingState.owed] at exchange

/-- Once an answer is lost, the worker stays in `have-local-offer` whatever happens. -/
theorem stuck_after_lost_answer {before after state : Negotiation} {action : Action}
    (reached : negotiation.Reached (fun _ _ => True) before)
    (taken : negotiation.step before action = some after) (lost : ¬ Answering before action)
    (later : { negotiation with initial := after }.Reached (fun _ _ => True) state) :
    state.worker.signalingState = .haveLocalOffer := by
  obtain ⟨already, balanced⟩ : ∃ already, before.Balanced already := by
    refine reached.invariant (fun state => ∃ already, state.Balanced already)
      ⟨0, balanced_initial⟩ ?_
    rintro before action after ⟨already, balanced⟩ - taken
    by_cases answering : Answering before action
    · exact ⟨already, (accounts_step balanced taken).1 answering⟩
    · exact ⟨already + 1, (accounts_step balanced taken).2 answering⟩
  obtain ⟨more, balanced⟩ : ∃ more, state.Balanced (more + 1) := by
    refine later.invariant (fun state => ∃ more, state.Balanced (more + 1))
      ⟨already, (accounts_step balanced taken).2 lost⟩ ?_
    rintro before action after ⟨more, balanced⟩ - taken
    by_cases answering : Answering before action
    · exact ⟨more, (accounts_step balanced taken).1 answering⟩
    · exact ⟨more + 1, (accounts_step balanced taken).2 answering⟩
  exact balanced.haveLocalOffer

instance (state : Negotiation) : Decidable state.Quiescent :=
  decidable_of_iff
    (state.toViewer = [] ∧ state.toWorker = [] ∧ state.registering = 0 ∧
      state.viewer.handlers = [] ∧ state.viewer.restartIceTimer = false ∧
      state.viewer.signalingReconnectTimer = false ∧
      (∀ socket ∈ state.viewer.sockets, socket = .opened ∨ socket = .closed) ∧
      state.worker.phase = .idle)
    ⟨fun ⟨toViewer, toWorker, registering, handlers, restart, reconnect, sockets, worker⟩ =>
      ⟨toViewer, toWorker, registering, handlers, restart, reconnect, sockets, worker⟩,
    fun ⟨toViewer, toWorker, registering, handlers, restart, reconnect, sockets, worker⟩ =>
      ⟨toViewer, toWorker, registering, handlers, restart, reconnect, sockets, worker⟩⟩

/-- The initial offer reaches the viewer. -/
def initialOffer : List Action :=
  [.worker, .worker, .worker, .worker, .worker, .socketOpens 0, .registered, .toViewer]

/-- The viewer answers it, its connection fails, and it asks for a new offer and answers that. -/
def answeredRestart : List Action :=
  initialOffer ++
    [Action.viewerCall 0 true, .viewerCall 0 true, .viewerCall 0 true, .toWorker, .worker, .live,
      .viewerConnection .failed, .restartTimer, .toWorker, .worker, .worker, .worker, .worker,
      .worker, .toViewer, .viewerCall 0 true, .viewerCall 0 true, .viewerCall 0 true, .toWorker,
      .worker]

theorem answered_restart_settles :
    ∃ state, negotiation.Reached Answering state ∧ state.Quiescent ∧
      state.worker.signalingState ≠ .haveLocalOffer ∧ state.worker.pendingOfferReason = none := by
  have passes : (negotiation.exec Answering negotiation.initial answeredRestart).any
      (fun state : Negotiation => state.Quiescent) = true := by
    decide
  obtain ⟨state, reached, passed⟩ := Machine.exists_reached passes
  have quiescent : state.Quiescent := of_decide_eq_true passed
  exact ⟨state, reached, quiescent, renegotiation_settles reached quiescent⟩

/-- The first call on the initial offer fails. -/
theorem failed_call_deadlocks :
    ∃ state, negotiation.Reached (fun _ _ => True) state ∧ state.Quiescent ∧
      state.worker.signalingState = .haveLocalOffer := by
  have passes : (negotiation.exec (fun _ _ => True) negotiation.initial
      (initialOffer ++ [.viewerCall 0 false])).any (fun state : Negotiation =>
        state.Quiescent ∧ state.worker.signalingState = .haveLocalOffer) = true := by
    decide
  obtain ⟨state, reached, passed⟩ := Machine.exists_reached passes
  exact ⟨state, reached, of_decide_eq_true passed⟩

end RemoteBrowser.Renegotiation
