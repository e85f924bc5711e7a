import GatewaySdk.Url

/-!
# The WebSocket transport

`WebSocketTransport::Impl` of `websocket_transport.cpp`, as a step function over its state:
the public `send`, `connect` and `disconnect`, and the libwebsockets callbacks it handles.
Each step returns the callbacks it fires into its owner and the observations that account
for frames: a session opens, `send` accepts a frame, `lws_write` writes one.

`connect(url, timeout)` parses the URL with `parseUrl`, whose `std::stoi` may throw: the
exception leaves `connect`, with the transport as it was.  A URL `parseUrl` rejects is
`ConnectionFailed` with the text `Invalid URL: ` and the URL.  Then the carrier is an input:
`connect` runs `lws_service` until the carrier answers, and the answer is a `ConnectOutcome`.
On its timeout, `connect` calls `disconnect` while holding the non-recursive `mutex_` that
`disconnect` locks again: that thread never returns, and the step is `none`.

`sendQueue_` is one queue for the life of the transport.  Every run keeps
`written ++ queued = queued₀ ++ accepted`, so the written frames are a prefix of the accepted
ones in send order; but nothing ties a frame to the session that accepted it.  Nor does
anything bound the queue: `send` queues every frame while connected, and `BufferConfig` is
read nowhere, so a carrier that never asks to write lets the queue grow past any bound.
-/

namespace GatewaySdk

/-- `TransportState` of `transport.h`. -/
inductive TransportState
  | disconnected
  | connecting
  | connected
  | closing
  | closed
  | error
  deriving DecidableEq, Repr

/-- The callbacks a transport fires into its owner (`onConnected`, `onDisconnected`, `onError`,
`onMessage`). -/
inductive TransportCallback (Frame : Type)
  | connected
  | disconnected (code : ErrorCode) (reason : String)
  | error (code : ErrorCode) (message : String)
  | message (text : Frame)
  deriving DecidableEq, Repr

/-- What a step shows of the frames: a session opens, `send` accepts a frame, `lws_write`
writes one. -/
inductive FrameObservation (Frame : Type)
  | opened
  | accepted (frame : Frame)
  | written (frame : Frame)
  deriving DecidableEq, Repr

/-- How the carrier answers a connection attempt to a URL that `parseUrl` accepts. -/
inductive ConnectOutcome
  /-- `lws_create_context` fails. -/
  | contextFailed
  /-- `lws_client_connect_via_info` returns no connection. -/
  | initiateFailed
  /-- `LWS_CALLBACK_CLIENT_ESTABLISHED` arrives. -/
  | established
  /-- `LWS_CALLBACK_CLIENT_CONNECTION_ERROR` arrives, with the carrier's text if any. -/
  | connectionError (detail : Option String)
  /-- `LWS_CALLBACK_CLIENT_CLOSED` arrives before the connection is established. -/
  | closed
  /-- The connection timeout elapses first. -/
  | timedOut
  deriving DecidableEq, Repr

/-- The state of `WebSocketTransport::Impl`.  `hasWsi` is `wsi_ != nullptr`; the libwebsockets
context, the endpoint `parseUrl` stores and the TLS settings are left out: only the carrier reads
them. -/
structure WebSocketTransport (Frame : Type) where
  state : TransportState := .disconnected
  hasWsi : Bool := false
  shouldExit : Bool := false
  sendQueue : List Frame := []
  deriving DecidableEq, Repr

/-- The inputs of the transport: calls of its owner and events of the carrier. -/
inductive TransportInput (Frame : Type)
  | send (frame : Frame)
  | connect (url : String) (outcome : ConnectOutcome)
  | disconnect (reason : String)
  | established
  | connectionError (detail : Option String)
  | closed
  | receive (text : Frame)
  | writeable (writeOk : Bool)
  deriving DecidableEq, Repr

namespace WebSocketTransport

variable {Frame : Type}

/-- `send`: queue the frame when connected. -/
def send (transport : WebSocketTransport Frame) (frame : Frame) :
    WebSocketTransport Frame × Result Unit :=
  if transport.state ≠ .connected then (transport, .error (.notConnected, "Not connected"))
  else ({ transport with sendQueue := transport.sendQueue ++ [frame] }, .ok ())

/-- `disconnect(code, reason)`: close and report `Success` with the reason, unless already
disconnected or closed. -/
def disconnect (transport : WebSocketTransport Frame) (reason : String) :
    WebSocketTransport Frame × List (TransportCallback Frame) :=
  if transport.state = .disconnected ∨ transport.state = .closed then (transport, [])
  else
    ({ transport with shouldExit := true, state := .closed, hasWsi := false },
      [.disconnected .success reason])

/-- The `LWS_CALLBACK_CLIENT_ESTABLISHED` case. -/
def onEstablished (transport : WebSocketTransport Frame) :
    WebSocketTransport Frame × List (TransportCallback Frame) :=
  ({ transport with state := .connected }, [.connected])

/-- The `LWS_CALLBACK_CLIENT_CONNECTION_ERROR` case. -/
def onConnectionError (transport : WebSocketTransport Frame) (detail : Option String) :
    WebSocketTransport Frame × List (TransportCallback Frame) :=
  ({ transport with state := .error }, [.error .connectionFailed (detail.getD "Connection error")])

/-- The `LWS_CALLBACK_CLIENT_CLOSED` case. -/
def onClosed (transport : WebSocketTransport Frame) :
    WebSocketTransport Frame × List (TransportCallback Frame) :=
  ({ transport with state := .closed, hasWsi := false },
    [.disconnected .connectionClosed "Connection closed"])

/-- The `LWS_CALLBACK_CLIENT_WRITEABLE` case, where `writeOk` says whether `lws_write`
succeeds: the front frame, if any, is written and popped; a failed write keeps it queued.
Returns the frame written. -/
def onWriteable (transport : WebSocketTransport Frame) (writeOk : Bool) :
    WebSocketTransport Frame × Option Frame × List (TransportCallback Frame) :=
  if transport.shouldExit then (transport, none, [])
  else
    match transport.sendQueue with
    | [] => (transport, none, [])
    | frame :: rest =>
      if writeOk then ({ transport with sendQueue := rest }, some frame, [])
      else (transport, none, [.error .internalError "Write failed"])

/-- The part of `connect` after `parseUrl`: enter `Connecting`, then create the context and the
connection and run the carrier until it answers.  `none` is the self-deadlock of the timeout
path. -/
def startConnection (transport : WebSocketTransport Frame) (outcome : ConnectOutcome) :
    Option (WebSocketTransport Frame × Result Unit × List (TransportCallback Frame)) :=
  let started := { transport with state := .connecting, shouldExit := false }
  match outcome with
  | .contextFailed =>
    some ({ started with state := .error },
      .error (.connectionFailed, "Failed to create WebSocket context"), [])
  | .initiateFailed =>
    some ({ started with state := .error, hasWsi := false },
      .error (.connectionFailed, "Failed to initiate connection"), [])
  | .established =>
    let (opened, callbacks) := onEstablished { started with hasWsi := true }
    some (opened, .ok (), callbacks)
  | .connectionError detail =>
    let (failed, callbacks) := onConnectionError { started with hasWsi := true } detail
    some (failed, .error (.connectionFailed, "Connection failed"), callbacks)
  | .closed =>
    let (closed, callbacks) := onClosed { started with hasWsi := true }
    some (closed, .error (.connectionFailed, "Connection failed"), callbacks)
  | .timedOut => none

/-- `connect(url, timeout)`: refuse while connected or connecting, then parse the URL, then run
the carrier until it answers.  An error is the exception `parseUrl` lets out of `std::stoi`;
`none` is the self-deadlock of the timeout path. -/
def connect (transport : WebSocketTransport Frame) (url : String) (outcome : ConnectOutcome) :
    Except StoiError
      (Option (WebSocketTransport Frame × Result Unit × List (TransportCallback Frame))) :=
  if transport.state = .connected ∨ transport.state = .connecting then
    .ok (some (transport, .error (.alreadyConnected, "Already connected or connecting"), []))
  else
    match parseUrl url with
    | .error failure => .error failure
    | .ok none => .ok (some (transport, .error (.connectionFailed, "Invalid URL: " ++ url), []))
    | .ok (some _) => .ok (transport.startConnection outcome)

/-- One step of the transport with its frame observations; `none` when the step's thread
deadlocks.  `parseUrl`'s exception ends the calling thread's `connect` and leaves the transport
as it was. -/
def step (transport : WebSocketTransport Frame) : TransportInput Frame →
    Option (WebSocketTransport Frame × List (FrameObservation Frame))
  | .send frame =>
    let (next, result) := transport.send frame
    some (next, if result.toBool then [.accepted frame] else [])
  | .connect url outcome =>
    match transport.connect url outcome with
    | .error _ => some (transport, [])
    | .ok connected => connected.map fun (next, result, _) =>
      (next, if result.toBool then [.opened] else [])
  | .disconnect reason => some ((transport.disconnect reason).1, [])
  | .established => some (transport.onEstablished.1, [.opened])
  | .connectionError detail => some ((transport.onConnectionError detail).1, [])
  | .closed => some (transport.onClosed.1, [])
  | .receive _ => some (transport, [])
  | .writeable writeOk =>
    let (next, written, _) := transport.onWriteable writeOk
    some (next, written.toList.map .written)

/-- A run of the transport: its final state and observations, up to a deadlocked step. -/
def run (transport : WebSocketTransport Frame) : List (TransportInput Frame) →
    WebSocketTransport Frame × List (FrameObservation Frame)
  | [] => (transport, [])
  | input :: rest =>
    match transport.step input with
    | none => (transport, [])
    | some (next, observed) =>
      let (final, later) := next.run rest
      (final, observed ++ later)

end WebSocketTransport

section Frames

variable {Frame : Type}

/-- The frames accepted by `send` among some observations. -/
def acceptedFrames : List (FrameObservation Frame) → List Frame
  | [] => []
  | .accepted frame :: rest => frame :: acceptedFrames rest
  | _ :: rest => acceptedFrames rest

/-- The frames written by `lws_write` among some observations. -/
def writtenFrames : List (FrameObservation Frame) → List Frame
  | [] => []
  | .written frame :: rest => frame :: writtenFrames rest
  | _ :: rest => writtenFrames rest

/-- The observations cut at each session start: the frames accepted and written before the
first session, then those of each session. -/
def sessionFrames : List (FrameObservation Frame) → List (List Frame × List Frame)
  | [] => [([], [])]
  | .opened :: rest => ([], []) :: sessionFrames rest
  | .accepted frame :: rest =>
    match sessionFrames rest with
    | (accepted, written) :: later => (frame :: accepted, written) :: later
    | [] => []
  | .written frame :: rest =>
    match sessionFrames rest with
    | (accepted, written) :: later => (accepted, frame :: written) :: later
    | [] => []

@[simp] theorem acceptedFrames_append (first second : List (FrameObservation Frame)) :
    acceptedFrames (first ++ second) = acceptedFrames first ++ acceptedFrames second := by
  induction first with
  | nil => rfl
  | cons observation rest ih => cases observation <;> simp [acceptedFrames, ih]

@[simp] theorem writtenFrames_append (first second : List (FrameObservation Frame)) :
    writtenFrames (first ++ second) = writtenFrames first ++ writtenFrames second := by
  induction first with
  | nil => rfl
  | cons observation rest ih => cases observation <;> simp [writtenFrames, ih]

@[simp] theorem acceptedFrames_map_accepted (frames : List Frame) :
    acceptedFrames (frames.map .accepted) = frames := by
  induction frames with
  | nil => rfl
  | cons frame rest ih => simp [acceptedFrames, ih]

end Frames

namespace WebSocketTransport

variable {Frame : Type}

@[simp] theorem disconnect_sendQueue (transport : WebSocketTransport Frame) (reason : String) :
    (transport.disconnect reason).1.sendQueue = transport.sendQueue := by
  unfold disconnect
  split <;> rfl

@[simp] theorem onEstablished_sendQueue (transport : WebSocketTransport Frame) :
    transport.onEstablished.1.sendQueue = transport.sendQueue :=
  rfl

@[simp] theorem onConnectionError_sendQueue (transport : WebSocketTransport Frame)
    (detail : Option String) :
    (transport.onConnectionError detail).1.sendQueue = transport.sendQueue :=
  rfl

@[simp] theorem onClosed_sendQueue (transport : WebSocketTransport Frame) :
    transport.onClosed.1.sendQueue = transport.sendQueue :=
  rfl

theorem startConnection_sendQueue {transport next : WebSocketTransport Frame}
    {outcome : ConnectOutcome} {result : Result Unit} {callbacks : List (TransportCallback Frame)}
    (started : transport.startConnection outcome = some (next, result, callbacks)) :
    next.sendQueue = transport.sendQueue := by
  cases outcome <;> simp only [startConnection, Option.some.injEq, reduceCtorEq] at started <;>
    cases started <;> rfl

theorem startConnection_reports_no_message {transport next : WebSocketTransport Frame}
    {outcome : ConnectOutcome} {result : Result Unit} {callbacks : List (TransportCallback Frame)}
    (started : transport.startConnection outcome = some (next, result, callbacks)) (text : Frame) :
    .message text ∉ callbacks := by
  cases outcome <;> simp only [startConnection, Option.some.injEq, reduceCtorEq] at started <;>
    cases started <;> simp [onEstablished, onConnectionError, onClosed]

/-- What `connect` can do when it returns: refuse with the transport unchanged, or start the
connection; `parseUrl`'s exception is the other way out. -/
theorem connect_cases {transport : WebSocketTransport Frame} {url : String}
    {outcome : ConnectOutcome} {answer}
    (connected : transport.connect url outcome = .ok (some answer)) :
    answer.1 = transport ∧ answer.2.2 = [] ∨ transport.startConnection outcome = some answer := by
  unfold connect at connected
  split at connected
  · cases connected; exact .inl ⟨rfl, rfl⟩
  · split at connected
    · cases connected
    · cases connected; exact .inl ⟨rfl, rfl⟩
    · exact .inr (Except.ok.inj connected)

/-- From a transport neither connected nor connecting, `parseUrl`'s exception leaves
`connect`. -/
theorem connect_of_throwing_url {transport : WebSocketTransport Frame} {url : String}
    {failure : StoiError} (idle : transport.state ≠ .connected ∧ transport.state ≠ .connecting)
    (throws : parseUrl url = .error failure) (outcome : ConnectOutcome) :
    transport.connect url outcome = .error failure := by
  simp [connect, idle.1, idle.2, throws]

theorem connect_sendQueue {transport next : WebSocketTransport Frame} {url : String}
    {outcome : ConnectOutcome} {result : Result Unit} {callbacks : List (TransportCallback Frame)}
    (connected : transport.connect url outcome = .ok (some (next, result, callbacks))) :
    next.sendQueue = transport.sendQueue := by
  rcases connect_cases connected with ⟨unchanged, _⟩ | started
  · rw [show next = transport from unchanged]
  · exact startConnection_sendQueue started

/-- A connection attempt reports no inbound frame: its callbacks are `onConnected`, `onError`
or `onDisconnected`. -/
theorem connect_reports_no_message {transport next : WebSocketTransport Frame} {url : String}
    {outcome : ConnectOutcome} {result : Result Unit} {callbacks : List (TransportCallback Frame)}
    (connected : transport.connect url outcome = .ok (some (next, result, callbacks)))
    (text : Frame) : .message text ∉ callbacks := by
  rcases connect_cases connected with ⟨_, none⟩ | started
  · simp only at none; simp [none]
  · exact startConnection_reports_no_message started text

/-- `send` on a connected transport queues the frame and succeeds, whatever the queue holds. -/
theorem send_of_connected {transport : WebSocketTransport Frame}
    (connected : transport.state = .connected) (frame : Frame) :
    transport.send frame = ({ transport with sendQueue := transport.sendQueue ++ [frame] }, .ok ()) := by
  simp [send, connected]

/-- Sends to a connected transport that the carrier never asks to write are all accepted and
all stay queued: the queue has no bound. -/
theorem run_sends {transport : WebSocketTransport Frame} (connected : transport.state = .connected)
    (frames : List Frame) :
    transport.run (frames.map .send) =
      ({ transport with sendQueue := transport.sendQueue ++ frames }, frames.map .accepted) := by
  induction frames generalizing transport with
  | nil => simp [run]
  | cons frame rest ih =>
    simp only [List.map_cons, run, step, send_of_connected connected, Except.toBool, if_true]
    rw [ih]
    · simp
    · exact connected

/-- One step conserves the frames: what it writes, then the queue after it, is the queue
before it, then what it accepts. -/
theorem step_conserves_frames {transport next : WebSocketTransport Frame}
    {observed : List (FrameObservation Frame)} {input : TransportInput Frame}
    (stepped : transport.step input = some (next, observed)) :
    writtenFrames observed ++ next.sendQueue = transport.sendQueue ++ acceptedFrames observed := by
  cases input
  case connect url outcome =>
    simp only [step] at stepped
    split at stepped
    · cases stepped; simp [acceptedFrames, writtenFrames]
    · simp only [Option.map_eq_some'] at stepped
      obtain ⟨⟨state, result, callbacks⟩, rfl, same⟩ := stepped
      cases same
      split <;> simp [acceptedFrames, writtenFrames, connect_sendQueue ‹_›]
  all_goals
    simp only [step, Option.some.injEq, Prod.mk.injEq] at stepped
    obtain ⟨rfl, rfl⟩ := stepped
  case send frame =>
    unfold send
    split <;> simp [acceptedFrames, writtenFrames]
  case writeable writeOk =>
    unfold onWriteable
    repeat' split
    all_goals simp_all [writtenFrames, acceptedFrames]
  all_goals simp [writtenFrames, acceptedFrames]

/-- Every run conserves the frames. -/
theorem run_conserves_frames (transport : WebSocketTransport Frame) (inputs : List (TransportInput Frame)) :
    writtenFrames (transport.run inputs).2 ++ (transport.run inputs).1.sendQueue =
      transport.sendQueue ++ acceptedFrames (transport.run inputs).2 := by
  induction inputs generalizing transport with
  | nil => simp [run, writtenFrames, acceptedFrames]
  | cons input rest ih =>
    unfold run
    cases stepped : transport.step input with
    | none => simp [writtenFrames, acceptedFrames]
    | some result =>
      obtain ⟨next, observed⟩ := result
      have conserved := step_conserves_frames stepped
      simp only [writtenFrames_append, acceptedFrames_append, List.append_assoc, ih next]
      rw [← List.append_assoc, conserved, List.append_assoc]

end WebSocketTransport

/-- Over any run of a new transport, all sessions taken together, the frames written followed
by those still queued are exactly the frames accepted, in order: frames go out in send order
and none is written twice. -/
theorem frames_written_in_send_order {Frame : Type} (inputs : List (TransportInput Frame)) :
    let (final, observed) := ({} : WebSocketTransport Frame).run inputs
    writtenFrames observed ++ final.sendQueue = acceptedFrames observed ∧
      writtenFrames observed <+: acceptedFrames observed := by
  have conserved := WebSocketTransport.run_conserves_frames {} inputs
  exact ⟨conserved, ⟨_, conserved⟩⟩

/-- A frame accepted in one session and still queued when the peer closes it is written first
in the next session, ahead of that session's own frames. -/
theorem queued_frame_written_in_later_session :
    let observed := (({} : WebSocketTransport String).run
      [.connect "wss://localhost:5000/ws" .established, .send "A", .closed,
        .connect "wss://localhost:5000/ws" .established, .send "B", .writeable true]).2
    sessionFrames observed = [([], []), (["A"], []), (["B"], ["A"])] ∧
      ¬ ∀ session ∈ sessionFrames observed, session.2 <+: session.1 := by
  decide

/-- Whatever bound is configured, a new transport that connects and then takes one frame more
than the bound, with no `CLIENT_WRITEABLE` in between, accepts every frame and holds them all
queued: `send` never reports a full buffer. -/
theorem send_queue_unbounded {Frame : Type} (bound : Nat) (frame : Frame) :
    bound < (({} : WebSocketTransport Frame).run
        (.connect "wss://localhost:5000/ws" .established ::
          List.replicate (bound + 1) (.send frame))).1.sendQueue.length ∧
      acceptedFrames (({} : WebSocketTransport Frame).run
        (.connect "wss://localhost:5000/ws" .established ::
          List.replicate (bound + 1) (.send frame))).2 =
        List.replicate (bound + 1) frame := by
  have opened : ({} : WebSocketTransport Frame).step (.connect "wss://localhost:5000/ws" .established) =
      some ({ state := .connected, hasWsi := true }, [.opened]) := rfl
  rw [WebSocketTransport.run, opened, ← List.map_replicate]
  dsimp only
  rw [WebSocketTransport.run_sends rfl]
  refine ⟨by simp, ?_⟩
  simp only [List.singleton_append, acceptedFrames, acceptedFrames_map_accepted, List.replicate_succ]

end GatewaySdk
