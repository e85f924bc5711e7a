import GatewaySdk.Client.State

/-!
# The operations of the client engine

The member functions of `GatewayClient::Impl`, each an `EngineM` operation written in the
order of its C++ body: the public calls (`connect`, `connectAsync`, `disconnect`, `publish`,
`subscribe`, `unsubscribe`, `getSubscriptions`, `getStats`, `poll`), the handlers that
`setupTransportCallbacks` installs on the transport, the message handlers, and the helpers
`setState`, `resubscribeAll`, `doAuthentication`, `processHeartbeat` and
`processReconnection`.  `lock_guard` sections are `withLock` blocks.

A blocking call is cut at its wait: `connect()` stops on `connectCv_` or `authCv_` and goes on
in `resumeConnect`, and `processReconnection` stops in its `sleep_for` and goes on in
`finishReconnection`.  `step` runs one input: a call of a user thread, a wake-up of a blocked
thread, a poll or a carrier event on the polling thread, or a tick of the clocks.
-/

namespace GatewaySdk

namespace GatewayClient

variable {Text α : Type} (env : Environment Text)

/-- `publish(subject, payload)`.  The `canPublish` check only logs a warning. -/
def publish (subject : String) (payload : JsonValue) : EngineM Text (Result Unit) := withLock do
  let client ← get
  if client.state ≠ .connected then return .error (.notConnected, "Not connected")
  if !Protocol.isValidSubject subject then
    return .error (.invalidSubject, "Invalid subject: " ++ subject)
  let message := Message.publish subject payload
  let text := Protocol.serialize env.codec message client.clock.system
  let result ← transportSend text message
  if result.toBool then
    modify fun client => { client with
      stats := { client.stats with
        messagesSent := (client.stats.messagesSent + 1) % 2 ^ 64
        bytesSent := (client.stats.bytesSent + env.codec.size text) % 2 ^ 64
        lastActivityAt := client.clock.system } }
  pure result

/-- `subscribe(subject, handler)`: register the subscription under a fresh id, send the
Subscribe envelope, and roll the registration back if the send fails. -/
def subscribe (subject : String) : EngineM Text (Result SubscriptionId) := withLock do
  let client ← get
  if client.state ≠ .connected then return .error (.notConnected, "Not connected")
  if !Protocol.isValidSubject subject then return .error (.invalidSubject, "Invalid subject")
  let id := client.nextSubscriptionId
  modify fun client => client.register subject
  let message := Message.subscribe subject
  match ← transportSend (Protocol.serialize env.codec message client.clock.system) message with
  | .error failure =>
    modify fun client => client.unregister id subject
    pure (.error failure)
  | .ok () =>
    record (.subscribed id)
    pure (.ok id)

/-- `unsubscribe(id)`: the Unsubscribe envelope goes out only while connected. -/
def unsubscribe (id : SubscriptionId) : EngineM Text (Result Unit) := withLock do
  let client ← get
  match client.subscriptions.find? id with
  | none => pure (.error (.notSubscribed, "Subscription not found"))
  | some sub =>
    if client.state = .connected then
      let message := Message.unsubscribe sub.subject
      discard <| transportSend (Protocol.serialize env.codec message client.clock.system) message
    modify fun client => client.unregister id sub.subject
    pure (.ok ())

/-- `unsubscribe(subject)`: look the id up under the mutex, release it, then
`unsubscribe(id)`. -/
def unsubscribeSubject (subject : String) : EngineM Text (Result Unit) := do
  match ← withLock do pure ((← get).subjectToId.lookup subject) with
  | none => pure (.error (.notSubscribed, "Not subscribed to: " ++ subject))
  | some id => unsubscribe env id

/-- `getSubscriptions()`: the subjects of the active subscriptions, in id order. -/
def getSubscriptions : EngineM Text (List String) := withLock do
  pure (((← get).subscriptions.entries.filter (·.2.active)).map (·.2.subject))

/-- `getStats()`. -/
def getStats : EngineM Text ClientStats := withLock do
  pure (← get).stats

/-- A public call made from user code; its result goes back to the caller. -/
def call : ApiCall → EngineM Text Unit
  | .publish subject payload => discard <| publish env subject payload
  | .subscribe subject => discard <| subscribe env subject
  | .unsubscribe id => discard <| unsubscribe env id
  | .unsubscribeSubject subject => discard <| unsubscribeSubject env subject
  | .getSubscriptions => discard <| getSubscriptions
  | .getStats => discard <| getStats

/-- Invoke a user callback if its member of `callbacks_` is set, recording whether the engine
mutex is held; the callback's public call runs on the same thread. -/
def invoke (callback : UserCallback) : EngineM Text Unit := do
  if callback.slot.all env.user.registered then
    record (.invoked callback (← get).lockHeld)
    match env.user.reaction callback with
    | some api => call env api
    | none => pure ()

/-- The loop of `resubscribeAll`: a Subscribe envelope for each active subscription, in id
order. -/
def resubscribeEach : List (SubscriptionId × Subscription) → EngineM Text Unit
  | [] => pure ()
  | (_, sub) :: rest => do
    if sub.active then
      let message := Message.subscribe sub.subject
      discard <| transportSend (Protocol.serialize env.codec message (← get).clock.system) message
    resubscribeEach rest

/-- `resubscribeAll()`. -/
def resubscribeAll : EngineM Text Unit := do
  if (← get).policy.resubscribe then
    withLock do resubscribeEach env (← get).subscriptions.entries

/-- `setState(newState)`: exchange the state; on a change, `onStateChanged`, and on entering
`Connected`, `resubscribeAll`. -/
def setState (new : ConnectionState) : EngineM Text Unit := do
  let old := (← get).state
  modify fun client => { client with state := new }
  if old ≠ new then
    invoke env (.stateChanged old new)
    if new = .connected then resubscribeAll env

/-- `handleAuthMessage`: an Auth reply the `AuthManager` handles either connects the engine
(resetting the reconnect policy) or leaves it `Disconnected`. -/
def handleAuthMessage (message : Message) : EngineM Text Unit := do
  let (auth, handled) := (← get).auth.handleMessage message
  modify fun client => { client with auth }
  if handled then
    if (← get).auth.isAuthenticated then
      modify fun client => { client with policy := client.policy.reset }
      setState env .connected
      modify fun client => { client with
        stats := { client.stats with connectedAt := client.clock.system } }
      invoke env .connected
    else
      setState env .disconnected

/-- The handler calls of `handleSubscriptionMessage`, one per dispatched id.  Every
subscription's handler is taken as set, so the source's `if (sub.handler)` test always passes. -/
def invokeHandlers (message : Message) : List SubscriptionId → EngineM Text Unit
  | [] => pure ()
  | id :: rest => do
    invoke env (.handler id message)
    invokeHandlers message rest

/-- `handleSubscriptionMessage`: the matching handlers run inside the `lock_guard`. -/
def handleSubscriptionMessage (message : Message) : EngineM Text Unit := withLock do
  invokeHandlers env message (dispatch (← get).subscriptions message.subject)

/-- `handleErrorMessage`: `onError` with the payload's `message` text. -/
def handleErrorMessage (message : Message) : EngineM Text Unit :=
  invoke env (.error .internalError
    (if message.payload.contains "message" then (message.payload.get "message").asString
      else "Unknown error"))

/-- `handlePongMessage`. -/
def handlePongMessage : EngineM Text Unit :=
  modify fun client => { client with lastPongReceived := client.clock.steady, missedPongs := 0 }

/-- `handleMessage(json)`: a text that does not deserialize is only logged; otherwise count
it and hand it to the handler of its type (an Ack or another type is only logged). -/
def handleMessage (text : Text) : EngineM Text Unit := do
  match Protocol.deserialize env.codec env.utcOffset text with
  | .error _ => pure ()
  | .ok message =>
    modify fun client => { client with
      stats := { client.stats with
        messagesReceived := (client.stats.messagesReceived + 1) % 2 ^ 64
        bytesReceived := (client.stats.bytesReceived + env.codec.size text) % 2 ^ 64
        lastActivityAt := client.clock.system } }
    if message.type = .auth then handleAuthMessage env message
    else if message.type = .message then handleSubscriptionMessage env message
    else if message.type = .error then handleErrorMessage env message
    else if message.type = .pong then handlePongMessage
    else pure ()

/-- The transport's `onConnected` handler: `Authenticating`, then `connectCv_.notify_all()`. -/
def onTransportConnected : EngineM Text Unit :=
  setState env .authenticating

/-- The transport's `onDisconnected` handler: `Reconnecting` while the policy allows it,
otherwise `Disconnected` and the user's `onDisconnected`. -/
def onTransportDisconnected (code : ErrorCode) (reason : String) : EngineM Text Unit := do
  let policy := (← get).policy
  if policy.enabled && policy.shouldReconnect then setState env .reconnecting
  else
    setState env .disconnected
    invoke env (.disconnected code reason)

/-- The transport's `onError` handler. -/
def onTransportError (code : ErrorCode) (message : String) : EngineM Text Unit := do
  modify fun client => { client with
    stats := { client.stats with errorCount := (client.stats.errorCount + 1) % 2 ^ 32 } }
  invoke env (.error code message)

/-- The engine's handler of one transport callback. -/
def onTransport : TransportCallback Text → EngineM Text Unit
  | .connected => onTransportConnected env
  | .disconnected code reason => onTransportDisconnected env code reason
  | .error code message => onTransportError env code message
  | .message text => handleMessage env text

/-- The engine's handlers of the callbacks a transport call fires, in order. -/
def fireTransportCallbacks : List (TransportCallback Text) → EngineM Text Unit
  | [] => pure ()
  | callback :: rest => do
    onTransport env callback
    fireTransportCallbacks rest

/-- `transport_->connect(config_.gatewayUrl, timeout)`: the carrier answers with `outcome` while
the transport mutex is held, and the callbacks it fires run then.  The transport's timeout path
deadlocks; `parseUrl`'s exception is the other way `connect` does not return, and
`transportConnectE` follows it. -/
def transportConnect (outcome : ConnectOutcome) : EngineM Text (Result Unit) := do
  let client ← get
  if client.transportLockHeld then failure
  let .ok (some (transport, result, callbacks)) :=
    client.transport.connect client.config.gatewayUrl outcome | failure
  modify fun client => { client with transport, transportLockHeld := true }
  record .transportConnect
  fireTransportCallbacks env callbacks
  modify fun client => { client with transportLockHeld := false }
  pure result

/-- `transport_->disconnect(1000, reason)`, whose `onDisconnected` fires under the transport
mutex. -/
def transportDisconnect (reason : String) : EngineM Text Unit := do
  let client ← get
  if client.transportLockHeld then failure
  let (transport, callbacks) := client.transport.disconnect reason
  modify fun client => { client with transport, transportLockHeld := true }
  record (.transportDisconnect reason)
  fireTransportCallbacks env callbacks
  modify fun client => { client with transportLockHeld := false }

/-- The carrier's `LWS_CALLBACK_CLIENT_CLOSED`, during a poll. -/
def onCarrierClosed : EngineM Text Unit := do
  let (transport, callbacks) := (← get).transport.onClosed
  modify fun client => { client with transport }
  fireTransportCallbacks env callbacks

/-- The carrier's `LWS_CALLBACK_CLIENT_WRITEABLE`, during a poll: the handler holds the
transport mutex, also while the write failure's `onError` runs. -/
def onCarrierWriteable (writeOk : Bool) : EngineM Text Unit := do
  let client ← get
  if client.transportLockHeld then failure
  let (transport, _, callbacks) := client.transport.onWriteable writeOk
  modify fun client => { client with transport, transportLockHeld := true }
  fireTransportCallbacks env callbacks
  modify fun client => { client with transportLockHeld := false }

/-- `connect()` up to its first wait: from `Disconnected`, `Reconnecting` or `Closed`, enter
`Connecting` and connect the transport, then wait on `connectCv_`. -/
def connect (outcome : ConnectOutcome) : EngineM Text Unit := do
  let proceed ← withLock do
    let state := (← get).state
    if state = .connected ∨ state = .connecting ∨ state = .authenticating then return false
    setState env .connecting
    pure true
  if proceed then
    let result ← transportConnect env outcome
    if result.toBool then
      modify fun client => { client with connectCalls := client.connectCalls ++ [.opening] }
    else setState env .disconnected

/-- `doAuthentication()` up to its wait: enter `Authenticating`, start the handshake, send the
Auth request, then wait on `authCv_`. -/
def doAuthentication : EngineM Text Unit := do
  setState env .authenticating
  modify fun client => { client with auth := client.auth.startAuth }
  let message := AuthManager.createAuthRequest (← get).config
  let result ← transportSend (Protocol.serialize env.codec message (← get).clock.system) message
  if result.toBool then
    modify fun client => { client with
      connectCalls := client.connectCalls ++ [.authenticating] }
  else setState env .disconnected

/-- A blocked `connect()` call wakes up, notified with its condition true or at its timeout
with the condition false.  Waiting for the transport, it authenticates once `Authenticating`,
gives up once `Disconnected`, and on its timeout disconnects the transport under the mutex;
waiting for the Auth reply, it returns once authenticated or `Disconnected`, and on its
timeout likewise disconnects. -/
def resumeConnect (index : Nat) : EngineM Text Unit := do
  let some wait := (← get).connectCalls[index]? | pure ()
  modify fun client => { client with connectCalls := client.connectCalls.eraseIdx index }
  match wait with
  | .opening =>
    let state ← withLock do
      let state := (← get).state
      unless state = .authenticating ∨ state = .disconnected do
        transportDisconnect env "Connection timeout"
        setState env .disconnected
      pure state
    if state = .authenticating then doAuthentication env
  | .authenticating =>
    withLock do
      let client ← get
      unless client.auth.isAuthenticated ∨ client.state = .disconnected do
        transportDisconnect env "Authentication timeout"
        setState env .disconnected

/-- `connectAsync()`: the whole call, transport connect included, holds the mutex. -/
def connectAsync (outcome : ConnectOutcome) : EngineM Text (Result Unit) := withLock do
  let state := (← get).state
  if state = .connected ∨ state = .connecting ∨ state = .authenticating then
    return .error (.alreadyConnected, "Already connected or connecting")
  setState env .connecting
  let result ← transportConnect env outcome
  if !result.toBool then setState env .disconnected
  pure result

/-- `disconnect()`: disable the reconnect policy and enter `Closing` under the mutex, then
disconnect the transport, reset the `AuthManager` and enter `Closed`. -/
def disconnect : EngineM Text Unit := do
  let proceed ← withLock do
    let state := (← get).state
    if state = .disconnected ∨ state = .closed then return false
    modify fun client => { client with policy := client.policy.setEnabled false }
    setState env .closing
    pure true
  if proceed then
    transportDisconnect env "Client disconnect"
    modify fun client => { client with auth := client.auth.reset }
    setState env .closed

/-- `processHeartbeat()`: a Ping once `interval` has passed since the last one, and a missed
pong counted on each check more than `timeout` after the last pong, disconnecting at
`missedPongsBeforeDisconnect`. -/
def processHeartbeat : EngineM Text Unit := do
  let client ← get
  let now := client.clock.steady
  if (client.config.heartbeat.interval : Int) ≤ now - client.lastPingSent then
    discard <| transportSend (Protocol.serialize env.codec .ping client.clock.system) .ping
    modify fun client => { client with lastPingSent := now }
  let client ← get
  if client.lastPongReceived ≠ 0 ∧
      (client.config.heartbeat.timeout : Int) < now - client.lastPongReceived then
    let missed := (client.missedPongs + 1) % 2 ^ 32
    modify fun client => { client with missedPongs := missed }
    if client.config.heartbeat.missedPongsBeforeDisconnect ≤ missed then
      transportDisconnect env "Heartbeat timeout"

/-- `processReconnection()` up to its `sleep_for`: `Disconnected` once attempts are not
allowed, otherwise count the attempt, call `onReconnecting` and sleep for the delay drawn
with jitter `draw`. -/
def processReconnection (draw : ℚ) : EngineM Text Unit := do
  let client ← get
  if !client.policy.shouldReconnect then setState env .disconnected
  else
    let delay := (client.policy.getNextDelay draw).2
    modify fun client => { client with policy := (client.policy.getNextDelay draw).1 }
    invoke env (.reconnecting (← get).policy.attemptCount)
    modify fun client => { client with poller := .sleeping delay }

/-- The end of `processReconnection()`: after the delay, connect the transport; a failure is
only logged and retried on a later poll. -/
def finishReconnection (outcome : ConnectOutcome) : EngineM Text Unit := do
  discard <| transportConnect env outcome
  modify fun client => { client with poller := .idle }

/-- `poll(timeout)` after `transport_->poll`: the heartbeat while connected, and a reconnection
step while reconnecting.  The carrier events of `transport_->poll` are inputs of their own. -/
def poll (draw : ℚ) : EngineM Text Unit := do
  let client ← get
  if client.state = .connected ∧ client.config.heartbeat.enabled then processHeartbeat env
  if (← get).state = .reconnecting then processReconnection env draw

end GatewayClient

/-- An input of the engine: a call of a user thread, the wake-up of a blocked thread, a poll or
a carrier event on the polling thread, or a tick of the clocks. -/
inductive ClientInput (Text : Type)
  /-- A user thread calls `connect()`; its transport connect gets `outcome`. -/
  | connect (outcome : ConnectOutcome)
  /-- The `index`-th blocked `connect()` call wakes up. -/
  | resumeConnect (index : Nat)
  /-- A user thread calls `connectAsync()`. -/
  | connectAsync (outcome : ConnectOutcome)
  /-- A user thread calls `disconnect()`. -/
  | disconnect
  /-- A user thread makes a public call that takes the mutex. -/
  | call (api : ApiCall)
  /-- The polling thread runs `poll()`; `draw` is the reconnect jitter it would draw. -/
  | poll (draw : ℚ)
  /-- The polling thread wakes from the reconnect delay and connects the transport. -/
  | reconnect (outcome : ConnectOutcome)
  /-- The carrier closes the connection. -/
  | closed
  /-- The carrier delivers a text frame. -/
  | receive (text : Text)
  /-- The carrier can take a frame; `writeOk` says whether `lws_write` succeeds. -/
  | writeable (writeOk : Bool)
  /-- The clocks move. -/
  | tick (clock : Clock)

namespace GatewayClient

variable {Text : Type} (env : Environment Text)

/-- Run `op` on the polling thread, which must not be asleep in `processReconnection`. -/
def onPollingThread (op : EngineM Text Unit) : EngineM Text Unit := do
  if (← get).poller = .idle then op

/-- The operation an input runs. -/
def operation : ClientInput Text → EngineM Text Unit
  | .connect outcome => connect env outcome
  | .resumeConnect index => resumeConnect env index
  | .connectAsync outcome => discard <| connectAsync env outcome
  | .disconnect => disconnect env
  | .call api => call env api
  | .poll draw => onPollingThread (poll env draw)
  | .reconnect outcome => do
    if (← get).poller ≠ .idle then finishReconnection env outcome
  | .closed => onPollingThread (onCarrierClosed env)
  | .receive text => onPollingThread (handleMessage env text)
  | .writeable writeOk => onPollingThread (onCarrierWriteable env writeOk)
  | .tick clock => modify fun client => { client with clock }

/-- One step of the engine; `none` when the step's thread deadlocks. -/
def step (client : GatewayClient Text) (input : ClientInput Text) :
    Option (GatewayClient Text) :=
  ((operation env input).run client).map Prod.snd

/-- A run of the engine; `none` when one of its steps deadlocks. -/
def run (client : GatewayClient Text) : List (ClientInput Text) → Option (GatewayClient Text)
  | [] => some client
  | input :: rest => (step env client input).bind fun next => run next rest

/-- The state a run reaches, or its start when one of its steps deadlocks. -/
def runOr (client : GatewayClient Text) (inputs : List (ClientInput Text)) : GatewayClient Text :=
  (run env client inputs).getD client

theorem run_append (client : GatewayClient Text) (first second : List (ClientInput Text)) :
    run env client (first ++ second) = (run env client first).bind fun middle =>
      run env middle second := by
  induction first generalizing client with
  | nil => rfl
  | cons input rest ih => simp [run, ih, Option.bind_assoc]

/-- A run that gets through its first input ran that input's operation, then the rest. -/
theorem run_cons_eq_some {client final : GatewayClient Text} {input : ClientInput Text}
    {rest : List (ClientInput Text)} (ran : run env client (input :: rest) = some final) :
    ∃ result middle, (operation env input).run client = some (result, middle) ∧
      run env middle rest = some final := by
  simp only [run, step, Option.bind_eq_some, Option.map_eq_some'] at ran
  obtain ⟨_, ⟨⟨result, middle⟩, stepped, rfl⟩, later⟩ := ran
  exact ⟨result, middle, stepped, later⟩

/-- A run that gets through reaches the state `runOr` names. -/
theorem run_eq_some_runOr {client : GatewayClient Text} {inputs : List (ClientInput Text)}
    (reached : (run env client inputs).isSome) :
    run env client inputs = some (runOr env client inputs) := by
  obtain ⟨final, ran⟩ := Option.isSome_iff_exists.mp reached
  simp only [runOr, ran, Option.getD_some]

/-- A run that gets through `first` goes on from the state `first` reaches. -/
theorem run_append_runOr (first : List (ClientInput Text)) {second : List (ClientInput Text)}
    {client : GatewayClient Text} (reached : (run env client first).isSome) :
    run env client (first ++ second) = run env (runOr env client first) second := by
  obtain ⟨middle, ran⟩ := Option.isSome_iff_exists.mp reached
  simp only [run_append, runOr, ran, Option.some_bind, Option.getD_some]

end GatewayClient

end GatewaySdk
