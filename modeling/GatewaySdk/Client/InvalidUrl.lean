import GatewaySdk.Client.Handshake

/-!
# The URL's exception

`WebSocketTransport::connect` parses `config_.gatewayUrl` with `parseUrl`, whose `std::stoi`
throws `invalid_argument` on a port text that does not start with a digit, a sign or white
space.  Nothing between `std::stoi` and the user catches it: not the transport's `connect`, not
`connect()`, `connectAsync()` or the reconnection that `poll()` runs.  Each leaves with the
state its code had reached: `connect()` has entered `Connecting` and released the mutex,
`connectAsync()`'s `lock_guard` releases the mutex as the exception unwinds, and the
reconnection leaves with nothing changed.  The engine stays in `Connecting`, where `connect()`
and `connectAsync()` refuse to start again.

`Engine.lean` counts the exception among the ways a thread does not come back.  Here the
exception is an `ExceptT` layer over the engine's monad, and `dropException` reads it back as
the engine does: each operation with the exception, read so, is the engine's.
-/

namespace GatewaySdk

/-- An operation of the engine through which `parseUrl`'s exception may leave. -/
abbrev ConnectM (Text α : Type) := ExceptT StoiError (EngineM Text) α

namespace GatewayClient

variable {Text : Type} (env : Environment Text)

/-- A `lock_guard` on `mutex_` around `body`: it releases the mutex as an exception unwinds
through it. -/
def withLockE {α : Type} (body : ConnectM Text α) : ConnectM Text α := ExceptT.mk do
  lock
  let outcome ← body.run
  unlock
  pure outcome

/-- `transport_->connect(config_.gatewayUrl, timeout)`, which `parseUrl`'s exception leaves
before the transport changes. -/
def transportConnectE (outcome : ConnectOutcome) : ConnectM Text (Result Unit) := do
  let client ← get
  if !client.transportLockHeld then
    if let .error failure := client.transport.connect client.config.gatewayUrl outcome then
      throw failure
  transportConnect env outcome

/-- `connect()` up to its first wait, through which the exception leaves. -/
def connectE (outcome : ConnectOutcome) : ConnectM Text Unit := do
  let proceed ← (withLock do
    let state := (← get).state
    if state = .connected ∨ state = .connecting ∨ state = .authenticating then return false
    setState env .connecting
    pure true : EngineM Text Bool)
  if proceed then
    let result ← transportConnectE env outcome
    if result.toBool then
      modify fun client => { client with connectCalls := client.connectCalls ++ [.opening] }
    else setState env .disconnected

/-- `connectAsync()`, whose `lock_guard` the exception unwinds through. -/
def connectAsyncE (outcome : ConnectOutcome) : ConnectM Text (Result Unit) := withLockE do
  let state := (← get).state
  if state = .connected ∨ state = .connecting ∨ state = .authenticating then
    return .error (.alreadyConnected, "Already connected or connecting")
  setState env .connecting
  let result ← transportConnectE env outcome
  if !result.toBool then setState env .disconnected
  pure result

/-- The end of `processReconnection()`, which the exception leaves. -/
def finishReconnectionE (outcome : ConnectOutcome) : ConnectM Text Unit := do
  discard <| transportConnectE env outcome
  modify fun client => { client with poller := .idle }

/-- A run with the exception read as a thread that does not come back, as the engine reads
it. -/
def dropException {α : Type} :
    Option (Except StoiError α × GatewayClient Text) → Option (α × GatewayClient Text)
  | some (.ok value, final) => some (value, final)
  | _ => none

variable {client : GatewayClient Text}

@[simp] theorem runE_get :
    (get : ConnectM Text (GatewayClient Text)).run =
      Except.ok <$> (get : EngineM Text (GatewayClient Text)) :=
  rfl

@[simp] theorem runE_liftM {α : Type} (op : EngineM Text α) :
    (liftM op : ConnectM Text α).run = Except.ok <$> op :=
  rfl

@[simp] theorem runE_modify (update : GatewayClient Text → GatewayClient Text) :
    (modify update : ConnectM Text Unit).run = Except.ok <$> (modify update : EngineM Text Unit) :=
  rfl

theorem dropException_bind {α β : Type} (first : ConnectM Text α) (rest : α → ConnectM Text β)
    (start : GatewayClient Text) :
    dropException ((first >>= rest).run.run start) =
      (dropException (first.run.run start)).bind fun (value, middle) =>
        dropException ((rest value).run.run middle) := by
  simp only [ExceptT.run_bind, StateT.run_bind]
  rcases first.run.run start with _ | ⟨_ | value, middle⟩ <;> rfl

@[simp] theorem dropException_map_ok {α : Type} (run : Option (α × GatewayClient Text)) :
    dropException (run.map fun (value, final) => (.ok value, final)) = run := by
  rcases run with _ | ⟨value, final⟩ <;> rfl

@[simp] theorem dropException_liftM {α : Type} (op : EngineM Text α) (start : GatewayClient Text) :
    dropException ((liftM op : ConnectM Text α).run.run start) = op.run start := by
  simp only [runE_liftM, StateT.run_map]
  rcases op.run start with _ | ⟨value, final⟩ <;> rfl

@[simp] theorem dropException_pure {α : Type} (value : α) (start : GatewayClient Text) :
    dropException ((pure value : ConnectM Text α).run.run start) =
      (pure value : EngineM Text α).run start :=
  rfl

@[simp] theorem dropException_get (start : GatewayClient Text) :
    dropException ((get : ConnectM Text (GatewayClient Text)).run.run start) =
      (get : EngineM Text (GatewayClient Text)).run start :=
  rfl

@[simp] theorem dropException_modify (update : GatewayClient Text → GatewayClient Text)
    (start : GatewayClient Text) :
    dropException ((modify update : ConnectM Text Unit).run.run start) =
      (modify update : EngineM Text Unit).run start :=
  rfl

theorem dropException_ite {α : Type} {condition : Prop} [Decidable condition]
    {yes no : ConnectM Text α} (start : GatewayClient Text) :
    dropException ((if condition then yes else no).run.run start) =
      if condition then dropException (yes.run.run start) else dropException (no.run.run start) := by
  split <;> rfl

theorem dropException_map {α β : Type} (f : α → β) (op : ConnectM Text α)
    (start : GatewayClient Text) :
    dropException ((f <$> op).run.run start) =
      (dropException (op.run.run start)).map fun outcome => (f outcome.1, outcome.2) := by
  simp only [ExceptT.run_map, StateT.run_map]
  rcases op.run.run start with _ | ⟨_ | value, final⟩ <;> rfl

theorem engine_run_ite {α : Type} {condition : Prop} [Decidable condition]
    {yes no : EngineM Text α} (start : GatewayClient Text) :
    (if condition then yes else no).run start = if condition then yes.run start else no.run start := by
  split <;> rfl

theorem dropException_withLockE {α : Type} {body : ConnectM Text α} {plain : EngineM Text α}
    (same : ∀ start, dropException (body.run.run start) = plain.run start)
    (start : GatewayClient Text) :
    dropException ((withLockE body).run.run start) = (withLock plain).run start := by
  unfold withLockE withLock
  simp only [ExceptT.run_mk, StateT.run_bind, ← same]
  rcases (lock : EngineM Text Unit).run start with _ | ⟨⟨⟩, locked⟩
  · rfl
  · simp only [Option.bind_eq_bind, Option.some_bind]
    rcases body.run.run locked with _ | ⟨_ | value, final⟩ <;> rfl

theorem transportConnectE_throw {outcome : ConnectOutcome} {failure : StoiError}
    (transportFree : client.transportLockHeld = false)
    (throws : client.transport.connect client.config.gatewayUrl outcome = .error failure) :
    (transportConnectE env outcome).run.run client = some (.error failure, client) := by
  simp [transportConnectE, transportFree, throws, ExceptT.run_bind, ExceptT.run_throw]

theorem transportConnectE_of_returning {outcome : ConnectOutcome}
    (returns : ∀ failure, client.transport.connect client.config.gatewayUrl outcome ≠ .error failure) :
    (transportConnectE env outcome).run.run client =
      (Except.ok <$> transportConnect env outcome).run client := by
  unfold transportConnectE
  cases connected : client.transport.connect client.config.gatewayUrl outcome with
  | error failure => exact absurd connected (returns failure)
  | ok answer => cases client.transportLockHeld <;> simp [connected, ExceptT.run_bind, ExceptT.run_lift]

theorem transportConnectE_refines (outcome : ConnectOutcome) (start : GatewayClient Text) :
    dropException ((transportConnectE env outcome).run.run start) =
      (transportConnect env outcome).run start := by
  cases held : start.transportLockHeld
  · cases connected : start.transport.connect start.config.gatewayUrl outcome with
    | error failure =>
      rw [transportConnectE_throw env held connected]
      simp [dropException, transportConnect, held, connected]
    | ok answer =>
      rw [transportConnectE_of_returning env (by simp [connected])]
      exact dropException_liftM _ _
  · simp [transportConnectE, held, ExceptT.run_bind]

theorem connectE_refines (outcome : ConnectOutcome) (start : GatewayClient Text) :
    dropException ((connectE env outcome).run.run start) = (connect env outcome).run start := by
  unfold connectE connect
  rw [dropException_bind, dropException_liftM, StateT.run_bind]
  congr 1
  funext ⟨proceed, middle⟩
  cases proceed
  · rfl
  · simp only [if_true, dropException_bind, transportConnectE_refines, StateT.run_bind]
    congr 1
    funext ⟨result, final⟩
    split
    · rfl
    · exact dropException_liftM _ _

theorem connectAsyncE_refines (outcome : ConnectOutcome) (start : GatewayClient Text) :
    dropException ((connectAsyncE env outcome).run.run start) =
      (connectAsync env outcome).run start := by
  unfold connectAsyncE connectAsync
  refine dropException_withLockE (fun start => ?_) start
  simp only [dropException_bind, StateT.run_bind, dropException_get, dropException_ite,
    engine_run_ite, dropException_pure, dropException_liftM, transportConnectE_refines,
    Option.bind_eq_bind]

theorem finishReconnectionE_refines (outcome : ConnectOutcome) (start : GatewayClient Text) :
    dropException ((finishReconnectionE env outcome).run.run start) =
      (finishReconnection env outcome).run start := by
  unfold finishReconnectionE finishReconnection
  have discarded : dropException ((discard (transportConnectE env outcome)).run.run start) =
      (discard (transportConnect env outcome)).run start := by
    change dropException (((fun _ => ()) <$> transportConnectE env outcome).run.run start) =
      ((fun _ => ()) <$> transportConnect env outcome).run start
    rw [dropException_map, transportConnectE_refines, StateT.run_map]
    rfl
  simp only [dropException_bind, StateT.run_bind, discarded, dropException_modify,
    Option.bind_eq_bind]

/-- `setState(Connecting)` from another state, with an `onStateChanged` that makes no call,
changes the state and the log and nothing the transport connect reads. -/
theorem setState_connecting_run (entering : client.state ≠ .connecting)
    (quiet : env.user.reaction (.stateChanged client.state .connecting) = none) :
    ∃ entered, (setState env .connecting).run client = some ((), entered) ∧
      entered.state = .connecting ∧ entered.lockHeld = client.lockHeld ∧
      entered.transport = client.transport ∧
      entered.transportLockHeld = client.transportLockHeld ∧ entered.config = client.config := by
  unfold setState invoke record
  by_cases registered : (UserCallback.stateChanged client.state .connecting).slot.all
      env.user.registered
  · simp [registered, quiet, entering]
  · simp [registered, entering]

/-- From a state that may connect, with both mutexes free and an `onStateChanged` that makes
no call, `connect()` and `connectAsync()` enter `Connecting`, and an exception of the transport
connect leaves both with the mutex released and the transport untouched. -/
theorem connect_paths_throw {outcome : ConnectOutcome} {failure : StoiError}
    (free : client.lockHeld = false) (transportFree : client.transportLockHeld = false)
    (entering : client.state ≠ .connected ∧ client.state ≠ .connecting ∧
      client.state ≠ .authenticating)
    (quiet : env.user.reaction (.stateChanged client.state .connecting) = none)
    (throws : client.transport.connect client.config.gatewayUrl outcome = .error failure) :
    ∃ entered, (connectE env outcome).run.run client = some (.error failure, entered) ∧
      (connectAsyncE env outcome).run.run client = some (.error failure, entered) ∧
      entered.state = .connecting ∧ entered.lockHeld = false ∧
      entered.transport = client.transport := by
  obtain ⟨entered, ran, connecting, -, transport, transportHeld, config⟩ :=
    @setState_connecting_run Text env { client with lockHeld := true } entering.2.1 quiet
  have throwing := @transportConnectE_throw Text env { entered with lockHeld := false } outcome
    failure (transportHeld.trans transportFree) (by simpa [transport, config] using throws)
  have throwingLocked := @transportConnectE_throw Text env entered outcome failure
    (transportHeld.trans transportFree) (by simpa [transport, config] using throws)
  refine ⟨{ entered with lockHeld := false }, ?_, ?_, connecting, rfl, transport⟩
  · simp [connectE, withLock, lock, unlock, free, entering.1, entering.2.1, entering.2.2, ran,
      ExceptT.run_bind, throwing]
  · simp [connectAsyncE, withLockE, lock, unlock, free, entering.1, entering.2.1, entering.2.2,
      ran, ExceptT.run_bind, throwingLocked]

theorem finishReconnectionE_throw {outcome : ConnectOutcome} {failure : StoiError}
    (transportFree : client.transportLockHeld = false)
    (throws : client.transport.connect client.config.gatewayUrl outcome = .error failure) :
    (finishReconnectionE env outcome).run.run client = some (.error failure, client) := by
  have throwing := transportConnectE_throw env transportFree throws
  change ((((fun _ => ()) <$> transportConnectE env outcome) >>= fun _ =>
    modify fun client => { client with poller := .idle }) : ConnectM Text Unit).run.run client = _
  simp [ExceptT.run_bind, ExceptT.run_map, throwing]

/-- In `Connecting`, with the mutex free, `connect()` and `connectAsync()` refuse to start. -/
theorem connect_paths_refuse_while_connecting (connecting : client.state = .connecting)
    (free : client.lockHeld = false) (outcome : ConnectOutcome) :
    (connect env outcome).run client = some ((), client) ∧
      (connectAsync env outcome).run client =
        some (.error (.alreadyConnected, "Already connected or connecting"), client) := by
  cases client
  simp only at connecting free
  subst connecting free
  constructor <;> simp [connect, connectAsync, withLock, lock, unlock]

/-- A port that starts with no digit, sign or white space makes `parseUrl` throw
`invalid_argument`, and nothing catches it.  The transport's `connect` lets it out; the
reconnection leaves with it and nothing changed; `connect()` and `connectAsync()` leave with it
in `Connecting`, with the mutex released and the transport untouched, and from there refuse to
start again.  Read as a thread that does not come back, these paths are the engine's. -/
theorem port_without_digits_escapes_connect (useTls : Bool) (host rest : String)
    (hostPlain : ∀ c ∈ host.data, c ≠ ':' ∧ c ≠ '/')
    (noNumber : ∀ c ∈ rest.data.head?,
      c.isDigit = false ∧ Protocol.isSpace c = false ∧ c ≠ '-' ∧ c ≠ '+')
    (url : client.config.gatewayUrl =
      (if useTls then "wss" else "ws") ++ "://" ++ host ++ ":" ++ rest)
    (idle : client.transport.state ≠ .connected ∧ client.transport.state ≠ .connecting)
    (free : client.lockHeld = false) (transportFree : client.transportLockHeld = false)
    (outcome : ConnectOutcome) :
    parseUrl client.config.gatewayUrl = .error .invalidArgument ∧
      client.transport.connect client.config.gatewayUrl outcome = .error .invalidArgument ∧
      (finishReconnectionE env outcome).run.run client = some (.error .invalidArgument, client) ∧
      (client.state ≠ .connected ∧ client.state ≠ .connecting ∧ client.state ≠ .authenticating →
        env.user.reaction (.stateChanged client.state .connecting) = none →
        ∃ entered, (connectE env outcome).run.run client = some (.error .invalidArgument, entered) ∧
          (connectAsyncE env outcome).run.run client =
            some (.error .invalidArgument, entered) ∧
          entered.state = .connecting ∧ entered.lockHeld = false ∧
          entered.transport = client.transport ∧
          ∀ later, (connect env later).run entered = some ((), entered) ∧
            (connectAsync env later).run entered =
              some (.error (.alreadyConnected, "Already connected or connecting"), entered)) ∧
      dropException ((connectE env outcome).run.run client) = (connect env outcome).run client ∧
      dropException ((connectAsyncE env outcome).run.run client) =
        (connectAsync env outcome).run client ∧
      dropException ((finishReconnectionE env outcome).run.run client) =
        (finishReconnection env outcome).run client := by
  have throwsParse : parseUrl client.config.gatewayUrl = .error .invalidArgument := by
    rw [url]
    exact parseUrl_port_without_digits useTls host rest hostPlain noNumber
  have throws := WebSocketTransport.connect_of_throwing_url idle throwsParse outcome
  refine ⟨throwsParse, throws, finishReconnectionE_throw env transportFree throws,
    fun entering quiet => ?_, connectE_refines env outcome client,
    connectAsyncE_refines env outcome client, finishReconnectionE_refines env outcome client⟩
  obtain ⟨entered, connected, connectedAsync, connecting, released, transport⟩ :=
    connect_paths_throw env free transportFree entering quiet throws
  exact ⟨entered, connected, connectedAsync, connecting, released, transport,
    connect_paths_refuse_while_connecting env connecting released⟩

end GatewayClient

/-- The IPv6 literal URL `ws://[::1]:8080/ws` of a new sensor throws out of every connect path. -/
theorem ipv6_gateway_url_escapes :
    let env := documentEnv passiveUser
    let client : GatewayClient (Except String Json) :=
      .new { sensorConfig with gatewayUrl := "ws://[::1]:8080/ws" }
    parseUrl client.config.gatewayUrl = .error .invalidArgument ∧
      client.transport.connect client.config.gatewayUrl .established = .error .invalidArgument ∧
      (GatewayClient.finishReconnectionE env .established).run.run client =
        some (.error .invalidArgument, client) ∧
      (client.state ≠ .connected ∧ client.state ≠ .connecting ∧ client.state ≠ .authenticating →
        env.user.reaction (.stateChanged client.state .connecting) = none →
        ∃ entered, (GatewayClient.connectE env .established).run.run client =
            some (.error .invalidArgument, entered) ∧
          (GatewayClient.connectAsyncE env .established).run.run client =
            some (.error .invalidArgument, entered) ∧
          entered.state = .connecting ∧ entered.lockHeld = false ∧
          entered.transport = client.transport ∧
          ∀ later, (GatewayClient.connect env later).run entered = some ((), entered) ∧
            (GatewayClient.connectAsync env later).run entered =
              some (.error (.alreadyConnected, "Already connected or connecting"), entered)) ∧
      GatewayClient.dropException ((GatewayClient.connectE env .established).run.run client) =
        (GatewayClient.connect env .established).run client ∧
      GatewayClient.dropException ((GatewayClient.connectAsyncE env .established).run.run client) =
        (GatewayClient.connectAsync env .established).run client ∧
      GatewayClient.dropException
          ((GatewayClient.finishReconnectionE env .established).run.run client) =
        (GatewayClient.finishReconnection env .established).run client :=
  GatewayClient.port_without_digits_escapes_connect _ false "[" ":1]:8080/ws" (by decide)
    (by decide) (by decide) ⟨by decide, by decide⟩ rfl rfl .established

end GatewaySdk
