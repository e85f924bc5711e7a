import GatewaySdk.Auth
import GatewaySdk.Registry
import GatewaySdk.Reconnect
import GatewaySdk.Transport
import GatewaySdk.Protocol

/-!
# The state of the client engine

`GatewayClient::Impl` of `gateway_client.cpp` as an explicit state: the connection state, the
engine mutex as a holder flag, the `AuthManager`, the `ReconnectPolicy`, the two subscription
maps, the statistics, the heartbeat fields and the transport, together with what the threads
around the engine are doing: the `connect()` calls blocked on a condition variable, and the
polling thread asleep in `processReconnection`.

An operation of the engine runs in `EngineM`, a state monad that can fail: failure is a thread
that never comes back because it locks a mutex it already holds, or that leaves by an exception
(`InvalidUrl.lean` follows `parseUrl`'s).  The user's code is a
parameter: which callbacks are registered, and which public method each callback and handler
calls on the engine.  The log records every callback with the state of the mutex at the call,
every envelope handed to the transport, and every transport connect and disconnect.

`Guarantees rel op` says that every run of an operation relates its start and end states by
`rel`; its rules follow the monad's constructors, so an operation's proof follows its code.
The preorders that the engine's updates respect come in three layers: those of the public
calls, those of the handlers, which also change the connection state, and those of the whole
engine, which also update the `AuthManager` and the reconnect policy.
-/

namespace GatewaySdk

/-- A callback into user code, with the arguments the engine passes: the members of
`ClientCallbacks` and the subscription handlers. -/
inductive UserCallback
  | connected
  | disconnected (code : ErrorCode) (reason : String)
  | reconnecting (attempt : Nat)
  | error (code : ErrorCode) (message : String)
  | stateChanged (old new : ConnectionState)
  | handler (id : SubscriptionId) (message : Message)
  deriving DecidableEq, Repr

/-- The members of `ClientCallbacks`. -/
inductive CallbackSlot
  | onConnected
  | onDisconnected
  | onReconnecting
  | onError
  | onStateChanged
  deriving DecidableEq, Repr

/-- The member of `ClientCallbacks` that holds a callback; a handler is held by its
subscription. -/
def UserCallback.slot : UserCallback → Option CallbackSlot
  | .connected => some .onConnected
  | .disconnected .. => some .onDisconnected
  | .reconnecting _ => some .onReconnecting
  | .error .. => some .onError
  | .stateChanged .. => some .onStateChanged
  | .handler .. => none

/-- A public method of the client that takes the engine mutex, called from user code. -/
inductive ApiCall
  | publish (subject : String) (payload : JsonValue)
  | subscribe (subject : String)
  | unsubscribe (id : SubscriptionId)
  | unsubscribeSubject (subject : String)
  | getSubscriptions
  | getStats
  deriving DecidableEq, Repr

/-- The user's code: which members of `ClientCallbacks` are set, and the public method, if
any, that each callback or handler calls on the client before it returns. -/
structure UserCode where
  registered : CallbackSlot → Bool
  reaction : UserCallback → Option ApiCall

/-- What the engine does that the outside sees. -/
inductive ClientEvent
  /-- A user callback runs; `underLock` says whether the engine mutex is held. -/
  | invoked (callback : UserCallback) (underLock : Bool)
  /-- `transport_->send` of the serialized envelope, and whether the transport queued it. -/
  | sent (message : Message) (accepted : Bool)
  /-- `transport_->connect`. -/
  | transportConnect
  /-- `transport_->disconnect(1000, reason)`. -/
  | transportDisconnect (reason : String)
  /-- `subscribe` returns the id `id` to its caller. -/
  | subscribed (id : SubscriptionId)
  deriving DecidableEq, Repr

/-- The envelopes a log shows handed to the transport. -/
def sentMessages (log : List ClientEvent) : List Message :=
  log.filterMap fun
    | .sent message _ => some message
    | _ => none

/-- The ids a log shows `subscribe` returned, in the order it returned them. -/
def subscribedIds (log : List ClientEvent) : List SubscriptionId :=
  log.filterMap fun
    | .subscribed id => some id
    | _ => none

@[simp] theorem subscribedIds_append (log more : List ClientEvent) :
    subscribedIds (log ++ more) = subscribedIds log ++ subscribedIds more :=
  List.filterMap_append _ _ _

/-- The user callbacks a log shows invoked, each with whether the engine mutex was held. -/
def invokedCallbacks (log : List ClientEvent) : List (UserCallback × Bool) :=
  log.filterMap fun
    | .invoked callback underLock => some (callback, underLock)
    | _ => none

/-- `ClientStats` of `gateway_device.h`, the fields the engine writes.  `reconnectCount` and
`totalConnectedTime` are never written and keep their defaults. -/
structure ClientStats where
  messagesSent : Nat := 0
  messagesReceived : Nat := 0
  bytesSent : Nat := 0
  bytesReceived : Nat := 0
  errorCount : Nat := 0
  connectedAt : Timestamp := 0
  lastActivityAt : Timestamp := 0
  deriving DecidableEq, Repr

/-- The clocks the engine reads: `system_clock` in nanoseconds and `steady_clock` in
milliseconds. -/
structure Clock where
  system : Timestamp := 0
  steady : Int := 0
  deriving DecidableEq, Repr

/-- Where a blocked `connect()` call waits: on `connectCv_` for the transport to open, or in
`doAuthentication` on `authCv_` for the Auth reply. -/
inductive ConnectWait
  | opening
  | authenticating
  deriving DecidableEq, Repr

/-- The polling thread: between calls, or asleep in `processReconnection` for the backoff
delay before its transport connect. -/
inductive PollPhase
  | idle
  | sleeping (delay : Int)
  deriving DecidableEq, Repr

/-- The state of `GatewayClient::Impl`, with the transport it owns and the threads blocked in
it.  `subjectToId` is a `std::map` kept in key order; `lastPingSent` and `lastPongReceived` are
`steady_clock` readings, `0` being `time_point{}`. -/
structure GatewayClient (Text : Type) where
  config : GatewayConfig
  state : ConnectionState := .disconnected
  lockHeld : Bool := false
  transportLockHeld : Bool := false
  auth : AuthManager := {}
  policy : ReconnectPolicy
  subscriptions : SubscriptionMap := .empty
  subjectToId : List (String × SubscriptionId) := []
  nextSubscriptionId : Nat := 1
  stats : ClientStats := {}
  lastPingSent : Int := 0
  lastPongReceived : Int := 0
  missedPongs : Nat := 0
  transport : WebSocketTransport Text := {}
  clock : Clock := {}
  connectCalls : List ConnectWait := []
  poller : PollPhase := .idle
  log : List ClientEvent := []

/-- What the engine runs among: the JSON text layer, the local time zone that `mktime` reads,
and the user's code. -/
structure Environment (Text : Type) where
  codec : JsonCodec Text
  utcOffset : Int
  user : UserCode

/-- An operation of the engine: a state transformer that fails when its thread does not come
back: it deadlocks, or an exception leaves it. -/
abbrev EngineM (Text α : Type) := StateT (GatewayClient Text) Option α

namespace GatewayClient

variable {Text α β : Type}

/-- The constructor `Impl(config, logger)`. -/
def new (config : GatewayConfig) : GatewayClient Text :=
  { config, policy := .ofConfig config.reconnect }

/-- The `std::less<std::string>` insertion into `subjectToId_`. -/
def insertSubject (subject : String) (id : SubscriptionId)
    (subjectToId : List (String × SubscriptionId)) : List (String × SubscriptionId) :=
  mapInsert (fun a b => stringLess a.data b.data) subject id subjectToId

/-- Lock `mutex_`.  The model's threads hold it only inside one operation, so a held mutex is
held by the locking thread itself, which never comes back. -/
def lock : EngineM Text Unit := do
  if (← get).lockHeld then failure
  modify fun client => { client with lockHeld := true }

/-- Unlock `mutex_`. -/
def unlock : EngineM Text Unit :=
  modify fun client => { client with lockHeld := false }

/-- A `lock_guard` on `mutex_` around `body`. -/
def withLock (body : EngineM Text α) : EngineM Text α := do
  lock
  let result ← body
  unlock
  pure result

/-- Append an event to the log. -/
def record (event : ClientEvent) : EngineM Text Unit :=
  modify fun client => { client with log := client.log ++ [event] }

/-- `transport_->send(text)` of the text of `message`: the transport's `send` takes the
transport mutex. -/
def transportSend (text : Text) (message : Message) : EngineM Text (Result Unit) := do
  let client ← get
  if client.transportLockHeld then failure
  let (transport, result) := client.transport.send text
  modify fun client => { client with transport }
  record (.sent message result.toBool)
  pure result

/-- `subscriptions_[id] = sub` and `subjectToId_[subject] = id` for a new subscription to
`subject` under the id `nextSubscriptionId_++`. -/
def register (client : GatewayClient Text) (subject : String) : GatewayClient Text :=
  { client with
    nextSubscriptionId := (client.nextSubscriptionId + 1) % 2 ^ 64
    subscriptions :=
      client.subscriptions.insert client.nextSubscriptionId
        { id := client.nextSubscriptionId, subject }
    subjectToId := insertSubject subject client.nextSubscriptionId client.subjectToId }

/-- `subjectToId_.erase(subject)` and `subscriptions_.erase(id)`. -/
def unregister (client : GatewayClient Text) (id : SubscriptionId) (subject : String) :
    GatewayClient Text :=
  { client with
    subscriptions := client.subscriptions.erase id
    subjectToId := client.subjectToId.filter (·.1 ≠ subject) }

/-- Every run of `op` relates the state it starts from to the state it ends in by `rel`. -/
def Guarantees (rel : GatewayClient Text → GatewayClient Text → Prop) (op : EngineM Text α) :
    Prop :=
  ∀ client result final, op.run client = some (result, final) → rel client final

/-- A preorder on states that the updates of the public calls respect: every update that
keeps the connection state, the handshake, the reconnect policy and the subscription maps,
the registration of a subscription to a valid subject, and the removal of one. -/
structure CallStable (rel : GatewayClient Text → GatewayClient Text → Prop) : Prop where
  refl : ∀ client, rel client client
  trans : ∀ first second third, rel first second → rel second third → rel first third
  frame : ∀ client next, next.config = client.config → next.state = client.state →
    next.auth = client.auth → next.policy = client.policy →
    next.subscriptions = client.subscriptions → next.subjectToId = client.subjectToId →
    next.nextSubscriptionId = client.nextSubscriptionId → rel client next
  register : ∀ client subject, Protocol.isValidSubject subject = true →
    rel client (client.register subject)
  unregister : ∀ client id subject, rel client (client.unregister id subject)

/-- A `CallStable` preorder that also respects every change of the connection state. -/
structure HandlerStable (rel : GatewayClient Text → GatewayClient Text → Prop)
    extends CallStable rel : Prop where
  state : ∀ client state, rel client { client with state }

/-- A `HandlerStable` preorder that also respects every update of the `AuthManager` and the
three updates of the reconnect policy: `reset`, the attempt count of `getNextDelay`, and
`setEnabled(false)`. -/
structure EngineStable (rel : GatewayClient Text → GatewayClient Text → Prop)
    extends HandlerStable rel : Prop where
  auth : ∀ client auth, rel client { client with auth }
  resetPolicy : ∀ client, rel client { client with policy := client.policy.reset }
  countAttempt : ∀ client draw,
    rel client { client with policy := (client.policy.getNextDelay draw).1 }
  disablePolicy : ∀ client, rel client { client with policy := client.policy.setEnabled false }

/-- The preorder of states that agree with their start on `view`. -/
def Keeps {β : Type} (view : GatewayClient Text → β) (client next : GatewayClient Text) :
    Prop :=
  view next = view client

/-- What the public calls never change: anything read from the connection state, the handshake
and the reconnect policy. -/
theorem keeps_callStable {β : Type}
    (view : ConnectionState → AuthManager → ReconnectPolicy → β) :
    CallStable (Keeps fun (client : GatewayClient Text) =>
      view client.state client.auth client.policy) where
  refl _ := rfl
  trans _ _ _ first second := second.trans first
  frame _ _ _ sameState sameAuth samePolicy _ _ _ := by
    simp only [Keeps, sameState, sameAuth, samePolicy]
  register _ _ _ := rfl
  unregister _ _ _ := rfl

/-- What the handlers never change: anything read from the handshake and the reconnect
policy. -/
theorem keeps_handlerStable {β : Type} (view : AuthManager → ReconnectPolicy → β) :
    HandlerStable (Keeps fun (client : GatewayClient Text) => view client.auth client.policy) :=
  { keeps_callStable fun _ auth policy => view auth policy with state := fun _ _ => rfl }

/-- A preorder on states that the updates of the public calls respect with the log in view:
every update that keeps the connection state, the handshake, the reconnect policy, the
subscription maps and the log, the record of an envelope handed to the transport, and the
removal of a subscription.  The registration of one is asked for apart, by `Registers`. -/
structure CallTraced (rel : GatewayClient Text → GatewayClient Text → Prop) : Prop where
  refl : ∀ client, rel client client
  trans : ∀ first second third, rel first second → rel second third → rel first third
  frame : ∀ client next, next.config = client.config → next.state = client.state →
    next.auth = client.auth → next.policy = client.policy →
    next.subscriptions = client.subscriptions → next.subjectToId = client.subjectToId →
    next.nextSubscriptionId = client.nextSubscriptionId → next.log = client.log →
    rel client next
  sent : ∀ client message accepted,
    rel client { client with log := client.log ++ [.sent message accepted] }
  unregister : ∀ client id subject, rel client (client.unregister id subject)

/-- `rel` respects what only an accepted `subscribe` does: the registration of a subscription
to a valid subject, and the record of the id it returns. -/
structure Registers (rel : GatewayClient Text → GatewayClient Text → Prop) : Prop where
  register : ∀ client subject, Protocol.isValidSubject subject = true →
    rel client (client.register subject)
  returned : ∀ client id, rel client { client with log := client.log ++ [.subscribed id] }

/-- A `CallStable` preorder is `CallTraced`: it does not look at the log. -/
theorem CallStable.traced {rel : GatewayClient Text → GatewayClient Text → Prop}
    (stable : CallStable rel) : CallTraced rel where
  refl := stable.refl
  trans := stable.trans
  frame client next config state auth policy subscriptions subjectToId nextId _ :=
    stable.frame client next config state auth policy subscriptions subjectToId nextId
  sent client _ _ := stable.frame client _ rfl rfl rfl rfl rfl rfl rfl
  unregister := stable.unregister

/-- A `CallStable` preorder respects what an accepted `subscribe` does. -/
theorem CallStable.registers {rel : GatewayClient Text → GatewayClient Text → Prop}
    (stable : CallStable rel) : Registers rel where
  register := stable.register
  returned client _ := stable.frame client _ rfl rfl rfl rfl rfl rfl rfl

section Guarantees

variable {rel : GatewayClient Text → GatewayClient Text → Prop}

theorem Guarantees.pure (refl : ∀ client, rel client client) (value : α) :
    Guarantees rel (Pure.pure value : EngineM Text α) := by
  intro client result final ran
  cases ran
  exact refl client

theorem Guarantees.get (refl : ∀ client, rel client client) :
    Guarantees rel (MonadState.get : EngineM Text (GatewayClient Text)) := by
  intro client result final ran
  cases ran
  exact refl client

theorem Guarantees.failure : Guarantees rel (Alternative.failure : EngineM Text α) := by
  intro client result final ran
  cases ran

theorem Guarantees.modify {update : GatewayClient Text → GatewayClient Text}
    (related : ∀ client, rel client (update client)) :
    Guarantees rel (modify update : EngineM Text Unit) := by
  intro client result final ran
  cases ran
  exact related client

theorem Guarantees.bind (trans : ∀ first second third, rel first second → rel second third →
      rel first third) {op : EngineM Text α} {next : α → EngineM Text β}
    (first : Guarantees rel op) (rest : ∀ value, Guarantees rel (next value)) :
    Guarantees rel (op >>= next) := by
  intro client result final ran
  simp only [StateT.run_bind, Option.bind_eq_bind, Option.bind_eq_some] at ran
  obtain ⟨⟨value, middle⟩, firstRan, restRan⟩ := ran
  exact trans _ _ _ (first client value middle firstRan) (rest value middle result final restRan)

theorem Guarantees.ite {condition : Prop} [Decidable condition] {yes no : EngineM Text α}
    (whenYes : condition → Guarantees rel yes) (whenNo : ¬ condition → Guarantees rel no) :
    Guarantees rel (if condition then yes else no) := by
  split
  · exact whenYes ‹_›
  · exact whenNo ‹_›

theorem Guarantees.map {op : EngineM Text α} (f : α → β) (kept : Guarantees rel op) :
    Guarantees rel (f <$> op) := by
  intro client result final ran
  simp only [StateT.run_map, Option.map_eq_map, Option.map_eq_some'] at ran
  obtain ⟨⟨value, middle⟩, ran, same⟩ := ran
  obtain ⟨-, rfl⟩ := Prod.mk.inj same
  exact kept client value middle ran

theorem Guarantees.discard {op : EngineM Text α} (kept : Guarantees rel op) :
    Guarantees rel (discard op) :=
  Guarantees.map _ kept

end Guarantees

section Running

variable {client final : GatewayClient Text}

@[simp] theorem run_failure : (failure : EngineM Text α).run client = none :=
  rfl

/-- The thread's failure, when a library lemma has already taken it out of the state. -/
@[simp] theorem failure_eq_none : (failure : Option α) = none :=
  rfl

theorem run_bind_eq_some {op : EngineM Text α} {next : α → EngineM Text β} {result : β}
    (ran : (op >>= next).run client = some (result, final)) :
    ∃ value middle, op.run client = some (value, middle) ∧
      (next value).run middle = some (result, final) := by
  simp only [StateT.run_bind, Option.bind_eq_bind, Option.bind_eq_some] at ran
  obtain ⟨⟨value, middle⟩, first, rest⟩ := ran
  exact ⟨value, middle, first, rest⟩

theorem discard_run_eq_none {op : EngineM Text α} (stuck : op.run client = none) :
    (discard op).run client = none := by
  show (op.run client).bind _ = none
  rw [stuck]
  rfl

theorem discard_run {op : EngineM Text α} :
    (discard op).run client = (op.run client).map fun outcome => ((), outcome.2) := by
  show (op.run client).bind _ = _
  cases op.run client <;> rfl

/-- A thread that locks the engine mutex it holds never comes back. -/
theorem lock_run_of_held (held : client.lockHeld = true) :
    (lock : EngineM Text Unit).run client = none := by
  simp only [lock, StateT.run_bind, StateT.run_get, pure_bind, held, if_true]
  rfl

theorem withLock_run_of_held (held : client.lockHeld = true) (body : EngineM Text α) :
    (withLock body).run client = none := by
  simp only [withLock, StateT.run_bind, lock_run_of_held held, Option.bind_eq_bind,
    Option.none_bind]

/-- Releasing the mutex of a state where it was free gives that state back. -/
theorem unlocked_of_free (free : client.lockHeld = false) :
    { client with lockHeld := false } = client := by
  cases client
  simp_all

/-- A `lock_guard` section entered with the mutex free runs its body with the mutex held and
releases it after. -/
theorem withLock_run_of_free (free : client.lockHeld = false) (body : EngineM Text α) :
    (withLock body).run client = (body.run { client with lockHeld := true }).map
      fun outcome => (outcome.1, { outcome.2 with lockHeld := false }) := by
  cases ran : body.run { client with lockHeld := true } <;>
    simp [withLock, lock, unlock, free, ran]

/-- A `lock_guard` section runs its body with the mutex held, from a state where it was free. -/
theorem withLock_run {body : EngineM Text α} {result : α}
    (ran : (withLock body).run client = some (result, final)) :
    client.lockHeld = false ∧ ∃ inside, body.run { client with lockHeld := true } =
      some (result, inside) ∧ final = { inside with lockHeld := false } := by
  obtain ⟨_, locked, locking, rest⟩ := run_bind_eq_some ran
  cases held : client.lockHeld
  case true => simp [lock_run_of_held held] at locking
  case false =>
    simp only [lock, StateT.run_bind, StateT.run_get, pure_bind, held, Bool.false_eq_true,
      ite_false, StateT.run_modify] at locking
    obtain ⟨-, rfl⟩ := Prod.mk.inj (Option.some.inj locking)
    obtain ⟨value, inside, bodyRan, unlocking⟩ := run_bind_eq_some rest
    simp only [unlock, StateT.run_bind, StateT.run_modify, pure_bind, StateT.run_pure] at unlocking
    obtain ⟨rfl, rfl⟩ := Prod.mk.inj (Option.some.inj unlocking)
    exact ⟨rfl, inside, bodyRan, rfl⟩

end Running

end GatewayClient

end GatewaySdk
