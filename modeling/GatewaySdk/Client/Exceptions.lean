import GatewaySdk.Client.Reentrancy

/-!
# Exceptions thrown by subscription handlers

A subscription handler is user code, and it may throw.  `handleSubscriptionMessage` calls the
matching handlers in id order inside its `lock_guard` and has no `try`/`catch`, nor has
`handleMessage`, the transport's message callback or `poll()`, which runs it from
`lws_service`.  So an exception leaves the loop at the handler that threw: the handlers after
it are not called, the `lock_guard` releases the mutex as the exception unwinds, and the
exception escapes `handleMessage` and `poll()` to the thread that polls.

The engine of `Engine.lean` is the one whose handlers all return.  Here a handler's exception is
an `ExceptT` layer over the engine's monad, so the state when the exception leaves an operation
is the state the handlers before it left.  When no handler throws, the operations with
exceptions are those of the engine.
-/

namespace GatewaySdk

/-- A C++ exception thrown out of the subscription handler of `id` on `message`. -/
structure HandlerThrow where
  id : SubscriptionId
  message : Message
  deriving DecidableEq, Repr

/-- An operation of the engine through which a handler's exception may unwind: it ends
normally, or with the exception in the state the exception left it in. -/
abbrev UnwindM (Text α : Type) := ExceptT HandlerThrow (EngineM Text) α

namespace GatewayClient

variable {Text : Type} (env : Environment Text) (throws : SubscriptionId → Message → Bool)

/-- A handler call: the handler runs with its public call, then returns or throws. -/
def invokeHandlerE (message : Message) (id : SubscriptionId) : UnwindM Text Unit := do
  invoke env (.handler id message)
  if throws id message then throw ⟨id, message⟩

/-- The handler loop of `handleSubscriptionMessage`, which an exception leaves at the handler
that threw. -/
def invokeHandlersE (message : Message) : List SubscriptionId → UnwindM Text Unit
  | [] => pure ()
  | id :: rest => do
    invokeHandlerE env throws message id
    invokeHandlersE message rest

/-- `handleSubscriptionMessage`: the `lock_guard` unlocks the mutex as an exception unwinds
through it, and nothing catches the exception. -/
def handleSubscriptionMessageE (message : Message) : UnwindM Text Unit := ExceptT.mk do
  lock
  let outcome ← (invokeHandlersE env throws message
    (dispatch (← get).subscriptions message.subject)).run
  unlock
  pure outcome

/-- `handleMessage(json)`, through which a handler's exception unwinds. -/
def handleMessageE (text : Text) : UnwindM Text Unit := do
  match Protocol.deserialize env.codec env.utcOffset text with
  | .error _ => pure ()
  | .ok message =>
    modify fun client => { client with
      stats := { client.stats with
        messagesReceived := (client.stats.messagesReceived + 1) % 2 ^ 64
        bytesReceived := (client.stats.bytesReceived + env.codec.size text) % 2 ^ 64
        lastActivityAt := client.clock.system } }
    if message.type = .auth then handleAuthMessage env message
    else if message.type = .message then handleSubscriptionMessageE env throws message
    else if message.type = .error then handleErrorMessage env message
    else if message.type = .pong then (handlePongMessage : EngineM Text Unit)
    else pure ()

variable {client : GatewayClient Text}

@[simp] theorem run_liftM {α : Type} (op : EngineM Text α) :
    (liftM op : UnwindM Text α).run = Except.ok <$> op :=
  rfl

@[simp] theorem run_modify (update : GatewayClient Text → GatewayClient Text) :
    (modify update : UnwindM Text Unit).run = Except.ok <$> (modify update : EngineM Text Unit) :=
  rfl

@[simp] theorem run_get :
    (get : UnwindM Text (GatewayClient Text)).run =
      Except.ok <$> (get : EngineM Text (GatewayClient Text)) :=
  rfl

/-- When the handlers of a loop return, the loop with exceptions is the engine's. -/
theorem invokeHandlersE_of_returning {message : Message} {ids : List SubscriptionId}
    (returning : ∀ id ∈ ids, throws id message = false) :
    (invokeHandlersE env throws message ids).run =
      Except.ok <$> invokeHandlers env message ids := by
  induction ids with
  | nil => rfl
  | cons id rest ih =>
    have returns : throws id message = false := returning id (List.mem_cons_self _ _)
    simp [invokeHandlersE, invokeHandlerE, invokeHandlers, returns, ExceptT.run_bind,
      ih fun other member => returning other (List.mem_cons_of_mem _ member)]

/-- When no handler throws, `handleMessage` with exceptions is the engine's. -/
theorem handleMessageE_of_returning (returning : ∀ id message, throws id message = false)
    (text : Text) :
    (handleMessageE env throws text).run = Except.ok <$> handleMessage env text := by
  unfold handleMessageE handleMessage handleSubscriptionMessageE handleSubscriptionMessage
  cases Protocol.deserialize env.codec env.utcOffset text with
  | error => rfl
  | ok message =>
    dsimp only
    split_ifs <;> simp [withLock, ExceptT.run_bind,
      invokeHandlersE_of_returning env throws fun id _ => returning id message]

/-- With the mutex held and handlers that make no call, the loop calls the handlers before the
first one that throws, then that one, and leaves with its exception. -/
theorem invokeHandlersE_throw {message : Message} {before after : List SubscriptionId}
    {id : SubscriptionId} (held : client.lockHeld = true)
    (silent : ∀ id, env.user.reaction (.handler id message) = none)
    (returning : ∀ other ∈ before, throws other message = false)
    (throwing : throws id message = true) :
    (invokeHandlersE env throws message (before ++ id :: after)).run.run client =
      some (.error ⟨id, message⟩, { client with
        log := client.log ++
          (before ++ [id]).map fun other => .invoked (.handler other message) true }) := by
  induction before generalizing client with
  | nil =>
    simp [invokeHandlersE, invokeHandlerE, invoke, UserCallback.slot, record, silent, held,
      throwing, ExceptT.run_bind, ExceptT.run_lift]
  | cons other rest ih =>
    have returns : throws other message = false := returning other (List.mem_cons_self _ _)
    simp [invokeHandlersE, invokeHandlerE, invoke, UserCallback.slot, record, silent, held,
      returns, ExceptT.run_bind, ExceptT.run_lift]
    rw [ih rfl fun other member => returning other (List.mem_cons_of_mem _ member)]
    simp

/-- `handleSubscriptionMessage` runs the handler loop with the mutex held, and releases it
whether the loop returns or throws. -/
theorem handleSubscriptionMessageE_run {message : Message} (free : client.lockHeld = false) :
    (handleSubscriptionMessageE env throws message).run.run client =
      ((invokeHandlersE env throws message (dispatch client.subscriptions message.subject)).run.run
        { client with lockHeld := true }).map fun outcome =>
          (outcome.1, { outcome.2 with lockHeld := false }) := by
  simp [handleSubscriptionMessageE, lock, unlock, free, Option.map_eq_bind, Function.comp_def]

/-- `handleMessage` counts a frame that reads as a subscription message and hands it to
`handleSubscriptionMessage`. -/
theorem handleMessageE_of_message {text : Text} {message : Message}
    (reads : Protocol.deserialize env.codec env.utcOffset text = .ok message)
    (isMessage : message.type = .message) :
    (handleMessageE env throws text).run.run client =
      (handleSubscriptionMessageE env throws message).run.run { client with
        stats := { client.stats with
          messagesReceived := (client.stats.messagesReceived + 1) % 2 ^ 64
          bytesReceived := (client.stats.bytesReceived + env.codec.size text) % 2 ^ 64
          lastActivityAt := client.clock.system } } := by
  have notAuth : MessageType.message ≠ .auth := by decide
  simp [handleMessageE, reads, isMessage, notAuth, ExceptT.run_bind]

/-- A message dispatched to handlers that make no call, one of which throws: `handleMessage`
calls the handlers before it and it, releases the mutex, and lets the exception escape; the
handlers after it are never called. -/
theorem handleMessageE_throw {text : Text} {message : Message}
    {before after : List SubscriptionId} {id : SubscriptionId} (free : client.lockHeld = false)
    (reads : Protocol.deserialize env.codec env.utcOffset text = .ok message)
    (isMessage : message.type = .message)
    (dispatched : dispatch client.subscriptions message.subject = before ++ id :: after)
    (silent : ∀ id, env.user.reaction (.handler id message) = none)
    (returning : ∀ other ∈ before, throws other message = false)
    (throwing : throws id message = true) :
    ∃ final, (handleMessageE env throws text).run.run client =
        some (.error ⟨id, message⟩, final) ∧
      final.lockHeld = false ∧
      final.log = client.log ++
        (before ++ [id]).map fun other => .invoked (.handler other message) true := by
  rw [handleMessageE_of_message env throws reads isMessage,
    handleSubscriptionMessageE_run env throws ?free, dispatched,
    invokeHandlersE_throw env throws ?held silent returning throwing]
  case free => exact free
  case held => rfl
  exact ⟨_, rfl, rfl, rfl⟩

/-- A connected sensor subscribed to all the subjects of its line, as id 1, and to its line's
commands, as id 2. -/
def lineWatcher : GatewayClient (Except String Json) :=
  runOr (documentEnv passiveUser)
    (runOr (documentEnv passiveUser) (new sensorConfig) (connectInputs authAccepted))
    [.call (.subscribe "factory.line1.>"), .call (.subscribe "factory.line1.cmd")]

/-- The handler of subscription 1 throws; the others return. -/
def firstHandlerThrows (id : SubscriptionId) (_ : Message) : Bool :=
  id == 1

/-- What a handler's exception does to `handleMessage`.  When no handler throws, it is the
engine's `handleMessage`.  When handlers that make no call are dispatched a message and one of
them throws after the ones before it return, `handleMessage` calls those and the thrower, releases
the mutex, and lets the exception escape: no handler after it is called. -/
theorem handler_exceptions_escape_handleMessage {text : Text} {message : Message}
    (reads : Protocol.deserialize env.codec env.utcOffset text = .ok message)
    (isMessage : message.type = .message)
    (silent : ∀ id, env.user.reaction (.handler id message) = none) :
    ((∀ id message, throws id message = false) →
      (handleMessageE env throws text).run = Except.ok <$> handleMessage env text) ∧
    ∀ (client : GatewayClient Text) before id after, client.lockHeld = false →
      dispatch client.subscriptions message.subject = before ++ id :: after →
      (∀ other ∈ before, throws other message = false) → throws id message = true →
      ∃ final, (handleMessageE env throws text).run.run client =
          some (.error ⟨id, message⟩, final) ∧
        final.lockHeld = false ∧
        final.log = client.log ++
          (before ++ [id]).map fun other => .invoked (.handler other message) true :=
  ⟨fun returning => handleMessageE_of_returning env throws returning text,
    fun _ _ _ _ free dispatched returning throwing =>
      handleMessageE_throw env throws free reads isMessage dispatched silent returning throwing⟩

/-- The sensor's command, stamped by the gateway at time `0`, reaches its two handlers, and the
first throws. -/
theorem line_command_exception_escapes :
    let stamped : Message := { lineCommand with timestamp := some 0 }
    ∃ final, (handleMessageE (documentEnv passiveUser) firstHandlerThrows
        (gatewayFrame lineCommand)).run.run lineWatcher = some (.error ⟨1, stamped⟩, final) ∧
      final.lockHeld = false ∧
      final.log = lineWatcher.log ++
        ([] ++ [1]).map fun other => .invoked (.handler other stamped) true :=
  (handler_exceptions_escape_handleMessage (documentEnv passiveUser) firstHandlerThrows
    (show Protocol.deserialize (documentEnv passiveUser).codec (documentEnv passiveUser).utcOffset
      (gatewayFrame lineCommand) = .ok { lineCommand with timestamp := some 0 } from rfl)
    rfl fun _ => rfl).2 lineWatcher [] 1 [2] (by decide) (by decide) nofun rfl

/-- A command reaches both handlers of the sensor, and the first one throws: the exception
leaves `handleMessage` and the second handler is never called, where with the first handler
returning both are called and nothing escapes. -/
theorem handler_exception_skips_later_handlers :
    ((handleMessageE (documentEnv passiveUser) firstHandlerThrows
        (gatewayFrame lineCommand)).run.run lineWatcher).map
      (fun outcome => (outcome.1.toBool, outcome.2.lockHeld,
        (invokedCallbacks outcome.2.log).filterMap fun
          | (.handler id _, _) => some id
          | _ => none)) = some (false, false, [1]) ∧
    ((handleMessageE (documentEnv passiveUser) (fun _ _ => false)
        (gatewayFrame lineCommand)).run.run lineWatcher).map
      (fun outcome => (outcome.1.toBool, outcome.2.lockHeld,
        (invokedCallbacks outcome.2.log).filterMap fun
          | (.handler id _, _) => some id
          | _ => none)) = some (true, false, [1, 2]) := by
  decide

end GatewayClient

end GatewaySdk
