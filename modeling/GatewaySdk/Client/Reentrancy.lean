import GatewaySdk.Client.Handshake

/-!
# Callbacks under the engine mutex

`mutex_` is a plain `std::mutex`, and every public call of the client locks it first.  The
engine invokes user callbacks with it held on several paths: `handleSubscriptionMessage` calls
the handlers inside its `lock_guard`, and `connect()`, `connectAsync()` and `disconnect()`
change the connection state, and so call `onStateChanged`, under theirs.  A callback that calls
the client back on such a path locks the mutex its own thread holds, and that thread never
comes back: in the model the operation fails.

The demo conveyor controller's command handler publishes an acknowledgement, which is such a
call.
-/

namespace GatewaySdk

/-- User code whose subscription handlers publish an acknowledgement, as the conveyor
controller's command handler does. -/
def commandAcker : UserCode :=
  { registered := fun _ => true
    reaction := fun
      | .handler .. => some (.publish "factory.line1.ack" (.object [("status", .string "ok")]))
      | _ => none }

/-- A command for the first production line. -/
def lineCommand : Message :=
  { type := .message, subject := "factory.line1.cmd"
    payload := .object [("action", .string "start")] }

namespace GatewayClient

variable {Text α : Type} (env : Environment Text) {client : GatewayClient Text}

/-- Every public call locks the engine mutex first, so a thread that already holds it
deadlocks. -/
theorem call_deadlocks_under_lock (held : client.lockHeld = true) (api : ApiCall) :
    (call env api).run client = none := by
  cases api <;> apply discard_run_eq_none
  all_goals first
    | exact withLock_run_of_held held _
    | simp only [unsubscribeSubject, StateT.run_bind, withLock_run_of_held held,
        Option.bind_eq_bind, Option.none_bind]

/-- A registered callback that calls the client back, invoked with the engine mutex held,
deadlocks its thread. -/
theorem invoke_deadlocks_under_lock {callback : UserCallback} {api : ApiCall}
    (held : client.lockHeld = true) (registered : callback.slot.all env.user.registered = true)
    (reacts : env.user.reaction callback = some api) :
    (invoke env callback).run client = none := by
  simp only [invoke, registered, if_true, record, reacts, StateT.run_bind, StateT.run_get,
    StateT.run_modify, pure_bind]
  apply call_deadlocks_under_lock
  exact held

/-- Handlers that make no call back into the client run in dispatch order, each with the
mutex held when its caller holds it. -/
theorem invokeHandlers_run {message : Message} (held : client.lockHeld = true)
    (silent : ∀ id, env.user.reaction (.handler id message) = none) (ids : List SubscriptionId) :
    (invokeHandlers env message ids).run client =
      some ((), { client with
        log := client.log ++ ids.map fun id => .invoked (.handler id message) true }) := by
  induction ids generalizing client with
  | nil => simp [invokeHandlers]
  | cons id rest ih =>
    simp only [invokeHandlers, invoke, UserCallback.slot, Option.all_none, if_true, record, silent,
      StateT.run_bind, StateT.run_get, StateT.run_modify, StateT.run_pure, pure_bind]
    rw [ih]
    · simp [held]
    · exact held

/-- `handleSubscriptionMessage` runs every handler the message is dispatched to with the engine
mutex held. -/
theorem handleSubscriptionMessage_log {message : Message} (free : client.lockHeld = false)
    (silent : ∀ id, env.user.reaction (.handler id message) = none) :
    (handleSubscriptionMessage env message).run client =
      some ((), { client with
        log := client.log ++ (dispatch client.subscriptions message.subject).map fun id =>
          .invoked (.handler id message) true }) := by
  simp only [handleSubscriptionMessage, withLock, lock, free, Bool.false_eq_true, ite_false,
    StateT.run_bind, StateT.run_get, StateT.run_modify, pure_bind]
  rw [invokeHandlers_run env rfl silent]
  simp [unlock, free]

/-- With the mutex held, the handler calls run until the first handler that calls the client
back, and deadlock there. -/
theorem invokeHandlers_run_eq_none_iff {message : Message} (held : client.lockHeld = true)
    (ids : List SubscriptionId) :
    (invokeHandlers env message ids).run client = none ↔
      ∃ id ∈ ids, (env.user.reaction (.handler id message)).isSome = true := by
  induction ids generalizing client with
  | nil => simp [invokeHandlers]
  | cons id rest ih =>
    cases reacts : env.user.reaction (.handler id message) with
    | some api =>
      have stuck : (invoke env (.handler id message)).run client = none :=
        invoke_deadlocks_under_lock env held rfl reacts
      simp only [invokeHandlers, StateT.run_bind, stuck, Option.bind_eq_bind, Option.none_bind,
        true_iff]
      exact ⟨id, List.mem_cons_self _ _, by simp [reacts]⟩
    | none =>
      simp only [invokeHandlers, invoke, UserCallback.slot, Option.all_none, if_true, record,
        reacts, StateT.run_bind, StateT.run_get, StateT.run_modify, StateT.run_pure, pure_bind,
        Option.bind_eq_bind, Option.some_bind]
      rw [@ih { client with log := client.log ++ [.invoked (.handler id message) client.lockHeld] }
        held]
      simp [reacts]

/-- `handleSubscriptionMessage` runs the handlers under its `lock_guard`, so its thread
deadlocks exactly when one of the handlers it dispatches to calls the client back. -/
theorem handleSubscriptionMessage_run_eq_none_iff {message : Message}
    (free : client.lockHeld = false) :
    (handleSubscriptionMessage env message).run client = none ↔
      ∃ id ∈ dispatch client.subscriptions message.subject,
        (env.user.reaction (.handler id message)).isSome = true := by
  rw [← invokeHandlers_run_eq_none_iff env
    (show ({ client with lockHeld := true } : GatewayClient Text).lockHeld = true from rfl)]
  simp only [handleSubscriptionMessage, withLock, lock, free, Bool.false_eq_true, ite_false,
    StateT.run_bind, StateT.run_get, StateT.run_modify, pure_bind, Option.bind_eq_bind]
  cases (invokeHandlers env message (dispatch client.subscriptions message.subject)).run
    { client with lockHeld := true } <;> simp [unlock]

/-- When the first handler `handleSubscriptionMessage` dispatches to calls the client back,
the polling thread deadlocks. -/
theorem handleSubscriptionMessage_deadlocks {message : Message} {id : SubscriptionId}
    {rest : List SubscriptionId} {api : ApiCall} (free : client.lockHeld = false)
    (dispatched : dispatch client.subscriptions message.subject = id :: rest)
    (reacts : env.user.reaction (.handler id message) = some api) :
    (handleSubscriptionMessage env message).run client = none :=
  (handleSubscriptionMessage_run_eq_none_iff env free).mpr
    ⟨id, by simp [dispatched], by simp [reacts]⟩

/-- A connected sensor that subscribes to its line's commands runs the handler of a command
with the engine mutex held, as it ran `onStateChanged` inside `connect()`; with the conveyor's
handler, which publishes an acknowledgement, the polling thread deadlocks on the command. -/
theorem handler_publish_deadlocks :
    ((new sensorConfig).run (documentEnv passiveUser)
        (connectInputs authAccepted ++
          [.call (.subscribe "factory.line1.cmd"), .receive (gatewayFrame lineCommand)])).map
      (fun final => ((invokedCallbacks final.log).head?, (invokedCallbacks final.log).getLast?)) =
      some (some (.stateChanged .disconnected .connecting, true),
        some (.handler 1 { lineCommand with timestamp := some 0 }, true)) ∧
    (new sensorConfig).run (documentEnv commandAcker)
        (connectInputs authAccepted ++
          [.call (.subscribe "factory.line1.cmd"), .receive (gatewayFrame lineCommand)]) =
      none := by
  rw [run_append_runOr _ (connectInputs authAccepted),
    run_append_runOr _ (connectInputs authAccepted)]
  · exact ⟨by decide, Option.isNone_iff_eq_none.mp (by decide)⟩
  all_goals decide

end GatewayClient

end GatewaySdk
