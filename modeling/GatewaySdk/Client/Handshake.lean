import GatewaySdk.Client.Guarantees

/-!
# The Auth handshake

`doAuthentication` is the only code that starts the handshake of the `AuthManager` and sends
the Auth request, and only `connect()` calls it, once its transport is open.  The transport's
`onConnected` handler only enters `Authenticating`, `connectAsync()` and a reconnection leave the
`AuthManager` as it was, and `handleAuthMessage` hands an Auth reply to the `AuthManager`, which
ignores it unless its handshake was started.  So a session that the transport opens for
`connectAsync()` or for a reconnection stays `Authenticating`: no Auth request goes out on it,
and the gateway's reply is dropped.

An Auth reply that the `AuthManager` handles leaves it holding whatever identity the reply
carries, none when the reply has no `device` object, while the engine enters `Connected`.  A
rejection leaves the engine `Disconnected` with its reconnect policy untouched, and neither the
rejection nor the transport's `onDisconnected` handler resets the `AuthManager`.

The concrete runs are those of a sensor on JSON documents in UTC, whose user code registers
every callback and makes no call back into the client; each follows the general lemma it
instantiates.
-/

namespace GatewaySdk

/-- A sensor's configuration: the defaults of `GatewayConfig`, with the URL of the SDK's
examples, an id and a token. -/
def sensorConfig : GatewayConfig :=
  { gatewayUrl := "wss://localhost:5000/ws", deviceId := "sensor-1", authToken := "secret" }

/-- User code that registers every callback and makes no call back into the client. -/
def passiveUser : UserCode :=
  { registered := fun _ => true, reaction := fun _ => none }

/-- The engine over JSON documents in UTC, running `user`'s code. -/
def documentEnv (user : UserCode) : Environment (Except String Json) :=
  { codec := .documents, utcOffset := 0, user }

/-- The text of an envelope from the gateway. -/
def gatewayFrame (message : Message) : Except String Json :=
  Protocol.serialize .documents message 0

/-- The gateway accepts the sensor's token and describes the device. -/
def authAccepted : Message :=
  { type := .auth
    payload := .object [("success", .bool true),
      ("device", .object [("deviceId", .string "sensor-1"), ("deviceType", .string "sensor")])] }

/-- The gateway accepts the sensor's token without describing the device. -/
def authAcceptedWithoutDevice : Message :=
  { type := .auth, payload := .object [("success", .bool true)] }

/-- The gateway rejects the sensor's token. -/
def authRejected : Message :=
  { type := .auth, payload := .object [("success", .bool false), ("message", .string "bad token")] }

/-- A `connect()` call whose transport opens and whose Auth request the gateway answers with
`reply`: the call wakes on the transport, authenticates, and wakes on the reply. -/
def connectInputs (reply : Message) : List (ClientInput (Except String Json)) :=
  [.connect .established, .resumeConnect 0, .receive (gatewayFrame reply), .resumeConnect 0]

namespace GatewayClient

variable {Text : Type} (env : Environment Text)
  {rel : GatewayClient Text → GatewayClient Text → Prop}

/-- The transport's `onConnected` handler enters `Authenticating` and leaves the handshake of
the `AuthManager` as it was. -/
theorem onTransportConnected_keeps_handshake {client final : GatewayClient Text} {result : Unit}
    (ran : (onTransportConnected env).run client = some (result, final)) :
    final.state = .authenticating ∧ final.auth = client.auth :=
  Prod.mk.inj (setState_run env (keeps_callStable fun state auth _ => (state, auth)) ran)

/-- `connectAsync()` leaves the `AuthManager` as it was: it never starts the handshake. -/
theorem connectAsync_keeps_handshake {outcome : ConnectOutcome}
    {client final : GatewayClient Text} {result : Result Unit}
    (ran : (connectAsync env outcome).run client = some (result, final)) :
    final.auth = client.auth :=
  connectAsync_handlerStable env (keeps_handlerStable fun auth _ => auth) outcome _ _ _ ran

/-- The transport connect at the end of `processReconnection()` leaves the `AuthManager` as it
was: a reconnection never starts the handshake. -/
theorem finishReconnection_keeps_handshake {outcome : ConnectOutcome}
    {client final : GatewayClient Text} {result : Unit}
    (ran : (finishReconnection env outcome).run client = some (result, final)) :
    final.auth = client.auth :=
  finishReconnection_handlerStable env (keeps_handlerStable fun auth _ => auth) outcome _ _ _ ran

/-- The transport's `onDisconnected` handler leaves the `AuthManager`, and the identity it
holds, as they were. -/
theorem onTransportDisconnected_keeps_handshake {code : ErrorCode} {reason : String}
    {client final : GatewayClient Text} {result : Unit}
    (ran : (onTransportDisconnected env code reason).run client = some (result, final)) :
    final.auth = client.auth :=
  onTransportDisconnected_run env (keeps_callStable fun _ auth _ => auth) ran

/-- The three ways through `handleAuthMessage`: an unhandled reply only stores the
`AuthManager`; a handled success also resets the reconnect policy, enters `Connected`, stamps
`connectedAt` and calls `onConnected`; a handled failure enters `Disconnected`. -/
theorem handleAuthMessage_cases {message : Message} {client final : GatewayClient Text}
    {result : Unit} {auth : AuthManager} {handled : Bool}
    (handles : client.auth.handleMessage message = (auth, handled))
    (ran : (handleAuthMessage env message).run client = some (result, final)) :
    (handled = false ∧ final = { client with auth }) ∨
    (handled = true ∧ auth.isAuthenticated = true ∧ ∃ entered,
      (setState env .connected).run { client with auth, policy := client.policy.reset } =
        some ((), entered) ∧
      (invoke env .connected).run
        { entered with stats := { entered.stats with connectedAt := entered.clock.system } } =
        some (result, final)) ∨
    (handled = true ∧ auth.isAuthenticated = false ∧
      (setState env .disconnected).run { client with auth } = some (result, final)) := by
  unfold handleAuthMessage at ran
  simp only [StateT.run_bind, StateT.run_get, pure_bind, handles, StateT.run_modify] at ran
  cases handled
  case false => exact .inl ⟨rfl, (Prod.mk.inj (Option.some.inj ran)).2.symm⟩
  case true =>
    simp only [if_true, StateT.run_bind, StateT.run_get, pure_bind] at ran
    split at ran
    case isTrue authenticated =>
      simp only [StateT.run_bind, StateT.run_modify, pure_bind, Option.bind_eq_bind,
        Option.bind_eq_some] at ran
      obtain ⟨⟨_, entered⟩, setRan, invoked⟩ := ran
      exact .inr (.inl ⟨rfl, authenticated, entered, setRan, invoked⟩)
    case isFalse refused => exact .inr (.inr ⟨rfl, by simpa using refused, ran⟩)

/-- What `handleAuthMessage` does, up to the public calls its callbacks make: store the
`AuthManager` that handled the reply; on a handled success also reset the reconnect policy and
enter `Connected`, and on a handled failure enter `Disconnected`. -/
theorem handleAuthMessage_run (stable : CallStable rel) {message : Message}
    {client final : GatewayClient Text} {result : Unit} {auth : AuthManager} {handled : Bool}
    (handles : client.auth.handleMessage message = (auth, handled))
    (ran : (handleAuthMessage env message).run client = some (result, final)) :
    rel (if !handled then { client with auth }
      else if auth.isAuthenticated then
        { client with auth, policy := client.policy.reset, state := .connected }
      else { client with auth, state := .disconnected }) final := by
  rcases handleAuthMessage_cases env handles ran with
    ⟨rfl, rfl⟩ | ⟨rfl, authenticated, entered, setRan, invoked⟩ | ⟨rfl, refused, setRan⟩
  · exact stable.refl _
  · simp only [authenticated, Bool.not_true, if_true]
    refine stable.trans _ _ _ (setState_run env stable setRan)
      (stable.trans _ _ _ ?_ (invoke_guarantees env stable _ _ _ _ invoked))
    exact stable.frame _ _ rfl rfl rfl rfl rfl rfl rfl
  · simpa only [refused, Bool.not_true, if_false] using setState_run env stable setRan

/-- An Auth reply on a session whose handshake was not started changes nothing. -/
theorem handleAuthMessage_ignored_unless_authenticating {message : Message}
    {client : GatewayClient Text} (unstarted : client.auth.state ≠ .authenticating) :
    (handleAuthMessage env message).run client = some ((), client) := by
  simp [handleAuthMessage, AuthManager.handleMessage, unstarted]

/-- A session that the transport opens while the handshake is not started stays
`Authenticating` through the gateway's Auth reply. -/
theorem opened_session_ignores_auth_reply {message : Message}
    {client opened final : GatewayClient Text} {result : Unit}
    (unstarted : client.auth.state ≠ .authenticating)
    (opening : (onTransportConnected env).run client = some (result, opened))
    (replied : (handleAuthMessage env message).run opened = some ((), final)) :
    final.state = .authenticating := by
  obtain ⟨authenticating, sameAuth⟩ := onTransportConnected_keeps_handshake env opening
  rw [handleAuthMessage_ignored_unless_authenticating env (sameAuth ▸ unstarted)] at replied
  obtain ⟨-, rfl⟩ := Prod.mk.inj (Option.some.inj replied)
  exact authenticating

/-- A `connectAsync()` whose transport opens, and a reconnection after the transport of a
connected sensor closes, both stay `Authenticating` through the gateway's success reply, with
no Auth request sent on their session. -/
theorem opened_session_sends_no_auth_request :
    ((new sensorConfig).run (documentEnv passiveUser)
        [.connectAsync .established, .receive (gatewayFrame authAccepted)]).map
      (fun final => (final.state, final.auth.state, sentMessages final.log)) =
      some (.authenticating, .notAuthenticated, []) ∧
    ((new sensorConfig).run (documentEnv passiveUser)
        (connectInputs authAccepted ++
          [.closed, .poll 0, .reconnect .established, .receive (gatewayFrame authAccepted)])).map
      (fun final => (final.state, final.auth.state, sentMessages final.log)) =
      some (.authenticating, .authenticated, [AuthManager.createAuthRequest sensorConfig]) := by
  rw [run_append_runOr _ (connectInputs authAccepted)]
  all_goals decide

/-- An accepted Auth reply to a started handshake connects the engine with the identity the
reply carries, which is none when its payload has no `device` object. -/
theorem accepted_reply_connects_with_its_device {message : Message}
    {client final : GatewayClient Text} {result : Unit}
    (started : client.auth.state = .authenticating) (isAuth : message.type = .auth)
    (accepted : (AuthManager.processAuthResponse message).success = true)
    (ran : (handleAuthMessage env message).run client = some (result, final)) :
    final.state = .connected ∧
      final.auth.deviceInfo = (AuthManager.processAuthResponse message).deviceInfo := by
  have handles : client.auth.handleMessage message =
      ({ state := .authenticated
         deviceInfo := (AuthManager.processAuthResponse message).deviceInfo }, true) := by
    simp [AuthManager.handleMessage, started, isAuth, accepted]
  have kept := handleAuthMessage_run env
    (keeps_callStable fun state auth _ => (state, auth.deviceInfo)) handles ran
  exact Prod.mk.inj kept

/-- A success reply without a `device` object connects the sensor with no identity, and a
transport loss leaves a connected sensor `Reconnecting` with the identity it had. -/
theorem connected_state_and_identity_diverge :
    ((new sensorConfig).run (documentEnv passiveUser)
        (connectInputs authAcceptedWithoutDevice)).map
      (fun final => (final.state, final.auth.deviceInfo)) = some (.connected, none) ∧
    ((new sensorConfig).run (documentEnv passiveUser) (connectInputs authAccepted ++ [.closed])).map
      (fun final => (final.state, final.auth.deviceInfo)) =
      some (.reconnecting, some { deviceId := "sensor-1", deviceType := "sensor" }) := by
  rw [run_append_runOr _ (connectInputs authAccepted)]
  all_goals decide

/-- A rejected Auth reply to a started handshake leaves the engine `Disconnected` and the
`AuthManager` `Failed`, with the reconnect policy as it was. -/
theorem rejected_reply_keeps_policy {message : Message}
    {client final : GatewayClient Text} {result : Unit}
    (started : client.auth.state = .authenticating) (isAuth : message.type = .auth)
    (rejected : (AuthManager.processAuthResponse message).success = false)
    (ran : (handleAuthMessage env message).run client = some (result, final)) :
    final.state = .disconnected ∧ final.auth.state = .failed ∧
      final.policy = client.policy := by
  have handles :
      client.auth.handleMessage message = ({ client.auth with state := .failed }, true) := by
    simp [AuthManager.handleMessage, started, isAuth, rejected]
  have kept := handleAuthMessage_run env
    (keeps_callStable fun state auth policy => (state, auth.state, policy)) handles ran
  simpa [AuthManager.isAuthenticated, Keeps] using kept

/-- After a rejected token the sensor reports no error; when the gateway then closes the
connection, the sensor reconnects: `onReconnecting` runs and the transport connects again. -/
theorem rejected_session_reconnects :
    ((new sensorConfig).run (documentEnv passiveUser)
        (connectInputs authRejected ++ [.closed, .poll 0, .reconnect .established])).map
      (fun final => (final.state,
        ((invokedCallbacks final.log).map Prod.fst).filter fun callback =>
          callback.slot = some .onError ∨ callback.slot = some .onReconnecting,
        final.log.count .transportConnect)) =
      some (.authenticating, [.reconnecting 1], 2) := by
  rw [run_append_runOr _ (connectInputs authRejected)]
  all_goals decide

end GatewayClient

end GatewaySdk
