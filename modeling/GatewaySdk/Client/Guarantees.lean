import GatewaySdk.Client.Engine

/-!
# What every operation of the engine guarantees

Each operation's proof walks its code with the rules of `Guarantees`: a `bind`, a branch, a
read, a `modify` whose update the preorder respects, or an operation proved before.  The
public calls, and the user callbacks that make them, guarantee every `CallStable` preorder;
the state changes and the handlers every `HandlerStable` one; every input of the engine
every `EngineStable` one, and so does every run.  A connection attempt reports no inbound
frame, so a transport connect, `connectAsync()` and the end of a reconnection guarantee every
`HandlerStable` preorder: none of them touches the `AuthManager` or the reconnect policy.

The same walk with the log in view gives the `Traced` layers: their frame keeps the log, and
each record the engine appends is a rule of its own, so a preorder can count what the log
shows.  The callbacks are a rule of the preorder (`HandlerTraced.invokes`), since what a
callback may do depends on which one it is, and so is `processReconnection`, the one place
that counts an attempt.  Every `Stable` preorder is `Traced`, and the guarantees of whole
inputs and runs above are the `Traced` ones read back.

The preorder `policyStaysDisabled` is `EngineStable`: once the reconnect policy is disabled it
stays disabled for the rest of every run.  `disconnect()` disables it and no code path enables
it again.
-/

namespace GatewaySdk

namespace GatewayClient

variable {Text : Type} (env : Environment Text)
  {rel : GatewayClient Text → GatewayClient Text → Prop}

/-- An operation composed, by `bind`, `if` and `discard`, of reads, `pure`, `failure`, updates
that `rel` respects, and operations that guarantee `rel`: the shape that every proof of
`Guarantees` below walks, the rules of `Guarantees` as constructors. -/
inductive Composed (rel : GatewayClient Text → GatewayClient Text → Prop) :
    {α : Type} → EngineM Text α → Prop
  | pure {α : Type} (value : α) : Composed rel (Pure.pure value)
  | get : Composed rel MonadState.get
  | failure {α : Type} : Composed rel (Alternative.failure : EngineM Text α)
  | modify {update : GatewayClient Text → GatewayClient Text}
      (related : ∀ client, rel client (update client)) : Composed rel (modify update)
  | bind {α β : Type} {op : EngineM Text α} {next : α → EngineM Text β}
      (first : Composed rel op) (rest : ∀ value, Composed rel (next value)) :
      Composed rel (op >>= next)
  | ite {α : Type} {condition : Prop} [Decidable condition] {yes no : EngineM Text α}
      (whenYes : condition → Composed rel yes) (whenNo : ¬ condition → Composed rel no) :
      Composed rel (if condition then yes else no)
  | discard {α : Type} {op : EngineM Text α} (kept : Composed rel op) :
      Composed rel (discard op)
  | guaranteed {α : Type} {op : EngineM Text α} (kept : Guarantees rel op) : Composed rel op

/-- A composed operation guarantees every preorder its parts respect. -/
theorem Composed.guarantees (refl : ∀ client, rel client client)
    (trans : ∀ first second third, rel first second → rel second third → rel first third)
    {α : Type} {op : EngineM Text α} (composed : Composed rel op) : Guarantees rel op := by
  induction composed with
  | pure value => exact Guarantees.pure refl value
  | get => exact Guarantees.get refl
  | failure => exact Guarantees.failure
  | modify related => exact Guarantees.modify related
  | bind _ _ first rest => exact Guarantees.bind trans first rest
  | ite _ _ whenYes whenNo => exact Guarantees.ite whenYes whenNo
  | discard _ kept => exact Guarantees.discard kept
  | guaranteed kept => exact kept

theorem transportSend_traced (traced : CallTraced rel) (text : Text) (message : Message) :
    Guarantees rel (transportSend text message) := by
  unfold transportSend record
  refine Composed.guarantees traced.refl traced.trans ?_
  repeat' first | split | with_reducible constructor | (with_reducible intro) | dsimp only
  all_goals with_reducible first
    | exact traced.frame _ _ rfl rfl rfl rfl rfl rfl rfl rfl
    | exact traced.sent _ _ _

/-- The public calls other than `subscribe` register no subscription. -/
theorem call_traced_of_not_subscribe (traced : CallTraced rel) {api : ApiCall}
    (other : ∀ subject, api ≠ .subscribe subject) : Guarantees rel (call env api) := by
  cases api
  case subscribe subject => exact absurd rfl (other subject)
  all_goals
    dsimp only [call, unsubscribeSubject, publish, unsubscribe, getSubscriptions, getStats,
      withLock, lock, unlock]
    refine Composed.guarantees traced.refl traced.trans ?_
    repeat' first | split | with_reducible constructor | (with_reducible intro) | dsimp only
  all_goals with_reducible first
    | exact traced.frame _ _ rfl rfl rfl rfl rfl rfl rfl rfl
    | exact traced.unregister _ _ _
    | exact transportSend_traced traced _ _

theorem subscribe_traced (traced : CallTraced rel) (registers : Registers rel) (subject : String) :
    Guarantees rel (subscribe env subject) := by
  dsimp only [subscribe, record, withLock, lock, unlock]
  refine Composed.guarantees traced.refl traced.trans ?_
  repeat' first | split | with_reducible constructor | (with_reducible intro) | dsimp only
  all_goals with_reducible first
    | exact traced.frame _ _ rfl rfl rfl rfl rfl rfl rfl rfl
    | exact registers.register _ _ (by simp_all)
    | exact registers.returned _ _
    | exact traced.unregister _ _ _
    | exact transportSend_traced traced _ _

theorem call_traced (traced : CallTraced rel) (registers : Registers rel) (api : ApiCall) :
    Guarantees rel (call env api) := by
  cases api
  case subscribe subject => exact Guarantees.discard (subscribe_traced env traced registers subject)
  all_goals exact call_traced_of_not_subscribe env traced fun _ => nofun

/-- A callback is its record in the log and the public call it makes. -/
theorem invoke_traced (traced : CallTraced rel) (registers : Registers rel)
    {callback : UserCallback}
    (invoked : ∀ client underLock,
      rel client { client with log := client.log ++ [.invoked callback underLock] }) :
    Guarantees rel (invoke env callback) := by
  unfold invoke record
  refine Composed.guarantees traced.refl traced.trans ?_
  repeat' first | split | with_reducible constructor | (with_reducible intro) | dsimp only
  all_goals with_reducible first
    | exact invoked _ _
    | exact call_traced env traced registers _

/-- The ways through a callback: unset, it does nothing; set, it is recorded, then makes its
public call when it has one. -/
theorem invoke_cases {callback : UserCallback} {client final : GatewayClient Text} {result : Unit}
    (ran : (invoke env callback).run client = some (result, final)) :
    (callback.slot.all env.user.registered = false ∧ final = client) ∨
    (callback.slot.all env.user.registered = true ∧ env.user.reaction callback = none ∧
      final = { client with log := client.log ++ [.invoked callback client.lockHeld] }) ∨
    (callback.slot.all env.user.registered = true ∧ ∃ api, env.user.reaction callback = some api ∧
      (call env api).run { client with log := client.log ++ [.invoked callback client.lockHeld] } =
        some (result, final)) := by
  unfold invoke at ran
  split at ran
  case isFalse unset =>
    exact .inl ⟨by simpa using unset, (Prod.mk.inj (Option.some.inj ran)).2.symm⟩
  case isTrue set =>
    simp only [record, StateT.run_bind, StateT.run_get, StateT.run_modify, pure_bind] at ran
    split at ran
    case h_1 api reacts => exact .inr (.inr ⟨set, api, reacts, ran⟩)
    case h_2 reacts => exact .inr (.inl ⟨set, reacts, (Prod.mk.inj (Option.some.inj ran)).2.symm⟩)

theorem resubscribeEach_traced (traced : CallTraced rel)
    (entries : List (SubscriptionId × Subscription)) :
    Guarantees rel (resubscribeEach env entries) := by
  induction entries with
  | nil => exact Guarantees.pure traced.refl _
  | cons entry rest ih =>
    unfold resubscribeEach
    refine Composed.guarantees traced.refl traced.trans ?_
    repeat' first | split | with_reducible constructor | (with_reducible intro) | dsimp only
    all_goals with_reducible first
      | exact transportSend_traced traced _ _
      | exact ih

theorem resubscribeAll_traced (traced : CallTraced rel) :
    Guarantees rel (resubscribeAll env) := by
  dsimp only [resubscribeAll, withLock, lock, unlock]
  refine Composed.guarantees traced.refl traced.trans ?_
  repeat' first | split | with_reducible constructor | (with_reducible intro) | dsimp only
  all_goals with_reducible first
    | exact traced.frame _ _ rfl rfl rfl rfl rfl rfl rfl rfl
    | exact resubscribeEach_traced env traced _

theorem call_guarantees (stable : CallStable rel) (api : ApiCall) :
    Guarantees rel (call env api) :=
  call_traced env stable.traced stable.registers api

theorem invoke_guarantees (stable : CallStable rel) (callback : UserCallback) :
    Guarantees rel (invoke env callback) :=
  invoke_traced env stable.traced stable.registers fun client _ =>
    stable.frame client _ rfl rfl rfl rfl rfl rfl rfl

theorem resubscribeAll_guarantees (stable : CallStable rel) :
    Guarantees rel (resubscribeAll env) :=
  resubscribeAll_traced env stable.traced

/-- `setState(new)` stores `new`; what follows, `onStateChanged` and `resubscribeAll`, only
makes public calls. -/
theorem setState_run (stable : CallStable rel) {new : ConnectionState}
    {client final : GatewayClient Text} {result : Unit}
    (ran : (setState env new).run client = some (result, final)) :
    rel { client with state := new } final := by
  unfold setState at ran
  simp only [StateT.run_bind, StateT.run_get, StateT.run_modify, pure_bind] at ran
  refine (?_ : Guarantees rel _) _ _ _ ran
  exact Guarantees.ite
    (fun _ => Guarantees.bind stable.trans (invoke_guarantees env stable _) fun _ =>
      Guarantees.ite (fun _ => resubscribeAll_guarantees env stable)
        fun _ => Guarantees.pure stable.refl _)
    fun _ => Guarantees.pure stable.refl _

theorem setState_guarantees (stable : HandlerStable rel) (new : ConnectionState) :
    Guarantees rel (setState env new) := fun client _ _ ran =>
  stable.trans _ _ _ (stable.state client new) (setState_run env stable.toCallStable ran)

/-- After `setState(new)` the connection state is `new`, whatever the callbacks do. -/
theorem setState_state {new : ConnectionState} {client final : GatewayClient Text} {result : Unit}
    (ran : (setState env new).run client = some (result, final)) : final.state = new :=
  setState_run env (keeps_callStable fun state _ _ => state) ran

/-- The transport's `onDisconnected` handler enters `Reconnecting` when the policy allows an
attempt and `Disconnected` otherwise; the callbacks after that only make public calls. -/
theorem onTransportDisconnected_run (stable : CallStable rel) {code : ErrorCode}
    {reason : String} {client final : GatewayClient Text} {result : Unit}
    (ran : (onTransportDisconnected env code reason).run client = some (result, final)) :
    rel { client with
      state := if client.policy.enabled && client.policy.shouldReconnect then .reconnecting
        else .disconnected } final := by
  unfold onTransportDisconnected at ran
  simp only [StateT.run_bind, StateT.run_get, pure_bind] at ran
  split at ran
  case isTrue allowed =>
    simpa only [allowed, if_true] using setState_run env stable ran
  case isFalse refused =>
    simp only [StateT.run_bind, Option.bind_eq_bind, Option.bind_eq_some] at ran
    obtain ⟨⟨_, middle⟩, entered, invoked⟩ := ran
    simpa only [refused, if_false] using
      stable.trans _ _ _ (setState_run env stable entered)
        (invoke_guarantees env stable _ _ _ _ invoked)

/-- The transport-loss handler changes only what a state change may change. -/
theorem onTransportDisconnected_guarantees (stable : HandlerStable rel) (code : ErrorCode)
    (reason : String) : Guarantees rel (onTransportDisconnected env code reason) :=
  fun client _ _ ran =>
    stable.trans _ _ _ (stable.state client _)
      (onTransportDisconnected_run env stable.toCallStable ran)

/-- A `CallTraced` preorder that also respects every change of the connection state and every
callback, with the public call it makes, other than the two that mark a reconnect burst:
`onReconnecting`, and `onConnected`, which only the end of an Auth success calls. -/
structure HandlerTraced (env : Environment Text)
    (rel : GatewayClient Text → GatewayClient Text → Prop) extends CallTraced rel : Prop where
  state : ∀ client state, rel client { client with state }
  invokes : ∀ callback, callback.slot ≠ some .onReconnecting →
    callback.slot ≠ some .onConnected → Guarantees rel (invoke env callback)

/-- A `HandlerTraced` preorder that also respects every update of the `AuthManager`, the
disabling of the reconnect policy, the records of transport connects and disconnects, and as
wholes `handleAuthMessage`, which resets the policy, and `processReconnection`, which counts an
attempt. -/
structure EngineTraced (env : Environment Text)
    (rel : GatewayClient Text → GatewayClient Text → Prop)
    extends HandlerTraced env rel : Prop where
  auth : ∀ client auth, rel client { client with auth }
  disablePolicy : ∀ client, rel client { client with policy := client.policy.setEnabled false }
  connectRecord : ∀ client, rel client { client with log := client.log ++ [.transportConnect] }
  disconnectRecord : ∀ client reason,
    rel client { client with log := client.log ++ [.transportDisconnect reason] }
  authReplies : ∀ message, Guarantees rel (handleAuthMessage env message)
  reconnects : ∀ draw, Guarantees rel (processReconnection env draw)

theorem setState_traced (traced : HandlerTraced env rel) (new : ConnectionState) :
    Guarantees rel (setState env new) := by
  unfold setState
  refine Composed.guarantees traced.refl traced.trans ?_
  repeat' first | split | with_reducible constructor | (with_reducible intro) | dsimp only
  all_goals with_reducible first
    | exact traced.state _ _
    | exact traced.invokes _ (by simp [UserCallback.slot]) (by simp [UserCallback.slot])
    | exact resubscribeAll_traced env traced.toCallTraced

theorem invokeHandlers_traced (traced : HandlerTraced env rel) (message : Message)
    (ids : List SubscriptionId) : Guarantees rel (invokeHandlers env message ids) := by
  induction ids with
  | nil => exact Guarantees.pure traced.refl _
  | cons id rest ih =>
    exact Guarantees.bind traced.trans
      (traced.invokes _ nofun nofun) fun _ => ih

theorem onTransportDisconnected_traced (traced : HandlerTraced env rel) (code : ErrorCode)
    (reason : String) : Guarantees rel (onTransportDisconnected env code reason) := by
  unfold onTransportDisconnected
  refine Composed.guarantees traced.refl traced.trans ?_
  repeat' first | split | with_reducible constructor | (with_reducible intro) | dsimp only
  all_goals with_reducible first
    | exact setState_traced env traced _
    | exact traced.invokes _ (by simp [UserCallback.slot]) (by simp [UserCallback.slot])

/-- The Auth handler guarantees every `HandlerTraced` preorder that respects the updates of the
`AuthManager` and the reset of the reconnect policy, and that `onConnected` guarantees. -/
theorem handleAuthMessage_traced (traced : HandlerTraced env rel)
    (auth : ∀ client auth, rel client { client with auth })
    (resetPolicy : ∀ client, rel client { client with policy := client.policy.reset })
    (connected : Guarantees rel (invoke env .connected)) (message : Message) :
    Guarantees rel (handleAuthMessage env message) := by
  unfold handleAuthMessage
  refine Composed.guarantees traced.refl traced.trans ?_
  repeat' first | split | with_reducible constructor | (with_reducible intro) | dsimp only
  all_goals with_reducible first
    | exact traced.frame _ _ rfl rfl rfl rfl rfl rfl rfl rfl
    | exact auth _ _
    | exact resetPolicy _
    | exact setState_traced env traced _
    | exact connected

/-- `processReconnection` guarantees every `HandlerTraced` preorder that respects the count of an
attempt and that `onReconnecting` guarantees. -/
theorem processReconnection_traced (traced : HandlerTraced env rel)
    (countAttempt : ∀ client draw,
      rel client { client with policy := (client.policy.getNextDelay draw).1 })
    (reconnecting : ∀ attempt, Guarantees rel (invoke env (.reconnecting attempt))) (draw : ℚ) :
    Guarantees rel (processReconnection env draw) := by
  unfold processReconnection
  refine Composed.guarantees traced.refl traced.trans ?_
  repeat' first | split | with_reducible constructor | (with_reducible intro) | dsimp only
  all_goals with_reducible first
    | exact traced.frame _ _ rfl rfl rfl rfl rfl rfl rfl rfl
    | exact countAttempt _ _
    | exact setState_traced env traced _
    | exact reconnecting _

theorem handleMessage_traced (traced : EngineTraced env rel) (text : Text) :
    Guarantees rel (handleMessage env text) := by
  dsimp only [handleMessage, handleSubscriptionMessage, handleErrorMessage, handlePongMessage,
    withLock, lock, unlock]
  refine Composed.guarantees traced.refl traced.trans ?_
  repeat' first | split | with_reducible constructor | (with_reducible intro) | dsimp only
  all_goals with_reducible first
    | exact traced.frame _ _ rfl rfl rfl rfl rfl rfl rfl rfl
    | exact traced.authReplies _
    | exact traced.invokes _ (by simp [UserCallback.slot]) (by simp [UserCallback.slot])
    | exact invokeHandlers_traced env traced.toHandlerTraced _ _

theorem fireTransportCallbacks_traced (traced : EngineTraced env rel)
    (callbacks : List (TransportCallback Text)) :
    Guarantees rel (fireTransportCallbacks env callbacks) := by
  induction callbacks with
  | nil => exact Guarantees.pure traced.refl _
  | cons callback rest ih =>
    refine Guarantees.bind traced.trans ?_ fun _ => ih
    cases callback
    case connected => exact setState_traced env traced.toHandlerTraced _
    case disconnected code reason =>
      exact onTransportDisconnected_traced env traced.toHandlerTraced code reason
    case error code message =>
      exact Guarantees.bind traced.trans
        (Guarantees.modify fun client => traced.frame client _ rfl rfl rfl rfl rfl rfl rfl rfl)
        fun _ => traced.invokes _ nofun nofun
    case message text => exact handleMessage_traced env traced text

theorem transportConnect_traced (traced : EngineTraced env rel) (outcome : ConnectOutcome) :
    Guarantees rel (transportConnect env outcome) := by
  unfold transportConnect record
  refine Composed.guarantees traced.refl traced.trans ?_
  repeat' first | split | with_reducible constructor | (with_reducible intro) | dsimp only
  all_goals with_reducible first
    | exact traced.frame _ _ rfl rfl rfl rfl rfl rfl rfl rfl
    | exact traced.connectRecord _
    | exact fireTransportCallbacks_traced env traced _

theorem transportDisconnect_traced (traced : EngineTraced env rel) (reason : String) :
    Guarantees rel (transportDisconnect env reason) := by
  unfold transportDisconnect record
  refine Composed.guarantees traced.refl traced.trans ?_
  repeat' first | split | with_reducible constructor | (with_reducible intro) | dsimp only
  all_goals with_reducible first
    | exact traced.frame _ _ rfl rfl rfl rfl rfl rfl rfl rfl
    | exact traced.disconnectRecord _ _
    | exact fireTransportCallbacks_traced env traced _

theorem connect_traced (traced : EngineTraced env rel) (outcome : ConnectOutcome) :
    Guarantees rel (connect env outcome) := by
  dsimp only [connect, withLock, lock, unlock]
  refine Composed.guarantees traced.refl traced.trans ?_
  repeat' first | split | with_reducible constructor | (with_reducible intro) | dsimp only
  all_goals with_reducible first
    | exact traced.frame _ _ rfl rfl rfl rfl rfl rfl rfl rfl
    | exact setState_traced env traced.toHandlerTraced _
    | exact transportConnect_traced env traced _

theorem doAuthentication_traced (traced : EngineTraced env rel) :
    Guarantees rel (doAuthentication env) := by
  dsimp only [doAuthentication]
  refine Composed.guarantees traced.refl traced.trans ?_
  repeat' first | split | with_reducible constructor | (with_reducible intro) | dsimp only
  all_goals with_reducible first
    | exact traced.frame _ _ rfl rfl rfl rfl rfl rfl rfl rfl
    | exact traced.auth _ _
    | exact setState_traced env traced.toHandlerTraced _
    | exact transportSend_traced traced.toCallTraced _ _

theorem resumeConnect_traced (traced : EngineTraced env rel) (index : Nat) :
    Guarantees rel (resumeConnect env index) := by
  dsimp only [resumeConnect, withLock, lock, unlock]
  refine Composed.guarantees traced.refl traced.trans ?_
  repeat' first | split | with_reducible constructor | (with_reducible intro) | dsimp only
  all_goals with_reducible first
    | exact traced.frame _ _ rfl rfl rfl rfl rfl rfl rfl rfl
    | exact setState_traced env traced.toHandlerTraced _
    | exact transportDisconnect_traced env traced _
    | exact doAuthentication_traced env traced

theorem connectAsync_traced (traced : EngineTraced env rel) (outcome : ConnectOutcome) :
    Guarantees rel (connectAsync env outcome) := by
  dsimp only [connectAsync, withLock, lock, unlock]
  refine Composed.guarantees traced.refl traced.trans ?_
  repeat' first | split | with_reducible constructor | (with_reducible intro) | dsimp only
  all_goals with_reducible first
    | exact traced.frame _ _ rfl rfl rfl rfl rfl rfl rfl rfl
    | exact setState_traced env traced.toHandlerTraced _
    | exact transportConnect_traced env traced _

theorem disconnect_traced (traced : EngineTraced env rel) :
    Guarantees rel (disconnect env) := by
  dsimp only [disconnect, withLock, lock, unlock]
  refine Composed.guarantees traced.refl traced.trans ?_
  repeat' first | split | with_reducible constructor | (with_reducible intro) | dsimp only
  all_goals with_reducible first
    | exact traced.frame _ _ rfl rfl rfl rfl rfl rfl rfl rfl
    | exact traced.auth _ _
    | exact traced.disablePolicy _
    | exact setState_traced env traced.toHandlerTraced _
    | exact transportDisconnect_traced env traced _

theorem processHeartbeat_traced (traced : EngineTraced env rel) :
    Guarantees rel (processHeartbeat env) := by
  dsimp only [processHeartbeat]
  refine Composed.guarantees traced.refl traced.trans ?_
  repeat' first | split | with_reducible constructor | (with_reducible intro) | dsimp only
  all_goals with_reducible first
    | exact traced.frame _ _ rfl rfl rfl rfl rfl rfl rfl rfl
    | exact transportSend_traced traced.toCallTraced _ _
    | exact transportDisconnect_traced env traced _

theorem poll_traced (traced : EngineTraced env rel) (draw : ℚ) :
    Guarantees rel (poll env draw) := by
  dsimp only [poll]
  refine Composed.guarantees traced.refl traced.trans ?_
  repeat' first | split | with_reducible constructor | (with_reducible intro) | dsimp only
  all_goals with_reducible first
    | exact processHeartbeat_traced env traced
    | exact traced.reconnects _

theorem finishReconnection_traced (traced : EngineTraced env rel) (outcome : ConnectOutcome) :
    Guarantees rel (finishReconnection env outcome) := by
  dsimp only [finishReconnection]
  refine Composed.guarantees traced.refl traced.trans ?_
  repeat' first | split | with_reducible constructor | (with_reducible intro) | dsimp only
  all_goals with_reducible first
    | exact traced.frame _ _ rfl rfl rfl rfl rfl rfl rfl rfl
    | exact transportConnect_traced env traced _

theorem onCarrierClosed_traced (traced : EngineTraced env rel) :
    Guarantees rel (onCarrierClosed env) := by
  dsimp only [onCarrierClosed]
  refine Composed.guarantees traced.refl traced.trans ?_
  repeat' first | split | with_reducible constructor | (with_reducible intro) | dsimp only
  all_goals with_reducible first
    | exact traced.frame _ _ rfl rfl rfl rfl rfl rfl rfl rfl
    | exact fireTransportCallbacks_traced env traced _

theorem onCarrierWriteable_traced (traced : EngineTraced env rel) (writeOk : Bool) :
    Guarantees rel (onCarrierWriteable env writeOk) := by
  dsimp only [onCarrierWriteable]
  refine Composed.guarantees traced.refl traced.trans ?_
  repeat' first | split | with_reducible constructor | (with_reducible intro) | dsimp only
  all_goals with_reducible first
    | exact traced.frame _ _ rfl rfl rfl rfl rfl rfl rfl rfl
    | exact fireTransportCallbacks_traced env traced _

/-- Every input of the engine guarantees every `EngineTraced` preorder that the input's public
call, if it is one, guarantees. -/
theorem operation_traced (traced : EngineTraced env rel) {input : ClientInput Text}
    (calls : ∀ api, input = .call api → Guarantees rel (call env api)) :
    Guarantees rel (operation env input) := by
  cases input
  case call api => exact calls _ rfl
  case tick clock =>
    exact Guarantees.modify fun client => traced.frame _ _ rfl rfl rfl rfl rfl rfl rfl rfl
  all_goals
    dsimp only [operation, onPollingThread]
    refine Composed.guarantees traced.refl traced.trans ?_
    repeat' first | split | with_reducible constructor | (with_reducible intro) | dsimp only
  all_goals with_reducible first
    | exact connect_traced env traced _
    | exact resumeConnect_traced env traced _
    | exact connectAsync_traced env traced _
    | exact disconnect_traced env traced
    | exact poll_traced env traced _
    | exact finishReconnection_traced env traced _
    | exact onCarrierClosed_traced env traced
    | exact handleMessage_traced env traced _
    | exact onCarrierWriteable_traced env traced _

/-- Every run of the engine guarantees every `EngineTraced` preorder that the public calls of
user threads guarantee. -/
theorem run_traced (traced : EngineTraced env rel) (calls : ∀ api, Guarantees rel (call env api))
    {client final : GatewayClient Text} {inputs : List (ClientInput Text)}
    (ran : run env client inputs = some final) : rel client final := by
  induction inputs generalizing client with
  | nil =>
    obtain rfl := Option.some.inj ran
    exact traced.refl client
  | cons input rest ih =>
    obtain ⟨result, middle, stepped, later⟩ := run_cons_eq_some env ran
    exact traced.trans _ _ _
      (operation_traced env traced (fun api _ => calls api) client result middle stepped) (ih later)

/-- The handlers of callbacks that carry no inbound frame change only what a state change may
change. -/
theorem fireTransportCallbacks_handlerStable (stable : HandlerStable rel)
    {callbacks : List (TransportCallback Text)} (quiet : ∀ text, .message text ∉ callbacks) :
    Guarantees rel (fireTransportCallbacks env callbacks) := by
  induction callbacks with
  | nil => exact Guarantees.pure stable.refl _
  | cons callback rest ih =>
    refine Guarantees.bind stable.trans ?_ fun _ =>
      ih fun text member => quiet text (List.mem_cons_of_mem _ member)
    cases callback
    case connected => exact setState_guarantees env stable _
    case disconnected code reason => exact onTransportDisconnected_guarantees env stable code reason
    case error code message =>
      exact Guarantees.bind stable.trans
        (Guarantees.modify fun client => stable.frame client _ rfl rfl rfl rfl rfl rfl rfl)
        fun _ => invoke_guarantees env stable.toCallStable _
    case message text => exact absurd (List.mem_cons_self _ _) (quiet text)

/-- A transport connect runs only the handlers of the callbacks a connection attempt fires,
none of which carries an inbound frame. -/
theorem transportConnect_handlerStable (stable : HandlerStable rel) (outcome : ConnectOutcome) :
    Guarantees rel (transportConnect env outcome) := by
  unfold transportConnect record
  refine Composed.guarantees stable.refl stable.trans ?_
  repeat' first | split | with_reducible constructor | (with_reducible intro) | dsimp only
  all_goals with_reducible first
    | exact stable.frame _ _ rfl rfl rfl rfl rfl rfl rfl
    | exact fireTransportCallbacks_handlerStable env stable
        (WebSocketTransport.connect_reports_no_message ‹_›)

/-- `connectAsync()` changes only what a state change may change. -/
theorem connectAsync_handlerStable (stable : HandlerStable rel) (outcome : ConnectOutcome) :
    Guarantees rel (connectAsync env outcome) := by
  dsimp only [connectAsync, withLock, lock, unlock]
  refine Composed.guarantees stable.refl stable.trans ?_
  repeat' first | split | with_reducible constructor | (with_reducible intro) | dsimp only
  all_goals with_reducible first
    | exact stable.frame _ _ rfl rfl rfl rfl rfl rfl rfl
    | exact setState_guarantees env stable _
    | exact transportConnect_handlerStable env stable _

/-- The end of `processReconnection()` changes only what a state change may change. -/
theorem finishReconnection_handlerStable (stable : HandlerStable rel) (outcome : ConnectOutcome) :
    Guarantees rel (finishReconnection env outcome) :=
  Guarantees.bind stable.trans (Guarantees.discard (transportConnect_handlerStable env stable _))
    fun _ => Guarantees.modify fun client => stable.frame client _ rfl rfl rfl rfl rfl rfl rfl

/-- A `HandlerStable` preorder is `HandlerTraced`. -/
theorem HandlerStable.traced (stable : HandlerStable rel) : HandlerTraced env rel :=
  { stable.toCallStable.traced with
    state := stable.state
    invokes := fun _ _ _ => invoke_guarantees env stable.toCallStable _ }

theorem processReconnection_guarantees (stable : EngineStable rel) (draw : ℚ) :
    Guarantees rel (processReconnection env draw) :=
  processReconnection_traced env (stable.toHandlerStable.traced env) stable.countAttempt
    (fun _ => invoke_guarantees env stable.toCallStable _) draw

theorem handleAuthMessage_guarantees (stable : EngineStable rel) (message : Message) :
    Guarantees rel (handleAuthMessage env message) :=
  handleAuthMessage_traced env (stable.toHandlerStable.traced env) stable.auth stable.resetPolicy
    (invoke_guarantees env stable.toCallStable _) message

/-- An `EngineStable` preorder is `EngineTraced`. -/
theorem EngineStable.traced (stable : EngineStable rel) : EngineTraced env rel :=
  { stable.toHandlerStable.traced env with
    auth := stable.auth
    disablePolicy := stable.disablePolicy
    connectRecord := fun client => stable.frame client _ rfl rfl rfl rfl rfl rfl rfl
    disconnectRecord := fun client _ => stable.frame client _ rfl rfl rfl rfl rfl rfl rfl
    authReplies := handleAuthMessage_guarantees env stable
    reconnects := processReconnection_guarantees env stable }

theorem transportDisconnect_guarantees (stable : EngineStable rel) (reason : String) :
    Guarantees rel (transportDisconnect env reason) :=
  transportDisconnect_traced env (stable.traced env) reason

/-- Every run of the engine guarantees every `EngineStable` preorder. -/
theorem run_guarantees (stable : EngineStable rel) {client final : GatewayClient Text}
    {inputs : List (ClientInput Text)} (ran : run env client inputs = some final) :
    rel client final :=
  run_traced env (stable.traced env) (call_guarantees env stable.toCallStable) ran

/-- Once the reconnect policy is disabled it stays disabled. -/
def policyStaysDisabled (client next : GatewayClient Text) : Prop :=
  client.policy.enabled = false → next.policy.enabled = false

theorem policyStaysDisabled_engineStable : EngineStable (@policyStaysDisabled Text) where
  refl _ := id
  trans _ _ _ first second := second ∘ first
  frame _ _ _ _ _ samePolicy _ _ _ := by simp only [policyStaysDisabled, samePolicy, imp_self]
  register _ _ _ := id
  unregister _ _ _ := id
  state _ _ := id
  auth _ _ := id
  resetPolicy _ := by simp [policyStaysDisabled]
  countAttempt _ _ := by simp [policyStaysDisabled]
  disablePolicy _ _ := by simp

/-- No run enables a disabled reconnect policy again: only `disconnect()` writes `enabled`. -/
theorem run_keeps_policy_disabled {client final : GatewayClient Text}
    {inputs : List (ClientInput Text)} (ran : run env client inputs = some final)
    (disabled : client.policy.enabled = false) : final.policy.enabled = false :=
  run_guarantees env policyStaysDisabled_engineStable ran disabled

end GatewayClient

end GatewaySdk
