import GatewaySdk.Client.Subscriptions

/-!
# Reconnect bursts

A transport loss enters `Reconnecting` while the reconnect policy allows an attempt, and
`Disconnected` with the user's `onDisconnected` otherwise.  From `Reconnecting`, each poll runs
`processReconnection`: it counts an attempt, calls `onReconnecting` with the count, sleeps,
and connects the transport, whose failure it only logs.  Once the attempts run out, the next
poll finds `shouldReconnect()` false and enters `Disconnected` through `setState` alone.

So a burst whose last attempt fails at once, or through `CONNECTION_ERROR`, ends in the
terminal `Disconnected` state without calling `onDisconnected`.

Within a burst the attempts are counted right: `attemptCount_` is reset only by an Auth
success, which then calls `onConnected`, and counted only by `processReconnection`, which then
calls `onReconnecting` with the count.  So the attempt numbers that `onReconnecting` receives
between two `onConnected` calls are `1, 2, …, k` with `k ≤ maxAttempts`, over every run.  The
invariant `BurstsReported` says so of the log's `burstTrace`, and it is `EngineTraced`.
-/

namespace GatewaySdk

/-- A sensor's configuration that allows a single reconnect attempt. -/
def oneAttemptConfig : GatewayConfig :=
  { sensorConfig with reconnect := { maxAttempts := 1 } }

/-- What a log shows of reconnect bursts: the attempt number of each `onReconnecting` call, and
`none` for each `onConnected` call, which ends a burst. -/
def burstTrace (log : List ClientEvent) : List (Option Nat) :=
  log.filterMap fun
    | .invoked (.reconnecting attempt) _ => some (some attempt)
    | .invoked .connected _ => some none
    | _ => none

@[simp] theorem burstTrace_append (log more : List ClientEvent) :
    burstTrace (log ++ more) = burstTrace log ++ burstTrace more :=
  List.filterMap_append _ _ _

/-- The trace of a burst of `attempts` attempts, when `onReconnecting` is set. -/
def burstReports (user : UserCode) (attempts : Nat) : List (Option Nat) :=
  if user.registered .onReconnecting then (List.range' 1 attempts).map some else []

/-- The trace of the `onConnected` call that ends a burst, when it is set. -/
def connectedReport (user : UserCode) : List (Option Nat) :=
  if user.registered .onConnected then [none] else []

/-- The policy allows `maxAttempts` attempts, and the trace is a list of finished bursts of at
most `maxAttempts` attempts, each ended by an Auth success, then the current burst of
`attemptCount` attempts. -/
def BurstsReported (user : UserCode) (maxAttempts : Nat) (policy : ReconnectPolicy)
    (trace : List (Option Nat)) : Prop :=
  policy.maxAttempts = maxAttempts ∧ policy.attemptCount ≤ maxAttempts ∧
    ∃ bursts : List Nat, (∀ burst ∈ bursts, burst ≤ maxAttempts) ∧
      trace = (bursts.map fun burst => burstReports user burst ++ connectedReport user).flatten ++
        burstReports user policy.attemptCount

namespace BurstsReported

variable {user : UserCode} {maxAttempts : Nat} {policy : ReconnectPolicy}
  {trace : List (Option Nat)}

/-- An attempt that the policy allows, with its report, extends the current burst. -/
theorem attempt (limited : 0 < maxAttempts) (fits : maxAttempts < 2 ^ 32)
    (reported : BurstsReported user maxAttempts policy trace)
    (allowed : policy.shouldReconnect = true) (draw : ℚ) :
    BurstsReported user maxAttempts (policy.getNextDelay draw).1
      (trace ++ if user.registered .onReconnecting
        then [some (policy.getNextDelay draw).1.attemptCount] else []) := by
  obtain ⟨configured, below, bursts, bounded, rfl⟩ := reported
  have counted : policy.attemptCount < maxAttempts := by
    have := (ReconnectPolicy.shouldReconnect_eq_true policy).mp allowed
    omega
  have next : (policy.attemptCount + 1) % 2 ^ 32 = policy.attemptCount + 1 :=
    Nat.mod_eq_of_lt (by omega)
  simp only [ReconnectPolicy.getNextDelay_fst, allowed, if_true, next]
  refine ⟨configured, counted, bursts, bounded, ?_⟩
  unfold burstReports
  split <;> simp [List.range'_concat, Nat.add_comm]

/-- An Auth success resets the count and, with its `onConnected` report, ends the burst. -/
theorem connect (reported : BurstsReported user maxAttempts policy trace) :
    BurstsReported user maxAttempts policy.reset (trace ++ connectedReport user) := by
  obtain ⟨configured, below, bursts, bounded, rfl⟩ := reported
  refine ⟨configured, Nat.zero_le _, bursts ++ [policy.attemptCount], ?_, ?_⟩
  · simpa [or_imp, forall_and] using ⟨bounded, below⟩
  · simp [burstReports]

end BurstsReported

namespace GatewayClient

variable {Text : Type} (env : Environment Text) {client : GatewayClient Text}

/-- Once the attempts are spent, `processReconnection` is `setState(Disconnected)` and nothing
else. -/
theorem processReconnection_exhausted (exhausted : client.policy.shouldReconnect = false)
    (draw : ℚ) :
    (processReconnection env draw).run client = (setState env .disconnected).run client := by
  simp [processReconnection, exhausted]

/-- A connected sensor allowed one reconnect attempt loses its transport; the attempt fails at
once, or through `CONNECTION_ERROR`, and the next poll ends the burst: the sensor is
`Disconnected` and `onDisconnected` was never called. -/
theorem exhausted_reconnect_silent :
    ((new oneAttemptConfig).run (documentEnv passiveUser)
        (connectInputs authAccepted ++ [.closed, .poll 0, .reconnect .initiateFailed, .poll 0])).map
      (fun final => (final.state, ((invokedCallbacks final.log).map Prod.fst).filter
        (·.slot = some .onDisconnected))) = some (.disconnected, []) ∧
    ((new oneAttemptConfig).run (documentEnv passiveUser)
        (connectInputs authAccepted ++
          [.closed, .poll 0, .reconnect (.connectionError none), .poll 0])).map
      (fun final => (final.state, ((invokedCallbacks final.log).map Prod.fst).filter
        (·.slot = some .onDisconnected))) = some (.disconnected, []) := by
  simp (disch := decide) only [run_append_runOr]
  decide

/-- The public calls keep the reconnect policy and add nothing to the burst trace. -/
theorem keepsBursts_callTraced :
    CallTraced (Keeps fun (client : GatewayClient Text) => (client.policy, burstTrace client.log))
    where
  refl _ := rfl
  trans _ _ _ first second := second.trans first
  frame _ _ _ _ _ samePolicy _ _ _ sameLog := by simp only [Keeps, samePolicy, sameLog]
  sent _ _ _ := by simp [Keeps, burstTrace]
  unregister _ _ _ := rfl

/-- A callback keeps the reconnect policy and adds its own report to the burst trace. -/
theorem invoke_burstTrace {callback : UserCallback} {final : GatewayClient Text} {result : Unit}
    (ran : (invoke env callback).run client = some (result, final)) :
    final.policy = client.policy ∧
      burstTrace final.log = burstTrace client.log ++
        if callback.slot.all env.user.registered then burstTrace [.invoked callback false]
        else [] := by
  rcases invoke_cases env ran with ⟨unset, rfl⟩ | ⟨set, -, rfl⟩ | ⟨set, api, -, called⟩
  · simp [unset]
  · refine ⟨rfl, ?_⟩
    rw [set, if_pos rfl, burstTrace_append]
    cases callback <;> rfl
  · obtain ⟨samePolicy, sameTrace⟩ :=
      Prod.mk.inj (call_traced env keepsBursts_callTraced
        ⟨fun _ _ _ => rfl, fun _ _ => by simp [Keeps, burstTrace]⟩ api _ _ _ called)
    refine ⟨samePolicy, ?_⟩
    rw [sameTrace, set, if_pos rfl, burstTrace_append]
    cases callback <;> rfl

/-- The handlers keep the reconnect policy and add nothing to the burst trace. -/
theorem keepsBursts_handlerTraced :
    HandlerTraced env
      (Keeps fun (client : GatewayClient Text) => (client.policy, burstTrace client.log)) :=
  { keepsBursts_callTraced with
    state := fun _ _ => rfl
    invokes := fun callback notReconnecting notConnected client _ _ ran => by
      obtain ⟨samePolicy, sameTrace⟩ := invoke_burstTrace env ran
      simp only [Keeps, samePolicy, sameTrace]
      cases callback <;> simp_all [UserCallback.slot, burstTrace] }

/-- The preorder of states that keep `BurstsReported` once it holds. -/
def KeepsBurstsReported (user : UserCode) (maxAttempts : Nat) (client next : GatewayClient Text) :
    Prop :=
  BurstsReported user maxAttempts client.policy (burstTrace client.log) →
    BurstsReported user maxAttempts next.policy (burstTrace next.log)

section Reported

variable {maxAttempts : Nat}

/-- What keeps the reconnect policy and the burst trace keeps `BurstsReported`. -/
theorem keepsBurstsReported_of_keeps {first next : GatewayClient Text}
    (kept : Keeps (fun (client : GatewayClient Text) => (client.policy, burstTrace client.log))
      first next) :
    KeepsBurstsReported env.user maxAttempts first next := by
  obtain ⟨samePolicy, sameTrace⟩ := Prod.mk.inj kept
  simp only [KeepsBurstsReported, samePolicy, sameTrace, imp_self]

/-- An Auth success resets the count and calls `onConnected`; any other reply leaves the policy
alone.  The state changes in between add nothing to the trace. -/
theorem handleAuthMessage_keepsBurstsReported (message : Message) :
    Guarantees (KeepsBurstsReported env.user maxAttempts) (handleAuthMessage env message) := by
  intro client result final ran
  rcases handles : client.auth.handleMessage message with ⟨auth, handled⟩
  rcases handleAuthMessage_cases env handles ran with
    ⟨-, rfl⟩ | ⟨-, -, entered, setRan, invoked⟩ | ⟨-, -, setRan⟩
  · exact id
  · obtain ⟨enteredPolicy, enteredTrace⟩ :=
      Prod.mk.inj (setState_traced env (keepsBursts_handlerTraced env) _ _ _ _ setRan)
    obtain ⟨finalPolicy, finalTrace⟩ := invoke_burstTrace env invoked
    intro reported
    rw [finalPolicy, finalTrace]
    simp only at enteredPolicy enteredTrace ⊢
    rw [enteredPolicy, enteredTrace]
    exact reported.connect
  · have kept := setState_traced env (keepsBursts_handlerTraced env) _ _ _ _ setRan
    exact keepsBurstsReported_of_keeps env kept

/-- `processReconnection` either ends the burst in `Disconnected`, or counts an attempt and
reports it to `onReconnecting`. -/
theorem processReconnection_keepsBurstsReported (limited : 0 < maxAttempts)
    (fits : maxAttempts < 2 ^ 32) (draw : ℚ) :
    Guarantees (KeepsBurstsReported env.user maxAttempts) (processReconnection env draw) := by
  intro client result final ran
  unfold processReconnection at ran
  simp only [StateT.run_bind, StateT.run_get, pure_bind] at ran
  split at ran
  case isTrue exhausted =>
    exact keepsBurstsReported_of_keeps env
      (setState_traced env (keepsBursts_handlerTraced env) _ _ _ _ ran)
  case isFalse allowed =>
    simp only [StateT.run_bind, StateT.run_modify, StateT.run_get, pure_bind, Option.bind_eq_bind,
      Option.bind_eq_some] at ran
    obtain ⟨⟨_, invoked⟩, invokeRan, posed⟩ := ran
    obtain ⟨-, rfl⟩ := Prod.mk.inj (Option.some.inj posed)
    obtain ⟨samePolicy, sameTrace⟩ := invoke_burstTrace env invokeRan
    intro reported
    simp only [KeepsBurstsReported, samePolicy, sameTrace]
    exact reported.attempt limited fits (by simpa using allowed) draw

/-- `KeepsBurstsReported` is a preorder of the whole engine. -/
theorem keepsBurstsReported_engineTraced (limited : 0 < maxAttempts)
    (fits : maxAttempts < 2 ^ 32) :
    EngineTraced env
      (KeepsBurstsReported env.user maxAttempts :
        GatewayClient Text → GatewayClient Text → Prop) :=
  have keeps := keepsBursts_handlerTraced env
  { refl := fun _ => id
    trans := fun _ _ _ first second => second ∘ first
    frame := fun client next config state auth policy subscriptions subjectToId nextId log =>
      keepsBurstsReported_of_keeps env
        (keeps.frame client next config state auth policy subscriptions subjectToId nextId log)
    sent := fun client message accepted =>
      keepsBurstsReported_of_keeps env (keeps.sent client message accepted)
    unregister := fun client id subject =>
      keepsBurstsReported_of_keeps env (keeps.unregister client id subject)
    state := fun _ _ => id
    invokes := fun callback notReconnecting notConnected client result final ran =>
      keepsBurstsReported_of_keeps env
        (keeps.invokes callback notReconnecting notConnected client result final ran)
    auth := fun _ _ => id
    disablePolicy := fun _ => id
    connectRecord := fun _ => keepsBurstsReported_of_keeps env (by simp [Keeps, burstTrace])
    disconnectRecord := fun _ _ => keepsBurstsReported_of_keeps env (by simp [Keeps, burstTrace])
    authReplies := handleAuthMessage_keepsBurstsReported env
    reconnects := processReconnection_keepsBurstsReported env limited fits }

/-- Over every run of a client whose configuration allows `1 ≤ maxAttempts < 2^32` reconnect
attempts, the attempt numbers `onReconnecting` receives are bursts `1, 2, …, k` with
`k ≤ maxAttempts`, each ended by the `onConnected` call of an Auth success, and then the
current burst `1, …, attemptCount`. -/
theorem reconnect_bursts_restart_at_each_connection {config : GatewayConfig}
    (limited : 0 < config.reconnect.maxAttempts) (fits : config.reconnect.maxAttempts < 2 ^ 32)
    {inputs : List (ClientInput Text)} {final : GatewayClient Text}
    (ran : run env (new config) inputs = some final) :
    final.policy.attemptCount ≤ config.reconnect.maxAttempts ∧
      ∃ bursts : List Nat, (∀ burst ∈ bursts, burst ≤ config.reconnect.maxAttempts) ∧
        burstTrace final.log =
          (bursts.map fun burst =>
              burstReports env.user burst ++ connectedReport env.user).flatten ++
            burstReports env.user final.policy.attemptCount := by
  have traced := keepsBurstsReported_engineTraced env limited fits
  have start : BurstsReported env.user config.reconnect.maxAttempts
      (new config : GatewayClient Text).policy (burstTrace []) :=
    ⟨rfl, Nat.zero_le _, [], by simp,
      by simp [burstTrace, burstReports, new, ReconnectPolicy.ofConfig]⟩
  obtain ⟨-, below, reported⟩ :=
    run_traced env traced (call_traced env traced.toCallTraced
      ⟨fun _ _ _ => id, fun _ _ => keepsBurstsReported_of_keeps env (by simp [Keeps, burstTrace])⟩)
      ran start
  exact ⟨below, reported⟩

/-- The sensor allowed one attempt connects, loses its transport, and polls into its attempt:
the trace is the `onConnected` of the first session, then the burst `1`. -/
theorem one_attempt_burst_reported :
    0 < oneAttemptConfig.reconnect.maxAttempts ∧
      oneAttemptConfig.reconnect.maxAttempts < 2 ^ 32 ∧
      (runOr (documentEnv passiveUser) (new oneAttemptConfig)
          (connectInputs authAccepted ++ [.closed, .poll 0])).policy.attemptCount ≤
        oneAttemptConfig.reconnect.maxAttempts ∧
      ∃ bursts : List Nat,
        (∀ burst ∈ bursts, burst ≤ oneAttemptConfig.reconnect.maxAttempts) ∧
        burstTrace (runOr (documentEnv passiveUser) (new oneAttemptConfig)
            (connectInputs authAccepted ++ [.closed, .poll 0])).log =
          (bursts.map fun burst =>
              burstReports passiveUser burst ++ connectedReport passiveUser).flatten ++
            burstReports passiveUser (runOr (documentEnv passiveUser) (new oneAttemptConfig)
              (connectInputs authAccepted ++ [.closed, .poll 0])).policy.attemptCount :=
  ⟨by decide, by decide, reconnect_bursts_restart_at_each_connection (documentEnv passiveUser)
    (by decide) (by decide) (run_eq_some_runOr _ (by
      rw [run_append_runOr _ (connectInputs authAccepted)]
      all_goals decide))⟩

end Reported

end GatewayClient

end GatewaySdk
