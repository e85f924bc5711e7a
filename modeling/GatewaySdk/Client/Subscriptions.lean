import GatewaySdk.Client.Handshake

/-!
# The subscription registry of the client

`subscribe` registers a subscription under the id `nextSubscriptionId_++` in both
`subscriptions_` and `subjectToId_`, sends the Subscribe envelope, and on a failed send erases
the id from `subscriptions_` and the subject from `subjectToId_`.  `unsubscribe(id)` erases the
id and the subject of its subscription; `unsubscribe(subject)` looks the id up in
`subjectToId_`.  Each of these has a spec lemma here, with the state it ends in.

`subjectToId_` holds one id per subject, so two subscriptions to one subject share an entry,
which names the newer one.  Erasing by subject does not look at that entry's id: unsubscribing
the older subscription, or a failed send of a second subscribe to a subject, removes the entry
of a subscription that stays live.  That subscription still receives messages, and
`unsubscribe(subject)` no longer finds it.
-/

namespace GatewaySdk

namespace GatewayClient

variable {Text : Type} (env : Environment Text) {client : GatewayClient Text}

/-- `transport_->send` with the transport mutex free: the transport's `send`, and the record of
the envelope. -/
theorem transportSend_run (free : client.transportLockHeld = false) (text : Text)
    (message : Message) :
    (transportSend text message).run client = some ((client.transport.send text).2,
      { client with
        transport := (client.transport.send text).1
        log := client.log ++ [.sent message (client.transport.send text).2.toBool] }) := by
  simp [transportSend, free, record]

/-- `transport_->send` with the transport mutex held blocks on it. -/
theorem transportSend_run_of_held (held : client.transportLockHeld = true) (text : Text)
    (message : Message) : (transportSend text message).run client = none := by
  simp [transportSend, held]

/-- A `subscribe` refused before registering, not connected or on an invalid subject, leaves
the client as it was. -/
theorem subscribe_refused {subject : String} (free : client.lockHeld = false)
    (refused : client.state ≠ .connected ∨ Protocol.isValidSubject subject = false) :
    ∃ failure, (subscribe env subject).run client = some (.error failure, client) := by
  by_cases connected : client.state = .connected
  · have invalid : Protocol.isValidSubject subject = false := refused.resolve_left (· connected)
    refine ⟨(.invalidSubject, "Invalid subject"), ?_⟩
    simp [subscribe, withLock_run_of_free free, connected, invalid]
    rw [← connected]
    exact unlocked_of_free free
  · refine ⟨(.notConnected, "Not connected"), ?_⟩
    simp [subscribe, withLock_run_of_free free, connected, unlocked_of_free free]

/-- A `subscribe` whose Subscribe envelope the transport queues registers the subscription
under the current counter and returns that id. -/
theorem subscribe_accepted {subject : String} (free : client.lockHeld = false)
    (transportFree : client.transportLockHeld = false) (connected : client.state = .connected)
    (valid : Protocol.isValidSubject subject = true) (opened : client.transport.state = .connected) :
    (subscribe env subject).run client = some (.ok client.nextSubscriptionId,
      { client.register subject with
        transport := { client.transport with sendQueue := client.transport.sendQueue ++
          [Protocol.serialize env.codec (.subscribe subject) client.clock.system] }
        log := client.log ++ [.sent (.subscribe subject) true,
          .subscribed client.nextSubscriptionId] }) := by
  simp [subscribe, withLock, lock, unlock, free, connected, valid, transportSend_run,
    transportFree, register, WebSocketTransport.send, opened, record, Except.toBool]

/-- A `subscribe` whose send fails registers the subscription, then erases its id and its
subject. -/
theorem subscribe_rolled_back {subject : String} (free : client.lockHeld = false)
    (transportFree : client.transportLockHeld = false) (connected : client.state = .connected)
    (valid : Protocol.isValidSubject subject = true) (closed : client.transport.state ≠ .connected) :
    (subscribe env subject).run client = some (.error (.notConnected, "Not connected"),
      { (client.register subject).unregister client.nextSubscriptionId subject with
        log := client.log ++ [.sent (.subscribe subject) false] }) := by
  simp [subscribe, withLock, lock, unlock, free, connected, valid, transportSend_run,
    transportFree, register, unregister, WebSocketTransport.send, closed, record, Except.toBool]

/-- A `subscribe` that passes its checks while the transport mutex is held blocks on that
mutex, and the thread never comes back. -/
theorem subscribe_blocked {subject : String} (free : client.lockHeld = false)
    (transportHeld : client.transportLockHeld = true) (connected : client.state = .connected)
    (valid : Protocol.isValidSubject subject = true) :
    (subscribe env subject).run client = none := by
  simp [subscribe, withLock, lock, free, connected, valid, register, transportSend_run_of_held,
    transportHeld]

/-- `unsubscribe(id)` of a live subscription sends the Unsubscribe envelope while connected,
then erases the id and its subject. -/
theorem unsubscribe_found {id : SubscriptionId} {sub : Subscription}
    (free : client.lockHeld = false) (transportFree : client.transportLockHeld = false)
    (found : client.subscriptions.find? id = some sub) :
    (unsubscribe env id).run client = some (.ok (),
      (if client.state = .connected then
        let message := Message.unsubscribe sub.subject
        let text := Protocol.serialize env.codec message client.clock.system
        { client with
          transport := (client.transport.send text).1
          log := client.log ++ [.sent message (client.transport.send text).2.toBool] }
      else client).unregister id sub.subject) := by
  by_cases connected : client.state = .connected
  · simp [unsubscribe, withLock, lock, unlock, free, connected, found, transportSend_run,
      transportFree, unregister, discard_run]
  · simp [unsubscribe, withLock, lock, unlock, free, connected, found, unregister]

theorem unsubscribe_missing {id : SubscriptionId} (free : client.lockHeld = false)
    (missing : client.subscriptions.find? id = none) :
    (unsubscribe env id).run client =
      some (.error (.notSubscribed, "Subscription not found"), client) := by
  simp [unsubscribe, withLock_run_of_free free, missing, unlocked_of_free free]

/-- `unsubscribe(subject)`: `NotSubscribed` unless `subjectToId_` has the subject, otherwise
`unsubscribe` of the id it names. -/
theorem unsubscribeSubject_run {subject : String} (free : client.lockHeld = false) :
    (unsubscribeSubject env subject).run client =
      match client.subjectToId.lookup subject with
      | none => some (.error (.notSubscribed, "Not subscribed to: " ++ subject), client)
      | some id => (unsubscribe env id).run client := by
  cases looked : client.subjectToId.lookup subject <;>
    simp [unsubscribeSubject, withLock_run_of_free free, looked, unlocked_of_free free]

/-- Unsubscribing one of two live subscriptions to a subject by id erases the subject from
`subjectToId_` while the other stays live. -/
theorem unsubscribe_orphans_shared_subject {older newer : SubscriptionId}
    {olderSub newerSub : Subscription} {result : Result Unit} {final : GatewayClient Text}
    (free : client.lockHeld = false) (transportFree : client.transportLockHeld = false)
    (foundOlder : client.subscriptions.find? older = some olderSub)
    (foundNewer : client.subscriptions.find? newer = some newerSub) (distinct : newer ≠ older)
    (shared : olderSub.subject = newerSub.subject)
    (ran : (unsubscribe env older).run client = some (result, final)) :
    final.subscriptions.find? newer = some newerSub ∧
      final.subjectToId.lookup newerSub.subject = none := by
  rw [unsubscribe_found env free transportFree foundOlder] at ran
  obtain ⟨-, rfl⟩ := Prod.mk.inj (Option.some.inj ran)
  by_cases connected : client.state = .connected <;>
    simp [connected, unregister, distinct, foundNewer, shared]

/-- The connected sensor after subscribing twice to its line's commands, as ids 1 and 2, and
unsubscribing id 1. -/
def orphanedSensor : GatewayClient (Except String Json) :=
  runOr (documentEnv passiveUser) (new sensorConfig)
    (connectInputs authAccepted ++ [.call (.subscribe "factory.line1.cmd"),
      .call (.subscribe "factory.line1.cmd"), .call (.unsubscribe 1)])

/-- A connected sensor subscribes twice to its line's commands and unsubscribes the first
subscription by id: the second stays live and receives the commands, yet `unsubscribe(subject)`
reports `NotSubscribed`. -/
theorem unsubscribe_older_orphans_newer :
    orphanedSensor.subscriptions.find? 2 = some { id := 2, subject := "factory.line1.cmd" } ∧
      dispatch orphanedSensor.subscriptions "factory.line1.cmd" = [2] ∧
      (unsubscribeSubject (documentEnv passiveUser) "factory.line1.cmd").run orphanedSensor =
        some (.error (.notSubscribed, "Not subscribed to: " ++ "factory.line1.cmd"),
          orphanedSensor) := by
  have lookedUp : orphanedSensor.subjectToId.lookup "factory.line1.cmd" = none := by decide
  have free : orphanedSensor.lockHeld = false := by decide
  refine ⟨by decide, by decide, ?_⟩
  rw [unsubscribeSubject_run _ free]
  simp only [lookedUp]

/-- A `subscribe` whose send fails, from a registry whose counter names no live subscription,
leaves `subscriptions_` as it was and `subjectToId_` as it was except for the subject, which it
erases whatever id it named before. -/
theorem subscribe_rollback_forgets_subject {subject : String} {result : Result SubscriptionId}
    {final : GatewayClient Text} (free : client.lockHeld = false)
    (transportFree : client.transportLockHeld = false) (connected : client.state = .connected)
    (valid : Protocol.isValidSubject subject = true) (closed : client.transport.state ≠ .connected)
    (fresh : client.subscriptions.find? client.nextSubscriptionId = none)
    (ran : (subscribe env subject).run client = some (result, final)) :
    (∀ id, final.subscriptions.find? id = client.subscriptions.find? id) ∧
      final.subjectToId.lookup subject = none ∧
      ∀ other, other ≠ subject → final.subjectToId.lookup other = client.subjectToId.lookup other := by
  rw [subscribe_rolled_back env free transportFree connected valid closed] at ran
  obtain ⟨-, rfl⟩ := Prod.mk.inj (Option.some.inj ran)
  refine ⟨fun id => ?_, by simp [unregister], fun other differs => ?_⟩
  · by_cases issued : id = client.nextSubscriptionId
    · simp [unregister, register, issued, fresh]
    · simp [unregister, register, issued]
  · simp [unregister, register, insertSubject, differs]

/-- The connected sensor subscribed to its line's commands as id 1, once its carrier has closed
and before the engine has taken the loss in. -/
def staleSensor : GatewayClient (Except String Json) :=
  let connected := runOr (documentEnv passiveUser) (new sensorConfig)
    (connectInputs authAccepted ++ [.call (.subscribe "factory.line1.cmd")])
  { connected with transport := { connected.transport with state := .closed } }

/-- A connected sensor subscribed to its line's commands subscribes to them again just as its
transport closes, so the send fails: the call returns an error, and the first subscription
stays live while `subjectToId_` no longer has its subject. -/
theorem failed_subscribe_forgets_subject :
    staleSensor.subjectToId.lookup "factory.line1.cmd" = some 1 ∧
      ((subscribe (documentEnv passiveUser) "factory.line1.cmd").run staleSensor).map (fun outcome =>
        (outcome.1.toBool, outcome.2.subjectToId.lookup "factory.line1.cmd",
          outcome.2.subscriptions.find? 1)) =
        some (false, none, some { id := 1, subject := "factory.line1.cmd" }) := by
  decide

/-- Every live subscription's pattern is a valid subject. -/
def PatternsValid (client : GatewayClient Text) : Prop :=
  ∀ entry ∈ client.subscriptions.entries, Protocol.isValidSubject entry.2.subject = true

/-- Only `register` adds to `subscriptions_`, and `subscribe` registers only a subject that
`isValidSubject` accepts; every other update keeps or erases entries. -/
theorem patternsValid_engineStable :
    EngineStable fun (client next : GatewayClient Text) => PatternsValid client → PatternsValid next where
  refl _ := id
  trans _ _ _ first second := second ∘ first
  frame _ _ _ _ _ _ subscriptions _ _ valid := by
    simpa only [PatternsValid, subscriptions] using valid
  register client subject validSubject valid entry member := by
    rcases mem_mapInsert _ _ _ member with rfl | old
    · exact validSubject
    · exact valid entry old
  unregister _ _ _ valid entry member := valid entry (List.mem_filter.mp member).1
  state _ _ := id
  auth _ _ := id
  resetPolicy _ := id
  countAttempt _ _ := id
  disablePolicy _ := id

/-- Over every run of a new client the patterns of the registry are valid subjects, so the
dispatch loop of every state it reaches invokes, for a valid subject without `*`, each handler at
most once and exactly the active subscriptions whose pattern either has no `*` and matches under
`matchesPattern`, or has a `*` and does not end in `>`. -/
theorem reachable_registry_dispatch {config : GatewayConfig} {inputs : List (ClientInput Text)}
    {final : GatewayClient Text} (ran : run env (new config) inputs = some final) :
    (∀ entry ∈ final.subscriptions.entries, Protocol.isValidSubject entry.2.subject = true) ∧
      ∀ subject, Protocol.isValidSubject subject = true → '*' ∉ subject.data →
        (dispatch final.subscriptions subject).Nodup ∧
          ∀ id, id ∈ dispatch final.subscriptions subject ↔
            ∃ sub, final.subscriptions.find? id = some sub ∧ sub.active = true ∧
              if '*' ∈ sub.subject.data then sub.subject.data.getLast? ≠ some '>'
              else AuthManager.matchesPattern sub.subject subject = true := by
  have valid : PatternsValid final :=
    run_guarantees env patternsValid_engineStable ran fun _ member => by
      simp [new, SubscriptionMap.empty] at member
  exact ⟨valid, fun _ validSubject concrete =>
    dispatch_matches_unless_star _ valid validSubject concrete⟩

/-- The orphaned sensor's registry dispatches its line's commands by NATS matching. -/
theorem orphaned_sensor_dispatch :
    (∀ entry ∈ orphanedSensor.subscriptions.entries,
        Protocol.isValidSubject entry.2.subject = true) ∧
      ∀ subject, Protocol.isValidSubject subject = true → '*' ∉ subject.data →
        (dispatch orphanedSensor.subscriptions subject).Nodup ∧
          ∀ id, id ∈ dispatch orphanedSensor.subscriptions subject ↔
            ∃ sub, orphanedSensor.subscriptions.find? id = some sub ∧ sub.active = true ∧
              if '*' ∈ sub.subject.data then sub.subject.data.getLast? ≠ some '>'
              else AuthManager.matchesPattern sub.subject subject = true :=
  reachable_registry_dispatch (documentEnv passiveUser) (run_eq_some_runOr _ (by decide))

/-- Telemetry of the sensor, as the gateway stamps and delivers it. -/
def sensorTemperature : Message :=
  { type := .message, subject := "telemetry.sensor-1.temperature"
    payload := .object [("temperature", .double ⟨0⟩)], timestamp := some 0 }

/-- The connected sensor subscribed to `telemetry.*.>`: the telemetry of every device. -/
def telemetryWatcher : GatewayClient (Except String Json) :=
  runOr (documentEnv passiveUser)
    (runOr (documentEnv passiveUser) (new sensorConfig) (connectInputs authAccepted))
    [.call (.subscribe "telemetry.*.>")]

/-- A subscription to `telemetry.*.>` receives no telemetry.  NATS matching and
`matchesPattern` accept `telemetry.sensor-1.temperature`, but `matchesSubject` takes its `>`
branch before its `*` branch and compares the prefix `telemetry.*.` literally: the frame is
counted and no handler is called. -/
theorem telemetry_wildcard_receives_nothing :
    natsMatch (dotTokens "telemetry.*.>") (dotTokens sensorTemperature.subject) = true ∧
      AuthManager.matchesPattern "telemetry.*.>" sensorTemperature.subject = true ∧
      telemetryWatcher.subscriptions.entries.map (·.2.subject) = ["telemetry.*.>"] ∧
      ((handleMessage (documentEnv passiveUser) (gatewayFrame sensorTemperature)).run
          telemetryWatcher).map (fun outcome =>
        (outcome.2.stats.messagesReceived, invokedCallbacks outcome.2.log)) =
        some (telemetryWatcher.stats.messagesReceived + 1, invokedCallbacks telemetryWatcher.log) := by
  decide

end GatewayClient

end GatewaySdk
