import GatewaySdk.Client.SubscriptionIds

/-!
# Resubscription on entering `Connected`

`setState(Connected)` from another state calls `onStateChanged`, then `resubscribeAll`, which
hands the transport a Subscribe envelope for each active subscription of `subscriptions_`, in
the map's id order, under the engine mutex.  `handleAuthMessage` calls `onConnected` only after
that.  So the Subscribe envelopes sent between an Auth success and `onConnected` are those of the
registry as `onStateChanged` left it.  When that callback makes no `subscribe` call, they are one
for each active subscription of that registry, in id order, and no other; the registry is the one
of the transition less what the callback unsubscribed, and exactly that one when the callback
makes no call.  A subscription removed before is not among them.  Over every run of a new client
the map's id order is the order in which `subscribe` returned the ids, which is the order of
insertion.

`onStateChanged` runs first, and it may call the client.  A subscription it makes is registered
before `resubscribeAll` reads the registry, so its Subscribe envelope goes out twice: once from
the call and once more from the resubscription.
-/

namespace GatewaySdk

/-- User code whose `onStateChanged` subscribes to its line's status whenever the client enters
`Connected`. -/
def statusSubscriber : UserCode :=
  { registered := fun _ => true
    reaction := fun
      | .stateChanged _ .connected => some (.subscribe "factory.line1.status")
      | _ => none }

namespace GatewayClient

variable {Text : Type} (env : Environment Text) {client : GatewayClient Text}

/-- The Subscribe envelopes a log shows handed to the transport. -/
def subscribeEnvelopes (log : List ClientEvent) : List Message :=
  (sentMessages log).filter (·.type == .subscribe)

@[simp] theorem subscribeEnvelopes_append (log more : List ClientEvent) :
    subscribeEnvelopes (log ++ more) = subscribeEnvelopes log ++ subscribeEnvelopes more := by
  simp [subscribeEnvelopes, sentMessages]

@[simp] theorem subscribeEnvelopes_invoked (callback : UserCallback) (underLock : Bool) :
    subscribeEnvelopes [.invoked callback underLock] = [] :=
  rfl

/-- `publish` with both mutexes free returns with both free, and changes at most the transport,
the statistics and the log, by the record of its Publish envelope. -/
theorem publish_run_of_free (free : client.lockHeld = false)
    (transportFree : client.transportLockHeld = false) (subject : String) (payload : JsonValue) :
    ∃ result final, (publish env subject payload).run client = some (result, final) ∧
      final.lockHeld = false ∧ final.transportLockHeld = false ∧ final.policy = client.policy ∧
      final.subscriptions = client.subscriptions ∧
      (final.log = client.log ∨
        ∃ accepted, final.log = client.log ++ [.sent (.publish subject payload) accepted]) := by
  by_cases sendable : client.state = .connected ∧ Protocol.isValidSubject subject = true
  · obtain ⟨connected, valid⟩ := sendable
    cases sent : (client.transport.send
        (Protocol.serialize env.codec (.publish subject payload) client.clock.system)).2.toBool <;>
      simp [publish, withLock, lock, unlock, free, connected, valid, transportSend_run,
        transportFree, sent, record, and_assoc]
  · by_cases connected : client.state = .connected
    · have invalid : Protocol.isValidSubject subject = false := by simpa [connected] using sendable
      simp [publish, withLock, lock, unlock, free, connected, invalid, transportFree, and_assoc]
    · simp [publish, withLock, lock, unlock, free, connected, transportFree, and_assoc]

/-- `unsubscribe(id)` with both mutexes free returns with both free, and changes at most the
transport, the registry, by erasing, and the log, by the record of an Unsubscribe envelope. -/
theorem unsubscribe_run_of_free (free : client.lockHeld = false)
    (transportFree : client.transportLockHeld = false) (id : SubscriptionId) :
    ∃ result final, (unsubscribe env id).run client = some (result, final) ∧
      final.lockHeld = false ∧ final.transportLockHeld = false ∧ final.policy = client.policy ∧
      final.subscriptions.entries.Sublist client.subscriptions.entries ∧
      subscribeEnvelopes final.log = subscribeEnvelopes client.log := by
  cases found : client.subscriptions.find? id with
  | none => exact ⟨_, _, unsubscribe_missing env free found, free, transportFree, rfl,
      List.Sublist.refl _, rfl⟩
  | some sub =>
    refine ⟨_, _, unsubscribe_found env free transportFree found, ?_⟩
    by_cases connected : client.state = .connected <;>
      simp [connected, unregister, SubscriptionMap.erase, free, transportFree,
        subscribeEnvelopes, sentMessages, List.filter_sublist, Message.unsubscribe,
        show MessageType.unsubscribe ≠ .subscribe by decide]

/-- A public call other than `subscribe`, made with both mutexes free, returns with both free,
keeps the reconnect policy, keeps or erases registry entries, and hands the transport no
Subscribe envelope. -/
theorem call_run_of_not_subscribe {api : ApiCall} (other : ∀ subject, api ≠ .subscribe subject)
    (free : client.lockHeld = false) (transportFree : client.transportLockHeld = false) :
    ∃ final, (call env api).run client = some ((), final) ∧ final.lockHeld = false ∧
      final.transportLockHeld = false ∧ final.policy = client.policy ∧
      final.subscriptions.entries.Sublist client.subscriptions.entries ∧
      subscribeEnvelopes final.log = subscribeEnvelopes client.log := by
  cases api
  case publish subject payload =>
    obtain ⟨_, final, ran, stillFree, transportStillFree, samePolicy, sameRegistry, logged⟩ :=
      publish_run_of_free env free transportFree subject payload
    refine ⟨final, by simp [call, discard_run, ran], stillFree, transportStillFree, samePolicy,
      sameRegistry ▸ List.Sublist.refl _, ?_⟩
    rcases logged with same | ⟨accepted, grown⟩
    · rw [same]
    · simp [grown, subscribeEnvelopes, sentMessages, Message.publish,
        show MessageType.publish ≠ .subscribe by decide]
  case subscribe subject => exact absurd rfl (other subject)
  case unsubscribe id =>
    obtain ⟨_, final, ran, rest⟩ := unsubscribe_run_of_free env free transportFree id
    exact ⟨final, by simp [call, discard_run, ran], rest⟩
  case unsubscribeSubject subject =>
    cases looked : client.subjectToId.lookup subject with
    | none =>
      exact ⟨client, by simp [call, discard_run, unsubscribeSubject_run env free, looked], free,
        transportFree, rfl, List.Sublist.refl _, rfl⟩
    | some id =>
      obtain ⟨_, final, ran, rest⟩ := unsubscribe_run_of_free env free transportFree id
      exact ⟨final, by simp [call, discard_run, unsubscribeSubject_run env free, looked, ran], rest⟩
  all_goals exact ⟨client, by simp [call, discard_run, getSubscriptions, getStats,
    withLock_run_of_free free, unlocked_of_free free], free, transportFree, rfl,
    List.Sublist.refl _, rfl⟩

/-- The loop of `resubscribeAll`, with the transport mutex free, sends the Subscribe envelope
of each active entry in order, and nothing else. -/
theorem resubscribeEach_sends (entries : List (SubscriptionId × Subscription))
    (transportFree : client.transportLockHeld = false) :
    ∃ final, (resubscribeEach env entries).run client = some ((), final) ∧
      final.transportLockHeld = false ∧ final.subscriptions = client.subscriptions ∧
      sentMessages final.log = sentMessages client.log ++
        (entries.filter (·.2.active)).map fun entry => .subscribe entry.2.subject := by
  induction entries generalizing client with
  | nil => exact ⟨client, rfl, transportFree, rfl, by simp⟩
  | cons entry rest ih =>
    obtain ⟨id, sub⟩ := entry
    by_cases active : sub.active
    case pos =>
      obtain ⟨final, ran, stillFree, sameRegistry, sent⟩ := ih (show ({ client with
        transport := (client.transport.send (Protocol.serialize env.codec
          (.subscribe sub.subject) client.clock.system)).1
        log := client.log ++ [.sent (.subscribe sub.subject) (client.transport.send
          (Protocol.serialize env.codec (.subscribe sub.subject) client.clock.system)).2.toBool] } :
          GatewayClient Text).transportLockHeld = false from transportFree)
      refine ⟨final, ?_, stillFree, sameRegistry, ?_⟩
      · simp [resubscribeEach, active, discard_run, transportSend_run transportFree, ran]
      · rw [sent]
        simp [sentMessages, active]
    case neg =>
      obtain ⟨final, ran, stillFree, sameRegistry, sent⟩ := ih transportFree
      exact ⟨final, by simp [resubscribeEach, active, ran], stillFree, sameRegistry,
        by simp [sent, active]⟩

/-- `onStateChanged` on entering `Connected`, with both mutexes free and no `subscribe` call,
returns with both free, keeps the policy and hands the transport no Subscribe envelope; it keeps
or erases registry entries, and keeps the registry when it makes no call. -/
theorem invoke_stateChanged_run {old : ConnectionState} (free : client.lockHeld = false)
    (transportFree : client.transportLockHeld = false)
    (noSubscribe : ∀ subject, env.user.reaction (.stateChanged old .connected) ≠
      some (.subscribe subject)) :
    ∃ changed, (invoke env (.stateChanged old .connected)).run client = some ((), changed) ∧
      changed.lockHeld = false ∧ changed.transportLockHeld = false ∧
      changed.policy = client.policy ∧
      changed.subscriptions.entries.Sublist client.subscriptions.entries ∧
      (env.user.reaction (.stateChanged old .connected) = none →
        changed.subscriptions = client.subscriptions) ∧
      subscribeEnvelopes changed.log = subscribeEnvelopes client.log := by
  unfold invoke
  split
  · simp only [record, StateT.run_bind, StateT.run_get, StateT.run_modify, pure_bind]
    cases reacts : env.user.reaction (.stateChanged old .connected) with
    | none => exact ⟨_, rfl, free, transportFree, rfl, List.Sublist.refl _, fun _ => rfl, by simp⟩
    | some api =>
      obtain ⟨changed, ran, rest⟩ := call_run_of_not_subscribe env
        (fun subject same => noSubscribe subject (same ▸ reacts))
        (show ({ client with log := client.log ++ [.invoked (.stateChanged old .connected)
          client.lockHeld] } : GatewayClient Text).lockHeld = false from free) transportFree
      obtain ⟨stillFree, transportStillFree, samePolicy, erased, unsent⟩ := rest
      exact ⟨changed, ran, stillFree, transportStillFree, samePolicy, erased, nofun,
        by simpa using unsent⟩
  · exact ⟨client, rfl, free, transportFree, rfl, List.Sublist.refl _, fun _ => rfl, rfl⟩

/-- `setState(Connected)` from another state, with both mutexes free and an `onStateChanged`
that makes no `subscribe` call, sends, when the policy resubscribes, the Subscribe envelope of
each active subscription of the registry `onStateChanged` leaves, and no other. -/
theorem setState_connected_sends (free : client.lockHeld = false)
    (transportFree : client.transportLockHeld = false) (entering : client.state ≠ .connected)
    (noSubscribe : ∀ subject, env.user.reaction (.stateChanged client.state .connected) ≠
      some (.subscribe subject)) :
    ∃ final, (setState env .connected).run client = some ((), final) ∧
      final.subscriptions.entries.Sublist client.subscriptions.entries ∧
      (env.user.reaction (.stateChanged client.state .connected) = none →
        final.subscriptions = client.subscriptions) ∧
      subscribeEnvelopes final.log = subscribeEnvelopes client.log ++
        if client.policy.resubscribe then
          (final.subscriptions.entries.filter (·.2.active)).map fun entry =>
            .subscribe entry.2.subject
        else [] := by
  obtain ⟨changed, invoked, stillFree, transportStillFree, samePolicy, erased, kept, unsent⟩ :=
    invoke_stateChanged_run env
      (show ({ client with state := .connected } : GatewayClient Text).lockHeld = false from free)
      transportFree noSubscribe
  simp only [setState, StateT.run_bind, StateT.run_get, StateT.run_modify, pure_bind, ne_eq,
    entering, not_false_eq_true, if_true, invoked, Option.bind_eq_bind, Option.some_bind]
  unfold resubscribeAll
  simp only [StateT.run_bind, StateT.run_get, pure_bind, samePolicy]
  split
  case isTrue resubscribes =>
    obtain ⟨final, ran, -, sameRegistry, sent⟩ := resubscribeEach_sends env
      changed.subscriptions.entries
      (show ({ changed with lockHeld := true } : GatewayClient Text).transportLockHeld = false
        from transportStillFree)
    refine ⟨{ final with lockHeld := false }, by simp [withLock, lock, unlock, stillFree, ran],
      by simpa [sameRegistry] using erased, fun quiet => by simpa [sameRegistry] using kept quiet,
      ?_⟩
    simp only [subscribeEnvelopes] at unsent ⊢
    simp [sent, sameRegistry, resubscribes, unsent, Message.subscribe, List.filter_map,
      Function.comp_def]
  case isFalse stays =>
    exact ⟨changed, rfl, erased, kept, by simp [unsent, stays]⟩

/-- Between an Auth success that takes the client into `Connected` and its `onConnected`, with
both mutexes free and an `onStateChanged` that makes no `subscribe` call, the Subscribe envelopes
handed to the transport are, when the policy resubscribes, exactly those of the active
subscriptions of the registry, one each, in id order, and none otherwise: what is left of the
handler is `onConnected`.  That registry is the one of the transition less what `onStateChanged`
unsubscribed, and exactly that one when it makes no call.  And over every run of a new client
with fewer than `2^64` `subscribe` calls, the registry's id order is the order in which
`subscribe` returned the ids. -/
theorem resubscribed_before_onConnected :
    (∀ (client : GatewayClient Text) (message : Message) (auth : AuthManager),
      client.lockHeld = false → client.transportLockHeld = false → client.state ≠ .connected →
      client.auth.handleMessage message = (auth, true) → auth.isAuthenticated = true →
      (∀ subject, env.user.reaction (.stateChanged client.state .connected) ≠
        some (.subscribe subject)) →
      ∃ middle, (handleAuthMessage env message).run client = (invoke env .connected).run middle ∧
        middle.subscriptions.entries.Sublist client.subscriptions.entries ∧
        (env.user.reaction (.stateChanged client.state .connected) = none →
          middle.subscriptions = client.subscriptions) ∧
        subscribeEnvelopes middle.log = subscribeEnvelopes client.log ++
          if client.policy.resubscribe then
            (middle.subscriptions.entries.filter (·.2.active)).map fun entry =>
              .subscribe entry.2.subject
          else []) ∧
    ∀ (config : GatewayConfig) (inputs : List (ClientInput Text)) (final : GatewayClient Text),
      run env (new config) inputs = some final →
      subscribeInputs inputs + subscribeReactions env.user final.log < 2 ^ 64 →
      (final.subscriptions.entries.map Prod.fst).Sublist (subscribedIds final.log) := by
  refine ⟨fun client message auth free transportFree entering handles authenticated
    noSubscribe => ?_, fun _ _ _ ran few => live_ids_in_return_order env ran few⟩
  obtain ⟨final, ran, erased, kept, sent⟩ := setState_connected_sends env
    (show ({ client with auth, policy := client.policy.reset } :
      GatewayClient Text).lockHeld = false from free) transportFree entering noSubscribe
  exact ⟨{ final with stats := { final.stats with connectedAt := final.clock.system } },
    by simp [handleAuthMessage, handles, authenticated, ran], erased, kept, sent⟩

/-- A sensor that subscribed to its line's commands and was disconnected connects again: its
Auth success sends the one Subscribe envelope of the registry before `onConnected`.  And the
orphaned sensor's live id is the last one `subscribe` returned. -/
theorem reconnected_sensor_resubscribes :
    let client : GatewayClient (Except String Json) :=
      { new sensorConfig with
        state := .authenticating
        auth := { state := .authenticating }
        subscriptions := SubscriptionMap.empty.insert 1 { id := 1, subject := "factory.line1.cmd" }
        subjectToId := [("factory.line1.cmd", 1)]
        nextSubscriptionId := 2 }
    (∃ middle, (handleAuthMessage (documentEnv passiveUser) authAccepted).run client =
        (invoke (documentEnv passiveUser) .connected).run middle ∧
      middle.subscriptions.entries.Sublist client.subscriptions.entries ∧
      (passiveUser.reaction (.stateChanged client.state .connected) = none →
        middle.subscriptions = client.subscriptions) ∧
      subscribeEnvelopes middle.log = subscribeEnvelopes client.log ++
        if client.policy.resubscribe then
          (middle.subscriptions.entries.filter (·.2.active)).map fun entry =>
            .subscribe entry.2.subject
        else []) ∧
    (orphanedSensor.subscriptions.entries.map Prod.fst).Sublist
      (subscribedIds orphanedSensor.log) :=
  ⟨(resubscribed_before_onConnected (documentEnv passiveUser)).1 _ authAccepted _ rfl rfl
      (by decide) (Prod.ext rfl (by decide)) (by decide) nofun,
    (resubscribed_before_onConnected (documentEnv passiveUser)).2 sensorConfig
      (connectInputs authAccepted ++ [.call (.subscribe "factory.line1.cmd"),
        .call (.subscribe "factory.line1.cmd"), .call (.unsubscribe 1)]) orphanedSensor
      orphanedSensor_run (by simp only [documentEnv, subscribeReactions_passiveUser]; decide)⟩

/-- A sensor whose `onStateChanged` subscribes to its line's status on entering `Connected`
connects with an empty registry: the Subscribe envelope of that subscription goes out twice,
once from the callback's call and once from `resubscribeAll`, before `onConnected`. -/
theorem state_callback_subscription_sent_twice :
    ((new sensorConfig).run (documentEnv statusSubscriber) (connectInputs authAccepted)).map
      (fun final => (sentMessages final.log, final.subscriptions.entries.map Prod.fst,
        (invokedCallbacks final.log).getLast?.map Prod.fst)) =
      some ([AuthManager.createAuthRequest sensorConfig, .subscribe "factory.line1.status",
        .subscribe "factory.line1.status"], [1], some .connected) := by
  rw [show connectInputs authAccepted = [.connect .established, .resumeConnect 0] ++
      [.receive (gatewayFrame authAccepted), .resumeConnect 0] from rfl,
    run_append_runOr _ [.connect .established, .resumeConnect 0] (by decide)]
  decide

end GatewayClient

end GatewaySdk
