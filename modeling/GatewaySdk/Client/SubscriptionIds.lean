import GatewaySdk.Client.Subscriptions
import Mathlib.Data.List.Sort

/-!
# Subscription ids over whole runs

`subscribe` issues the id `nextSubscriptionId_++`, a `uint64_t` that starts at `1` and that no
other code moves, and an accepted `subscribe` returns that id to its caller; the log records
every id returned.  The counter moves at most once per `subscribe` call, and those calls come
from user threads and from callbacks, whose records in the log let a preorder count them.

`IssuesWithin` says that between two states the counter issued some ids, at most a budget plus
the calls of the callbacks logged in between, and that while their count does not pass `2^64`
the counter moved by exactly that count, the ids returned in between are among the ids issued,
in order, and every live subscription was live before or got one of the ids returned.  It is
`EngineTraced`, and a `subscribe` of a user thread spends one unit of the budget.

So over every run of a new client with fewer than `2^64` `subscribe` calls the ids returned are
increasing, hence pairwise distinct; every live subscription holds one of them, so the live ids
stand in the order `subscribe` returned them, which is the order of insertion; and the id the
next `subscribe` issues is not live.  With fewer than `2^64 − 1` calls every live id is also below
the counter.  That bound is tight: the `(2^64 − 1)`-th registration issues the id `2^64 − 1` and
wraps the counter to `0`, below that live id.
-/

namespace GatewaySdk

/-- Whether a public call is `subscribe`. -/
def ApiCall.isSubscribe : ApiCall → Bool
  | .subscribe _ => true
  | _ => false

namespace GatewayClient

variable {Text : Type} (env : Environment Text)

/-- The `subscribe` calls that the callbacks recorded in a log make. -/
def subscribeReactions (user : UserCode) (log : List ClientEvent) : Nat :=
  log.countP fun
    | .invoked callback _ => (user.reaction callback).any ApiCall.isSubscribe
    | _ => false

@[simp] theorem subscribeReactions_append (user : UserCode) (log more : List ClientEvent) :
    subscribeReactions user (log ++ more) =
      subscribeReactions user log + subscribeReactions user more :=
  List.countP_append _ _ _

/-- User code that makes no call makes no `subscribe` call. -/
@[simp] theorem subscribeReactions_passiveUser (log : List ClientEvent) :
    subscribeReactions passiveUser log = 0 := by
  simp only [subscribeReactions, List.countP_eq_zero]
  intro event _
  cases event <;> simp [passiveUser]

/-- Whether an input is a `subscribe` call of a user thread. -/
def subscribeInput : ClientInput Text → Bool
  | .call api => api.isSubscribe
  | _ => false

/-- The `subscribe` calls of user threads among a run's inputs. -/
def subscribeInputs (inputs : List (ClientInput Text)) : Nat :=
  inputs.countP subscribeInput

/-- From `client` to `next` the log grows, and the counter issues some `issued` ids, at most
`budget` plus the `subscribe` calls of the callbacks logged in between.  While the counter is a
`uint64_t` value and the ids issued do not pass `2^64`, the counter moves by exactly `issued`,
the ids returned in between are among those issued, in order, and every live subscription of
`next` was live in `client` or holds an id returned in between. -/
def IssuesWithin (user : UserCode) (budget : Nat) (client next : GatewayClient Text) : Prop :=
  ∃ added, next.log = client.log ++ added ∧
    ∃ issued ≤ budget + subscribeReactions user added,
      client.nextSubscriptionId < 2 ^ 64 → client.nextSubscriptionId + issued ≤ 2 ^ 64 →
        next.nextSubscriptionId = (client.nextSubscriptionId + issued) % 2 ^ 64 ∧
        (subscribedIds added).Sublist (List.range' client.nextSubscriptionId issued) ∧
        ∀ entry ∈ next.subscriptions.entries,
          entry ∈ client.subscriptions.entries ∨ entry.1 ∈ subscribedIds added

namespace IssuesWithin

variable {user : UserCode} {budget : Nat} {client middle next : GatewayClient Text}

/-- An update that keeps the counter, keeps or removes live subscriptions, and logs no id
returned issues nothing. -/
theorem keep {added : List ClientEvent} (budget : Nat) (grown : next.log = client.log ++ added)
    (quiet : subscribedIds added = [])
    (counter : next.nextSubscriptionId = client.nextSubscriptionId)
    (live : ∀ entry ∈ next.subscriptions.entries, entry ∈ client.subscriptions.entries) :
    IssuesWithin user budget client next :=
  ⟨added, grown, 0, Nat.zero_le _, fun below _ =>
    ⟨by rw [counter, Nat.add_zero, Nat.mod_eq_of_lt below], by simp [quiet],
      fun entry member => .inl (live entry member)⟩⟩

theorem refl (budget : Nat) (client : GatewayClient Text) :
    IssuesWithin user budget client client :=
  keep budget (List.append_nil _).symm rfl rfl fun _ member => member

theorem trans {more : Nat} (first : IssuesWithin user budget client middle)
    (second : IssuesWithin user more middle next) :
    IssuesWithin user (more + budget) client next := by
  obtain ⟨added, grown, issued, paid, moved⟩ := first
  obtain ⟨added', grown', issued', paid', moved'⟩ := second
  refine ⟨added ++ added', by simp [grown', grown], issued + issued', by simp; omega,
    fun below fits => ?_⟩
  obtain ⟨counter, returned, live⟩ := moved below (by omega)
  have middleBelow : middle.nextSubscriptionId < 2 ^ 64 := counter ▸ Nat.mod_lt _ (by norm_num)
  -- Either the first stretch left the counter unwrapped, or it issued the last id and the
  -- second stretch issues none.
  have resumed : issued' = 0 ∨ middle.nextSubscriptionId = client.nextSubscriptionId + issued := by
    rcases Nat.lt_or_ge (client.nextSubscriptionId + issued) (2 ^ 64) with small | full
    · exact .inr (counter.trans (Nat.mod_eq_of_lt small))
    · exact .inl (by omega)
  obtain ⟨counter', returned', live'⟩ := moved' middleBelow (by omega)
  refine ⟨by rw [counter', counter, Nat.mod_add_mod, Nat.add_assoc], ?_, fun entry member => ?_⟩
  · have later : (subscribedIds added').Sublist
        (List.range' (client.nextSubscriptionId + issued) issued') := by
      rcases resumed with none | unwrapped
      · simpa [none] using returned'
      · rwa [← unwrapped]
    rw [subscribedIds_append, Nat.add_comm issued, ← List.range'_append_1]
    exact returned.append later
  · rcases live' entry member with old | fresh
    · rcases live entry old with older | returnedFirst
      · exact .inl older
      · exact .inr (by simp [returnedFirst])
    · exact .inr (by simp [fresh])

/-- An accepted `subscribe`: the registration of a fresh subscription under the counter, the
record of its Subscribe envelope, and the record of the id returned. -/
theorem accepted (subject : String) (message : Message)
    (grown : next.log = client.log ++ [.sent message true, .subscribed client.nextSubscriptionId])
    (counter : next.nextSubscriptionId = (client.nextSubscriptionId + 1) % 2 ^ 64)
    (registry : next.subscriptions = (client.register subject).subscriptions) :
    IssuesWithin user 1 client next := by
  refine ⟨_, grown, 1, Nat.le_add_right _ _, fun _ _ => ⟨counter, by simp [subscribedIds], ?_⟩⟩
  intro entry member
  rw [registry] at member
  rcases mem_mapInsert _ _ _ member with rfl | old
  · exact .inr (by simp [subscribedIds])
  · exact .inl old

/-- A `subscribe` rolled back: the registration, then its erasure. -/
theorem rolledBack (subject : String) (message : Message)
    (grown : next.log = client.log ++ [.sent message false])
    (counter : next.nextSubscriptionId = (client.nextSubscriptionId + 1) % 2 ^ 64)
    (registry : next.subscriptions =
      ((client.register subject).unregister client.nextSubscriptionId subject).subscriptions) :
    IssuesWithin user 1 client next := by
  refine ⟨_, grown, 1, Nat.le_add_right _ _, fun _ _ => ⟨counter, by simp [subscribedIds], ?_⟩⟩
  intro entry member
  rw [registry] at member
  obtain ⟨inserted, kept⟩ := List.mem_filter.mp member
  rcases mem_mapInsert _ _ _ inserted with rfl | old
  · simp at kept
  · exact .inl old

/-- The record of a callback pays for the public call that follows it. -/
theorem after_record {callback : UserCallback} {underLock : Bool}
    (rest : IssuesWithin user budget
      { client with log := client.log ++ [.invoked callback underLock] } next)
    (paid : budget ≤ subscribeReactions user [.invoked callback underLock]) :
    IssuesWithin user 0 client next := by
  obtain ⟨added, grown, issued, within, moved⟩ := rest
  refine ⟨.invoked callback underLock :: added, by simp [grown], issued, ?_,
    fun below fits => ?_⟩
  · have : subscribeReactions user (.invoked callback underLock :: added) =
        subscribeReactions user [.invoked callback underLock] + subscribeReactions user added :=
      subscribeReactions_append user [.invoked callback underLock] added
    omega
  · obtain ⟨counter, returned, live⟩ := moved below fits
    exact ⟨counter, by simpa using returned, fun entry member => by simpa using live entry member⟩

end IssuesWithin

/-- The public calls other than `subscribe` issue no id. -/
theorem issuesWithin_callTraced :
    CallTraced (IssuesWithin env.user 0 : GatewayClient Text → GatewayClient Text → Prop) where
  refl := IssuesWithin.refl 0
  trans _ _ _ first second := first.trans second
  frame _ _ _ _ _ _ subscriptions _ counter log :=
    IssuesWithin.keep 0 (log.trans (List.append_nil _).symm) rfl counter (by simp [subscriptions])
  sent _ _ _ := IssuesWithin.keep 0 rfl rfl rfl fun _ member => member
  unregister client id subject := IssuesWithin.keep 0 (List.append_nil _).symm rfl rfl
    fun _ member => (List.mem_filter.mp member).1

/-- `subscribe` issues one id at most: refused, it changes nothing; accepted, it registers and
returns the id; and rolled back, it registers and erases again. -/
theorem subscribe_issuesWithin (subject : String) :
    Guarantees (IssuesWithin env.user 1) (subscribe env subject) := by
  intro client result final ran
  cases free : client.lockHeld
  case true => simp [subscribe, withLock_run_of_held free] at ran
  case false =>
    by_cases refused : client.state ≠ .connected ∨ Protocol.isValidSubject subject = false
    · obtain ⟨failure, refusedRun⟩ := subscribe_refused env free refused
      obtain ⟨-, rfl⟩ := Prod.mk.inj (Option.some.inj (refusedRun.symm.trans ran))
      exact IssuesWithin.refl 1 client
    · simp only [not_or, not_not, Bool.not_eq_false] at refused
      obtain ⟨connected, valid⟩ := refused
      cases transportFree : client.transportLockHeld with
      | true => simp [subscribe_blocked env free transportFree connected valid] at ran
      | false =>
        by_cases opened : client.transport.state = .connected
        · rw [subscribe_accepted env free transportFree connected valid opened] at ran
          obtain ⟨-, rfl⟩ := Prod.mk.inj (Option.some.inj ran)
          exact IssuesWithin.accepted subject _ rfl rfl rfl
        · rw [subscribe_rolled_back env free transportFree connected valid opened] at ran
          obtain ⟨-, rfl⟩ := Prod.mk.inj (Option.some.inj ran)
          exact IssuesWithin.rolledBack subject _ rfl rfl rfl

/-- A public call issues one id at most when it is `subscribe`, and none otherwise. -/
theorem call_issuesWithin (api : ApiCall) :
    Guarantees (IssuesWithin env.user (if api.isSubscribe then 1 else 0)) (call env api) := by
  cases api
  case subscribe subject => exact Guarantees.discard (subscribe_issuesWithin env subject)
  all_goals exact call_traced_of_not_subscribe env (issuesWithin_callTraced env) fun _ => nofun

/-- A callback issues no more ids than its own `subscribe` call, which its record counts. -/
theorem invoke_issuesWithin (callback : UserCallback) :
    Guarantees (IssuesWithin env.user 0) (invoke env callback) := by
  intro client result final ran
  rcases invoke_cases env ran with ⟨-, rfl⟩ | ⟨-, -, rfl⟩ | ⟨-, api, reacts, called⟩
  · exact IssuesWithin.refl 0 _
  · exact IssuesWithin.after_record (IssuesWithin.refl 0 _) (Nat.zero_le _)
  · refine IssuesWithin.after_record (call_issuesWithin env api _ _ _ called) ?_
    simp [subscribeReactions, List.countP_cons, reacts]

/-- The handlers issue ids only through the callbacks' calls. -/
theorem issuesWithin_handlerTraced : HandlerTraced env (IssuesWithin env.user 0) :=
  { issuesWithin_callTraced env with
    state := fun _ _ => IssuesWithin.keep 0 (List.append_nil _).symm rfl rfl fun _ member => member
    invokes := fun callback _ _ => invoke_issuesWithin env callback }

/-- The whole engine issues ids only through the callbacks' calls. -/
theorem issuesWithin_engineTraced : EngineTraced env (IssuesWithin env.user 0) :=
  have traced := issuesWithin_handlerTraced env
  have kept : ∀ (client next : GatewayClient Text), next.log = client.log →
      next.nextSubscriptionId = client.nextSubscriptionId →
      next.subscriptions = client.subscriptions → IssuesWithin env.user 0 client next :=
    fun _ _ log counter subscriptions =>
      IssuesWithin.keep 0 (log.trans (List.append_nil _).symm) rfl counter (by simp [subscriptions])
  { traced with
    auth := fun client _ => kept client _ rfl rfl rfl
    disablePolicy := fun client => kept client _ rfl rfl rfl
    connectRecord := fun _ => IssuesWithin.keep 0 rfl rfl rfl fun _ member => member
    disconnectRecord := fun _ _ => IssuesWithin.keep 0 rfl rfl rfl fun _ member => member
    authReplies := handleAuthMessage_traced env traced (fun client _ => kept client _ rfl rfl rfl)
      (fun client => kept client _ rfl rfl rfl) (invoke_issuesWithin env _)
    reconnects := processReconnection_traced env traced (fun client _ => kept client _ rfl rfl rfl)
      fun _ => invoke_issuesWithin env _ }

/-- A run issues ids only through the `subscribe` calls of its inputs and of the callbacks it
logs. -/
theorem run_issuesWithin {client final : GatewayClient Text} {inputs : List (ClientInput Text)}
    (ran : run env client inputs = some final) :
    IssuesWithin env.user (subscribeInputs inputs) client final := by
  induction inputs generalizing client with
  | nil =>
    obtain rfl := Option.some.inj ran
    exact IssuesWithin.refl _ client
  | cons input rest ih =>
    obtain ⟨result, middle, stepped, later⟩ := run_cons_eq_some env ran
    have first : IssuesWithin env.user (if subscribeInput input then 1 else 0) client middle := by
      cases input
      case call api => exact call_issuesWithin env api client result middle stepped
      all_goals
        refine operation_traced env (issuesWithin_engineTraced env) ?_ client result middle stepped
        exact fun _ => nofun
    rw [subscribeInputs, List.countP_cons]
    exact first.trans (ih later)

/-- What a run of a new client with fewer than `2^64` `subscribe` calls issued: some `issued`
ids below `2^64`, the counter at `1 + issued` modulo `2^64`, the ids returned among `1`, …,
`issued` in order, and every live id one of those returned. -/
theorem run_issued {config : GatewayConfig} {inputs : List (ClientInput Text)}
    {final : GatewayClient Text} (ran : run env (new config) inputs = some final)
    (few : subscribeInputs inputs + subscribeReactions env.user final.log < 2 ^ 64) :
    ∃ issued ≤ subscribeInputs inputs + subscribeReactions env.user final.log,
      final.nextSubscriptionId = (1 + issued) % 2 ^ 64 ∧
      (subscribedIds final.log).Sublist (List.range' 1 issued) ∧
      ∀ entry ∈ final.subscriptions.entries, entry.1 ∈ subscribedIds final.log := by
  obtain ⟨added, grown, issued, paid, moved⟩ := run_issuesWithin env ran
  obtain rfl : added = final.log := by simpa [new] using grown.symm
  obtain ⟨counter, returned, live⟩ := moved (by simp [new]) (by simp only [new]; omega)
  exact ⟨issued, paid, counter, returned, fun entry member =>
    (live entry member).resolve_left (by simp [new, SubscriptionMap.empty])⟩

/-- Over every run of a new client with fewer than `2^64` `subscribe` calls, from user threads
and from callbacks, the ids `subscribe` returned are increasing, so pairwise distinct, every live
subscription holds one of them, and the id the next `subscribe` issues is not live: no
`subscribe` overwrites a live record.  With fewer than `2^64 − 1` calls, every live id is below
the counter. -/
theorem subscription_ids_distinct {config : GatewayConfig} {inputs : List (ClientInput Text)}
    {final : GatewayClient Text} (ran : run env (new config) inputs = some final)
    (few : subscribeInputs inputs + subscribeReactions env.user final.log < 2 ^ 64) :
    (subscribedIds final.log).Pairwise (· < ·) ∧
      (∀ entry ∈ final.subscriptions.entries, entry.1 ∈ subscribedIds final.log) ∧
      final.subscriptions.find? final.nextSubscriptionId = none ∧
      (subscribeInputs inputs + subscribeReactions env.user final.log < 2 ^ 64 - 1 →
        ∀ entry ∈ final.subscriptions.entries, entry.1 < final.nextSubscriptionId) := by
  obtain ⟨issued, paid, counter, returned, live⟩ := run_issued env ran few
  have small : issued < 2 ^ 64 := by omega
  have range : ∀ entry ∈ final.subscriptions.entries, 1 ≤ entry.1 ∧ entry.1 < 1 + issued :=
    fun entry member => List.mem_range'_1.mp (returned.subset (live entry member))
  refine ⟨(List.pairwise_lt_range' 1 issued).sublist returned, live, ?_, fun fewer entry member => ?_⟩
  · cases found : final.subscriptions.find? final.nextSubscriptionId with
    | none => rfl
    | some sub =>
      have key : 1 ≤ final.nextSubscriptionId ∧ final.nextSubscriptionId < 1 + issued :=
        range _ ((SubscriptionMap.find?_eq_some_iff _ _ _).mp found)
      rcases Nat.lt_or_ge (1 + issued) (2 ^ 64) with unwrapped | wrapped
      · rw [counter, Nat.mod_eq_of_lt unwrapped] at key
        omega
      · rw [counter, show 1 + issued = 2 ^ 64 by omega, Nat.mod_self] at key
        omega
  · have bounds := range entry member
    rw [counter, Nat.mod_eq_of_lt (by omega)]
    exact bounds.2

/-- The inputs that take a new sensor to `orphanedSensor`. -/
theorem orphanedSensor_run :
    run (documentEnv passiveUser) (new sensorConfig) (connectInputs authAccepted ++
      [.call (.subscribe "factory.line1.cmd"), .call (.subscribe "factory.line1.cmd"),
        .call (.unsubscribe 1)]) = some orphanedSensor :=
  run_eq_some_runOr _ (by decide)

/-- Two ids issued by user threads, one of them unsubscribed since: the ids returned are `1`
and `2`, and the live one is the second. -/
theorem orphaned_sensor_ids_distinct :
    let inputs : List (ClientInput (Except String Json)) :=
      connectInputs authAccepted ++ [.call (.subscribe "factory.line1.cmd"),
        .call (.subscribe "factory.line1.cmd"), .call (.unsubscribe 1)]
    run (documentEnv passiveUser) (new sensorConfig) inputs = some orphanedSensor ∧
      subscribeInputs inputs + subscribeReactions passiveUser orphanedSensor.log < 2 ^ 64 ∧
      ((subscribedIds orphanedSensor.log).Pairwise (· < ·) ∧
        (∀ entry ∈ orphanedSensor.subscriptions.entries,
          entry.1 ∈ subscribedIds orphanedSensor.log) ∧
        orphanedSensor.subscriptions.find? orphanedSensor.nextSubscriptionId = none ∧
        (subscribeInputs inputs + subscribeReactions passiveUser orphanedSensor.log < 2 ^ 64 - 1 →
          ∀ entry ∈ orphanedSensor.subscriptions.entries,
            entry.1 < orphanedSensor.nextSubscriptionId)) :=
  have few : subscribeInputs (connectInputs authAccepted ++
      [(.call (.subscribe "factory.line1.cmd") : ClientInput (Except String Json)),
        .call (.subscribe "factory.line1.cmd"), .call (.unsubscribe 1)]) +
        subscribeReactions passiveUser orphanedSensor.log < 2 ^ 64 := by
    rw [subscribeReactions_passiveUser]
    decide
  ⟨orphanedSensor_run, few,
    subscription_ids_distinct (documentEnv passiveUser) orphanedSensor_run few⟩

/-- Over every run of a new client with fewer than `2^64` `subscribe` calls, the live ids, in the
map's increasing order, stand in the order in which `subscribe` returned them. -/
theorem live_ids_in_return_order {config : GatewayConfig} {inputs : List (ClientInput Text)}
    {final : GatewayClient Text} (ran : run env (new config) inputs = some final)
    (few : subscribeInputs inputs + subscribeReactions env.user final.log < 2 ^ 64) :
    (final.subscriptions.entries.map Prod.fst).Sublist (subscribedIds final.log) := by
  obtain ⟨issued, -, -, returned, live⟩ := run_issued env ran few
  have keysSorted : (final.subscriptions.entries.map Prod.fst).Sorted (· < ·) :=
    List.pairwise_map.mpr final.subscriptions.sorted
  refine List.sublist_of_subperm_of_sorted (List.subperm_of_subset keysSorted.nodup ?_) keysSorted
    ((List.pairwise_lt_range' 1 issued).sublist returned)
  intro id member
  obtain ⟨entry, entryMember, rfl⟩ := List.mem_map.mp member
  exact live entry entryMember

/-- `n` accepted `subscribe` calls of a user thread, from a connected client whose mutexes are
free and whose transport is open, move the counter by `n` modulo `2^64`, and the last one
leaves the id it issued live. -/
theorem run_subscribes {subject : String} (valid : Protocol.isValidSubject subject = true)
    (n : Nat) {client : GatewayClient Text} (connected : client.state = .connected)
    (opened : client.transport.state = .connected) (free : client.lockHeld = false)
    (transportFree : client.transportLockHeld = false)
    (fits : client.nextSubscriptionId < 2 ^ 64) :
    ∃ final, run env client (List.replicate n (.call (.subscribe subject))) = some final ∧
      final.nextSubscriptionId = (client.nextSubscriptionId + n) % 2 ^ 64 ∧
      (0 < n → final.subscriptions.find? ((client.nextSubscriptionId + n - 1) % 2 ^ 64) =
        some { id := (client.nextSubscriptionId + n - 1) % 2 ^ 64, subject }) := by
  induction n generalizing client with
  | zero => exact ⟨client, rfl, (Nat.mod_eq_of_lt fits).symm, nofun⟩
  | succ n ih =>
    have accepted := subscribe_accepted env free transportFree connected valid opened
    obtain ⟨final, ran, counter, last⟩ := @ih { client.register subject with
      transport := { client.transport with sendQueue := client.transport.sendQueue ++
        [Protocol.serialize env.codec (.subscribe subject) client.clock.system] }
      log := client.log ++ [.sent (.subscribe subject) true, .subscribed client.nextSubscriptionId] }
      connected opened free transportFree (Nat.mod_lt _ (by norm_num))
    refine ⟨final, ?_, ?_, fun _ => ?_⟩
    · simp [List.replicate_succ, run, step, operation, call, discard_run, accepted, ran]
    · simp only [counter, register]
      omega
    · rcases n with _ | n
      · obtain rfl : _ = final := Option.some.inj ran
        simp only [Nat.zero_add, Nat.add_sub_cancel, Nat.mod_eq_of_lt fits]
        simp [register]
      · have index : ((client.nextSubscriptionId + 1) % 2 ^ 64 + (n + 1) - 1) % 2 ^ 64 =
            (client.nextSubscriptionId + (n + 1 + 1) - 1) % 2 ^ 64 := by
          omega
        simpa only [register, index] using last (Nat.succ_pos n)

/-- The connected sensor subscribes to its line's commands `2^64 − 1` times, fewer than `2^64`
calls: the last call issues the id `2^64 − 1` and wraps the counter to `0`, below that live
id. -/
theorem subscription_counter_wraps :
    ∃ final, run (documentEnv passiveUser) (new sensorConfig) (connectInputs authAccepted ++
        List.replicate (2 ^ 64 - 1) (.call (.subscribe "factory.line1.cmd"))) = some final ∧
      final.nextSubscriptionId = 0 ∧
      final.subscriptions.find? (2 ^ 64 - 1) =
        some { id := 2 ^ 64 - 1, subject := "factory.line1.cmd" } := by
  have connected : (runOr (documentEnv passiveUser) (new sensorConfig)
      (connectInputs authAccepted)).state = .connected ∧
      (runOr (documentEnv passiveUser) (new sensorConfig)
        (connectInputs authAccepted)).transport.state = .connected ∧
      (runOr (documentEnv passiveUser) (new sensorConfig)
        (connectInputs authAccepted)).lockHeld = false ∧
      (runOr (documentEnv passiveUser) (new sensorConfig)
        (connectInputs authAccepted)).transportLockHeld = false ∧
      (runOr (documentEnv passiveUser) (new sensorConfig)
        (connectInputs authAccepted)).nextSubscriptionId = 1 := by
    decide
  obtain ⟨state, opened, free, transportFree, counter⟩ := connected
  obtain ⟨final, ran, wrapped, last⟩ := run_subscribes (documentEnv passiveUser)
    (show Protocol.isValidSubject "factory.line1.cmd" = true by decide) (2 ^ 64 - 1) state opened
    free transportFree (by rw [counter]; norm_num)
  rw [counter] at wrapped last
  refine ⟨final, ?_, by rw [wrapped]; norm_num, by simpa using last (by norm_num)⟩
  rw [run_append_runOr _ _ (by decide), ran]

end GatewayClient

end GatewaySdk
