import GatewaySdk.Client.Reentrancy

/-!
# Demo programs on the gateway

The programs under `src/demo` are clients of the SDK.  Each subscribes handlers to subjects
once connected, publishes from its main loop, and calls `client.poll` on that same loop, so its
handlers run on its main thread.  This module models what the SDK does with such a program.

`GatewayClient::Impl::handleSubscriptionMessage` runs the handlers with the engine mutex held,
and `publish` takes that mutex first: a handler that publishes blocks its polling thread for
good (the deadlock of `handler_publish_deadlocks`).  A process is therefore its program state,
the messages the gateway has queued for it, and whether its polling thread is blocked.  Every
handler of the demos changes its program's state before it first publishes, so a handler is
modelled by the state it leaves and the messages it would publish.  The process's dispatch loop
is the engine's seen from the program: when the client's registry holds the program's
subscriptions and its user code calls back exactly where a handler publishes, the process
blocks exactly when the engine's polling thread deadlocks
(`hung_iff_handleSubscriptionMessage_deadlocks`).

The programs compute with doubles: speeds, ramps and tolerances.  A double is kept as the bits
of `Binary64`, the type the JSON values carry, and the IEEE 754 operations the code performs are
a parameter (`DoubleArith`).  No property below depends on what those operations return, so
each holds of the arithmetic of the machine.
-/

namespace GatewaySdk

/-- The operations on doubles that the demo programs perform: `+`, `-`, `*`, `/`, `<`, `<=`,
`std::abs` and the conversion of an integer. -/
structure DoubleArith where
  add : Binary64 → Binary64 → Binary64
  sub : Binary64 → Binary64 → Binary64
  mul : Binary64 → Binary64 → Binary64
  div : Binary64 → Binary64 → Binary64
  lt : Binary64 → Binary64 → Bool
  le : Binary64 → Binary64 → Bool
  abs : Binary64 → Binary64
  ofInt64 : Int → Binary64

namespace DoubleArith

variable (arith : DoubleArith)

/-- `std::min(a, b)`: `b` when `b < a`, else `a`. -/
def min (a b : Binary64) : Binary64 := if arith.lt b a then b else a

/-- `std::max(a, b)`: `b` when `a < b`, else `a`. -/
def max (a b : Binary64) : Binary64 := if arith.lt a b then b else a

/-- An arithmetic that computes nothing: each operation gives back its first operand, and no
comparison holds.  A run that computes and compares no double reaches the same states under
it as under any other arithmetic. -/
def inert : DoubleArith :=
  { add := fun a _ => a, sub := fun a _ => a, mul := fun a _ => a, div := fun a _ => a
    lt := fun _ _ => false, le := fun _ _ => false, abs := id, ofInt64 := fun _ => ⟨0⟩ }

end DoubleArith

/-- The double `0.0`: every bit clear. -/
def Binary64.zero : Binary64 := ⟨0⟩

/-- `JsonValue::asDouble`: an integer converted, the stored double, or the field's default
`0.0` for the other types. -/
def JsonValue.asDouble (arith : DoubleArith) : JsonValue → Binary64
  | .int value => arith.ofInt64 value
  | .double value => value
  | _ => .zero

/-- `JsonValue::asInt`: the stored integer, or the field's default `0` for the other types. -/
def JsonValue.asInt : JsonValue → Int
  | .int value => value
  | _ => 0

@[simp] theorem Message.publish_subject (subject : String) (payload : JsonValue) :
    (Message.publish subject payload).subject = subject := rfl

@[simp] theorem Message.publish_payload (subject : String) (payload : JsonValue) :
    (Message.publish subject payload).payload = payload := rfl

/-- An object built as the demos build their payloads: `JsonValue::object()`, then
`value[key] = entry` for each field in order. -/
def jsonObject (fields : List (String × JsonValue)) : JsonValue :=
  fields.foldl (fun object field => object.set field.1 field.2) (.object [])

private theorem foldl_set_object (fields : List (String × JsonValue))
    (entries : List (String × JsonValue)) :
    ∃ built : List (String × JsonValue),
      fields.foldl (fun (object : JsonValue) (field : String × JsonValue) => object.set field.1 field.2)
        (.object entries) = .object built ∧
      ∀ key, built.lookup key = (fields.reverse.lookup key).or (entries.lookup key) := by
  induction fields generalizing entries with
  | nil => exact ⟨entries, rfl, fun _ => rfl⟩
  | cons field fields ih =>
    obtain ⟨name, entry⟩ := field
    obtain ⟨built, folded, lookups⟩ :=
      ih (mapInsert (fun a b => stringLess a.data b.data) name entry entries)
    refine ⟨built, folded, fun key => ?_⟩
    rw [lookups, lookup_mapInsert, List.reverse_cons, List.lookup_append, lookup_cons_eq_ite]
    cases fields.reverse.lookup key <;> by_cases same : key = name <;> simp [same]

/-- A field of a built payload is the last value written to it. -/
@[simp] theorem get_jsonObject (fields : List (String × JsonValue)) (key : String) :
    (jsonObject fields).get key = (fields.reverse.lookup key).getD .null := by
  obtain ⟨built, folded, lookups⟩ := foldl_set_object fields []
  rw [jsonObject, folded, JsonValue.get, lookups]
  cases fields.reverse.lookup key <;> rfl

@[simp] theorem contains_jsonObject (fields : List (String × JsonValue)) (key : String) :
    (jsonObject fields).contains key = (fields.reverse.lookup key).isSome := by
  obtain ⟨built, folded, lookups⟩ := foldl_set_object fields []
  rw [jsonObject, folded, JsonValue.contains, lookups]
  cases fields.reverse.lookup key <;> rfl

/-- Inserting keys in increasing order builds the object with those entries. -/
theorem jsonObject_of_ascending (fields : List (String × JsonValue))
    (ascending : JsonValue.KeysAscending (fields.map Prod.fst)) :
    jsonObject fields = .object fields := by
  suffices built : ∀ acc : List (String × JsonValue),
      JsonValue.KeysAscending (acc.map Prod.fst ++ fields.map Prod.fst) →
        fields.foldl (fun (object : JsonValue) (field : String × JsonValue) =>
          object.set field.1 field.2) (.object acc) = .object (acc ++ fields) from
    built [] ascending
  clear ascending
  induction fields with
  | nil => exact fun acc _ => by simp
  | cons field rest ih =>
    intro acc sorted
    have above : ∀ other ∈ acc, stringLess other.1.data field.1.data = true := fun other member =>
      (List.pairwise_append.mp sorted).2.2 _ (List.mem_map_of_mem _ member) _
        (List.mem_cons_self _ _)
    rw [List.foldl_cons, JsonValue.set, mapInsert_of_above above, ih _ (by simpa using sorted)]
    simp

/-- Congruent values wrap to the same integer. -/
theorem signedWrap_congr {width : Nat} {a b : Int} (same : a % 2 ^ width = b % 2 ^ width) :
    signedWrap width a = signedWrap width b := by
  simp only [signedWrap, same]

/-- A pattern with neither wildcard matches only itself. -/
theorem matchesSubject_literal {pattern subject : String}
    (noGt : pattern.data.getLast? ≠ some '>') (noStar : '*' ∉ pattern.data) :
    GatewayClient.matchesSubject pattern subject = true ↔ pattern = subject := by
  by_cases same : pattern = subject <;> simp [GatewayClient.matchesSubject, same, noGt, noStar]

/-- What a subject that a pattern without `*` matches starts with: the pattern before its final
`>`, or the whole pattern when it has no `>`. -/
def literalFront (pattern : String) : List Char :=
  if pattern.data.getLast? = some '>' then pattern.data.dropLast else pattern.data

theorem literalFront_isPrefix_of_matches {pattern subject : String} (noStar : '*' ∉ pattern.data)
    (matched : GatewayClient.matchesSubject pattern subject = true) :
    literalFront pattern <+: subject.data := by
  by_cases same : pattern = subject
  · subst same
    unfold literalFront
    split
    · exact List.dropLast_prefix _
    · exact List.prefix_refl _
  · by_cases gt : pattern.data.getLast? = some '>'
    · simp only [GatewayClient.matchesSubject, same, gt, if_false, if_true,
        List.isPrefixOf_iff_prefix] at matched
      simpa [literalFront, gt] using matched
    · simp [GatewayClient.matchesSubject, same, gt, noStar] at matched

/-- Two patterns without `*` whose fronts are not prefixes one of the other match no subject
in common. -/
theorem matchesSubject_exclusive {pattern other subject : String}
    (noStar : '*' ∉ pattern.data) (otherNoStar : '*' ∉ other.data)
    (apart : (literalFront pattern).isPrefixOf (literalFront other) = false ∧
      (literalFront other).isPrefixOf (literalFront pattern) = false)
    (matched : GatewayClient.matchesSubject pattern subject = true) :
    GatewayClient.matchesSubject other subject = false := by
  rw [Bool.eq_false_iff]
  intro otherMatched
  rcases List.prefix_or_prefix_of_prefix (literalFront_isPrefix_of_matches noStar matched)
    (literalFront_isPrefix_of_matches otherNoStar otherMatched) with before | after
  · simp [← List.isPrefixOf_iff_prefix, apart.1] at before
  · simp [← List.isPrefixOf_iff_prefix, apart.2] at after

namespace Demo

/-- The fields of `DemoConfig` (`demo_utils.h`) that the modelled programs read; the gateway's
address and its TLS flag go to the client's configuration, and the product is never read. -/
structure DemoConfig where
  lineId : String
  lineName : String
  batchId : String
  lotNumber : String
  targetCount : Int

/-- `loadDemoConfig`: the defaults it sets, whatever the path. -/
def loadDemoConfig : DemoConfig :=
  { lineId := "line1", lineName := "Packaging Line 1", batchId := "BATCH-2024-001"
    lotNumber := "LOT-A7823", targetCount := 10000 }

/-- A subscription handler: given the clock's reading and the delivered message, the program
state it leaves and the messages it publishes, in order.  The reading is the text of
`getTimestamp()`, or the steady clock for the programs whose handlers read that one. -/
abbrev Handler (σ : Type) (τ : Type := String) := τ → Message → σ → σ × List Message

/-- A demo program as the gateway sees it. -/
structure Process (σ : Type) where
  state : σ
  /-- The messages the gateway has routed to this client and the client has not read yet. -/
  inbox : List Message := []
  /-- The polling thread is blocked on the engine mutex inside a handler. -/
  hung : Bool := false

variable {σ τ : Type}

/-- One turn of the loop of `handleSubscriptionMessage`: the subscription's handler runs when
the process is not blocked and `matchesSubject` accepts the subject; if it publishes, the
process blocks there. -/
def dispatchTo (timestamp : τ) (message : Message) (process : Process σ)
    (subscription : String × Handler σ τ) : Process σ :=
  if !process.hung && GatewayClient.matchesSubject subscription.1 message.subject then
    let result := subscription.2 timestamp message process.state
    { process with state := result.1, hung := !result.2.isEmpty }
  else process

/-- `handleSubscriptionMessage` for a program whose subscriptions are all active, as in every
demo: the handlers in subscription order. -/
def handleSubscriptionMessage (subscriptions : List (String × Handler σ τ)) (timestamp : τ)
    (message : Message) (process : Process σ) : Process σ :=
  subscriptions.foldl (dispatchTo timestamp message) process

/-- The process reads one of the messages queued for it and dispatches it.  The gateway's
order of delivery is not modelled, so any queued message may come next; a blocked process
reads nothing. -/
def receive (subscriptions : List (String × Handler σ τ)) (index : Nat) (timestamp : τ)
    (process : Process σ) : Process σ :=
  if process.hung then process
  else match process.inbox[index]? with
    | none => process
    | some message => handleSubscriptionMessage subscriptions timestamp message
        { process with inbox := process.inbox.eraseIdx index }

/-- The process after messages are delivered to it in order, each with the clock's reading. -/
def handleAll (subscriptions : List (String × Handler σ τ)) (deliveries : List (τ × Message))
    (process : Process σ) : Process σ :=
  deliveries.foldl (fun process delivery =>
    handleSubscriptionMessage subscriptions delivery.1 delivery.2 process) process

/-- The gateway queues published messages for the process. -/
def enqueue (messages : List Message) (process : Process σ) : Process σ :=
  { process with inbox := process.inbox ++ messages }

@[simp] theorem enqueue_state (messages : List Message) (process : Process σ) :
    (enqueue messages process).state = process.state := rfl

@[simp] theorem enqueue_hung (messages : List Message) (process : Process σ) :
    (enqueue messages process).hung = process.hung := rfl

@[simp] theorem enqueue_inbox (messages : List Message) (process : Process σ) :
    (enqueue messages process).inbox = process.inbox ++ messages := rfl

variable {subscriptions : List (String × Handler σ τ)} {timestamp : τ} {message : Message}

/-- What every turn of the dispatch loop keeps, the whole loop keeps. -/
theorem handleSubscriptionMessage_invariant (keeps : Process σ → Prop)
    (turn : ∀ entry ∈ subscriptions, ∀ process : Process σ, keeps process →
      keeps (dispatchTo timestamp message process entry))
    {process : Process σ} (holds : keeps process) :
    keeps (handleSubscriptionMessage subscriptions timestamp message process) := by
  induction subscriptions generalizing process with
  | nil => exact holds
  | cons entry rest ih =>
    exact ih (fun other member => turn other (List.mem_cons_of_mem _ member))
      (turn entry (List.mem_cons_self _ _) process holds)

/-- Dispatching leaves the queue as it is. -/
@[simp] theorem handleSubscriptionMessage_inbox (process : Process σ) :
    (handleSubscriptionMessage subscriptions timestamp message process).inbox = process.inbox :=
  handleSubscriptionMessage_invariant (fun other => other.inbox = process.inbox)
    (fun _ _ other same => by unfold dispatchTo; split <;> exact same) rfl

/-- A delivery leaves the process as it is, or dispatches one of its queued messages, taken
out of the queue, on a process that is not blocked. -/
theorem receive_cases (index : Nat) (process : Process σ) :
    receive subscriptions index timestamp process = process ∨
      ∃ queued ∈ process.inbox, process.hung = false ∧
        receive subscriptions index timestamp process =
          handleSubscriptionMessage subscriptions timestamp queued
            { process with inbox := process.inbox.eraseIdx index } := by
  unfold receive
  split
  · exact .inl rfl
  · split
    · exact .inl rfl
    · next free _ queued found =>
      exact .inr ⟨queued, List.getElem?_mem found, by simpa using free, rfl⟩

/-- A blocked process reads nothing. -/
@[simp] theorem receive_of_hung {process : Process σ} (hung : process.hung = true)
    (index : Nat) : receive subscriptions index timestamp process = process := by
  simp [receive, hung]

/-- When every queued message fits, and every handler keeps a property of the program state on
each fitting message the dispatch routes to it, a delivery keeps the property, and the queue
still holds only fitting messages. -/
theorem receive_keeps_queued (keeps : σ → Prop) (fits : Message → Prop)
    (handler : ∀ entry ∈ subscriptions, ∀ message, fits message →
      GatewayClient.matchesSubject entry.1 message.subject = true →
        ∀ state, keeps state → keeps (entry.2 timestamp message state).1)
    (index : Nat) {process : Process σ} (holds : keeps process.state)
    (queue : ∀ message ∈ process.inbox, fits message) :
    keeps (receive subscriptions index timestamp process).state ∧
      ∀ message ∈ (receive subscriptions index timestamp process).inbox, fits message := by
  rcases receive_cases index process with same | ⟨queued, member, -, delivered⟩
  · rw [same]
    exact ⟨holds, queue⟩
  · rw [delivered, handleSubscriptionMessage_inbox]
    refine ⟨handleSubscriptionMessage_invariant (fun other : Process σ => keeps other.state)
        (fun entry entryMember other kept => ?_) holds,
      fun message kept => queue message (List.mem_of_mem_eraseIdx kept)⟩
    unfold dispatchTo
    split
    · next routed =>
      simp only [Bool.and_eq_true] at routed
      exact handler entry entryMember queued (queue queued member) routed.2 _ kept
    · exact kept

/-- What every handler keeps of the program state, every sequence of deliveries keeps. -/
theorem handleAll_keeps (keeps : σ → Prop)
    (handler : ∀ entry ∈ subscriptions, ∀ timestamp message state, keeps state →
      keeps (entry.2 timestamp message state).1)
    (deliveries : List (τ × Message)) {process : Process σ} (holds : keeps process.state) :
    keeps (handleAll subscriptions deliveries process).state := by
  induction deliveries generalizing process with
  | nil => exact holds
  | cons delivery deliveries ih =>
    refine ih (handleSubscriptionMessage_invariant (fun other : Process σ => keeps other.state)
      (fun entry member other kept => ?_) holds)
    unfold dispatchTo
    split
    · exact handler entry member _ _ _ kept
    · exact kept

/-- A blocked process stays blocked through the dispatch loop. -/
theorem hung_handleSubscriptionMessage {process : Process σ} (hung : process.hung = true) :
    (handleSubscriptionMessage subscriptions timestamp message process).hung = true :=
  handleSubscriptionMessage_invariant (fun other => other.hung = true)
    (fun _ _ other blocked => by simp [dispatchTo, blocked]) hung

theorem handleSubscriptionMessage_cons (entry : String × Handler σ τ)
    (rest : List (String × Handler σ τ)) (process : Process σ) :
    handleSubscriptionMessage (entry :: rest) timestamp message process =
      handleSubscriptionMessage rest timestamp message (dispatchTo timestamp message process entry) :=
  rfl

theorem hung_handleSubscriptionMessage_iff {process : Process σ} (free : process.hung = false) :
    (handleSubscriptionMessage subscriptions timestamp message process).hung = true ↔
      ∃ (k : Nat) (subscription : String × Handler σ τ), subscriptions[k]? = some subscription ∧
        GatewayClient.matchesSubject subscription.1 message.subject = true ∧
        (subscription.2 timestamp message
          (handleSubscriptionMessage (subscriptions.take k) timestamp message process).state).2 ≠ [] := by
  induction subscriptions generalizing process with
  | nil =>
    refine iff_of_false (by simp [handleSubscriptionMessage, free]) ?_
    rintro ⟨k, subscription, found, -⟩
    simp at found
  | cons entry rest ih =>
    have first : (dispatchTo timestamp message process entry).hung = true ↔
        GatewayClient.matchesSubject entry.1 message.subject = true ∧
          (entry.2 timestamp message process.state).2 ≠ [] := by
      clear ih
      unfold dispatchTo
      split <;> simp_all
    rw [handleSubscriptionMessage_cons]
    by_cases blocks : (dispatchTo timestamp message process entry).hung = true
    · exact iff_of_true (hung_handleSubscriptionMessage blocks)
        ⟨0, entry, List.getElem?_cons_zero, (first.mp blocks).1, (first.mp blocks).2⟩
    · rw [ih (by simpa using blocks)]
      constructor
      · rintro ⟨k, subscription, found, matched, publishes⟩
        exact ⟨k + 1, subscription, by rwa [List.getElem?_cons_succ], matched, publishes⟩
      · rintro ⟨_ | k, subscription, found, matched, publishes⟩
        · obtain rfl := Option.some.inj (List.getElem?_cons_zero.symm.trans found)
          exact absurd (first.mpr ⟨matched, publishes⟩) blocks
        · exact ⟨k, subscription, by rwa [List.getElem?_cons_succ] at found, matched, publishes⟩

/-- The dispatch loop of a process is the engine's `handleSubscriptionMessage` seen from the
program.  When the client's registry holds the program's subscriptions, active and in order,
and its user code calls the client back from a handler exactly when the program's handler
publishes in the state the loop hands it, the process blocks exactly when the engine's polling
thread deadlocks. -/
theorem hung_iff_handleSubscriptionMessage_deadlocks {Text : Type} (env : Environment Text)
    {client : GatewayClient Text} (unlocked : client.lockHeld = false)
    {process : Process σ} (free : process.hung = false)
    (registered : client.subscriptions.entries.map (fun entry => (entry.2.subject, entry.2.active)) =
      subscriptions.map fun subscription => (subscription.1, true))
    (reacts : ∀ (k : Nat) (entry : SubscriptionId × Subscription)
      (subscription : String × Handler σ τ), client.subscriptions.entries[k]? = some entry →
      subscriptions[k]? = some subscription →
        ((env.user.reaction (.handler entry.1 message)).isSome = true ↔
          (subscription.2 timestamp message
            (handleSubscriptionMessage (subscriptions.take k) timestamp message process).state).2 ≠
              [])) :
    (handleSubscriptionMessage subscriptions timestamp message process).hung = true ↔
      (GatewayClient.handleSubscriptionMessage env message).run client = none := by
  rw [hung_handleSubscriptionMessage_iff free,
    GatewayClient.handleSubscriptionMessage_run_eq_none_iff env unlocked]
  have aligned : ∀ k : Nat, client.subscriptions.entries[k]?.map
      (fun entry : SubscriptionId × Subscription => (entry.2.subject, entry.2.active)) =
        subscriptions[k]?.map fun subscription => (subscription.1, true) := fun k => by
    rw [← List.getElem?_map, registered, List.getElem?_map]
  simp only [dispatch, List.mem_map, List.mem_filter, Bool.and_eq_true]
  constructor
  · rintro ⟨k, subscription, found, matched, publishes⟩
    have entryAt := aligned k
    rw [found, Option.map_some', Option.map_eq_some'] at entryAt
    obtain ⟨entry, at_k, same⟩ := entryAt
    simp only [Prod.mk.injEq] at same
    exact ⟨entry.1, ⟨entry, ⟨List.getElem?_mem at_k, same.2, same.1 ▸ matched⟩, rfl⟩,
      (reacts k entry subscription at_k found).mpr publishes⟩
  · rintro ⟨id, ⟨entry, ⟨member, active, matched⟩, rfl⟩, reacting⟩
    obtain ⟨k, at_k⟩ := List.mem_iff_getElem?.mp member
    have subscriptionAt := (aligned k).symm
    rw [at_k, Option.map_some', Option.map_eq_some'] at subscriptionAt
    obtain ⟨subscription, found, same⟩ := subscriptionAt
    simp only [Prod.mk.injEq] at same
    exact ⟨k, subscription, found, same.1 ▸ matched, (reacts k entry subscription at_k found).mp reacting⟩

/-- A handler that acknowledges each command, registered alone with the user code of
`commandAcker`: the process blocks on a line command, and so the engine deadlocks. -/
example : (GatewayClient.handleSubscriptionMessage (documentEnv commandAcker) lineCommand).run
    { (GatewayClient.new sensorConfig : GatewayClient (Except String Json)) with
      subscriptions := SubscriptionMap.empty.insert 1 { id := 1, subject := "factory.line1.cmd" } } =
      none :=
  (@hung_iff_handleSubscriptionMessage_deadlocks Unit String
    [("factory.line1.cmd", fun _ _ state =>
      (state, [.publish "factory.line1.ack" (.object [("status", .string "ok")])]))] ""
    lineCommand _ (documentEnv commandAcker) _ rfl { state := () } rfl (by decide)
    (fun k entry subscription atEntry atSubscription => by
      rcases k with _ | k
      · cases atEntry; cases atSubscription; decide
      · simp at atSubscription)).mp (by decide)

end Demo

end GatewaySdk
