import GatewaySdk.Demo.Process

/-!
# The production counter

`production_counter.cpp` counts the packages of the line: good ones from the conveyor's speed,
as the belt moves, and rejects from the vision scanner's reject events.  Its counts are
`std::atomic<int>`, whose arithmetic wraps in two's complement, so each is kept as the `int`
that `signedWrap 32` gives.  The steady clock is read in milliseconds, as in the model of the
controller, and its readings are inputs: the loop's, and the one the reset handler takes.

Two results, over every run of the program, whatever it is sent and however its clocks read.

* `output_totals_agree`: every production report it publishes has a `total` that is its `count`
  plus its `rejects`, as `int`s.
* `batch_complete_once_per_reset`: the batch is announced complete at most once more than the
  reset commands the program was sent.
-/

namespace GatewaySdk.Demo

/-- `ProductionCounter`: the target, the three counts, the belt's speed as last reported, the
fraction of a package carried over, and the steady clock's reading at the last count. -/
structure ProductionCounter where
  targetCount : Int
  totalCount : Int
  goodCount : Int
  rejectCount : Int
  conveyorSpeed : Binary64
  fractionalItems : Binary64
  lastCountTime : Int
  deriving DecidableEq, Repr

namespace ProductionCounter

/-- The constructor, at the steady clock's reading `nowMs`. -/
def new (targetCount nowMs : Int) : ProductionCounter :=
  { targetCount, totalCount := 0, goodCount := 0, rejectCount := 0, conveyorSpeed := .zero,
    fractionalItems := .zero, lastCountTime := nowMs }

/-- `setConveyorSpeed`. -/
def setConveyorSpeed (speed : Binary64) (counter : ProductionCounter) : ProductionCounter :=
  { counter with conveyorSpeed := speed }

/-- `addReject`: one more reject, and one more package. -/
def addReject (counter : ProductionCounter) : ProductionCounter :=
  { counter with
    rejectCount := signedWrap 32 (counter.rejectCount + 1)
    totalCount := signedWrap 32 (counter.totalCount + 1) }

/-- The `60.0` by which a speed in units per minute becomes packages per second. -/
def secondsPerMinute : Binary64 := ⟨0x404E000000000000⟩

/-- The `1.0` of a whole package. -/
def one : Binary64 := ⟨0x3FF0000000000000⟩

/-- The `1000.0` milliseconds of a second. -/
def millisPerSecond : Binary64 := ⟨0x408F400000000000⟩

/-- The `100.0` of a percentage. -/
def hundred : Binary64 := ⟨0x4059000000000000⟩

variable (arith : DoubleArith)

/-- `update` at the steady clock's reading `nowMs`: nothing while the reported speed is not above
zero; otherwise the packages of the seconds since the last count, one per unit of speed per
minute, with the fraction carried over to the next count.  The new packages are good.  The
counter and the number of new packages. -/
def update (nowMs : Int) (counter : ProductionCounter) : ProductionCounter × Int :=
  if arith.le counter.conveyorSpeed .zero then (counter, 0)
  else
    let elapsed := arith.div (arith.ofInt64 (nowMs - counter.lastCountTime)) millisPerSecond
    let itemsPerSecond := arith.div counter.conveyorSpeed secondsPerMinute
    let items := arith.mul itemsPerSecond elapsed
    let newItems := items.toInt32
    let fractional := arith.add counter.fractionalItems (arith.sub items (arith.ofInt64 newItems))
    let carried := if arith.le one fractional then
        (signedWrap 32 (newItems + fractional.toInt32),
          arith.sub fractional (arith.ofInt64 fractional.toInt32))
      else (newItems, fractional)
    ({ counter with
        lastCountTime := nowMs, fractionalItems := carried.2
        goodCount := signedWrap 32 (counter.goodCount + carried.1)
        totalCount := signedWrap 32 (counter.totalCount + carried.1) }, carried.1)

/-- `getCompletionPercent`. -/
def getCompletionPercent (counter : ProductionCounter) : Binary64 :=
  if 0 < counter.targetCount then
    arith.mul (arith.div (arith.ofInt64 counter.goodCount) (arith.ofInt64 counter.targetCount))
      hundred
  else .zero

/-- `getYield`. -/
def getYield (counter : ProductionCounter) : Binary64 :=
  if 0 < counter.totalCount then
    arith.mul (arith.div (arith.ofInt64 counter.goodCount) (arith.ofInt64 counter.totalCount))
      hundred
  else hundred

/-- `isTargetReached`. -/
def isTargetReached (counter : ProductionCounter) : Bool :=
  decide (counter.targetCount ≤ counter.goodCount)

/-- `reset(newTarget)`: a positive target replaces the old one, and the counts start again. -/
def reset (newTarget : Int) (counter : ProductionCounter) : ProductionCounter :=
  { counter with
    targetCount := if 0 < newTarget then newTarget else counter.targetCount
    totalCount := 0, goodCount := 0, rejectCount := 0, fractionalItems := .zero }

/-- The three counts agree: the total is the good packages and the rejects, as an `int`. -/
def Totals (counter : ProductionCounter) : Prop :=
  counter.totalCount = signedWrap 32 (counter.goodCount + counter.rejectCount)

theorem new_totals (targetCount nowMs : Int) : (new targetCount nowMs).Totals := by
  simp only [Totals, new]
  decide

theorem setConveyorSpeed_totals (speed : Binary64) {counter : ProductionCounter}
    (totals : counter.Totals) : (counter.setConveyorSpeed speed).Totals := totals

theorem addReject_totals {counter : ProductionCounter} (totals : counter.Totals) :
    counter.addReject.Totals := by
  have total := signedWrap_emod 32 (counter.goodCount + counter.rejectCount)
  have reject := signedWrap_emod 32 (counter.rejectCount + 1)
  unfold Totals at totals ⊢
  refine signedWrap_congr ?_
  dsimp only [addReject]
  rw [totals]
  omega

/-- Counting packages as good keeps the counts agreeing, however many they are. -/
private theorem totals_addGood {counter : ProductionCounter} (totals : counter.Totals)
    (count : Int) : signedWrap 32 (counter.totalCount + count) =
      signedWrap 32 (signedWrap 32 (counter.goodCount + count) + counter.rejectCount) := by
  have total := signedWrap_emod 32 (counter.goodCount + counter.rejectCount)
  have good := signedWrap_emod 32 (counter.goodCount + count)
  refine signedWrap_congr ?_
  rw [totals]
  omega

theorem update_totals (nowMs : Int) {counter : ProductionCounter} (totals : counter.Totals) :
    (counter.update arith nowMs).1.Totals := by
  unfold update
  split
  · exact totals
  · exact totals_addGood totals _

theorem reset_totals (newTarget : Int) (counter : ProductionCounter) :
    (counter.reset newTarget).Totals := by
  show (0 : Int) = signedWrap 32 (0 + 0)
  decide

/-- Nothing counted, and the belt taken as standing. -/
structure Uncounted (counter : ProductionCounter) : Prop where
  stopped : counter.conveyorSpeed = .zero
  total : counter.totalCount = 0
  good : counter.goodCount = 0
  rejects : counter.rejectCount = 0

theorem new_uncounted (targetCount nowMs : Int) : (new targetCount nowMs).Uncounted :=
  ⟨rfl, rfl, rfl, rfl⟩

/-- While the reported speed is not above zero, `update` leaves the counter as it is. -/
theorem update_of_stopped (nowMs : Int) {counter : ProductionCounter}
    (stopped : arith.le counter.conveyorSpeed .zero = true) :
    counter.update arith nowMs = (counter, 0) :=
  if_pos stopped

end ProductionCounter

/-- The state of the counter's `main`: the counter, whether the batch's completion has been
announced, and the steady clock's readings at the start of the batch and at the last report,
with the total at that report. -/
structure CounterStation where
  counter : ProductionCounter
  targetReachedNotified : Bool
  startTime : Int
  lastPublish : Int
  lastCount : Int

namespace CounterStation

/-- `DEVICE_ID`. -/
def deviceId : String := "sensor-counter-001"

/-- `OUTPUT_SUBJECT`. -/
def outputSubject : String := "factory.line1.output"

/-- `STATS_SUBJECT`. -/
def statsSubject : String := "factory.line1.production.stats"

/-- The subject of the batch's completion. -/
def batchCompleteSubject : String := "factory.line1.batch.complete"

/-- The pattern the counter takes its commands on. -/
def commandPattern : String := "factory.line1.cmd." ++ deviceId ++ ".>"

/-- `PUBLISH_INTERVAL_MS`. -/
def publishIntervalMs : Int := 5000

/-- The state in which `main` enters its loop, the steady clock reading `startMs`. -/
def new (config : DemoConfig) (startMs : Int) : CounterStation :=
  { counter := .new config.targetCount startMs, targetReachedNotified := false,
    startTime := startMs, lastPublish := startMs, lastCount := 0 }

variable (arith : DoubleArith)

/-- The handler of the conveyor's status: the reported speed, when there is one. -/
def handleConveyorStatus : Handler CounterStation Int := fun _ message station =>
  if message.payload.contains "currentSpeed" then
    let speed := (message.payload.get "currentSpeed").asDouble arith
    ({ station with counter := station.counter.setConveyorSpeed speed }, [])
  else (station, [])

/-- The handler of the scanner's reject events. -/
def handleReject : Handler CounterStation Int := fun _ _ station =>
  ({ station with counter := station.counter.addReject }, [])

/-- The statistics the `status` command publishes. -/
def statsPayload (counter : ProductionCounter) : JsonValue :=
  jsonObject [("totalCount", .int counter.totalCount), ("goodCount", .int counter.goodCount),
    ("rejectCount", .int counter.rejectCount), ("targetCount", .int counter.targetCount),
    ("completion", .double (counter.getCompletionPercent arith)),
    ("yield", .double (counter.getYield arith))]

/-- The handler of the counter's commands, at the steady clock's reading `nowMs`: `reset` starts
a new batch, with the target the command gives as an `int`, or the old one; `set_target` is
not implemented; `status` publishes the statistics. -/
def handleCommand : Handler CounterStation Int := fun nowMs message station =>
  if message.payload.contains "action" then
    let action := (message.payload.get "action").asString
    if action = "reset" then
      let newTarget := if message.payload.contains "target" then
          signedWrap 32 (message.payload.get "target").asInt else -1
      ({ station with
          counter := station.counter.reset newTarget, targetReachedNotified := false
          startTime := nowMs }, [])
    else if action = "set_target" then (station, [])
    else if action = "status" then
      (station, [Message.publish statsSubject (statsPayload arith station.counter)])
    else (station, [])
  else (station, [])

/-- The handler of the emergency broadcast: the counter takes the belt as stopped. -/
def handleEmergency : Handler CounterStation Int := fun _ _ station =>
  ({ station with counter := station.counter.setConveyorSpeed .zero }, [])

/-- The subscriptions of `main`, in the order it makes them. -/
def subscriptions : List (String × Handler CounterStation Int) :=
  [("factory.line1.conveyor.status", handleConveyorStatus arith),
    ("factory.line1.quality.rejects", handleReject), (commandPattern, handleCommand arith),
    ("factory.line1.emergency", handleEmergency)]

/-- The `onConnected` callback: the first status of the session. -/
def onConnected (config : DemoConfig) (station : CounterStation) : List Message :=
  [Message.publish ("factory.line1.status." ++ deviceId) (jsonObject [("online", .bool true),
    ("deviceId", .string deviceId), ("targetCount", .int station.counter.targetCount),
    ("currentCount", .int station.counter.totalCount), ("batch", .string config.batchId),
    ("lot", .string config.lotNumber)])]

/-- The production report of the loop. -/
def outputPayload (config : DemoConfig) (counter : ProductionCounter) (rate : Binary64)
    (runtimeSeconds : Int) (timestamp : String) : JsonValue :=
  jsonObject [("count", .int counter.goodCount), ("total", .int counter.totalCount),
    ("rejects", .int counter.rejectCount), ("target", .int counter.targetCount),
    ("completion", .double (counter.getCompletionPercent arith)),
    ("yield", .double (counter.getYield arith)), ("rate", .double rate),
    ("runtimeSeconds", .int runtimeSeconds), ("timestamp", .string timestamp),
    ("batch", .string config.batchId), ("lot", .string config.lotNumber)]

/-- What the batch's completion announces: the completion, and an alert. -/
def completionMessages (config : DemoConfig) (counter : ProductionCounter) (runtimeSeconds : Int)
    (timestamp : String) : List Message :=
  [Message.publish batchCompleteSubject (jsonObject [("type", .string "batch_complete"),
      ("batch", .string config.batchId), ("lot", .string config.lotNumber),
      ("goodCount", .int counter.goodCount), ("rejectCount", .int counter.rejectCount),
      ("yield", .double (counter.getYield arith)), ("runtimeSeconds", .int runtimeSeconds),
      ("timestamp", .string timestamp)]),
    Message.publish "factory.line1.alerts.info" (jsonObject [("severity", .string "info"),
      ("type", .string "batch_complete"),
      ("message", .string ("Batch " ++ config.batchId ++ " completed!")),
      ("count", .int counter.goodCount), ("timestamp", .string timestamp)])]

/-- One pass of the main loop after `client.poll`, when connected: the counter counts at the
reading `countMs`; once `PUBLISH_INTERVAL_MS` passed since the last report, at the reading
`nowMs`, the report goes out with the rate since the last one, and the batch's completion the
first time its target is reached. -/
def loopIteration (config : DemoConfig) (countMs nowMs : Int) (connected : Bool)
    (timestamp : String) (station : CounterStation) : CounterStation × List Message :=
  if connected then
    let station := { station with counter := (station.counter.update arith countMs).1 }
    if publishIntervalMs ≤ nowMs - station.lastPublish then
      let counter := station.counter
      let countDelta := signedWrap 32 (counter.totalCount - station.lastCount)
      let rate := arith.div (arith.ofInt64 countDelta)
        (arith.div (arith.ofInt64 publishIntervalMs) ProductionCounter.millisPerSecond)
      let runtimeSeconds := (nowMs - station.startTime).tdiv 1000
      let reported := { station with lastPublish := nowMs, lastCount := counter.totalCount }
      let output := Message.publish outputSubject
        (outputPayload arith config counter rate runtimeSeconds timestamp)
      if counter.isTargetReached && !station.targetReachedNotified then
        ({ reported with targetReachedNotified := true },
          output :: completionMessages arith config counter runtimeSeconds timestamp)
      else (reported, [output])
    else (station, [])
  else (station, [])

/-- What happens to the program: a message delivered to it at a steady-clock reading, the start
of a session, or a pass of its main loop. -/
inductive Event
  | deliver (message : Message) (nowMs : Int)
  | connected
  | loop (countMs nowMs : Int) (connected : Bool) (timestamp : String)

/-- One event on the program as the gateway runs it, with what it publishes. -/
def step (config : DemoConfig) (event : Event) (process : Process CounterStation) :
    Process CounterStation × List Message :=
  match event with
  | .deliver message nowMs =>
    (handleSubscriptionMessage (subscriptions arith) nowMs message process, [])
  | .connected => (process, if process.hung then [] else onConnected config process.state)
  | .loop countMs nowMs connected timestamp =>
    if process.hung then (process, [])
    else
      let result := loopIteration arith config countMs nowMs connected timestamp process.state
      ({ process with state := result.1 }, result.2)

/-- A run of the program, with everything it publishes in order. -/
def run (config : DemoConfig) :
    List Event → Process CounterStation → Process CounterStation × List Message
  | [], process => (process, [])
  | event :: events, process =>
    let first := step arith config event process
    let rest := run config events first.1
    (rest.1, first.2 ++ rest.2)

/-- Every handler keeps the counts agreeing. -/
theorem subscriptions_totals {entry : String × Handler CounterStation Int}
    (member : entry ∈ subscriptions arith) (nowMs : Int) (message : Message)
    {station : CounterStation} (totals : station.counter.Totals) :
    (entry.2 nowMs message station).1.counter.Totals := by
  simp only [subscriptions, List.mem_cons, List.mem_singleton, List.not_mem_nil, or_false] at member
  rcases member with rfl | rfl | rfl | rfl <;>
    dsimp only [handleConveyorStatus, handleReject, handleCommand, handleEmergency]
  · split
    · exact ProductionCounter.setConveyorSpeed_totals _ totals
    · exact totals
  · exact ProductionCounter.addReject_totals totals
  · split_ifs <;> first | exact ProductionCounter.reset_totals _ _ | exact totals
  · exact ProductionCounter.setConveyorSpeed_totals _ totals

/-- A report's `total` is its `count` plus its `rejects`, as an `int`. -/
def ReportAgrees (payload : JsonValue) : Prop :=
  (payload.get "total").asInt =
    signedWrap 32 ((payload.get "count").asInt + (payload.get "rejects").asInt)

theorem outputPayload_agrees (config : DemoConfig) {counter : ProductionCounter}
    (totals : counter.Totals) (rate : Binary64) (runtimeSeconds : Int) (timestamp : String) :
    ReportAgrees (outputPayload arith config counter rate runtimeSeconds timestamp) := by
  simpa [ReportAgrees, outputPayload, List.lookup_cons, JsonValue.asInt] using totals

/-- The loop keeps the counts agreeing, and each report it publishes shows them. -/
theorem loopIteration_totals (config : DemoConfig) (countMs nowMs : Int) (connected : Bool)
    (timestamp : String) {station : CounterStation} (totals : station.counter.Totals) :
    (loopIteration arith config countMs nowMs connected timestamp station).1.counter.Totals ∧
      ∀ message ∈ (loopIteration arith config countMs nowMs connected timestamp station).2,
        message.subject = outputSubject → ReportAgrees message.payload := by
  have counted := ProductionCounter.update_totals arith countMs totals
  simp only [loopIteration]
  split_ifs
  · refine ⟨counted, fun message member onOutput => ?_⟩
    simp only [List.mem_cons, completionMessages, List.mem_singleton, List.not_mem_nil,
      or_false] at member
    rcases member with rfl | rfl | rfl
    · exact outputPayload_agrees arith config counted _ _ _
    all_goals exact absurd onOutput (by simp only [Message.publish_subject]; decide)
  · refine ⟨counted, fun message member _ => ?_⟩
    rw [List.mem_singleton.mp member]
    exact outputPayload_agrees arith config counted _ _ _
  · exact ⟨counted, nofun⟩
  · exact ⟨totals, nofun⟩

theorem step_totals (config : DemoConfig) (event : Event) {process : Process CounterStation}
    (totals : process.state.counter.Totals) :
    (step arith config event process).1.state.counter.Totals ∧
      ∀ message ∈ (step arith config event process).2,
        message.subject = outputSubject → ReportAgrees message.payload := by
  cases event with
  | deliver message nowMs =>
    refine ⟨handleSubscriptionMessage_invariant
      (fun other : Process CounterStation => other.state.counter.Totals)
      (fun entry member other kept => ?_) totals, nofun⟩
    unfold dispatchTo
    split
    · exact subscriptions_totals arith member nowMs message kept
    · exact kept
  | connected =>
    refine ⟨totals, fun message member onOutput => ?_⟩
    simp only [step] at member
    split at member
    · cases member
    · simp only [onConnected, List.mem_singleton] at member
      subst member
      exact absurd onOutput (by simp only [Message.publish_subject]; decide)
  | loop countMs nowMs connected timestamp =>
    simp only [step]
    split
    · exact ⟨totals, nofun⟩
    · exact loopIteration_totals arith config countMs nowMs connected timestamp totals

/-- Over every run of the program from its start, whatever it is sent and however its clocks
read, every production report it publishes has a `total` that is its `count` plus its
`rejects`, as `int`s: the counts move together through every count, reject and reset. -/
theorem output_totals_agree (config : DemoConfig) (startMs : Int) (events : List Event) :
    ∀ message ∈ (run arith config events { state := new config startMs }).2,
      message.subject = outputSubject →
        (message.payload.get "total").asInt =
          signedWrap 32 ((message.payload.get "count").asInt +
            (message.payload.get "rejects").asInt) := by
  suffices keeps : ∀ process : Process CounterStation, process.state.counter.Totals →
      ∀ message ∈ (run arith config events process).2,
        message.subject = outputSubject → ReportAgrees message.payload from
    keeps _ (ProductionCounter.new_totals _ _)
  induction events with
  | nil => exact fun _ _ => nofun
  | cons event events ih =>
    intro process totals message member
    obtain ⟨kept, reports⟩ := step_totals arith config event totals
    rcases List.mem_append.mp member with first | later
    · exact reports message first
    · exact ih _ kept message later

/-- The first pass of the loop, five seconds after the start, publishes a report with the belt
standing, and its counts agree. -/
theorem first_report_agrees :
    let standing : DoubleArith := { DoubleArith.inert with le := fun _ _ => true }
    let report := Message.publish outputSubject
      (outputPayload standing loadDemoConfig (.new 10000 0) .zero 5 "t0")
    report ∈ (run standing loadDemoConfig [.loop 0 5000 true "t0"]
        { state := new loadDemoConfig 0 }).2 ∧ report.subject = outputSubject ∧
      (report.payload.get "total").asInt =
        signedWrap 32 ((report.payload.get "count").asInt + (report.payload.get "rejects").asInt) := by
  intro standing report
  have published : report ∈ (run standing loadDemoConfig [.loop 0 5000 true "t0"]
      { state := new loadDemoConfig 0 }).2 := List.mem_singleton.mpr rfl
  exact ⟨published, rfl, output_totals_agree standing loadDemoConfig 0 _ _ published rfl⟩

/-- The announcements of the batch's completion among published messages. -/
def completions (published : List Message) : Nat :=
  (published.filter fun message => message.subject == batchCompleteSubject).length

/-- A delivery of a reset command to the counter. -/
def Event.isReset : Event → Bool
  | .deliver message _ => GatewayClient.matchesSubject commandPattern message.subject &&
      message.payload.contains "action" && (message.payload.get "action").asString == "reset"
  | _ => false

/-- The reset commands delivered in a run. -/
def resetCommands (events : List Event) : Nat :=
  (events.filter Event.isReset).length

@[simp] theorem completions_append (first second : List Message) :
    completions (first ++ second) = completions first + completions second := by
  simp [completions]

/-- A handler changes whether the completion was announced only on a reset command. -/
theorem subscriptions_notified {entry : String × Handler CounterStation Int}
    (member : entry ∈ subscriptions arith) (nowMs : Int) {message : Message}
    (notReset : (Event.deliver message nowMs).isReset = false)
    (routed : GatewayClient.matchesSubject entry.1 message.subject = true)
    (station : CounterStation) :
    (entry.2 nowMs message station).1.targetReachedNotified = station.targetReachedNotified := by
  simp only [subscriptions, List.mem_cons, List.mem_singleton, List.not_mem_nil, or_false] at member
  rcases member with rfl | rfl | rfl | rfl <;>
    dsimp only [handleConveyorStatus, handleReject, handleCommand, handleEmergency]
  · split <;> rfl
  · simp only [Event.isReset, routed, Bool.true_and, Bool.and_eq_false_iff, beq_eq_false_iff_ne,
      ne_eq] at notReset
    split
    · next acts =>
      have other : (message.payload.get "action").asString ≠ "reset" := by
        simpa [acts] using notReset
      simp only [other, if_false]
      split_ifs <;> rfl
    · rfl

/-- An event adds a completion only when it marks the batch announced, which only a reset
command clears. -/
theorem step_completions (config : DemoConfig) (event : Event) (process : Process CounterStation) :
    completions (step arith config event process).2 + process.state.targetReachedNotified.toNat ≤
      event.isReset.toNat + (step arith config event process).1.state.targetReachedNotified.toNat := by
  cases event with
  | deliver message nowMs =>
    simp only [step, completions, List.filter_nil, List.length_nil, Nat.zero_add]
    cases reset : (Event.deliver message nowMs).isReset
    · have kept := handleSubscriptionMessage_invariant
        (fun other : Process CounterStation =>
          other.state.targetReachedNotified = process.state.targetReachedNotified)
        (fun entry member other same => by
          unfold dispatchTo
          split
          · next runs =>
            simp only [Bool.and_eq_true] at runs
            exact (subscriptions_notified arith member nowMs reset runs.2 other.state).trans same
          · exact same) rfl
      rw [kept]
      simp
    · cases process.state.targetReachedNotified <;> simp
  | connected =>
    simp only [step]
    split <;> simp [completions, onConnected, deviceId, batchCompleteSubject]
  | loop countMs nowMs connected timestamp =>
    simp only [step]
    split
    · simp [completions]
    · simp only [loopIteration]
      split_ifs with _ _ fresh
      · simp only [Bool.and_eq_true, Bool.not_eq_true'] at fresh
        simp [completions, completionMessages, Message.publish, outputSubject, fresh.2,
          batchCompleteSubject]
      all_goals simp [completions, Message.publish, outputSubject, batchCompleteSubject]

/-- Over every run of the program from its start, whatever it is sent and however its clocks
read, the batch is announced complete at most once more than the reset commands it was sent:
the announcement marks the batch, and only a reset clears the mark. -/
theorem batch_complete_once_per_reset (config : DemoConfig) (startMs : Int) (events : List Event) :
    completions (run arith config events { state := new config startMs }).2 ≤
      resetCommands events + 1 := by
  suffices keeps : ∀ process : Process CounterStation,
      completions (run arith config events process).2 + process.state.targetReachedNotified.toNat ≤
        resetCommands events + 1 from
    (Nat.le_add_right _ _).trans (keeps _)
  induction events with
  | nil => exact fun process => by cases process.state.targetReachedNotified <;> simp [run, completions]
  | cons event events ih =>
    intro process
    have first := step_completions arith config event process
    have rest := ih (step arith config event process).1
    simp only [run, completions_append, resetCommands, List.filter_cons] at rest ⊢
    split <;> simp_all <;> omega

/-- On a status that reports the belt at zero speed, and on anything but a reject, no handler
counts, and the counter still takes the belt as standing. -/
theorem subscriptions_uncounted {entry : String × Handler CounterStation Int}
    (member : entry ∈ subscriptions arith) (nowMs : Int) {message : Message}
    (still : message.subject = "factory.line1.conveyor.status" →
      message.payload.get "currentSpeed" = .double .zero)
    (notReject : message.subject ≠ "factory.line1.quality.rejects")
    (routed : GatewayClient.matchesSubject entry.1 message.subject = true)
    {station : CounterStation} (uncounted : station.counter.Uncounted) :
    (entry.2 nowMs message station).1.counter.Uncounted := by
  simp only [subscriptions, List.mem_cons, List.mem_singleton, List.not_mem_nil, or_false] at member
  rcases member with rfl | rfl | rfl | rfl <;>
    dsimp only [handleConveyorStatus, handleReject, handleCommand, handleEmergency]
  · have status : "factory.line1.conveyor.status" = message.subject :=
      (matchesSubject_literal (by decide) (by decide)).mp routed
    split
    · refine ⟨?_, uncounted.total, uncounted.good, uncounted.rejects⟩
      simp only [ProductionCounter.setConveyorSpeed, still status.symm, JsonValue.asDouble]
    · exact uncounted
  · have reject : "factory.line1.quality.rejects" = message.subject :=
      (matchesSubject_literal (by decide) (by decide)).mp routed
    exact absurd reject.symm notReject
  · split_ifs <;> first | exact ⟨uncounted.stopped, rfl, rfl, rfl⟩ | exact uncounted
  · exact ⟨rfl, uncounted.total, uncounted.good, uncounted.rejects⟩

/-- A pass of the loop counts nothing on a counter that takes the belt as standing, where
`0.0 <= 0.0` holds. -/
theorem loopIteration_uncounted (standsStill : arith.le .zero .zero = true) (config : DemoConfig)
    (countMs nowMs : Int) (connected : Bool) (timestamp : String) {station : CounterStation}
    (uncounted : station.counter.Uncounted) :
    (loopIteration arith config countMs nowMs connected timestamp station).1.counter.Uncounted := by
  have unchanged := ProductionCounter.update_of_stopped arith countMs
    (by rw [uncounted.stopped]; exact standsStill)
  simp only [loopIteration, unchanged]
  split_ifs <;> exact uncounted

/-- Everything the loop publishes is a report, or the batch's completion and its alert. -/
theorem loopIteration_subjects (config : DemoConfig) (countMs nowMs : Int) (connected : Bool)
    (timestamp : String) (station : CounterStation) :
    ∀ message ∈ (loopIteration arith config countMs nowMs connected timestamp station).2,
      message.subject = outputSubject ∨ message.subject = batchCompleteSubject ∨
        message.subject = "factory.line1.alerts.info" := by
  simp only [loopIteration]
  split_ifs <;> simp [completionMessages]

end CounterStation

end GatewaySdk.Demo
