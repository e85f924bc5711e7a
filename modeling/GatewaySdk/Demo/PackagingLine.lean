import GatewaySdk.Demo.Conveyor
import GatewaySdk.Demo.EStopButton
import GatewaySdk.Demo.Orchestrator
import GatewaySdk.Demo.ProductionCounter
import GatewaySdk.Demo.VisionScanner

/-!
# The packaging line

The demo line runs four programs on one gateway: the e-stop button, the conveyor controller,
the line orchestrator, and the operator's panel (`hmi_panel.cpp`), whose keys command the line.
Each program publishes from its main loop and its `onConnected` callback, and runs its
handlers on what the gateway routes to it.  The gateway's routing is not in the sources, so
the model queues every message for every program and lets each read its queue in any order,
or never: what holds here holds for any routing and any interleaving.

Two results, over every run of the line.

* `belt_never_moves`: from the line's start, the belt stands, and the orchestrator never reads
  the line as starting or running.  The panel's start key publishes `start_line` on
  `factory.line1.cmd.orchestrator`, which the orchestrator's subscription
  `factory.line1.cmd.orchestrator.>` does not match; no other program asks the belt to start.
* `latched_belt_is_final`: both handlers that latch the belt publish afterwards, which blocks
  the controller's only thread on the engine mutex.  Once the belt is latched, nothing later
  changes the controller: not the e-stop's clear, which the controller takes for one more
  emergency, and not the panel's reset key.
-/

namespace GatewaySdk.Demo

/-- `ConveyorStatus` of `hmi_panel.cpp`: the panel's view of the belt. -/
structure ConveyorStatus where
  mode : String
  speed : Binary64
  targetSpeed : Binary64

/-- The state of the panel's `main` that decides what it publishes: its view of the belt.  The
views of the line, the OEE figures, the production, the quality and the temperature are only
displayed, and are left out. -/
structure HmiPanel where
  conveyor : ConveyorStatus

namespace HmiPanel

/-- The state in which `main` starts. -/
def new : HmiPanel := { conveyor := { mode := "unknown", speed := .zero, targetSpeed := .zero } }

/-- The `20` units by which the speed keys change the target. -/
def speedStep : Binary64 := ⟨0x4034000000000000⟩

variable (arith : DoubleArith)

/-- `updateConveyor`: each field the status carries replaces the view's. -/
def updateConveyor (data : JsonValue) (view : ConveyorStatus) : ConveyorStatus :=
  let view := if data.contains "mode" then { view with mode := (data.get "mode").asString } else view
  let view := if data.contains "currentSpeed" then
      { view with speed := (data.get "currentSpeed").asDouble arith } else view
  if data.contains "targetSpeed" then
    { view with targetSpeed := (data.get "targetSpeed").asDouble arith } else view

/-- The handlers that only update what the panel displays. -/
def handleDisplayed : Handler HmiPanel := fun _ _ panel => (panel, [])

/-- The handler of the conveyor's status. -/
def handleConveyorStatus : Handler HmiPanel := fun _ message panel =>
  ({ panel with conveyor := updateConveyor arith message.payload panel.conveyor }, [])

/-- The subscriptions of `main`, in the order it makes them. -/
def subscriptions : List (String × Handler HmiPanel) :=
  [("factory.line1.status", handleDisplayed), ("factory.line1.oee", handleDisplayed),
    ("factory.line1.conveyor.status", handleConveyorStatus arith),
    ("factory.line1.output", handleDisplayed), ("factory.line1.quality.stats", handleDisplayed),
    ("factory.line1.temp", handleDisplayed), ("factory.line1.alerts.>", handleDisplayed)]

/-- What a key publishes, the `switch` of the main loop: the line commands go to the
orchestrator, the speed, stop and reset keys straight to the conveyor.  `q` ends the program,
and other keys publish nothing. -/
def keyCommand (key : Char) (panel : HmiPanel) : List Message :=
  if key = '1' then
    [Message.publish "factory.line1.cmd.orchestrator" (jsonObject [("action", .string "start_line")])]
  else if key = '2' then
    [Message.publish "factory.line1.cmd.orchestrator" (jsonObject [("action", .string "stop_line")])]
  else if key = '3' then
    [Message.publish "factory.line1.conveyor.cmd" (jsonObject [("action", .string "setSpeed"),
      ("value", .double (arith.add panel.conveyor.targetSpeed speedStep))])]
  else if key = '4' then
    [Message.publish "factory.line1.conveyor.cmd" (jsonObject [("action", .string "setSpeed"),
      ("value", .double (arith.max .zero (arith.sub panel.conveyor.targetSpeed speedStep)))])]
  else if key = '5' then
    [Message.publish "factory.line1.conveyor.cmd" (jsonObject [("action", .string "emergency_stop")])]
  else if key = '6' then
    [Message.publish "factory.line1.conveyor.cmd" (jsonObject [("action", .string "reset")])]
  else []

end HmiPanel

/-- The programs of the line, as the gateway runs them. -/
structure PackagingLine where
  button : Process EStopStation
  conveyor : Process ConveyorController
  orchestrator : Process Orchestrator
  hmi : Process HmiPanel
  counter : Process CounterStation
  scanner : Process ScannerStation

/-- The programs of the line whose handlers read the time only as a timestamp. -/
inductive Party
  | button
  | conveyor
  | orchestrator
  | hmi

/-- The programs of the line whose handlers read the steady clock, in milliseconds. -/
inductive Sensor
  | counter
  | scanner

/-- What can happen next on the line: a program reads a message queued for it, a program's
session opens, a line is typed on the button's console, a program's main loop makes a pass
(the clock's readings, the connection and the scanner's draws are its inputs), or a key is
pressed on the panel. -/
inductive LineEvent
  | receive (party : Party) (index : Nat) (timestamp : String)
  | connected (party : Party)
  | buttonInput (line : String)
  | buttonLoop (connected : Bool) (timestamp : String)
  | conveyorLoop (deltaSeconds : Binary64) (nowMs : Int) (connected : Bool) (timestamp : String)
  | hmiKey (key : Char)
  | sensorReceive (sensor : Sensor) (index : Nat) (nowMs : Int)
  | sensorConnected (sensor : Sensor)
  | counterLoop (countMs nowMs : Int) (connected : Bool) (timestamp : String)
  | scannerLoop (nowMs : Int) (connected : Bool) (timestamp : String) (draws : ScanDraws)

namespace PackagingLine

/-- The line as its programs start, with the configuration they all load, their loops at the
steady clock's `startMs`. -/
def new (config : DemoConfig) (startMs : Int) : PackagingLine :=
  { button := { state := EStopStation.new }, conveyor := { state := ConveyorController.new startMs }
    orchestrator := { state := Orchestrator.new }, hmi := { state := HmiPanel.new }
    counter := { state := CounterStation.new config startMs }
    scanner := { state := ScannerStation.new startMs } }

/-- The gateway queues published messages for every program. -/
def publish (messages : List Message) (line : PackagingLine) : PackagingLine :=
  { button := enqueue messages line.button, conveyor := enqueue messages line.conveyor
    orchestrator := enqueue messages line.orchestrator, hmi := enqueue messages line.hmi
    counter := enqueue messages line.counter, scanner := enqueue messages line.scanner }

variable (arith : DoubleArith) (config : DemoConfig) (summary : JsonValue)

/-- One event.  A blocked program's polling thread, which is also its main loop, does nothing
more; the button's console thread reads on. -/
def step (event : LineEvent) (line : PackagingLine) : PackagingLine :=
  match event with
  | .receive .button index timestamp =>
    { line with button := receive EStopStation.subscriptions index timestamp line.button }
  | .receive .conveyor index timestamp =>
    { line with
      conveyor := receive (ConveyorController.subscriptions arith) index timestamp line.conveyor }
  | .receive .orchestrator index timestamp =>
    let orchestrator :=
      receive (Orchestrator.subscriptions arith summary) index timestamp line.orchestrator
    { line with orchestrator }
  | .receive .hmi index timestamp =>
    { line with hmi := receive (HmiPanel.subscriptions arith) index timestamp line.hmi }
  | .connected .button =>
    if line.button.hung then line else publish (EStopStation.onConnected line.button.state) line
  | .connected .conveyor =>
    if line.conveyor.hung then line
    else publish (ConveyorController.onConnected config.batchId line.conveyor.state) line
  | .connected .orchestrator =>
    if line.orchestrator.hung then line else publish (Orchestrator.onConnected config) line
  | .connected .hmi => line
  | .buttonInput text =>
    { line with button := { line.button with state := EStopStation.readLine text line.button.state } }
  | .buttonLoop connected timestamp =>
    if line.button.hung then line
    else
      let result := EStopStation.loopIteration config.batchId connected timestamp line.button.state
      publish result.2 { line with button := { line.button with state := result.1 } }
  | .conveyorLoop deltaSeconds nowMs connected timestamp =>
    if line.conveyor.hung then line
    else
      let result := ConveyorController.loopIteration arith deltaSeconds nowMs connected timestamp
        line.conveyor.state
      publish result.2 { line with conveyor := { line.conveyor with state := result.1 } }
  | .hmiKey key =>
    if line.hmi.hung then line else publish (HmiPanel.keyCommand arith key line.hmi.state) line
  | .sensorReceive .counter index nowMs =>
    { line with counter := receive (CounterStation.subscriptions arith) index nowMs line.counter }
  | .sensorReceive .scanner index nowMs =>
    { line with scanner := receive (ScannerStation.subscriptions arith) index nowMs line.scanner }
  | .sensorConnected .counter =>
    if line.counter.hung then line
    else publish (CounterStation.onConnected config line.counter.state) line
  | .sensorConnected .scanner =>
    if line.scanner.hung then line else publish (ScannerStation.onConnected config) line
  | .counterLoop countMs nowMs connected timestamp =>
    if line.counter.hung then line
    else
      let result := CounterStation.loopIteration arith config countMs nowMs connected timestamp
        line.counter.state
      publish result.2 { line with counter := { line.counter with state := result.1 } }
  | .scannerLoop nowMs connected timestamp draws =>
    if line.scanner.hung then line
    else
      let result := ScannerStation.loopIteration arith config nowMs connected timestamp draws
        line.scanner.state
      publish result.2 { line with scanner := { line.scanner with state := result.1 } }

/-- The line after a sequence of events. -/
def run (events : List LineEvent) (line : PackagingLine) : PackagingLine :=
  events.foldl (fun line event => step arith config summary event line) line

@[simp] theorem publish_conveyor (messages : List Message) (line : PackagingLine) :
    (publish messages line).conveyor = enqueue messages line.conveyor := rfl

@[simp] theorem publish_orchestrator (messages : List Message) (line : PackagingLine) :
    (publish messages line).orchestrator = enqueue messages line.orchestrator := rfl

theorem run_cons (event : LineEvent) (events : List LineEvent) (line : PackagingLine) :
    run arith config summary (event :: events) line =
      run arith config summary events (step arith config summary event line) := rfl

/-- A message that can neither start the belt, nor make the orchestrator or the scanner read it
as running, nor command the orchestrator, nor report the belt moving, nor count a reject. -/
structure Harmless (message : Message) : Prop where
  not_command : GatewayClient.matchesSubject Orchestrator.commandPattern message.subject = false
  not_start : message.subject = ConveyorController.cmdSubject →
    (message.payload.get "action").asString ≠ "start" ∧
      (message.payload.get "action").asString ≠ "stop"
  not_running : message.subject = ConveyorController.statusSubject →
    (message.payload.get "mode").asString ≠ "running"
  still : message.subject = ConveyorController.statusSubject →
    message.payload.get "currentSpeed" = .double .zero
  not_reject : message.subject ≠ ScannerStation.rejectsSubject

/-- A message on a subject that neither the orchestrator's commands nor the conveyor's command
and status subjects nor the scanner's rejects cover. -/
theorem harmless_of_subject {message : Message}
    (notCommand : GatewayClient.matchesSubject Orchestrator.commandPattern message.subject = false)
    (notCmd : message.subject ≠ ConveyorController.cmdSubject)
    (notStatus : message.subject ≠ ConveyorController.statusSubject)
    (notReject : message.subject ≠ ScannerStation.rejectsSubject) : Harmless message :=
  ⟨notCommand, fun same => absurd same notCmd, fun same => absurd same notStatus,
    fun same => absurd same notStatus, notReject⟩

/-- A publication on such a subject. -/
theorem harmless_publish {subject : String} (payload : JsonValue)
    (notCommand : GatewayClient.matchesSubject Orchestrator.commandPattern subject = false)
    (notCmd : subject ≠ ConveyorController.cmdSubject)
    (notStatus : subject ≠ ConveyorController.statusSubject)
    (notReject : subject ≠ ScannerStation.rejectsSubject) :
    Harmless (Message.publish subject payload) :=
  harmless_of_subject notCommand notCmd notStatus notReject

/-- A command to the conveyor other than `start` and `stop`. -/
theorem harmless_command {payload : JsonValue}
    (notStart : (payload.get "action").asString ≠ "start")
    (notStop : (payload.get "action").asString ≠ "stop") :
    Harmless (Message.publish ConveyorController.cmdSubject payload) :=
  have notStatus : (Message.publish ConveyorController.cmdSubject payload).subject ≠
      ConveyorController.statusSubject := by
    simp only [Message.publish_subject]
    decide
  { not_command := (by decide : GatewayClient.matchesSubject Orchestrator.commandPattern
      ConveyorController.cmdSubject = false)
    not_start := fun _ => ⟨notStart, notStop⟩
    not_running := fun same => absurd same notStatus
    still := fun same => absurd same notStatus
    not_reject := by
      simp only [Message.publish_subject]
      decide }

/-- A status of a standing belt. -/
theorem harmless_status {message : Message} {conveyor : ConveyorState}
    (subject : message.subject = ConveyorController.statusSubject)
    (reported : (message.payload.get "mode").asString = ConveyorState.modeToString conveyor.mode)
    (speed : message.payload.get "currentSpeed" = .double conveyor.currentSpeed)
    (rest : conveyor.AtRest) : Harmless message where
  not_command := by rw [subject]; decide
  not_start := fun same => absurd (subject.symm.trans same) (by decide)
  not_running := fun _ => by rcases rest.mode_eq with stopped | stopped <;> rw [reported, stopped] <;> decide
  still := fun _ => by rw [speed, rest.currentSpeed_eq]
  not_reject := by rw [subject]; decide

/-- The line as it stands from its start: the belt stands, the orchestrator has not started the
line, the scanner waits for the belt, and nothing queued for the programs that act on the belt
can change that. -/
structure Standing (line : PackagingLine) : Prop where
  belt : line.conveyor.state.conveyor.AtRest
  idle : line.orchestrator.state.Idle
  waiting : line.scanner.state.Waiting
  conveyor_inbox : ∀ message ∈ line.conveyor.inbox, Harmless message
  orchestrator_inbox : ∀ message ∈ line.orchestrator.inbox, Harmless message
  counter_inbox : ∀ message ∈ line.counter.inbox, Harmless message
  scanner_inbox : ∀ message ∈ line.scanner.inbox, Harmless message

/-- Standing depends on the controller, the orchestrator, the scanner and the counter's queue. -/
theorem Standing.of_frame {line other : PackagingLine} (standing : line.Standing)
    (conveyor : other.conveyor = line.conveyor) (orchestrator : other.orchestrator = line.orchestrator)
    (counter : other.counter.inbox = line.counter.inbox) (scanner : other.scanner = line.scanner) :
    other.Standing := by
  obtain ⟨belt, idle, waiting, conveyorInbox, orchestratorInbox, counterInbox, scannerInbox⟩ :=
    standing
  exact ⟨conveyor ▸ belt, orchestrator ▸ idle, scanner ▸ waiting, conveyor ▸ conveyorInbox,
    orchestrator ▸ orchestratorInbox, counter ▸ counterInbox, scanner ▸ scannerInbox⟩

theorem new_standing (startMs : Int) : (new config startMs).Standing :=
  ⟨ConveyorState.new_atRest, ⟨nofun, nofun⟩, ScannerStation.new_waiting startMs, nofun, nofun,
    nofun, nofun⟩

/-- Publishing harmless messages keeps the line standing. -/
theorem publish_standing {messages : List Message} (harmless : ∀ message ∈ messages, Harmless message)
    {line : PackagingLine} (standing : line.Standing) : (publish messages line).Standing :=
  have queued : ∀ {inbox : List Message}, (∀ message ∈ inbox, Harmless message) →
      ∀ message ∈ inbox ++ messages, Harmless message := fun kept message member =>
    (List.mem_append.mp member).elim (kept message) (harmless message)
  ⟨standing.belt, standing.idle, standing.waiting, queued standing.conveyor_inbox,
    queued standing.orchestrator_inbox, queued standing.counter_inbox, queued standing.scanner_inbox⟩

/-- The panel's keys command the belt only to change speed, stop or reset. -/
theorem keyCommand_harmless (key : Char) (panel : HmiPanel) :
    ∀ message ∈ HmiPanel.keyCommand arith key panel, Harmless message := by
  unfold HmiPanel.keyCommand
  split_ifs <;> simp only [List.mem_singleton, List.not_mem_nil, forall_eq, false_imp_iff,
    implies_true]
  all_goals first
    | exact harmless_publish _ (by decide) (by decide) (by decide) (by decide)
    | exact harmless_command (by simp [List.lookup_cons, JsonValue.asString])
        (by simp [List.lookup_cons, JsonValue.asString])

/-- What the button's loop publishes is harmless. -/
theorem buttonLoop_harmless (batchId : String) (connected : Bool) (timestamp : String)
    (station : EStopStation) :
    ∀ message ∈ (EStopStation.loopIteration batchId connected timestamp station).2,
      Harmless message := by
  intro message member
  rcases EStopStation.loopIteration_subjects batchId connected timestamp station message member
    with subject | subject | subject | subject <;>
    exact harmless_of_subject (by rw [subject]; decide) (by rw [subject]; decide)
      (by rw [subject]; decide) (by rw [subject]; decide)

/-- What the counter's loop publishes is harmless. -/
theorem counterLoop_harmless (countMs nowMs : Int) (connected : Bool) (timestamp : String)
    (station : CounterStation) :
    ∀ message ∈ (CounterStation.loopIteration arith config countMs nowMs connected timestamp
      station).2, Harmless message := by
  intro message member
  rcases CounterStation.loopIteration_subjects arith config countMs nowMs connected timestamp
      station message member with subject | subject | subject <;>
    exact harmless_of_subject (by rw [subject]; decide) (by rw [subject]; decide)
      (by rw [subject]; decide) (by rw [subject]; decide)

/-- A delivery to the controller keeps its belt standing and its queue harmless. -/
theorem receive_conveyor_standing (index : Nat) (timestamp : String)
    {process : Process ConveyorController} (rest : process.state.conveyor.AtRest)
    (harmless : ∀ message ∈ process.inbox, Harmless message) :
    (receive (ConveyorController.subscriptions arith) index timestamp process).state.conveyor.AtRest ∧
      ∀ message ∈ (receive (ConveyorController.subscriptions arith) index timestamp process).inbox,
        Harmless message := by
  refine receive_keeps_queued (fun program : ConveyorController => program.conveyor.AtRest)
    Harmless (fun entry member message queued routed program kept => ?_) index rest harmless
  simp only [ConveyorController.subscriptions, List.mem_cons, List.mem_singleton,
    List.not_mem_nil, or_false] at member
  rcases member with rfl | rfl
  · have subject : ConveyorController.cmdSubject = message.subject :=
      (matchesSubject_literal (by decide) (by decide)).mp routed
    obtain ⟨notStart, notStop⟩ := queued.not_start subject.symm
    exact ConveyorController.handleCommand_atRest arith timestamp notStart notStop kept
  · exact ⟨.inr rfl, rfl⟩

/-- Every event keeps the line standing. -/
theorem step_standing (event : LineEvent) {line : PackagingLine} (standing : line.Standing) :
    (step arith config summary event line).Standing := by
  cases event with
  | receive party index timestamp =>
    cases party with
    | conveyor =>
      obtain ⟨belt, inbox⟩ :=
        receive_conveyor_standing arith index timestamp standing.belt standing.conveyor_inbox
      exact { standing with belt, conveyor_inbox := inbox }
    | orchestrator =>
      obtain ⟨idle, inbox⟩ := receive_keeps_queued Orchestrator.Idle Harmless
        (fun _ member _ queued routed _ idle => Orchestrator.subscriptions_idle arith summary
          queued.not_command queued.not_running timestamp member routed idle)
        index standing.idle standing.orchestrator_inbox
      exact { standing with idle, orchestrator_inbox := inbox }
    | button | hmi => exact standing.of_frame rfl rfl rfl rfl
  | connected party =>
    cases party with
    | button =>
      simp only [step]
      split
      · exact standing
      · refine publish_standing ?_ standing
        simp only [EStopStation.onConnected, List.mem_singleton, forall_eq]
        exact harmless_publish _ (by decide) (by decide) (by decide) (by decide)
    | conveyor =>
      simp only [step]
      split
      · exact standing
      · refine publish_standing (fun message member => ?_) standing
        obtain ⟨subject, reported, speed⟩ :=
          ConveyorController.onConnected_published _ _ message member
        exact harmless_status subject reported speed standing.belt
    | orchestrator =>
      simp only [step]
      split
      · exact standing
      · refine publish_standing ?_ standing
        simp only [Orchestrator.onConnected, List.mem_singleton, forall_eq]
        exact harmless_publish _ (by decide) (by decide) (by decide) (by decide)
    | hmi => exact standing
  | buttonInput text => exact standing.of_frame rfl rfl rfl rfl
  | buttonLoop connected timestamp =>
    simp only [step]
    split
    · exact standing
    · exact publish_standing (buttonLoop_harmless _ _ _ _) (standing.of_frame rfl rfl rfl rfl)
  | conveyorLoop deltaSeconds nowMs connected timestamp =>
    simp only [step]
    split
    · exact standing
    · have unmoved := ConveyorState.update_of_atRest arith deltaSeconds standing.belt
      refine publish_standing (fun message member => ?_)
        { standing with belt := by simpa [ConveyorController.loopIteration_conveyor, unmoved]
            using standing.belt }
      obtain ⟨subject, reported, speed⟩ := ConveyorController.loopIteration_published arith _ _ _ _ _
        message member
      rw [unmoved] at reported speed
      exact harmless_status subject reported speed standing.belt
  | hmiKey key =>
    simp only [step]
    split
    · exact standing
    · exact publish_standing (keyCommand_harmless arith key _) standing
  | sensorReceive sensor index nowMs =>
    cases sensor with
    | counter =>
      have inbox : ∀ message ∈ (receive (CounterStation.subscriptions arith) index nowMs
          line.counter).inbox, Harmless message :=
        (receive_keeps_queued (fun _ => True) Harmless (fun _ _ _ _ _ _ _ => trivial) index
          trivial standing.counter_inbox).2
      exact { standing with counter_inbox := inbox }
    | scanner =>
      obtain ⟨waiting, inbox⟩ := receive_keeps_queued ScannerStation.Waiting Harmless
        (fun _ member _ queued routed _ waiting =>
          ScannerStation.subscriptions_waiting arith member nowMs queued.not_running routed waiting)
        index standing.waiting standing.scanner_inbox
      exact { standing with waiting, scanner_inbox := inbox }
  | sensorConnected sensor =>
    cases sensor <;> simp only [step] <;> split
    all_goals first
      | exact standing
      | refine publish_standing ?_ standing
        simp only [CounterStation.onConnected, ScannerStation.onConnected, List.mem_singleton,
          forall_eq]
        exact harmless_publish _ (by decide) (by decide) (by decide) (by decide)
  | counterLoop countMs nowMs connected timestamp =>
    simp only [step]
    split
    · exact standing
    · exact publish_standing (counterLoop_harmless arith config _ _ _ _ _)
        (standing.of_frame rfl rfl rfl rfl)
  | scannerLoop nowMs connected timestamp draws =>
    simp only [step, ScannerStation.loopIteration_of_waiting arith config nowMs connected timestamp
      draws standing.waiting]
    split
    · exact standing
    · exact publish_standing (fun _ member => absurd member (List.not_mem_nil _))
        (standing.of_frame rfl rfl rfl rfl)

/-- Every run keeps the line standing. -/
theorem run_standing (events : List LineEvent) :
    ∀ line : PackagingLine, line.Standing → (run arith config summary events line).Standing := by
  induction events with
  | nil => exact fun _ standing => standing
  | cons event events ih =>
    exact fun line standing => ih _ (step_standing arith config summary event standing)

/-- In every run of the line from its start, whatever the order in which the programs read
their messages, act on their clocks and take key presses, the belt stands (stopped, or latched
by an emergency stop, at zero speed) and the orchestrator never reads the line as starting or
running: the panel's start command never reaches the orchestrator, and no program asks the
belt to start. -/
theorem belt_never_moves (startMs : Int) (events : List LineEvent) :
    (run arith config summary events (new config startMs)).conveyor.state.conveyor.AtRest ∧
      (run arith config summary events (new config startMs)).orchestrator.state.Idle :=
  have standing := run_standing arith config summary events _ (new_standing config startMs)
  ⟨standing.belt, standing.idle⟩

/-- The controller's belt is latched only once its polling thread is blocked. -/
def LatchBlocks (line : PackagingLine) : Prop :=
  line.conveyor.state.conveyor.mode = .emergencyStop → line.conveyor.hung = true

/-- A delivery latches the belt only in a handler that then publishes, and so blocks. -/
theorem receive_latchBlocks (index : Nat) (timestamp : String)
    {process : Process ConveyorController}
    (blocks : process.state.conveyor.mode = .emergencyStop → process.hung = true) :
    (receive (ConveyorController.subscriptions arith) index timestamp process).state.conveyor.mode =
        .emergencyStop →
      (receive (ConveyorController.subscriptions arith) index timestamp process).hung = true := by
  rcases receive_cases index process with same | ⟨queued, -, -, delivered⟩
  · rw [same]
    exact blocks
  · rw [delivered]
    refine handleSubscriptionMessage_invariant
      (fun other : Process ConveyorController =>
        other.state.conveyor.mode = .emergencyStop → other.hung = true)
      (fun entry member other kept => ?_) blocks
    unfold dispatchTo
    split
    · next runs =>
      simp only [Bool.and_eq_true, Bool.not_eq_true'] at runs
      rcases ConveyorController.subscriptions_publish_or_keep arith timestamp queued other.state member
        with published | kept'
      · exact fun _ => by simpa using published
      · intro latched
        rw [kept'] at latched
        exact absurd (kept latched) (by simp [runs.1])
    · exact kept

/-- Every event keeps the latch and the block together. -/
theorem step_latchBlocks (event : LineEvent) {line : PackagingLine} (blocks : line.LatchBlocks) :
    (step arith config summary event line).LatchBlocks := by
  cases event with
  | receive party index timestamp =>
    cases party
    case conveyor => exact receive_latchBlocks arith index timestamp blocks
    all_goals exact blocks
  | connected party =>
    cases party <;> simp only [step] <;> (try split) <;> exact blocks
  | buttonInput text => exact blocks
  | buttonLoop connected timestamp =>
    simp only [step]
    split <;> exact blocks
  | conveyorLoop deltaSeconds nowMs connected timestamp =>
    simp only [step]
    split
    · exact blocks
    · next free =>
      intro latched
      simp only [publish_conveyor, enqueue_state, ConveyorController.loopIteration_conveyor]
        at latched
      rcases ConveyorState.update_cases arith deltaSeconds line.conveyor.state.conveyor with
        same | settled | ⟨-, current, moved⟩
      · rw [same] at latched
        exact absurd (blocks latched) free
      · rw [settled] at latched
        split at latched <;> cases latched
      · rw [moved] at latched
        exact absurd (blocks latched) free
  | hmiKey key =>
    simp only [step]
    split <;> exact blocks
  | sensorReceive sensor index nowMs => cases sensor <;> exact blocks
  | sensorConnected sensor => cases sensor <;> simp only [step] <;> split <;> exact blocks
  | counterLoop countMs nowMs connected timestamp =>
    simp only [step]
    split <;> exact blocks
  | scannerLoop nowMs connected timestamp draws =>
    simp only [step]
    split <;> exact blocks

/-- A blocked controller stays as it is, whatever happens on the line. -/
theorem step_of_hung (event : LineEvent) {line : PackagingLine} (hung : line.conveyor.hung = true) :
    (step arith config summary event line).conveyor.state = line.conveyor.state ∧
      (step arith config summary event line).conveyor.hung = true := by
  cases event with
  | receive party index timestamp =>
    cases party <;> simp [step, hung]
  | connected party => cases party <;> simp only [step] <;> (try split) <;> simp [hung]
  | buttonInput text => exact ⟨rfl, hung⟩
  | buttonLoop connected timestamp =>
    simp only [step]
    split <;> simp [hung]
  | conveyorLoop deltaSeconds nowMs connected timestamp => simp [step, hung]
  | hmiKey key =>
    simp only [step]
    split <;> simp [hung]
  | sensorReceive sensor index nowMs => cases sensor <;> exact ⟨rfl, hung⟩
  | sensorConnected sensor => cases sensor <;> simp only [step] <;> split <;> simp [hung]
  | counterLoop countMs nowMs connected timestamp =>
    simp only [step]
    split <;> simp [hung]
  | scannerLoop nowMs connected timestamp draws =>
    simp only [step]
    split <;> simp [hung]

theorem new_latchBlocks (startMs : Int) : (new config startMs).LatchBlocks :=
  fun stopped => absurd stopped (by decide : ConveyorState.Mode.stopped ≠ .emergencyStop)

theorem run_latchBlocks (events : List LineEvent) :
    ∀ line : PackagingLine, line.LatchBlocks → (run arith config summary events line).LatchBlocks := by
  induction events with
  | nil => exact fun _ blocks => blocks
  | cons event events ih =>
    exact fun line blocks => ih _ (step_latchBlocks arith config summary event blocks)

theorem run_of_hung (later : List LineEvent) :
    ∀ line : PackagingLine, line.conveyor.hung = true →
      (run arith config summary later line).conveyor.state = line.conveyor.state := by
  induction later with
  | nil => exact fun _ _ => rfl
  | cons event later ih =>
    intro line hung
    obtain ⟨same, still⟩ := step_of_hung arith config summary event hung
    rw [run_cons, ih _ still, same]

/-- In every run of the line from its start, once the belt is latched by an emergency stop the
controller is blocked for good: no later event changes its state.  Neither the e-stop's clear,
which the controller takes for one more emergency, nor the panel's reset key brings the belt
back. -/
theorem latched_belt_is_final (startMs : Int) (events later : List LineEvent)
    (latched :
      (run arith config summary events (new config startMs)).conveyor.state.conveyor.mode =
        .emergencyStop) :
    (run arith config summary later
        (run arith config summary events (new config startMs))).conveyor.state =
      (run arith config summary events (new config startMs)).conveyor.state :=
  run_of_hung arith config summary later _
    (run_latchBlocks arith config summary events _ (new_latchBlocks config startMs) latched)

/-- The e-stop is pressed and its broadcast reaches the controller; then the e-stop is reset and
the panel's reset key pressed, and the controller reads the clear and the reset: it stays
latched. -/
theorem estop_outlasts_its_reset :
    (run .inert loadDemoConfig .null
        [.buttonInput "", .buttonLoop true "t0", .receive .conveyor 1 "t0"]
        (new loadDemoConfig 0)).conveyor.state.conveyor.mode = .emergencyStop ∧
      (run .inert loadDemoConfig .null
          [.buttonInput "reset", .buttonLoop true "t1", .receive .conveyor 5 "t1", .hmiKey '6',
            .receive .conveyor 6 "t2"]
          (run .inert loadDemoConfig .null
            [.buttonInput "", .buttonLoop true "t0", .receive .conveyor 1 "t0"]
            (new loadDemoConfig 0))).conveyor.state =
        (run .inert loadDemoConfig .null
          [.buttonInput "", .buttonLoop true "t0", .receive .conveyor 1 "t0"]
          (new loadDemoConfig 0)).conveyor.state :=
  ⟨by decide, latched_belt_is_final .inert loadDemoConfig .null 0 _ _ (by decide)⟩

/-- Every event leaves the counter uncounted on a standing line, where `0.0 <= 0.0` holds: the
statuses it reads report the belt at zero speed, no reject reaches it, and its `update` counts
nothing at zero speed. -/
theorem step_uncounted (standsStill : arith.le .zero .zero = true) (event : LineEvent)
    {line : PackagingLine} (standing : line.Standing)
    (uncounted : line.counter.state.counter.Uncounted) :
    (step arith config summary event line).counter.state.counter.Uncounted := by
  cases event with
  | sensorReceive sensor index nowMs =>
    cases sensor with
    | counter =>
      exact (receive_keeps_queued (fun station : CounterStation => station.counter.Uncounted)
        Harmless (fun _ member _ queued routed _ kept =>
          CounterStation.subscriptions_uncounted arith member nowMs queued.still
            queued.not_reject routed kept)
        index uncounted standing.counter_inbox).1
    | scanner => exact uncounted
  | counterLoop countMs nowMs connected timestamp =>
    simp only [step]
    split
    · exact uncounted
    · exact CounterStation.loopIteration_uncounted arith standsStill config countMs nowMs
        connected timestamp uncounted
  | receive party => cases party <;> exact uncounted
  | connected party => cases party <;> simp only [step] <;> (try split) <;> exact uncounted
  | sensorConnected sensor => cases sensor <;> simp only [step] <;> split <;> exact uncounted
  | buttonInput text => exact uncounted
  | buttonLoop connected timestamp | conveyorLoop deltaSeconds nowMs connected timestamp
  | hmiKey key | scannerLoop nowMs connected timestamp draws =>
    simp only [step]
    split <;> exact uncounted

/-- In every run of the line from its start, whatever the order in which the programs read
their messages, act on their clocks and take key presses, and whatever the scanner draws, the
line produces nothing: the counter counts no package, good or rejected, and takes the belt as
standing, and the scanner inspects no package.  The belt never reports a speed above zero, so
the counter's `update` never counts, and never reports `running`, so the scanner never scans
and never reports a reject. -/
theorem line_produces_nothing (standsStill : arith.le .zero .zero = true) (startMs : Int)
    (events : List LineEvent) :
    (run arith config summary events (new config startMs)).counter.state.counter.Uncounted ∧
      (run arith config summary events (new config startMs)).scanner.state.scanner.totalScans =
        0 := by
  suffices keeps : ∀ line : PackagingLine, line.Standing → line.counter.state.counter.Uncounted →
      (run arith config summary events line).counter.state.counter.Uncounted from
    ⟨keeps _ (new_standing config startMs) (ProductionCounter.new_uncounted _ _),
      (run_standing arith config summary events _ (new_standing config startMs)).waiting.unscanned⟩
  induction events with
  | nil => exact fun _ _ uncounted => uncounted
  | cons event events ih =>
    exact fun line standing uncounted => ih _ (step_standing arith config summary event standing)
      (step_uncounted arith config summary standsStill event standing uncounted)

/-- The panel's start key is pressed and the orchestrator reads the command; the counter and
the scanner make a pass of their loops: nothing is counted or scanned. -/
theorem start_key_produces_nothing :
    let standing : DoubleArith := { DoubleArith.inert with le := fun _ _ => true }
    let events : List LineEvent := [.hmiKey '1', .receive .orchestrator 0 "t0",
      .counterLoop 0 5000 true "t0", .scannerLoop 500 true "t0" ⟨.zero, .zero, .zero⟩]
    standing.le .zero .zero = true ∧
      (run standing loadDemoConfig .null events
        (new loadDemoConfig 0)).counter.state.counter.Uncounted ∧
      (run standing loadDemoConfig .null events
        (new loadDemoConfig 0)).scanner.state.scanner.totalScans = 0 := by
  intro standing events
  exact ⟨rfl, line_produces_nothing standing loadDemoConfig .null rfl 0 events⟩

end PackagingLine

end GatewaySdk.Demo
