import GatewaySdk.Demo.Process

/-!
# The line orchestrator

`line_orchestrator.cpp` keeps the state of the whole line from what the devices publish: the
conveyor's status moves it to `Running`, `Stopped` or `Emergency`, the emergency broadcast sets
and clears `emergencyActive`, and the commands on `factory.line1.cmd.orchestrator.>` start and
stop the line by commanding the conveyor.  The device table and the OEE calculator only feed
the summaries it publishes, and are left out: the handlers that update them change nothing
here.

While an emergency is active the orchestrator refuses to start the line, but its line state
can still leave `Emergency`: a `running` status of the conveyor or a `stop_line` command moves
it, and only a `stopped` status is held back (`Tracked`).
-/

namespace GatewaySdk.Demo

/-- `LineState`. -/
inductive LineState
  | unknown
  | stopped
  | starting
  | running
  | stopping
  | emergency
  | fault
  deriving DecidableEq, Repr

/-- `lineStateToString`. -/
def lineStateToString : LineState → String
  | .unknown => "unknown"
  | .stopped => "stopped"
  | .starting => "starting"
  | .running => "running"
  | .stopping => "stopping"
  | .emergency => "emergency"
  | .fault => "fault"

/-- The state of the orchestrator's `main` that decides what it does: the line state of its
`LineOrchestrator` and the flag `emergencyActive`. -/
structure Orchestrator where
  lineState : LineState
  emergencyActive : Bool
  deriving DecidableEq, Repr

namespace Orchestrator

/-- `DEVICE_ID`. -/
def deviceId : String := "controller-orchestrator-001"

/-- `LINE_STATUS_SUBJECT`. -/
def lineStatusSubject : String := "factory.line1.status"

/-- The conveyor's command subject, on which the orchestrator commands the belt. -/
def conveyorCmdSubject : String := "factory.line1.conveyor.cmd"

/-- The pattern the orchestrator takes its commands on. -/
def commandPattern : String := "factory.line1.cmd.orchestrator.>"

/-- The state in which `main` starts: the line stopped, no emergency. -/
def new : Orchestrator := { lineState := .stopped, emergencyActive := false }

/-- The handlers of the device statuses, the production output and the alerts: they update the
device table, the OEE figures or the console, and publish nothing. -/
def handleUntracked : Handler Orchestrator := fun _ _ program => (program, [])

/-- The handler of the conveyor's status. -/
def handleConveyorStatus : Handler Orchestrator := fun _ message program =>
  (if message.payload.contains "mode" then
    let mode := (message.payload.get "mode").asString
    if mode = "running" then { program with lineState := .running }
    else if mode = "stopped" then
      if program.emergencyActive then program else { program with lineState := .stopped }
    else if mode = "emergency_stop" then { program with lineState := .emergency }
    else program
  else program, [])

/-- The handler of the emergency broadcast, by the broadcast's type. -/
def handleEmergency : Handler Orchestrator := fun _ message program =>
  (if message.payload.contains "type" then
    let type := (message.payload.get "type").asString
    if type = "emergency_stop" then { emergencyActive := true, lineState := .emergency }
    else if type = "emergency_clear" then { emergencyActive := false, lineState := .stopped }
    else program
  else program, [])

variable (arith : DoubleArith)

/-- The handler of the orchestrator's commands.  `summary` is the status summary with its OEE
figures, built from the device table and the OEE calculator that the model leaves out;
`reset_oee` resets only those. -/
def handleCommand (summary : JsonValue) : Handler Orchestrator := fun timestamp message program =>
  if message.payload.contains "action" then
    let action := (message.payload.get "action").asString
    if action = "start_line" then
      if program.emergencyActive then (program, [])
      else ({ program with lineState := .starting },
        [Message.publish conveyorCmdSubject (jsonObject [("action", .string "start")])])
    else if action = "stop_line" then
      ({ program with lineState := .stopping },
        [Message.publish conveyorCmdSubject (jsonObject [("action", .string "stop")])])
    else if action = "set_speed" then
      if message.payload.contains "value" then
        (program, [Message.publish conveyorCmdSubject (jsonObject [("action", .string "setSpeed"),
          ("value", .double ((message.payload.get "value").asDouble arith))])])
      else (program, [])
    else if action = "status" then
      (program, [Message.publish lineStatusSubject (summary.set "timestamp" (.string timestamp))])
    else (program, [])
  else (program, [])

/-- The subscriptions of `main`, in the order it makes them. -/
def subscriptions (summary : JsonValue) : List (String × Handler Orchestrator) :=
  [("factory.line1.status.>", handleUntracked), ("factory.line1.output", handleUntracked),
    ("factory.line1.conveyor.status", handleConveyorStatus),
    ("factory.line1.emergency", handleEmergency), ("factory.line1.alerts.>", handleUntracked),
    (commandPattern, handleCommand arith summary)]

/-- The `onConnected` callback: the orchestrator announces itself. -/
def onConnected (config : DemoConfig) : List Message :=
  [Message.publish (lineStatusSubject ++ ".orchestrator") (jsonObject [("online", .bool true),
    ("deviceId", .string deviceId), ("lineId", .string config.lineId),
    ("lineName", .string config.lineName), ("batch", .string config.batchId),
    ("state", .string "initializing")])]

/-- The line has not been started, and is not running. -/
structure Idle (program : Orchestrator) : Prop where
  not_starting : program.lineState ≠ .starting
  not_running : program.lineState ≠ .running

/-- Without a command and without a conveyor status that reads `running`, no handler starts
the line or lets it read `Running`. -/
theorem subscriptions_idle (summary : JsonValue) {message : Message}
    (noCommand : GatewayClient.matchesSubject commandPattern message.subject = false)
    (notRunning : message.subject = "factory.line1.conveyor.status" →
      (message.payload.get "mode").asString ≠ "running")
    (timestamp : String) {entry : String × Handler Orchestrator}
    (member : entry ∈ subscriptions arith summary)
    (routed : GatewayClient.matchesSubject entry.1 message.subject = true)
    {program : Orchestrator} (idle : program.Idle) : (entry.2 timestamp message program).1.Idle := by
  simp only [subscriptions, List.mem_cons, List.mem_singleton, List.not_mem_nil, or_false] at member
  rcases member with rfl | rfl | rfl | rfl | rfl | rfl
  · exact idle
  · exact idle
  · have status := (matchesSubject_literal (by decide) (by decide)).mp routed
    simp only [handleConveyorStatus]
    split_ifs with _ running
    · exact absurd running (notRunning status.symm)
    all_goals first | exact idle | exact ⟨nofun, nofun⟩
  · simp only [handleEmergency]
    split_ifs <;> first | exact idle | exact ⟨nofun, nofun⟩
  · exact idle
  · simp [noCommand] at routed

/-- What the orchestrator's state satisfies whatever it is sent: the line never reads `Unknown`
or `Fault`, and while an emergency is active it reads `Emergency`, `Running` or `Stopping`. -/
structure Tracked (program : Orchestrator) : Prop where
  not_unknown : program.lineState ≠ .unknown
  not_fault : program.lineState ≠ .fault
  during_emergency : program.emergencyActive = true →
    program.lineState = .emergency ∨ program.lineState = .running ∨ program.lineState = .stopping

theorem new_tracked : new.Tracked := ⟨nofun, nofun, nofun⟩

/-- Every handler keeps the orchestrator tracked: the broadcast sets the flag together with
`Emergency`, a `stopped` status is held back while the flag is set, and a start is refused. -/
theorem subscriptions_tracked (summary : JsonValue) {entry : String × Handler Orchestrator}
    (member : entry ∈ subscriptions arith summary) (timestamp : String) (message : Message)
    {program : Orchestrator} (tracked : program.Tracked) :
    (entry.2 timestamp message program).1.Tracked := by
  simp only [subscriptions, List.mem_cons, List.mem_singleton, List.not_mem_nil, or_false] at member
  rcases member with rfl | rfl | rfl | rfl | rfl | rfl
  · exact tracked
  · exact tracked
  · simp only [handleConveyorStatus]
    split_ifs with _ _ _ active
    · exact ⟨nofun, nofun, fun _ => .inr (.inl rfl)⟩
    · exact tracked
    · exact ⟨nofun, nofun, fun set => absurd set active⟩
    · exact ⟨nofun, nofun, fun _ => .inl rfl⟩
    all_goals exact tracked
  · simp only [handleEmergency]
    split_ifs
    · exact ⟨nofun, nofun, fun _ => .inl rfl⟩
    · exact ⟨nofun, nofun, nofun⟩
    all_goals exact tracked
  · exact tracked
  · simp only [handleCommand]
    split_ifs with _ _ active
    · exact tracked
    · exact ⟨nofun, nofun, fun set => absurd set active⟩
    · exact ⟨nofun, nofun, fun _ => .inr (.inr rfl)⟩
    all_goals exact tracked

/-- A message the command pattern accepts reaches the command handler alone: the patterns of
the other subscriptions start apart from `factory.line1.cmd.orchestrator.`. -/
theorem handleSubscriptionMessage_of_command (summary : JsonValue) (timestamp : String)
    {message : Message} (routed : GatewayClient.matchesSubject commandPattern message.subject = true)
    (process : Process Orchestrator) :
    handleSubscriptionMessage (subscriptions arith summary) timestamp message process =
      dispatchTo timestamp message process (commandPattern, handleCommand arith summary) := by
  have skip : ∀ other : String, '*' ∉ other.data →
      (literalFront commandPattern).isPrefixOf (literalFront other) = false ∧
        (literalFront other).isPrefixOf (literalFront commandPattern) = false →
      GatewayClient.matchesSubject other message.subject = false :=
    fun _ noStar apart => matchesSubject_exclusive (by decide) noStar apart routed
  simp only [handleSubscriptionMessage, subscriptions, List.foldl, dispatchTo,
    skip "factory.line1.status.>" (by decide) (by decide),
    skip "factory.line1.output" (by decide) (by decide),
    skip "factory.line1.conveyor.status" (by decide) (by decide),
    skip "factory.line1.emergency" (by decide) (by decide),
    skip "factory.line1.alerts.>" (by decide) (by decide), Bool.and_false, Bool.false_eq_true,
    if_false]

/-- A conveyor status reaches the conveyor-status handler alone. -/
theorem handleSubscriptionMessage_of_conveyor_status (summary : JsonValue) (timestamp : String)
    {message : Message} (status : message.subject = "factory.line1.conveyor.status")
    (process : Process Orchestrator) :
    handleSubscriptionMessage (subscriptions arith summary) timestamp message process =
      dispatchTo timestamp message process ("factory.line1.conveyor.status", handleConveyorStatus) := by
  have skip : ∀ other : String,
      GatewayClient.matchesSubject other "factory.line1.conveyor.status" = false →
      GatewayClient.matchesSubject other message.subject = false :=
    fun _ apart => status ▸ apart
  simp only [handleSubscriptionMessage, subscriptions, List.foldl, dispatchTo,
    skip "factory.line1.status.>" (by decide), skip "factory.line1.output" (by decide),
    skip "factory.line1.emergency" (by decide), skip "factory.line1.alerts.>" (by decide),
    skip commandPattern (by decide), Bool.and_false, Bool.false_eq_true, if_false]

/-- Whatever messages are delivered to the orchestrator, in whatever order, its line never
reads `Unknown` or `Fault`, and while an emergency is active it reads `Emergency`, `Running` or
`Stopping`, never `Stopped` or `Starting`: it refuses to start the line.  Yet from any state,
`Emergency` included, a `running` status of the conveyor moves the line to `Running`, and a
`stop_line` command on any subject of its command pattern moves it to `Stopping`; neither
clears the emergency flag. -/
theorem tracked_of_deliveries (summary : JsonValue) :
    (∀ deliveries : List (String × Message),
      (handleAll (subscriptions arith summary) deliveries { state := new }).state.Tracked) ∧
    (∀ timestamp (message : Message) (process : Process Orchestrator),
      message.subject = "factory.line1.conveyor.status" →
      message.payload.contains "mode" = true → (message.payload.get "mode").asString = "running" →
      process.hung = false →
      (handleSubscriptionMessage (subscriptions arith summary) timestamp message process).state =
        { process.state with lineState := .running }) ∧
    (∀ timestamp (message : Message) (process : Process Orchestrator),
      GatewayClient.matchesSubject commandPattern message.subject = true →
      message.payload.contains "action" = true →
      (message.payload.get "action").asString = "stop_line" → process.hung = false →
      (handleSubscriptionMessage (subscriptions arith summary) timestamp message process).state =
        { process.state with lineState := .stopping }) := by
  refine ⟨fun deliveries => handleAll_keeps Tracked (fun _ member timestamp message _ tracked =>
    subscriptions_tracked arith summary member timestamp message tracked) deliveries new_tracked,
    fun timestamp message process status hasMode running free => ?_,
    fun timestamp message process routed hasAction stop free => ?_⟩
  · have routed : GatewayClient.matchesSubject "factory.line1.conveyor.status" message.subject =
        true := by
      rw [status]
      decide
    rw [handleSubscriptionMessage_of_conveyor_status arith summary timestamp status]
    simp [dispatchTo, free, routed, handleConveyorStatus, hasMode, running]
  · rw [handleSubscriptionMessage_of_command arith summary timestamp routed]
    simp [dispatchTo, free, routed, handleCommand, hasAction, stop]

/-- During an emergency a `running` status of the conveyor moves the line to `Running`, with
the emergency still active. -/
theorem running_status_ends_emergency_reading :
    (handleSubscriptionMessage (subscriptions .inert .null) "t1"
        (Message.publish "factory.line1.conveyor.status" (jsonObject [("mode", .string "running")]))
        { state := { lineState := .emergency, emergencyActive := true } }).state =
      { lineState := .running, emergencyActive := true } :=
  (tracked_of_deliveries .inert .null).2.1 "t1" _ _ rfl (by decide) (by decide) rfl

end Orchestrator

end GatewaySdk.Demo
