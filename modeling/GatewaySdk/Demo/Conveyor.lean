import GatewaySdk.Demo.Process

/-!
# The conveyor controller

`conveyor_controller.cpp` drives a simulated belt through the class `ConveyorState`: a mode and
two speeds behind a mutex, changed by `start`, `stop`, `setSpeed`, `emergencyStop`, `reset` and
the periodic `update`.  Each method holds the mutex for its whole body, so each call is one step
of the state machine below.  The controller's `main` calls them from its command handler, its
emergency handler and its main loop.

Over every sequence of calls from the constructor, and whatever the arithmetic of doubles
returns, the mode `Fault` is never entered and the belt reports `Running` only at its target
speed, when that speed compares above zero (`Consistent`).  An emergency stop holds the belt at
zero speed through every call but `reset` (`Halted`).
-/

namespace GatewaySdk.Demo

/-- `ConveyorState::Mode`. -/
inductive ConveyorState.Mode
  | stopped
  | running
  | ramping
  | emergencyStop
  | fault
  deriving DecidableEq, Repr

/-- `ConveyorState`: the belt's mode, its speed, and the speed it ramps toward. -/
structure ConveyorState where
  mode : ConveyorState.Mode
  currentSpeed : Binary64
  targetSpeed : Binary64
  deriving DecidableEq, Repr

namespace ConveyorState

/-- `SPEED_MIN`, `0.0`. -/
def speedMin : Binary64 := ⟨0x0000000000000000⟩

/-- `SPEED_MAX`, `200.0`. -/
def speedMax : Binary64 := ⟨0x4069000000000000⟩

/-- `SPEED_DEFAULT`, `100.0`. -/
def speedDefault : Binary64 := ⟨0x4059000000000000⟩

/-- The `50.0` units per second of the ramp in `update`. -/
def rampPerSecond : Binary64 := ⟨0x4049000000000000⟩

/-- The `0.1` within which `update` snaps to the target. -/
def settleTolerance : Binary64 := ⟨0x3FB999999999999A⟩

/-- The constructor: stopped, at rest, set to the default speed. -/
def new : ConveyorState :=
  { mode := .stopped, currentSpeed := .zero, targetSpeed := speedDefault }

/-- The guard of the methods: an emergency stop or a fault is latched. -/
def latched (state : ConveyorState) : Bool :=
  state.mode == .emergencyStop || state.mode == .fault

variable (arith : DoubleArith)

/-- `start`: refused while latched, else the belt ramps toward its target. -/
def start (state : ConveyorState) : Bool × ConveyorState :=
  if state.latched then (false, state) else (true, { state with mode := .ramping })

/-- `stop`: refused while latched, else the belt ramps down to zero. -/
def stop (state : ConveyorState) : Bool × ConveyorState :=
  if state.latched then (false, state)
  else (true, { state with targetSpeed := .zero, mode := .ramping })

/-- `setSpeed`: refused while latched, else the target clamped to the speed limits; a moving
belt ramps to it, a stopped one keeps its mode. -/
def setSpeed (speed : Binary64) (state : ConveyorState) : Bool × ConveyorState :=
  if state.latched then (false, state)
  else (true, { state with
    targetSpeed := arith.max speedMin (arith.min speedMax speed)
    mode := if state.mode = .running ∨ state.mode = .ramping then .ramping else state.mode })

/-- `emergencyStop`: latched at once, both speeds zero. -/
def emergencyStop (state : ConveyorState) : ConveyorState :=
  { state with mode := .emergencyStop, currentSpeed := .zero, targetSpeed := .zero }

/-- `reset`: from a latched state back to stopped at the default speed; refused otherwise. -/
def reset (state : ConveyorState) : Bool × ConveyorState :=
  if state.latched then (true, { mode := .stopped, currentSpeed := .zero, targetSpeed := speedDefault })
  else (false, state)

/-- The speed after one step of the ramp: toward the target by 50 units per second, never
past it. -/
def rampedSpeed (deltaSeconds : Binary64) (state : ConveyorState) : Binary64 :=
  let rampRate := arith.mul rampPerSecond deltaSeconds
  if arith.lt state.currentSpeed state.targetSpeed then
    arith.min (arith.add state.currentSpeed rampRate) state.targetSpeed
  else if arith.lt state.targetSpeed state.currentSpeed then
    arith.max (arith.sub state.currentSpeed rampRate) state.targetSpeed
  else state.currentSpeed

/-- `update`: a ramping belt moves toward its target, and within `0.1` of it takes the target
and runs, or stops when the target is not above zero.  Nothing else moves. -/
def update (deltaSeconds : Binary64) (state : ConveyorState) : ConveyorState :=
  if state.latched then state
  else if state.mode = .ramping then
    let current := rampedSpeed arith deltaSeconds state
    if arith.lt (arith.abs (arith.sub current state.targetSpeed)) settleTolerance then
      { state with
        currentSpeed := state.targetSpeed
        mode := if arith.lt .zero state.targetSpeed then .running else .stopped }
    else { state with currentSpeed := current }
  else state

/-- `ConveyorState::modeToString`. -/
def modeToString : Mode → String
  | .stopped => "stopped"
  | .running => "running"
  | .ramping => "ramping"
  | .emergencyStop => "emergency_stop"
  | .fault => "fault"

/-- A call of the controller on the belt. -/
inductive Call
  | start
  | stop
  | setSpeed (speed : Binary64)
  | emergencyStop
  | reset
  | update (deltaSeconds : Binary64)
  deriving DecidableEq

/-- The state after a call; the flag the method returns is dropped. -/
def Call.apply : Call → ConveyorState → ConveyorState
  | .start, state => state.start.2
  | .stop, state => state.stop.2
  | .setSpeed speed, state => (state.setSpeed arith speed).2
  | .emergencyStop, state => state.emergencyStop
  | .reset, state => state.reset.2
  | .update deltaSeconds, state => state.update arith deltaSeconds

/-- The state after a sequence of calls. -/
def runCalls (calls : List Call) (state : ConveyorState) : ConveyorState :=
  calls.foldl (fun state call => call.apply arith state) state

@[simp] theorem latched_iff (state : ConveyorState) :
    state.latched = true ↔ state.mode = .emergencyStop ∨ state.mode = .fault := by
  simp [latched]

/-- What every reachable state satisfies: the mode `Fault` is never entered, and the belt
runs only at its target speed, which compares above zero. -/
structure Consistent (state : ConveyorState) : Prop where
  not_fault : state.mode ≠ .fault
  running_at_target : state.mode = .running →
    state.currentSpeed = state.targetSpeed ∧ arith.lt .zero state.targetSpeed = true

/-- The belt is held by an emergency stop: latched, both speeds zero. -/
structure Halted (state : ConveyorState) : Prop where
  mode_eq : state.mode = .emergencyStop
  currentSpeed_eq : state.currentSpeed = .zero
  targetSpeed_eq : state.targetSpeed = .zero

theorem new_consistent : new.Consistent arith :=
  ⟨nofun, nofun⟩

theorem Halted.latched {state : ConveyorState} (halted : state.Halted) : state.latched = true :=
  (latched_iff state).mpr (.inl halted.mode_eq)

/-- What `update` can do: nothing, settle at the target, or move a ramping belt's speed. -/
theorem update_cases (deltaSeconds : Binary64) (state : ConveyorState) :
    state.update arith deltaSeconds = state ∨
      state.update arith deltaSeconds = { state with
        currentSpeed := state.targetSpeed
        mode := if arith.lt .zero state.targetSpeed then .running else .stopped } ∨
      state.mode = .ramping ∧ ∃ current,
        state.update arith deltaSeconds = { state with currentSpeed := current } := by
  unfold update
  by_cases latched : state.latched
  · exact .inl (if_pos latched)
  rw [if_neg latched]
  by_cases ramping : state.mode = .ramping
  · rw [if_pos ramping]
    dsimp only
    by_cases settled : arith.lt (arith.abs (arith.sub (rampedSpeed arith deltaSeconds state)
      state.targetSpeed)) settleTolerance
    · exact .inr (.inl (if_pos settled))
    · exact .inr (.inr ⟨ramping, _, if_neg settled⟩)
  · exact .inl (if_neg ramping)

/-- A settled ramp runs exactly when its target compares above zero, at that target. -/
theorem update_consistent (deltaSeconds : Binary64) {state : ConveyorState}
    (consistent : state.Consistent arith) : (state.update arith deltaSeconds).Consistent arith := by
  rcases update_cases arith deltaSeconds state with same | settled | ⟨ramping, current, moved⟩
  · rwa [same]
  · rw [settled]
    constructor
    · split <;> nofun
    · intro running
      split at running
      · exact ⟨rfl, ‹_›⟩
      · cases running
  · rw [moved]
    exact ⟨by simp [ramping], by simp [ramping]⟩

theorem Call.apply_consistent (call : Call) {state : ConveyorState}
    (consistent : state.Consistent arith) : (call.apply arith state).Consistent arith := by
  cases call with
  | update deltaSeconds => exact update_consistent arith deltaSeconds consistent
  | emergencyStop => exact ⟨nofun, nofun⟩
  | start | stop | reset =>
    simp only [apply, ConveyorState.start, ConveyorState.stop, ConveyorState.reset]
    split
    · first | exact consistent | exact ⟨nofun, nofun⟩
    · first | exact consistent | exact ⟨nofun, nofun⟩
  | setSpeed speed =>
    simp only [apply, ConveyorState.setSpeed]
    split
    · exact consistent
    · constructor
      · split
        · nofun
        · exact consistent.not_fault
      · intro running
        split at running
        · cases running
        · next still => exact absurd (.inl running) still

theorem runCalls_cons (call : Call) (calls : List Call) (state : ConveyorState) :
    runCalls arith (call :: calls) state = runCalls arith calls (call.apply arith state) := rfl

/-- Every state the belt reaches from its constructor, through any sequence of calls, is
consistent: `Fault` is never entered, and `Running` is reported only at the target speed,
which compares above zero. -/
theorem consistent_of_calls (calls : List Call) : (runCalls arith calls new).Consistent arith := by
  suffices keeps : ∀ state : ConveyorState, state.Consistent arith →
      (runCalls arith calls state).Consistent arith from keeps new (new_consistent arith)
  induction calls with
  | nil => exact fun _ consistent => consistent
  | cons call calls ih => exact fun state consistent => ih _ (call.apply_consistent arith consistent)

/-- The belt stands: stopped, or latched by an emergency stop, at zero speed. -/
structure AtRest (state : ConveyorState) : Prop where
  mode_eq : state.mode = .stopped ∨ state.mode = .emergencyStop
  currentSpeed_eq : state.currentSpeed = .zero

theorem new_atRest : new.AtRest := ⟨.inl rfl, rfl⟩

/-- A standing belt does not move by itself: `update` only moves a ramping one. -/
theorem update_of_atRest (deltaSeconds : Binary64) {state : ConveyorState} (rest : state.AtRest) :
    state.update arith deltaSeconds = state := by
  rcases update_cases arith deltaSeconds state with same | settled | ⟨ramping, -⟩
  · exact same
  · rcases rest.mode_eq with stopped | stopped <;> simp [update, stopped]
  · rcases rest.mode_eq with stopped | stopped <;> simp [stopped] at ramping

/-- Every call but `start` and `stop` leaves a standing belt standing. -/
theorem Call.apply_atRest (call : Call) (notStart : call ≠ .start) (notStop : call ≠ .stop)
    {state : ConveyorState} (rest : state.AtRest) : (call.apply arith state).AtRest := by
  cases call with
  | start => exact absurd rfl notStart
  | stop => exact absurd rfl notStop
  | emergencyStop => exact ⟨.inr rfl, rfl⟩
  | update deltaSeconds => simpa [apply, update_of_atRest arith deltaSeconds rest] using rest
  | reset =>
    simp only [apply, ConveyorState.reset]
    split
    · exact ⟨.inl rfl, rfl⟩
    · exact rest
  | setSpeed speed =>
    simp only [apply, ConveyorState.setSpeed]
    split
    · exact rest
    · refine ⟨?_, rest.currentSpeed_eq⟩
      rcases rest.mode_eq with stopped | stopped <;> simp [stopped]

end ConveyorState

/-- The state of the controller's `main`: the belt, the count of commands received (an `int`,
which wraps past `INT_MAX` as the machine wraps), and what the loop last published and when, on
the steady clock in milliseconds. -/
structure ConveyorController where
  conveyor : ConveyorState
  commandCount : Int
  lastMode : ConveyorState.Mode
  lastSpeed : Binary64
  lastStatusPublish : Int

namespace ConveyorController

open ConveyorState

/-- `DEVICE_ID`. -/
def deviceId : String := "actuator-conveyor-001"

/-- `CMD_SUBJECT`. -/
def cmdSubject : String := "factory.line1.conveyor.cmd"

/-- `STATUS_SUBJECT`. -/
def statusSubject : String := "factory.line1.conveyor.status"

/-- The line's emergency broadcast, which the controller subscribes to. -/
def emergencySubject : String := "factory.line1.emergency"

/-- `STATUS_INTERVAL_MS`. -/
def statusIntervalMs : Int := 5000

/-- The `0.5` of speed change on which the loop publishes. -/
def speedChangeThreshold : Binary64 := ⟨0x3FE0000000000000⟩

/-- The state in which `main` enters its loop, at the steady clock's reading `startMs`. -/
def new (startMs : Int) : ConveyorController :=
  { conveyor := ConveyorState.new, commandCount := 0, lastMode := ConveyorState.new.mode
    lastSpeed := ConveyorState.new.currentSpeed, lastStatusPublish := startMs }

variable (arith : DoubleArith)

/-- The `if` chain of the command handler: whether the action succeeded, the text of the
result, and the belt after it. -/
def commandOutcome (action : String) (payload : JsonValue) (conveyor : ConveyorState) :
    Bool × String × ConveyorState :=
  if action = "start" then
    let result := conveyor.start
    (result.1, if result.1 then "Starting conveyor" else "Cannot start (emergency stop active)",
      result.2)
  else if action = "stop" then
    let result := conveyor.stop
    (result.1, if result.1 then "Stopping conveyor" else "Cannot stop (emergency stop active)",
      result.2)
  else if action = "setSpeed" then
    if payload.contains "value" then
      let speed := (payload.get "value").asDouble arith
      let result := conveyor.setSpeed arith speed
      (result.1, if result.1 then "Setting speed to " ++ toString speed.toInt32 ++ " units/min"
        else "Cannot change speed (emergency stop active)", result.2)
    else (false, "Missing \x27value\x27 parameter", conveyor)
  else if action = "emergency_stop" then (true, "EMERGENCY STOP ACTIVATED", conveyor.emergencyStop)
  else if action = "reset" then
    let result := conveyor.reset
    (result.1, if result.1 then "Reset successful" else "Cannot reset (not in fault/estop state)",
      result.2)
  else if action = "status" then (true, "Status requested", conveyor)
  else (false, "Unknown action: " ++ action, conveyor)

/-- The status the controller publishes: the belt's mode and speeds, and the time. -/
def statusPayload (conveyor : ConveyorState) (timestamp : String) : JsonValue :=
  jsonObject [("mode", .string (modeToString conveyor.mode)),
    ("currentSpeed", .double conveyor.currentSpeed), ("targetSpeed", .double conveyor.targetSpeed),
    ("timestamp", .string timestamp)]

/-- The handler of `CMD_SUBJECT`: the command is counted, and one without an action is
dropped; otherwise the action runs, a request is answered on its response subject, and the
status is published. -/
def handleCommand : Handler ConveyorController := fun timestamp message program =>
  let program := { program with commandCount := signedWrap 32 (program.commandCount + 1) }
  if message.payload.contains "action" then
    let outcome := commandOutcome arith (message.payload.get "action").asString message.payload
      program.conveyor
    let conveyor := outcome.2.2
    let ack := jsonObject [("success", .bool outcome.1), ("message", .string outcome.2.1),
      ("mode", .string (modeToString conveyor.mode)),
      ("currentSpeed", .double conveyor.currentSpeed),
      ("targetSpeed", .double conveyor.targetSpeed), ("timestamp", .string timestamp)]
    ({ program with conveyor },
      message.correlationId.toList.map
          (fun id => Message.publish ("factory.line1.conveyor.response." ++ id) ack) ++
        [Message.publish statusSubject (statusPayload conveyor timestamp)])
  else (program, [])

/-- The handler of the emergency broadcast: the belt stops, whatever the payload says, and the
stop is published. -/
def handleEmergency : Handler ConveyorController := fun timestamp _ program =>
  ({ program with conveyor := program.conveyor.emergencyStop },
    [Message.publish statusSubject (jsonObject [("mode", .string "emergency_stop"),
      ("currentSpeed", .double .zero), ("reason", .string "emergency_broadcast"),
      ("timestamp", .string timestamp)])])

/-- The subscriptions of `main`, in the order it makes them. -/
def subscriptions : List (String × Handler ConveyorController) :=
  [(cmdSubject, handleCommand arith), (emergencySubject, handleEmergency)]

/-- The `onConnected` callback: the first status of the session. -/
def onConnected (batchId : String) (program : ConveyorController) : List Message :=
  [Message.publish statusSubject (jsonObject [("online", .bool true),
    ("deviceId", .string deviceId), ("mode", .string (modeToString program.conveyor.mode)),
    ("currentSpeed", .double program.conveyor.currentSpeed),
    ("targetSpeed", .double program.conveyor.targetSpeed), ("batch", .string batchId)])]

/-- One pass of the main loop after `client.poll`: the belt advances by the seconds since the
last pass; when connected, the status goes out when the mode changed or the speed moved by
more than `0.5` since the last report, and again once `STATUS_INTERVAL_MS` passed since it. -/
def loopIteration (deltaSeconds : Binary64) (nowMs : Int) (connected : Bool) (timestamp : String)
    (program : ConveyorController) : ConveyorController × List Message :=
  let program := { program with conveyor := program.conveyor.update arith deltaSeconds }
  if connected then
    let current := program.conveyor
    let changed := current.mode != program.lastMode ||
      arith.lt speedChangeThreshold (arith.abs (arith.sub current.currentSpeed program.lastSpeed))
    let reported := if changed then
        { program with
          lastMode := current.mode, lastSpeed := current.currentSpeed, lastStatusPublish := nowMs }
      else program
    let changes :=
      if changed then [Message.publish statusSubject (statusPayload current timestamp)] else []
    if statusIntervalMs ≤ nowMs - reported.lastStatusPublish then
      ({ reported with lastStatusPublish := nowMs }, changes ++
        [Message.publish statusSubject (jsonObject [("mode", .string (modeToString current.mode)),
          ("currentSpeed", .double current.currentSpeed),
          ("targetSpeed", .double current.targetSpeed),
          ("commandsReceived", .int program.commandCount), ("timestamp", .string timestamp)])])
    else (reported, changes)
  else (program, [])

/-- The call the command handler makes on the belt for an action, if it makes one. -/
def commandCall (action : String) (payload : JsonValue) : Option Call :=
  if action = "start" then some .start
  else if action = "stop" then some .stop
  else if action = "setSpeed" then
    if payload.contains "value" then some (.setSpeed ((payload.get "value").asDouble arith))
    else none
  else if action = "emergency_stop" then some .emergencyStop
  else if action = "reset" then some .reset
  else none

/-- The belt after a command is the belt after the one call the command makes. -/
theorem commandOutcome_conveyor (action : String) (payload : JsonValue)
    (conveyor : ConveyorState) :
    (commandOutcome arith action payload conveyor).2.2 =
      ((commandCall arith action payload).map (Call.apply arith · conveyor)).getD conveyor := by
  unfold commandOutcome commandCall
  simp only [apply_ite (fun outcome : Bool × String × ConveyorState => outcome.2.2),
    apply_ite (fun call : Option Call => (call.map (Call.apply arith · conveyor)).getD conveyor),
    ite_self, Option.map_some', Option.map_none', Option.getD_some, Option.getD_none]
  rfl

/-- Only the actions `start` and `stop` make the calls that move a standing belt. -/
theorem commandOutcome_atRest {action : String} (notStart : action ≠ "start")
    (notStop : action ≠ "stop") (payload : JsonValue) {conveyor : ConveyorState}
    (rest : conveyor.AtRest) : (commandOutcome arith action payload conveyor).2.2.AtRest := by
  rw [commandOutcome_conveyor]
  cases made : commandCall arith action payload with
  | none => exact rest
  | some call =>
    simp only [commandCall, notStart, notStop, if_false] at made
    have moves : call ≠ .start ∧ call ≠ .stop := by
      split_ifs at made <;> cases made <;> exact ⟨nofun, nofun⟩
    exact Call.apply_atRest arith call moves.1 moves.2 rest

/-- A command that is neither `start` nor `stop` leaves a standing belt standing. -/
theorem handleCommand_atRest (timestamp : String) {message : Message}
    (notStart : (message.payload.get "action").asString ≠ "start")
    (notStop : (message.payload.get "action").asString ≠ "stop") {program : ConveyorController}
    (rest : program.conveyor.AtRest) :
    (handleCommand arith timestamp message program).1.conveyor.AtRest := by
  unfold handleCommand
  split
  · exact commandOutcome_atRest arith notStart notStop _ rest
  · exact rest

/-- A command without an action is only counted; every other one is answered. -/
theorem handleCommand_publishes_or_keeps (timestamp : String) (message : Message)
    (program : ConveyorController) :
    (handleCommand arith timestamp message program).2 ≠ [] ∨
      (handleCommand arith timestamp message program).1.conveyor = program.conveyor := by
  unfold handleCommand
  split
  · exact .inl (by simp)
  · exact .inr rfl

/-- Each handler of the controller publishes, or leaves the belt as it was. -/
theorem subscriptions_publish_or_keep (timestamp : String) (message : Message)
    (program : ConveyorController) {entry : String × Handler ConveyorController}
    (member : entry ∈ subscriptions arith) :
    (entry.2 timestamp message program).2 ≠ [] ∨
      (entry.2 timestamp message program).1.conveyor = program.conveyor := by
  simp only [subscriptions, List.mem_cons, List.mem_singleton, List.not_mem_nil, or_false] at member
  rcases member with rfl | rfl
  · exact handleCommand_publishes_or_keeps arith timestamp message program
  · exact .inl nofun

/-- The loop moves the belt by `update` only. -/
theorem loopIteration_conveyor (deltaSeconds : Binary64) (nowMs : Int) (connected : Bool)
    (timestamp : String) (program : ConveyorController) :
    (loopIteration arith deltaSeconds nowMs connected timestamp program).1.conveyor =
      program.conveyor.update arith deltaSeconds := by
  simp only [loopIteration]
  split_ifs <;> rfl

/-- Everything the loop publishes is the status, and reports the mode the belt is in and its
speed. -/
theorem loopIteration_published (deltaSeconds : Binary64) (nowMs : Int) (connected : Bool)
    (timestamp : String) (program : ConveyorController) :
    ∀ message ∈ (loopIteration arith deltaSeconds nowMs connected timestamp program).2,
      message.subject = statusSubject ∧ (message.payload.get "mode").asString =
        modeToString (program.conveyor.update arith deltaSeconds).mode ∧
        message.payload.get "currentSpeed" =
          .double (program.conveyor.update arith deltaSeconds).currentSpeed := by
  simp only [loopIteration]
  split_ifs <;>
    simp [statusPayload, Message.publish, List.lookup_cons, JsonValue.asString, or_imp, forall_and]

/-- The first status of a session reports the belt's mode and its speed. -/
theorem onConnected_published (batchId : String) (program : ConveyorController) :
    ∀ message ∈ onConnected batchId program, message.subject = statusSubject ∧
      (message.payload.get "mode").asString = modeToString program.conveyor.mode ∧
      message.payload.get "currentSpeed" = .double program.conveyor.currentSpeed := by
  simp [onConnected, Message.publish, List.lookup_cons, JsonValue.asString]

end ConveyorController

end GatewaySdk.Demo
