import GatewaySdk.Demo.Process

/-!
# The emergency stop button

`estop_button.cpp` latches an `EStopButton` from its console or from a remote command, and
announces each latch and each reset to the whole line: the broadcast on
`factory.line1.emergency` has type `emergency_stop` on a trigger and `emergency_clear` on a
reset.  The console thread and the remote command only raise requests; the main loop takes
them, once per pass, trigger first.

Over every run of the program, whatever is typed, delivered or scheduled, its broadcasts
alternate: so many stop and clear pairs as there were completed triggers, then one more stop
exactly while the button is latched (`broadcasts_alternate`).  The state `Reset` of the class
is never entered.
-/

namespace GatewaySdk.Demo

/-- `EStopButton::State`. -/
inductive EStopButton.State
  | ready
  | triggered
  | reset
  deriving DecidableEq, Repr

/-- `EStopButton`: its state, the number of triggers, and the last reason.  The time of the
last trigger is written and never read, and is left out.  The count is kept whole; the `int`
that holds it is `getTriggerCount`. -/
structure EStopButton where
  state : EStopButton.State
  triggerCount : Nat
  lastReason : String
  deriving DecidableEq, Repr

namespace EStopButton

/-- The constructor. -/
def new : EStopButton := { state := .ready, triggerCount := 0, lastReason := "" }

/-- `trigger`: refused while triggered; otherwise the button latches and counts. -/
def trigger (reason : String) (button : EStopButton) : Bool × EStopButton :=
  if button.state = .triggered then (false, button)
  else (true, { state := .triggered, triggerCount := button.triggerCount + 1, lastReason := reason })

/-- `reset`: only a triggered button resets, to `Ready`. -/
def reset (button : EStopButton) : Bool × EStopButton :=
  if button.state ≠ .triggered then (false, button) else (true, { button with state := .ready })

/-- `getTriggerCount`: the triggers counted in an `int`, which wraps past `INT_MAX` as the
machine wraps. -/
def getTriggerCount (button : EStopButton) : Int := signedWrap 32 button.triggerCount

/-- `EStopButton::stateToString`. -/
def stateToString : State → String
  | .ready => "ready"
  | .triggered => "triggered"
  | .reset => "reset"

end EStopButton

/-- The state of the button's `main`: the button, the requests raised by the console thread and
the remote command, and `g_running`. -/
structure EStopStation where
  button : EStopButton
  triggerRequested : Bool
  resetRequested : Bool
  running : Bool

namespace EStopStation

/-- `DEVICE_ID`. -/
def deviceId : String := "sensor-estop-001"

/-- `ESTOP_SUBJECT`. -/
def estopSubject : String := "factory.line1.eStop"

/-- `EMERGENCY_BROADCAST`. -/
def emergencyBroadcast : String := "factory.line1.emergency"

/-- `ALERTS_SUBJECT`. -/
def alertsSubject : String := "factory.line1.alerts.emergency"

/-- The subject of the button's status. -/
def statusSubject : String := "factory.line1.status." ++ deviceId

/-- The state in which `main` starts. -/
def new : EStopStation :=
  { button := .new, triggerRequested := false, resetRequested := false, running := true }

/-- One line read by `inputThread`: `quit` or `exit` ends the program, `reset` requests a
reset, any other line a trigger.  Once the program ends the thread reads no more. -/
def readLine (line : String) (station : EStopStation) : EStopStation :=
  if !station.running then station
  else if line = "quit" ∨ line = "exit" then { station with running := false }
  else if line = "reset" then { station with resetRequested := true }
  else { station with triggerRequested := true }

/-- The handler of the button's commands: `reset` raises the request, `test` publishes a test
event. -/
def handleCommand : Handler EStopStation := fun timestamp message station =>
  if message.payload.contains "action" then
    let action := (message.payload.get "action").asString
    if action = "reset" then ({ station with resetRequested := true }, [])
    else if action = "test" then
      (station, [Message.publish (estopSubject ++ ".test") (jsonObject [("type", .string "test"),
        ("device", .string deviceId), ("timestamp", .string timestamp)])])
    else (station, [])
  else (station, [])

/-- The subscriptions of `main`. -/
def subscriptions : List (String × Handler EStopStation) :=
  [("factory.line1.cmd." ++ deviceId ++ ".>", handleCommand)]

/-- The `onConnected` callback: the first status of the session. -/
def onConnected (station : EStopStation) : List Message :=
  [Message.publish statusSubject (jsonObject [("online", .bool true), ("deviceId", .string deviceId),
    ("state", .string (EStopButton.stateToString station.button.state)),
    ("triggerCount", .int station.button.getTriggerCount)])]

/-- What a trigger announces: the e-stop event, the broadcast to every subsystem, the alert and
the status. -/
def triggerMessages (batchId timestamp : String) (button : EStopButton) : List Message :=
  [Message.publish estopSubject (jsonObject [("triggered", .bool true), ("device", .string deviceId),
      ("reason", .string "Manual activation"), ("triggerCount", .int button.getTriggerCount),
      ("timestamp", .string timestamp), ("batch", .string batchId)]),
    Message.publish emergencyBroadcast (jsonObject [("type", .string "emergency_stop"),
      ("source", .string deviceId), ("action", .string "STOP_ALL"),
      ("reason", .string "E-Stop button activated"), ("timestamp", .string timestamp)]),
    Message.publish alertsSubject (jsonObject [("severity", .string "emergency"),
      ("type", .string "estop_activated"), ("device", .string deviceId),
      ("message", .string "Emergency stop button activated!"), ("timestamp", .string timestamp)]),
    Message.publish statusSubject (jsonObject [("state", .string "triggered"),
      ("triggerCount", .int button.getTriggerCount), ("timestamp", .string timestamp)])]

/-- What a reset announces: the e-stop event, the clear broadcast and the status. -/
def resetMessages (timestamp : String) (button : EStopButton) : List Message :=
  [Message.publish estopSubject (jsonObject [("triggered", .bool false), ("device", .string deviceId),
      ("action", .string "reset"), ("timestamp", .string timestamp)]),
    Message.publish emergencyBroadcast (jsonObject [("type", .string "emergency_clear"),
      ("source", .string deviceId), ("action", .string "RESUME_ALLOWED"),
      ("timestamp", .string timestamp)]),
    Message.publish statusSubject (jsonObject [("state", .string "ready"),
      ("triggerCount", .int button.getTriggerCount), ("timestamp", .string timestamp)])]

/-- The loop takes a pending trigger request and announces the latch if the button takes it. -/
def takeTrigger (batchId timestamp : String) (station : EStopStation) :
    EStopStation × List Message :=
  if station.triggerRequested then
    let result := station.button.trigger "Manual activation"
    ({ station with triggerRequested := false, button := result.2 },
      if result.1 then triggerMessages batchId timestamp result.2 else [])
  else (station, [])

/-- The loop takes a pending reset request and announces the reset if the button takes it. -/
def takeReset (timestamp : String) (station : EStopStation) : EStopStation × List Message :=
  if station.resetRequested then
    let result := station.button.reset
    ({ station with resetRequested := false, button := result.2 },
      if result.1 then resetMessages timestamp result.2 else [])
  else (station, [])

/-- One pass of the main loop after `client.poll`, while `g_running` holds: when connected, the
trigger request and then the reset request. -/
def loopIteration (batchId : String) (connected : Bool) (timestamp : String)
    (station : EStopStation) : EStopStation × List Message :=
  if station.running ∧ connected then
    let triggered := takeTrigger batchId timestamp station
    let reset := takeReset timestamp triggered.1
    (reset.1, triggered.2 ++ reset.2)
  else (station, [])

/-- The loop publishes on the button's own subjects only. -/
theorem loopIteration_subjects (batchId : String) (connected : Bool) (timestamp : String)
    (station : EStopStation) : ∀ message ∈ (loopIteration batchId connected timestamp station).2,
      message.subject = estopSubject ∨ message.subject = emergencyBroadcast ∨
        message.subject = alertsSubject ∨ message.subject = statusSubject := by
  simp only [loopIteration, takeTrigger, takeReset]
  split_ifs <;> simp [triggerMessages, resetMessages, Message.publish, or_imp, forall_and]

/-- What happens to the program: a line typed on its console, a message delivered to it, the
start of a session, or a pass of its main loop. -/
inductive Event
  | input (line : String)
  | deliver (message : Message) (timestamp : String)
  | connected
  | loop (connected : Bool) (timestamp : String)

/-- One event on the program as the gateway runs it, with what it publishes.  The console
thread is not the polling thread, so it reads on when that thread is blocked. -/
def step (batchId : String) (event : Event) (process : Process EStopStation) :
    Process EStopStation × List Message :=
  match event with
  | .input line => ({ process with state := readLine line process.state }, [])
  | .deliver message timestamp =>
    (handleSubscriptionMessage subscriptions timestamp message process, [])
  | .connected => (process, if process.hung then [] else onConnected process.state)
  | .loop connected timestamp =>
    if process.hung then (process, [])
    else
      let result := loopIteration batchId connected timestamp process.state
      ({ process with state := result.1 }, result.2)

/-- A run of the program, with everything it publishes in order. -/
def run (batchId : String) : List Event → Process EStopStation → Process EStopStation × List Message
  | [], process => (process, [])
  | event :: events, process =>
    let first := step batchId event process
    let rest := run batchId events first.1
    (rest.1, first.2 ++ rest.2)

/-- The types of the emergency broadcasts among published messages, in order. -/
def broadcastTypes (published : List Message) : List String :=
  (published.filter fun message => message.subject == emergencyBroadcast).map
    fun message => (message.payload.get "type").asString

/-- The broadcasts a button has announced, given its state: a stop and a clear for each
completed trigger, and one more stop while it is latched. -/
def Announced (button : EStopButton) (types : List String) : Prop :=
  (button.state = .ready ∧
      types = (List.replicate button.triggerCount ["emergency_stop", "emergency_clear"]).flatten) ∨
    (button.state = .triggered ∧ 0 < button.triggerCount ∧
      types = (List.replicate (button.triggerCount - 1)
        ["emergency_stop", "emergency_clear"]).flatten ++ ["emergency_stop"])

@[simp] theorem broadcastTypes_nil : broadcastTypes [] = [] := rfl

@[simp] theorem broadcastTypes_append (first second : List Message) :
    broadcastTypes (first ++ second) = broadcastTypes first ++ broadcastTypes second := by
  simp [broadcastTypes]

theorem broadcastTypes_triggerMessages (batchId timestamp : String) (button : EStopButton) :
    broadcastTypes (triggerMessages batchId timestamp button) = ["emergency_stop"] := rfl

theorem broadcastTypes_resetMessages (timestamp : String) (button : EStopButton) :
    broadcastTypes (resetMessages timestamp button) = ["emergency_clear"] := rfl

theorem broadcastTypes_onConnected (station : EStopStation) :
    broadcastTypes (onConnected station) = [] := rfl

/-- A trigger taken by the loop adds one stop to the announcements. -/
theorem takeTrigger_announced (batchId timestamp : String) {station : EStopStation}
    {types : List String} (announced : Announced station.button types) :
    Announced (takeTrigger batchId timestamp station).1.button
      (types ++ broadcastTypes (takeTrigger batchId timestamp station).2) := by
  unfold takeTrigger EStopButton.trigger
  split
  · rcases announced with ⟨ready, rfl⟩ | ⟨triggered, positive, rfl⟩
    · simp only [ready, reduceCtorEq, if_false, if_true, broadcastTypes_triggerMessages]
      exact .inr ⟨rfl, Nat.succ_pos _, by simp⟩
    · simpa [triggered, broadcastTypes] using Or.inr ⟨triggered, positive, rfl⟩
  · simpa [broadcastTypes] using announced

/-- A reset taken by the loop adds one clear to the announcements. -/
theorem takeReset_announced (timestamp : String) {station : EStopStation}
    {types : List String} (announced : Announced station.button types) :
    Announced (takeReset timestamp station).1.button
      (types ++ broadcastTypes (takeReset timestamp station).2) := by
  unfold takeReset EStopButton.reset
  split
  · rcases announced with ⟨ready, rfl⟩ | ⟨triggered, positive, rfl⟩
    · simpa [ready, broadcastTypes] using Or.inl ⟨ready, rfl⟩
    · simp only [triggered, ne_eq, not_true_eq_false, if_false, if_true,
        broadcastTypes_resetMessages]
      refine .inl ⟨rfl, ?_⟩
      obtain ⟨count, counted⟩ := Nat.exists_eq_add_one_of_ne_zero positive.ne'
      simp [counted, List.replicate_succ', List.flatten_append]
  · simpa [broadcastTypes] using announced

theorem step_announced (batchId : String) (event : Event) {process : Process EStopStation}
    {types : List String} (announced : Announced process.state.button types) :
    Announced (step batchId event process).1.state.button
      (types ++ broadcastTypes (step batchId event process).2) := by
  cases event with
  | input line =>
    simp only [step, broadcastTypes, List.filter_nil, List.map_nil, List.append_nil]
    unfold readLine
    split_ifs <;> exact announced
  | deliver message timestamp =>
    simp only [step, broadcastTypes, List.filter_nil, List.map_nil, List.append_nil]
    exact handleSubscriptionMessage_invariant
      (fun process : Process EStopStation => Announced process.state.button types)
      (fun entry member process kept => by
        simp only [subscriptions, List.mem_singleton] at member
        subst member
        unfold dispatchTo handleCommand
        split
        · dsimp only
          split
          · split <;> [exact kept; split <;> exact kept]
          · exact kept
        · exact kept) announced
  | connected =>
    simp only [step]
    split <;> simpa [broadcastTypes_onConnected] using announced
  | loop connected timestamp =>
    simp only [step]
    split
    · simpa [broadcastTypes] using announced
    · simp only [loopIteration]
      split
      · rw [broadcastTypes_append, ← List.append_assoc]
        exact takeReset_announced timestamp (takeTrigger_announced batchId timestamp announced)
      · simpa [broadcastTypes] using announced

/-- Over every run of the program, whatever is typed, delivered or scheduled, its emergency
broadcasts alternate: a stop and a clear for each completed trigger, then one more stop exactly
while the button is latched, which it is only after a trigger.  The state `Reset` is never
entered. -/
theorem broadcasts_alternate (batchId : String) (events : List Event) :
    let final := run batchId events { state := new }
    let button := final.1.state.button
    (button.state = .ready ∧
        broadcastTypes final.2 =
          (List.replicate button.triggerCount ["emergency_stop", "emergency_clear"]).flatten) ∨
      (button.state = .triggered ∧ 0 < button.triggerCount ∧
        broadcastTypes final.2 = (List.replicate (button.triggerCount - 1)
          ["emergency_stop", "emergency_clear"]).flatten ++ ["emergency_stop"]) := by
  suffices keeps : ∀ (process : Process EStopStation) (types : List String),
      Announced process.state.button types →
        Announced (run batchId events process).1.state.button
          (types ++ broadcastTypes (run batchId events process).2) from
    keeps _ [] (.inl ⟨rfl, rfl⟩)
  induction events with
  | nil => exact fun _ _ announced => by simpa [run] using announced
  | cons event events ih =>
    intro process types announced
    simp only [run, broadcastTypes_append, ← List.append_assoc]
    exact ih _ _ (step_announced batchId event announced)

end EStopStation

end GatewaySdk.Demo
