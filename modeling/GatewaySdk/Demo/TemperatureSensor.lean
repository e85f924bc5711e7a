import GatewaySdk.Demo.Process

/-!
# The temperature sensor

`temperature_sensor.cpp` publishes a reading of a `SimulatedValue` every `PUBLISH_INTERVAL_MS`
and raises threshold alerts: a warning at `75.0`, a critical alert at `80.0`, and an info alert
when the reading falls back below the warning threshold.  Two flags, `inWarning` and
`inCritical`, remember which alerts are in force.  The generator's draws, the arithmetic of
doubles and the steady clock, read in milliseconds, are inputs.

What the alerts are for is stated on its own (`Excursion`): an excursion above the thresholds is
opened by a warning or a critical alert, a warning may escalate to critical, and an info alert
closes the excursion.  Over every run of the program, whatever it reads, is sent and draws, the
alerts it publishes follow that automaton, which ends in the excursion the flags record
(`alerts_follow_excursions`): no alert is raised twice within one excursion, no critical alert
is followed by a warning, and none is cleared that was not raised.
-/

namespace GatewaySdk.Demo

/-- `SimulatedValue`: a base, noise and drift, and an anomaly added until a steady-clock
reading.  A default-constructed `time_point` is the clock's epoch. -/
structure SimulatedValue where
  baseValue : Binary64
  noiseStddev : Binary64
  driftRate : Binary64
  currentDrift : Binary64
  anomalyMagnitude : Binary64
  anomalyEnd : Int

/-- The values the generator draws for one reading: the `gaussian(0.0, noiseStddev_)` of the
noise and the `gaussian(0.0, driftRate_)` of the drift. -/
structure ReadingDraws where
  noise : Binary64
  drift : Binary64

namespace SimulatedValue

/-- The constructor. -/
def new (baseValue noiseStddev driftRate : Binary64) : SimulatedValue :=
  { baseValue, noiseStddev, driftRate, currentDrift := .zero, anomalyMagnitude := .zero,
    anomalyEnd := 0 }

/-- The `5.0` that bounds the drift either way. -/
def driftBound : Binary64 := ⟨0x4014000000000000⟩

/-- The `-5.0` below which the drift is clamped. -/
def negativeDriftBound : Binary64 := ⟨0xC014000000000000⟩

variable (arith : DoubleArith)

/-- `read` at the steady clock's reading `nowMs`: the base with noise, plus the drift walked by
its draw and clamped to `[-5.0, 5.0]`, plus the anomaly while it lasts. -/
def read (draws : ReadingDraws) (nowMs : Int) (value : SimulatedValue) :
    Binary64 × SimulatedValue :=
  let reading := arith.add value.baseValue draws.noise
  let drift := arith.max negativeDriftBound
    (arith.min driftBound (arith.add value.currentDrift draws.drift))
  let reading := arith.add reading drift
  let reading := if nowMs < value.anomalyEnd then arith.add reading value.anomalyMagnitude
    else reading
  (reading, { value with currentDrift := drift })

/-- `setBase`. -/
def setBase (baseValue : Binary64) (value : SimulatedValue) : SimulatedValue :=
  { value with baseValue }

/-- `injectAnomaly` at the steady clock's reading `nowMs`. -/
def injectAnomaly (magnitude : Binary64) (durationMs nowMs : Int) (value : SimulatedValue) :
    SimulatedValue :=
  { value with anomalyMagnitude := magnitude, anomalyEnd := nowMs + durationMs }

end SimulatedValue

/-- Where the room stands, as the alerts report it. -/
inductive Excursion
  | normal
  | warning
  | critical
  deriving DecidableEq, Repr

namespace Excursion

/-- The alerts of a sensor, by severity: a warning or a critical alert opens an excursion above
the thresholds, a warning may escalate to critical, and an info alert closes the excursion. -/
def next : Excursion → String → Option Excursion
  | .normal, "warning" => some .warning
  | .normal, "critical" => some .critical
  | .warning, "critical" => some .critical
  | .warning, "info" => some .normal
  | .critical, "info" => some .normal
  | _, _ => none

/-- The excursion after a sequence of alerts, when each follows the one before. -/
def follow : Excursion → List String → Option Excursion
  | excursion, [] => some excursion
  | excursion, severity :: rest => (excursion.next severity).bind fun next => next.follow rest

@[simp] theorem follow_nil (excursion : Excursion) : excursion.follow [] = some excursion := rfl

theorem follow_append (excursion : Excursion) (first second : List String) :
    excursion.follow (first ++ second) =
      (excursion.follow first).bind fun next => next.follow second := by
  induction first generalizing excursion with
  | nil => rfl
  | cons severity rest ih =>
    simp only [List.cons_append, follow]
    cases excursion.next severity with
    | none => rfl
    | some next => exact ih next

end Excursion

/-- The state of the sensor's `main`: the simulated temperature, the alerts in force, the count
of readings and the steady clock's reading at the last one. -/
structure TemperatureStation where
  temperature : SimulatedValue
  inWarning : Bool
  inCritical : Bool
  readingCount : Int
  lastPublish : Int

namespace TemperatureStation

/-- `DEVICE_ID`. -/
def deviceId : String := "sensor-temp-001"

/-- `PUBLISH_SUBJECT`. -/
def publishSubject : String := "factory.line1.temp"

/-- `ALERTS_SUBJECT`. -/
def alertsSubject : String := "factory.line1.alerts"

/-- The subject of the sensor's status. -/
def statusSubject : String := "factory.line1.status." ++ deviceId

/-- `PUBLISH_INTERVAL_MS`. -/
def publishIntervalMs : Int := 5000

/-- `TEMP_WARNING`, `75.0`. -/
def tempWarning : Binary64 := ⟨0x4052C00000000000⟩

/-- `TEMP_CRITICAL`, `80.0`. -/
def tempCritical : Binary64 := ⟨0x4054000000000000⟩

/-- `TEMP_MIN`, `60.0`. -/
def tempMin : Binary64 := ⟨0x404E000000000000⟩

/-- `TEMP_MAX`, `85.0`. -/
def tempMax : Binary64 := ⟨0x4055400000000000⟩

/-- The state in which `main` enters its loop, at the steady clock's reading `startMs`: a base of
`72.0` with a noise of `0.5` and a drift rate of `0.01`. -/
def new (startMs : Int) : TemperatureStation :=
  { temperature := .new ⟨0x4052000000000000⟩ ⟨0x3FE0000000000000⟩ ⟨0x3F847AE147AE147B⟩,
    inWarning := false, inCritical := false, readingCount := 0, lastPublish := startMs }

variable (arith : DoubleArith)

/-- The handler of the sensor's commands, at the steady clock's reading `nowMs`: an anomaly of
`10.0` for `30000` ms unless the command says otherwise, a new base, or the status. -/
def handleCommand : Handler TemperatureStation Int := fun nowMs message station =>
  if message.payload.contains "action" then
    let action := (message.payload.get "action").asString
    if action = "inject_anomaly" then
      let magnitude := if message.payload.contains "magnitude" then
          (message.payload.get "magnitude").asDouble arith else ⟨0x4024000000000000⟩
      let duration := if message.payload.contains "duration" then
          signedWrap 32 (message.payload.get "duration").asInt else 30000
      ({ station with temperature := station.temperature.injectAnomaly magnitude duration nowMs },
        [])
    else if action = "set_base" then
      if message.payload.contains "value" then
        let base := (message.payload.get "value").asDouble arith
        ({ station with temperature := station.temperature.setBase base }, [])
      else (station, [])
    else if action = "status" then
      (station, [Message.publish statusSubject (jsonObject [
        ("temperature", .double station.temperature.baseValue),
        ("reading_count", .int station.readingCount), ("in_warning", .bool station.inWarning),
        ("in_critical", .bool station.inCritical)])])
    else (station, [])
  else (station, [])

/-- The handler of the emergency stop, which only prints. -/
def handleEmergency : Handler TemperatureStation Int := fun _ _ station => (station, [])

/-- The subscriptions of `main`, in the order it makes them. -/
def subscriptions : List (String × Handler TemperatureStation Int) :=
  [("factory.line1.cmd." ++ deviceId ++ ".>", handleCommand arith),
    ("factory.line1.emergency", handleEmergency)]

/-- The `onConnected` callback: the sensor announces itself. -/
def onConnected (config : DemoConfig) : List Message :=
  [Message.publish statusSubject (jsonObject [("online", .bool true),
    ("deviceId", .string deviceId), ("type", .string "temperature_sensor"),
    ("location", .string "Packaging Room A"), ("batch", .string config.batchId)])]

/-- The alert raised at a threshold. -/
def thresholdAlert (severity : String) (temp threshold : Binary64) (text timestamp : String) :
    Message :=
  Message.publish (alertsSubject ++ "." ++ severity) (jsonObject [("severity", .string severity),
    ("type", .string "temperature_high"), ("value", .double temp),
    ("threshold", .double threshold), ("device", .string deviceId), ("message", .string text),
    ("timestamp", .string timestamp)])

/-- The alert of a reading back below the warning threshold. -/
def clearAlert (temp : Binary64) (timestamp : String) : Message :=
  Message.publish (alertsSubject ++ ".info") (jsonObject [("severity", .string "info"),
    ("type", .string "temperature_normal"), ("value", .double temp), ("device", .string deviceId),
    ("message", .string "Temperature returned to normal"), ("timestamp", .string timestamp)])

/-- The threshold checks after a reading `temp`: a critical alert at `TEMP_CRITICAL` unless one
is in force, else a warning at `TEMP_WARNING` unless one is in force, else the all-clear below
`TEMP_WARNING` while a warning is in force. -/
def checkThresholds (temp : Binary64) (timestamp : String) (station : TemperatureStation) :
    TemperatureStation × List Message :=
  if arith.le tempCritical temp && !station.inCritical then
    ({ station with inCritical := true, inWarning := true },
      [thresholdAlert "critical" temp tempCritical "Temperature exceeded critical threshold!"
        timestamp])
  else if arith.le tempWarning temp && !station.inWarning then
    ({ station with inWarning := true },
      [thresholdAlert "warning" temp tempWarning "Temperature exceeded warning threshold"
        timestamp])
  else if arith.lt temp tempWarning && station.inWarning then
    ({ station with inWarning := false, inCritical := false }, [clearAlert temp timestamp])
  else (station, [])

/-- The reading's status in the telemetry. -/
def readingStatus (temp : Binary64) : String :=
  if arith.le tempCritical temp then "critical"
  else if arith.le tempWarning temp then "warning"
  else "normal"

/-- One pass of the main loop after `client.poll`, when connected: once `PUBLISH_INTERVAL_MS`
passed since the last reading, a reading clamped to the sensor's range, its telemetry, and the
threshold checks. -/
def loopIteration (config : DemoConfig) (nowMs : Int) (connected : Bool) (timestamp : String)
    (draws : ReadingDraws) (station : TemperatureStation) : TemperatureStation × List Message :=
  if connected ∧ publishIntervalMs ≤ nowMs - station.lastPublish then
    let readingCount := signedWrap 32 (station.readingCount + 1)
    let read := station.temperature.read arith draws nowMs
    let temp := arith.max tempMin (arith.min tempMax read.1)
    let station := { station with
      lastPublish := nowMs, readingCount, temperature := read.2 }
    let telemetry := Message.publish publishSubject (jsonObject [("value", .double temp),
      ("unit", .string "fahrenheit"), ("reading", .int readingCount),
      ("timestamp", .string timestamp), ("batch", .string config.batchId),
      ("lot", .string config.lotNumber), ("status", .string (readingStatus arith temp))])
    let checked := checkThresholds arith temp timestamp station
    (checked.1, telemetry :: checked.2)
  else (station, [])

/-- What happens to the program: a message delivered to it, the start of a session, or a pass
of its main loop with the draws of its reading. -/
inductive Event
  | deliver (message : Message) (nowMs : Int)
  | connected
  | loop (nowMs : Int) (connected : Bool) (timestamp : String) (draws : ReadingDraws)

/-- One event on the program as the gateway runs it, with what it publishes. -/
def step (config : DemoConfig) (event : Event) (process : Process TemperatureStation) :
    Process TemperatureStation × List Message :=
  match event with
  | .deliver message nowMs =>
    (handleSubscriptionMessage (subscriptions arith) nowMs message process, [])
  | .connected => (process, if process.hung then [] else onConnected config)
  | .loop nowMs connected timestamp draws =>
    if process.hung then (process, [])
    else
      let result := loopIteration arith config nowMs connected timestamp draws process.state
      ({ process with state := result.1 }, result.2)

/-- A run of the program, with everything it publishes in order. -/
def run (config : DemoConfig) :
    List Event → Process TemperatureStation → Process TemperatureStation × List Message
  | [], process => (process, [])
  | event :: events, process =>
    let first := step arith config event process
    let rest := run config events first.1
    (rest.1, first.2 ++ rest.2)

/-- A critical alert is in force only with a warning. -/
def Flags (station : TemperatureStation) : Prop :=
  station.inCritical = true → station.inWarning = true

/-- The excursion the flags record. -/
def excursion (station : TemperatureStation) : Excursion :=
  if station.inCritical then .critical else if station.inWarning then .warning else .normal

/-- The severities of the alerts among published messages, in order: what a subscriber to
`factory.line1.alerts.>` reads of them. -/
def alertSeverities (published : List Message) : List String :=
  (published.filter fun message =>
    GatewayClient.matchesSubject "factory.line1.alerts.>" message.subject).map
    fun message => (message.payload.get "severity").asString

@[simp] theorem alertSeverities_nil : alertSeverities [] = [] := rfl

@[simp] theorem alertSeverities_append (first second : List Message) :
    alertSeverities (first ++ second) = alertSeverities first ++ alertSeverities second := by
  simp [alertSeverities]

/-- The checks after a reading keep the flags, and the alert they raise, if any, moves the
excursion the flags record as the automaton does. -/
theorem checkThresholds_follows (temp : Binary64) (timestamp : String) {station : TemperatureStation}
    (flags : station.Flags) :
    (checkThresholds arith temp timestamp station).1.Flags ∧
      station.excursion.follow (alertSeverities (checkThresholds arith temp timestamp station).2) =
        some (checkThresholds arith temp timestamp station).1.excursion := by
  unfold checkThresholds
  split_ifs with critical warning clear
  · simp only [Bool.and_eq_true, Bool.not_eq_true'] at critical
    refine ⟨fun _ => rfl, ?_⟩
    have raised : alertSeverities [thresholdAlert "critical" temp tempCritical
        "Temperature exceeded critical threshold!" timestamp] = ["critical"] := rfl
    rw [raised]
    cases warned : station.inWarning <;>
      simp [excursion, critical.2, warned, Excursion.follow, Excursion.next]
  · simp only [Bool.and_eq_true, Bool.not_eq_true'] at warning
    have calm : station.inCritical = false := by
      cases crit : station.inCritical
      · rfl
      · exact absurd (flags crit) (by simp [warning.2])
    refine ⟨fun stillCalm => absurd stillCalm (by simp [calm]), ?_⟩
    have raised : alertSeverities [thresholdAlert "warning" temp tempWarning
        "Temperature exceeded warning threshold" timestamp] = ["warning"] := rfl
    rw [raised]
    simp [excursion, calm, warning.2, Excursion.follow, Excursion.next]
  · simp only [Bool.and_eq_true] at clear
    refine ⟨nofun, ?_⟩
    have cleared : alertSeverities [clearAlert temp timestamp] = ["info"] := rfl
    rw [cleared]
    cases crit : station.inCritical <;>
      simp [excursion, crit, clear.2, Excursion.follow, Excursion.next]
  · exact ⟨flags, rfl⟩

/-- The handlers leave the alerts in force as they are. -/
theorem subscriptions_flags {entry : String × Handler TemperatureStation Int}
    (member : entry ∈ subscriptions arith) (nowMs : Int) (message : Message)
    (station : TemperatureStation) :
    (entry.2 nowMs message station).1.inWarning = station.inWarning ∧
      (entry.2 nowMs message station).1.inCritical = station.inCritical := by
  simp only [subscriptions, List.mem_cons, List.mem_singleton, List.not_mem_nil, or_false] at member
  rcases member with rfl | rfl <;> dsimp only [handleCommand, handleEmergency]
  · split_ifs <;> exact ⟨rfl, rfl⟩
  · exact ⟨rfl, rfl⟩

/-- An event keeps the flags, and moves the excursion they record as its alerts do. -/
theorem step_follows (config : DemoConfig) (event : Event) {process : Process TemperatureStation}
    (flags : process.state.Flags) :
    (step arith config event process).1.state.Flags ∧
      process.state.excursion.follow (alertSeverities (step arith config event process).2) =
        some (step arith config event process).1.state.excursion := by
  cases event with
  | deliver message nowMs =>
    have kept := handleSubscriptionMessage_invariant
      (fun other : Process TemperatureStation => other.state.inWarning = process.state.inWarning ∧
        other.state.inCritical = process.state.inCritical)
      (fun entry member other same => by
        unfold dispatchTo
        split
        · obtain ⟨warned, critical⟩ := subscriptions_flags arith member nowMs message other.state
          exact ⟨warned.trans same.1, critical.trans same.2⟩
        · exact same) ⟨rfl, rfl⟩
    simp only [step, alertSeverities_nil, Excursion.follow_nil, excursion, Flags, kept.1, kept.2]
    exact ⟨flags, trivial⟩
  | connected =>
    simp only [step]
    split
    · exact ⟨flags, rfl⟩
    · exact ⟨flags, rfl⟩
  | loop nowMs connected timestamp draws =>
    simp only [step]
    split
    · exact ⟨flags, rfl⟩
    · simp only [loopIteration]
      split
      · have telemetry : ∀ payload, alertSeverities [Message.publish publishSubject payload] = [] :=
          fun _ => rfl
        rw [← List.singleton_append, alertSeverities_append, telemetry, List.nil_append]
        exact checkThresholds_follows arith _ timestamp flags
      · exact ⟨flags, rfl⟩

/-- Over every run of the program from its start, whatever it reads, is sent and draws, the
alerts it publishes follow the excursions: a warning or a critical alert opens one, a warning
may escalate to critical, an info alert closes it, and the alerts end in the excursion its
flags record. -/
theorem alerts_follow_excursions (config : DemoConfig) (startMs : Int) (events : List Event) :
    Excursion.normal.follow (alertSeverities (run arith config events { state := new startMs }).2) =
      some (run arith config events { state := new startMs }).1.state.excursion := by
  suffices keeps : ∀ process : Process TemperatureStation, process.state.Flags →
      process.state.excursion.follow (alertSeverities (run arith config events process).2) =
        some (run arith config events process).1.state.excursion from
    keeps { state := new startMs } fun critical => by simp [new] at critical
  induction events with
  | nil => exact fun _ _ => rfl
  | cons event events ih =>
    intro process flags
    obtain ⟨kept, follows⟩ := step_follows arith config event flags
    simp only [run, alertSeverities_append, Excursion.follow_append, follows, Option.some_bind]
    exact ih _ kept

end TemperatureStation

end GatewaySdk.Demo
