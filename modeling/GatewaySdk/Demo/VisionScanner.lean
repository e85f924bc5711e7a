import GatewaySdk.Demo.Process
import Mathlib.Algebra.Ring.Int.Defs

/-!
# The vision scanner

`vision_scanner.cpp` inspects a package every `SCAN_INTERVAL_MS` while the conveyor reports
itself running.  A draw of the generator decides whether the package is a defect, and a second
draw picks the defect's type by the weights of `DEFECT_WEIGHTS`, walked in the key order of
that `std::map`.  The scanner counts scans, passes and rejects, and the rejects of each type in
a `std::map<std::string, int>`, whose breakdown its periodic statistics publish.

The generator's draws are inputs, as are the arithmetic of doubles and the steady clock, read in
milliseconds.  The counts are `int`s; past `INT_MAX` an increment overflows, which the model
takes as the wrap the machine performs.

Over every run of the program, whatever it is sent, however its clock reads and whatever it
draws, every statistics report it publishes is consistent: `totalScans` is `passCount` plus
`rejectCount`, and a breakdown `defectsByType` lists defect types of `DEFECT_TYPES` only, once
each and in key order, with counts that add up to `rejectCount`
(`stats_breakdown_consistent`).
-/

namespace GatewaySdk.Demo

/-- `DEFECT_TYPES`. -/
def defectTypes : List String :=
  ["label_misalignment", "missing_label", "damaged_package", "wrong_orientation", "contamination",
    "barcode_unreadable", "seal_incomplete", "print_defect"]

/-- `DEFECT_WEIGHTS`: the `std::map` built from its initializer list, whose keys are distinct,
so its entries in key order. -/
def defectWeights : List (String × Binary64) :=
  [("label_misalignment", ⟨0x3FD3333333333333⟩), ("missing_label", ⟨0x3FB999999999999A⟩),
    ("damaged_package", ⟨0x3FC3333333333333⟩), ("wrong_orientation", ⟨0x3FB999999999999A⟩),
    ("contamination", ⟨0x3FA999999999999A⟩), ("barcode_unreadable", ⟨0x3FC3333333333333⟩),
    ("seal_incomplete", ⟨0x3FB999999999999A⟩), ("print_defect", ⟨0x3FA999999999999A⟩)].foldl
    (fun map entry => mapInsert (fun a b => stringLess a.data b.data) entry.1 entry.2 map) []

/-- The values the generator draws for one scan: the `uniform(0.0, 1.0)` of `rng_.chance`, the
`uniform(0.0, 1.0)` of `selectDefect` when the package is a defect, and the `uniform` added to
the confidence. -/
structure ScanDraws where
  chance : Binary64
  select : Binary64
  confidence : Binary64

/-- `VisionScanner`: its defect rates, the mode that picks between them, and its counts. -/
structure VisionScanner where
  defectRate : Binary64
  highDefectRate : Binary64
  highDefectMode : Bool
  totalScans : Int
  passCount : Int
  rejectCount : Int
  defectCounts : List (String × Int)
  deriving DecidableEq, Repr

/-- `VisionScanner::ScanResult`. -/
structure ScanResult where
  passed : Bool
  defectType : String
  confidence : Binary64

namespace VisionScanner

/-- The `0.15` of `highDefectRate_` and of the default of `setHighDefectMode`. -/
def highDefectDefault : Binary64 := ⟨0x3FC3333333333333⟩

/-- The constructor: a defect rate of `0.02`, nothing counted. -/
def new : VisionScanner :=
  { defectRate := ⟨0x3F947AE147AE147B⟩, highDefectRate := highDefectDefault,
    highDefectMode := false, totalScans := 0, passCount := 0, rejectCount := 0,
    defectCounts := [] }

/-- The `0.85` a reject's confidence starts from. -/
def rejectConfidence : Binary64 := ⟨0x3FEB333333333333⟩

/-- The `0.95` a pass's confidence starts from. -/
def passConfidence : Binary64 := ⟨0x3FEE666666666666⟩

/-- The `1.0` of a certain event. -/
def one : Binary64 := ⟨0x3FF0000000000000⟩

variable (arith : DoubleArith)

/-- The loop of `selectDefect` from the cumulative weight `cumulative`: the first type at whose
cumulative weight the draw `r` is at most, else `DEFECT_TYPES[0]`. -/
def selectFrom (r : Binary64) : List (String × Binary64) → Binary64 → String
  | [], _ => defectTypes.headD ""
  | (type, weight) :: rest, cumulative =>
    let cumulative := arith.add cumulative weight
    if arith.le r cumulative then type else selectFrom r rest cumulative

/-- `selectDefect` with the draw `r`. -/
def selectDefect (r : Binary64) : String :=
  selectFrom arith r defectWeights .zero

/-- `scan` with the draws `draws`: the scan is counted, and the package is a defect when the
first draw is below the rate in force. -/
def scan (draws : ScanDraws) (scanner : VisionScanner) : ScanResult × VisionScanner :=
  let scanner := { scanner with totalScans := signedWrap 32 (scanner.totalScans + 1) }
  let effectiveRate := if scanner.highDefectMode then scanner.highDefectRate else scanner.defectRate
  if arith.lt draws.chance effectiveRate then
    let defectType := selectDefect arith draws.select
    let count := signedWrap 32 ((scanner.defectCounts.lookup defectType).getD 0 + 1)
    ({ passed := false, defectType, confidence := arith.add rejectConfidence draws.confidence },
      { scanner with
        rejectCount := signedWrap 32 (scanner.rejectCount + 1)
        defectCounts :=
          mapInsert (fun a b => stringLess a.data b.data) defectType count scanner.defectCounts })
  else
    ({ passed := true, defectType := "", confidence := arith.add passConfidence draws.confidence },
      { scanner with passCount := signedWrap 32 (scanner.passCount + 1) })

/-- `setDefectRate`: the rate clamped to `[0.0, 1.0]`. -/
def setDefectRate (rate : Binary64) (scanner : VisionScanner) : VisionScanner :=
  { scanner with defectRate := arith.max .zero (arith.min one rate) }

/-- `setHighDefectMode`. -/
def setHighDefectMode (enabled : Bool) (rate : Binary64) (scanner : VisionScanner) :
    VisionScanner :=
  { scanner with highDefectMode := enabled, highDefectRate := rate }

/-- `getYield`. -/
def getYield (scanner : VisionScanner) : Binary64 :=
  if 0 < scanner.totalScans then
    arith.div (arith.ofInt64 scanner.passCount) (arith.ofInt64 scanner.totalScans)
  else one

/-- `getCurrentDefectRate`. -/
def getCurrentDefectRate (scanner : VisionScanner) : Binary64 :=
  if 0 < scanner.totalScans then
    arith.div (arith.ofInt64 scanner.rejectCount) (arith.ofInt64 scanner.totalScans)
  else .zero

/-- `resetStats`. -/
def resetStats (scanner : VisionScanner) : VisionScanner :=
  { scanner with totalScans := 0, passCount := 0, rejectCount := 0, defectCounts := [] }

/-- A key below every key of a `std::map` has no entry in it. -/
private theorem lookup_eq_none_of_below {key : String} {entries : List (String × Int)}
    (below : ∀ entry ∈ entries, stringLess key.data entry.1.data = true) :
    entries.lookup key = none := by
  induction entries with
  | nil => rfl
  | cons entry rest ih =>
    have differ : key ≠ entry.1 := fun same => by
      simpa [same, stringLess_irrefl] using below entry (List.mem_cons_self _ _)
    rw [lookup_cons_eq_ite, if_neg differ]
    exact ih fun other member => below other (List.mem_cons_of_mem _ member)

/-- `counts[key] = value` on a `std::map` of counts moves their sum by the change of that
count. -/
theorem sum_mapInsert (key : String) (value : Int) {entries : List (String × Int)}
    (ascending : JsonValue.KeysAscending (entries.map Prod.fst)) :
    ((mapInsert (fun a b => stringLess a.data b.data) key value entries).map Prod.snd).sum =
      (entries.map Prod.snd).sum - (entries.lookup key).getD 0 + value := by
  induction entries with
  | nil => simp [mapInsert]
  | cons head rest ih =>
    obtain ⟨k, v⟩ := head
    have headLess : ∀ entry ∈ rest, stringLess k.data entry.1.data = true := fun entry member =>
      List.rel_of_pairwise_cons ascending (List.mem_map_of_mem _ member)
    simp only [mapInsert]
    split_ifs with before same
    · have absent : ((k, v) :: rest).lookup key = none := lookup_eq_none_of_below fun entry member =>
        (List.mem_cons.mp member).elim (fun same => same ▸ before)
          fun later => stringLess_trans before (headLess entry later)
      simp only [absent, List.map_cons, List.sum_cons, Option.getD_none]
      omega
    · subst same
      simp only [List.map_cons, List.sum_cons, lookup_cons_eq_ite, eq_self_iff_true, ite_true,
        Option.getD_some]
      omega
    · have differ : key ≠ k := same
      simp only [List.map_cons, List.sum_cons, lookup_cons_eq_ite, if_neg differ,
        ih ascending.of_cons]
      omega

/-- The walk of `selectDefect` picks one of the weighted types, or `DEFECT_TYPES[0]`. -/
theorem selectFrom_mem (r : Binary64) {weights : List (String × Binary64)}
    (typed : ∀ entry ∈ weights, entry.1 ∈ defectTypes) (cumulative : Binary64) :
    selectFrom arith r weights cumulative ∈ defectTypes := by
  induction weights generalizing cumulative with
  | nil => exact (by decide : defectTypes.headD "" ∈ defectTypes)
  | cons entry rest ih =>
    obtain ⟨type, weight⟩ := entry
    simp only [selectFrom]
    split
    · exact typed _ (List.mem_cons_self _ _)
    · exact ih (fun other member => typed other (List.mem_cons_of_mem _ member)) _

theorem selectDefect_mem (r : Binary64) : selectDefect arith r ∈ defectTypes :=
  selectFrom_mem arith r (by decide) _

/-- What the scanner's counts satisfy: the scans are the passes and the rejects, the rejects are
those counted by type, and the types counted are defect types, each once and in key order. -/
structure Tallied (scanner : VisionScanner) : Prop where
  totals : scanner.totalScans = signedWrap 32 (scanner.passCount + scanner.rejectCount)
  breakdown : scanner.rejectCount = signedWrap 32 (scanner.defectCounts.map Prod.snd).sum
  types : ∀ entry ∈ scanner.defectCounts, entry.1 ∈ defectTypes
  ascending : JsonValue.KeysAscending (scanner.defectCounts.map Prod.fst)

theorem new_tallied : new.Tallied :=
  ⟨by decide, by decide, nofun, List.Pairwise.nil⟩

theorem resetStats_tallied (scanner : VisionScanner) : scanner.resetStats.Tallied :=
  ⟨show (0 : Int) = signedWrap 32 (0 + 0) by decide, show (0 : Int) = signedWrap 32 0 by decide,
    nofun, List.Pairwise.nil⟩

/-- A scan counts a pass, or a reject of the type `selectDefect` picks. -/
theorem scan_cases (draws : ScanDraws) (scanner : VisionScanner) :
    (scanner.scan arith draws).2 =
        { scanner with
          totalScans := signedWrap 32 (scanner.totalScans + 1)
          passCount := signedWrap 32 (scanner.passCount + 1) } ∨
      (scanner.scan arith draws).2 =
        { scanner with
          totalScans := signedWrap 32 (scanner.totalScans + 1)
          rejectCount := signedWrap 32 (scanner.rejectCount + 1)
          defectCounts := mapInsert (fun a b => stringLess a.data b.data)
            (selectDefect arith draws.select)
            (signedWrap 32 ((scanner.defectCounts.lookup (selectDefect arith draws.select)).getD 0 + 1))
            scanner.defectCounts } := by
  simp only [scan]
  split_ifs
  all_goals first | exact .inl rfl | exact .inr rfl

/-- A scan keeps the counts agreeing, whatever it draws. -/
theorem scan_tallied (draws : ScanDraws) {scanner : VisionScanner} (tallied : scanner.Tallied) :
    (scanner.scan arith draws).2.Tallied := by
  obtain ⟨totals, breakdown, types, ascending⟩ := tallied
  have total := signedWrap_emod 32 (scanner.passCount + scanner.rejectCount)
  rcases scan_cases arith draws scanner with passed | rejected
  · have pass := signedWrap_emod 32 (scanner.passCount + 1)
    rw [passed]
    refine ⟨signedWrap_congr ?_, breakdown, types, ascending⟩
    dsimp only
    rw [totals]
    omega
  · have reject := signedWrap_emod 32 (scanner.rejectCount + 1)
    have sum := signedWrap_emod 32 (scanner.defectCounts.map Prod.snd).sum
    have count := signedWrap_emod 32
      ((scanner.defectCounts.lookup (selectDefect arith draws.select)).getD 0 + 1)
    rw [rejected]
    refine ⟨signedWrap_congr ?_, signedWrap_congr ?_, fun entry member => ?_,
      keysAscending_mapInsert _ _ ascending⟩
    · dsimp only
      rw [totals]
      omega
    · dsimp only
      rw [sum_mapInsert _ _ ascending, breakdown]
      omega
    · rcases mem_mapInsert _ _ _ member with rfl | old
      · exact selectDefect_mem arith draws.select
      · exact types entry old

theorem setDefectRate_tallied (rate : Binary64) {scanner : VisionScanner}
    (tallied : scanner.Tallied) : (scanner.setDefectRate arith rate).Tallied :=
  ⟨tallied.totals, tallied.breakdown, tallied.types, tallied.ascending⟩

theorem setHighDefectMode_tallied (enabled : Bool) (rate : Binary64) {scanner : VisionScanner}
    (tallied : scanner.Tallied) : (scanner.setHighDefectMode enabled rate).Tallied :=
  ⟨tallied.totals, tallied.breakdown, tallied.types, tallied.ascending⟩

end VisionScanner

/-- The state of the scanner's `main`: the scanner, the defect-rate alert in force, the run of
rejects, whether the conveyor last reported running, and the steady clock's readings at the
last scan and the last statistics. -/
structure ScannerStation where
  scanner : VisionScanner
  defectRateAlertActive : Bool
  consecutiveRejects : Int
  lineRunning : Bool
  lastScan : Int
  lastStats : Int

namespace ScannerStation

/-- `DEVICE_ID`. -/
def deviceId : String := "sensor-vision-001"

/-- `REJECTS_SUBJECT`. -/
def rejectsSubject : String := "factory.line1.quality.rejects"

/-- `STATS_SUBJECT`. -/
def statsSubject : String := "factory.line1.quality.stats"

/-- `ALERTS_SUBJECT`. -/
def alertsSubject : String := "factory.line1.alerts"

/-- The pattern the scanner takes its commands on. -/
def commandPattern : String := "factory.line1.cmd." ++ deviceId ++ ".>"

/-- `SCAN_INTERVAL_MS`. -/
def scanIntervalMs : Int := 500

/-- `STATS_INTERVAL_MS`. -/
def statsIntervalMs : Int := 10000

/-- `CONSECUTIVE_REJECT_THRESHOLD`. -/
def consecutiveRejectThreshold : Int := 5

/-- `DEFECT_RATE_ALERT_THRESHOLD`, `0.05`. -/
def defectRateAlertThreshold : Binary64 := ⟨0x3FA999999999999A⟩

/-- The `100.0` of a percentage. -/
def hundred : Binary64 := ⟨0x4059000000000000⟩

/-- The state in which `main` enters its loop, at the steady clock's reading `startMs`. -/
def new (startMs : Int) : ScannerStation :=
  { scanner := .new, defectRateAlertActive := false, consecutiveRejects := 0,
    lineRunning := false, lastScan := startMs, lastStats := startMs }

variable (arith : DoubleArith)

/-- The status the `status` command publishes. -/
def statusPayload (scanner : VisionScanner) : JsonValue :=
  jsonObject [("totalScans", .int scanner.totalScans), ("passCount", .int scanner.passCount),
    ("rejectCount", .int scanner.rejectCount),
    ("yield", .double (arith.mul (scanner.getYield arith) hundred)),
    ("defectRate", .double (arith.mul (scanner.getCurrentDefectRate arith) hundred)),
    ("highDefectMode", .bool scanner.highDefectMode)]

/-- The handler of the scanner's commands. -/
def handleCommand : Handler ScannerStation Int := fun _ message station =>
  if message.payload.contains "action" then
    let action := (message.payload.get "action").asString
    if action = "set_defect_rate" then
      if message.payload.contains "value" then
        let rate := (message.payload.get "value").asDouble arith
        ({ station with scanner := station.scanner.setDefectRate arith rate }, [])
      else (station, [])
    else if action = "inject_high_defects" then
      let enabled := !station.scanner.highDefectMode
      let rate := if message.payload.contains "rate" then (message.payload.get "rate").asDouble arith
        else VisionScanner.highDefectDefault
      ({ station with scanner := station.scanner.setHighDefectMode enabled rate }, [])
    else if action = "reset_stats" then
      ({ station with
          scanner := station.scanner.resetStats, defectRateAlertActive := false
          consecutiveRejects := 0 }, [])
    else if action = "status" then
      (station, [Message.publish statsSubject (statusPayload arith station.scanner)])
    else (station, [])
  else (station, [])

/-- The handler of the emergency broadcast, which only prints. -/
def handleEmergency : Handler ScannerStation Int := fun _ _ station => (station, [])

/-- The handler of the conveyor's status: whether the belt reports running. -/
def handleConveyorStatus : Handler ScannerStation Int := fun _ message station =>
  if message.payload.contains "mode" then
    ({ station with lineRunning := (message.payload.get "mode").asString == "running" }, [])
  else (station, [])

/-- The subscriptions of `main`, in the order it makes them. -/
def subscriptions : List (String × Handler ScannerStation Int) :=
  [(commandPattern, handleCommand arith), ("factory.line1.emergency", handleEmergency),
    ("factory.line1.conveyor.status", handleConveyorStatus)]

/-- The `onConnected` callback: the scanner announces itself. -/
def onConnected (config : DemoConfig) : List Message :=
  [Message.publish ("factory.line1.status." ++ deviceId) (jsonObject [("online", .bool true),
    ("deviceId", .string deviceId), ("type", .string "vision_scanner"),
    ("resolution", .string "4K"), ("batch", .string config.batchId)])]

/-- The event of a reject. -/
def rejectMessage (config : DemoConfig) (result : ScanResult) (scanNumber : Int)
    (timestamp : String) : Message :=
  Message.publish rejectsSubject (jsonObject [("defect", .string result.defectType),
    ("confidence", .double result.confidence), ("scanNumber", .int scanNumber),
    ("timestamp", .string timestamp), ("batch", .string config.batchId),
    ("lot", .string config.lotNumber)])

/-- The alert of a run of `count` rejects. -/
def consecutiveAlert (count : Int) (timestamp : String) : Message :=
  Message.publish (alertsSubject ++ ".warning") (jsonObject [("severity", .string "warning"),
    ("type", .string "consecutive_rejects"), ("count", .int count), ("device", .string deviceId),
    ("message", .string (toString count ++ " consecutive rejects detected")),
    ("timestamp", .string timestamp)])

/-- The alert of a defect rate above the threshold. -/
def highRateAlert (defectRate : Binary64) (timestamp : String) : Message :=
  Message.publish (alertsSubject ++ ".critical") (jsonObject [("severity", .string "critical"),
    ("type", .string "high_defect_rate"), ("defectRate", .double (arith.mul defectRate hundred)),
    ("threshold", .double (arith.mul defectRateAlertThreshold hundred)),
    ("device", .string deviceId), ("message", .string "Defect rate exceeded threshold"),
    ("timestamp", .string timestamp)])

/-- The alert of a defect rate back at or below the threshold. -/
def normalRateAlert (defectRate : Binary64) (timestamp : String) : Message :=
  Message.publish (alertsSubject ++ ".info") (jsonObject [("severity", .string "info"),
    ("type", .string "defect_rate_normal"), ("defectRate", .double (arith.mul defectRate hundred)),
    ("device", .string deviceId), ("message", .string "Defect rate returned to normal"),
    ("timestamp", .string timestamp)])

/-- A scan of the loop at the reading `nowMs`: the scan, the reject event and the alert of a run
of rejects, then the defect-rate alert, raised or cleared once at least 100 scans are counted. -/
def scanStep (config : DemoConfig) (nowMs : Int) (timestamp : String) (draws : ScanDraws)
    (station : ScannerStation) : ScannerStation × List Message :=
  let result := station.scanner.scan arith draws
  let station := { station with lastScan := nowMs, scanner := result.2 }
  let rejected : ScannerStation × List Message :=
    if result.1.passed then ({ station with consecutiveRejects := 0 }, [])
    else
      let consecutive := signedWrap 32 (station.consecutiveRejects + 1)
      ({ station with consecutiveRejects := consecutive },
        rejectMessage config result.1 result.2.totalScans timestamp ::
          if consecutiveRejectThreshold ≤ consecutive then [consecutiveAlert consecutive timestamp]
          else [])
  let station := rejected.1
  let defectRate := station.scanner.getCurrentDefectRate arith
  let alerted : ScannerStation × List Message :=
    if 100 ≤ station.scanner.totalScans then
      if arith.lt defectRateAlertThreshold defectRate && !station.defectRateAlertActive then
        ({ station with defectRateAlertActive := true }, [highRateAlert arith defectRate timestamp])
      else if arith.le defectRate defectRateAlertThreshold && station.defectRateAlertActive then
        ({ station with defectRateAlertActive := false },
          [normalRateAlert arith defectRate timestamp])
      else (station, [])
    else (station, [])
  (alerted.1, rejected.2 ++ alerted.2)

/-- The periodic statistics, with the breakdown of the rejects by type. -/
def statsPayload (config : DemoConfig) (scanner : VisionScanner) (timestamp : String) :
    JsonValue :=
  jsonObject [("totalScans", .int scanner.totalScans), ("passCount", .int scanner.passCount),
    ("rejectCount", .int scanner.rejectCount),
    ("yield", .double (arith.mul (scanner.getYield arith) hundred)),
    ("defectRate", .double (arith.mul (scanner.getCurrentDefectRate arith) hundred)),
    ("timestamp", .string timestamp), ("batch", .string config.batchId),
    ("defectsByType", jsonObject (scanner.defectCounts.map fun entry => (entry.1, .int entry.2)))]

/-- One pass of the main loop after `client.poll`, when connected: a scan once
`SCAN_INTERVAL_MS` passed since the last while the belt runs, then the statistics once
`STATS_INTERVAL_MS` passed since the last, when anything was scanned. -/
def loopIteration (config : DemoConfig) (nowMs : Int) (connected : Bool) (timestamp : String)
    (draws : ScanDraws) (station : ScannerStation) : ScannerStation × List Message :=
  if connected then
    let scanned := if station.lineRunning ∧ scanIntervalMs ≤ nowMs - station.lastScan then
        scanStep arith config nowMs timestamp draws station
      else (station, [])
    let station := scanned.1
    if statsIntervalMs ≤ nowMs - station.lastStats ∧ 0 < station.scanner.totalScans then
      ({ station with lastStats := nowMs },
        scanned.2 ++ [Message.publish statsSubject (statsPayload arith config station.scanner timestamp)])
    else (station, scanned.2)
  else (station, [])

/-- What happens to the program: a message delivered to it, the start of a session, or a pass
of its main loop with the draws of its scan. -/
inductive Event
  | deliver (message : Message) (nowMs : Int)
  | connected
  | loop (nowMs : Int) (connected : Bool) (timestamp : String) (draws : ScanDraws)

/-- One event on the program as the gateway runs it, with what it publishes. -/
def step (config : DemoConfig) (event : Event) (process : Process ScannerStation) :
    Process ScannerStation × List Message :=
  match event with
  | .deliver message nowMs =>
    (handleSubscriptionMessage (subscriptions arith) nowMs message process, [])
  | .connected => (process, if process.hung then [] else onConnected config)
  | .loop nowMs connected timestamp draws =>
    if process.hung then (process, [])
    else
      let result := loopIteration arith config nowMs connected timestamp draws process.state
      ({ process with state := result.1 }, result.2)

/-- A run of the program, with everything it publishes in order. -/
def run (config : DemoConfig) :
    List Event → Process ScannerStation → Process ScannerStation × List Message
  | [], process => (process, [])
  | event :: events, process =>
    let first := step arith config event process
    let rest := run config events first.1
    (rest.1, first.2 ++ rest.2)

/-- A statistics report is consistent: its scans are its passes and its rejects, and a breakdown
by type lists defect types only, once each and in key order, with counts that add up to its
rejects, all as `int`s. -/
structure StatsConsistent (payload : JsonValue) : Prop where
  totals : (payload.get "totalScans").asInt =
    signedWrap 32 ((payload.get "passCount").asInt + (payload.get "rejectCount").asInt)
  breakdown : payload.contains "defectsByType" → ∃ entries : List (String × JsonValue),
    payload.get "defectsByType" = .object entries ∧
      JsonValue.KeysAscending (entries.map Prod.fst) ∧ (∀ entry ∈ entries, entry.1 ∈ defectTypes) ∧
      signedWrap 32 (entries.map fun entry => entry.2.asInt).sum = (payload.get "rejectCount").asInt

theorem statsPayload_consistent (config : DemoConfig) {scanner : VisionScanner}
    (tallied : scanner.Tallied) (timestamp : String) :
    StatsConsistent (statsPayload arith config scanner timestamp) := by
  obtain ⟨totals, breakdown, types, ascending⟩ := tallied
  have keys : (scanner.defectCounts.map fun entry => (entry.1, JsonValue.int entry.2)).map
      Prod.fst = scanner.defectCounts.map Prod.fst := by simp
  constructor
  · simpa [statsPayload, List.lookup_cons, JsonValue.asInt] using totals
  · intro _
    refine ⟨_, ?_, keys ▸ ascending, fun entry member => ?_, ?_⟩
    · simp only [statsPayload, get_jsonObject, List.reverse_cons, List.reverse_nil,
        List.nil_append, List.cons_append, List.singleton_append, List.lookup_cons, beq_self_eq_true,
        Option.getD_some]
      exact jsonObject_of_ascending _ (keys ▸ ascending)
    · obtain ⟨original, counted, rfl⟩ := List.mem_map.mp member
      exact types original counted
    · simp [statsPayload, List.lookup_cons, JsonValue.asInt, breakdown, Function.comp_def]

/-- A scan of the loop changes the scanner by `scan` alone, and publishes no statistics. -/
theorem scanStep_scanner (config : DemoConfig) (nowMs : Int) (timestamp : String)
    (draws : ScanDraws) (station : ScannerStation) :
    (scanStep arith config nowMs timestamp draws station).1.scanner =
      (station.scanner.scan arith draws).2 := by
  simp only [scanStep]
  split_ifs <;> rfl

theorem scanStep_published (config : DemoConfig) (nowMs : Int) (timestamp : String)
    (draws : ScanDraws) (station : ScannerStation) :
    ∀ message ∈ (scanStep arith config nowMs timestamp draws station).2,
      message.subject ≠ statsSubject := by
  simp only [scanStep]
  split_ifs <;> simp [rejectMessage, consecutiveAlert, highRateAlert, normalRateAlert,
    statsSubject, rejectsSubject, alertsSubject]

/-- The loop keeps the counts agreeing, and the statistics it publishes show them. -/
theorem loopIteration_tallied (config : DemoConfig) (nowMs : Int) (connected : Bool)
    (timestamp : String) (draws : ScanDraws) {station : ScannerStation}
    (tallied : station.scanner.Tallied) :
    (loopIteration arith config nowMs connected timestamp draws station).1.scanner.Tallied ∧
      ∀ message ∈ (loopIteration arith config nowMs connected timestamp draws station).2,
        message.subject = statsSubject → StatsConsistent message.payload := by
  unfold loopIteration
  split
  · generalize scanned : (if station.lineRunning = true ∧ scanIntervalMs ≤ nowMs - station.lastScan
        then scanStep arith config nowMs timestamp draws station else (station, [])) = result
    have kept : result.1.scanner.Tallied ∧ ∀ message ∈ result.2, message.subject ≠ statsSubject := by
      subst scanned
      split
      · rw [scanStep_scanner]
        exact ⟨VisionScanner.scan_tallied arith draws tallied, scanStep_published arith _ _ _ _ _⟩
      · exact ⟨tallied, nofun⟩
    dsimp only
    split
    · refine ⟨kept.1, fun message member onStats => ?_⟩
      rcases List.mem_append.mp member with scanned | published
      · exact absurd onStats (kept.2 message scanned)
      · rw [List.mem_singleton.mp published]
        exact statsPayload_consistent arith config kept.1 timestamp
    · exact ⟨kept.1, fun message member onStats => absurd onStats (kept.2 message member)⟩
  · exact ⟨tallied, nofun⟩

/-- Every handler keeps the counts agreeing. -/
theorem subscriptions_tallied {entry : String × Handler ScannerStation Int}
    (member : entry ∈ subscriptions arith) (nowMs : Int) (message : Message)
    {station : ScannerStation} (tallied : station.scanner.Tallied) :
    (entry.2 nowMs message station).1.scanner.Tallied := by
  simp only [subscriptions, List.mem_cons, List.mem_singleton, List.not_mem_nil, or_false] at member
  rcases member with rfl | rfl | rfl <;>
    dsimp only [handleCommand, handleEmergency, handleConveyorStatus]
  · split_ifs <;> first
      | exact tallied
      | exact VisionScanner.setDefectRate_tallied arith _ tallied
      | exact VisionScanner.setHighDefectMode_tallied _ _ tallied
      | exact VisionScanner.resetStats_tallied _
  · exact tallied
  · split <;> exact tallied

theorem step_tallied (config : DemoConfig) (event : Event) {process : Process ScannerStation}
    (tallied : process.state.scanner.Tallied) :
    (step arith config event process).1.state.scanner.Tallied ∧
      ∀ message ∈ (step arith config event process).2,
        message.subject = statsSubject → StatsConsistent message.payload := by
  cases event with
  | deliver message nowMs =>
    refine ⟨handleSubscriptionMessage_invariant
      (fun other : Process ScannerStation => other.state.scanner.Tallied)
      (fun entry member other kept => ?_) tallied, nofun⟩
    unfold dispatchTo
    split
    · exact subscriptions_tallied arith member nowMs message kept
    · exact kept
  | connected =>
    refine ⟨tallied, fun message member onStats => ?_⟩
    simp only [step] at member
    split at member
    · cases member
    · simp only [onConnected, List.mem_singleton] at member
      subst member
      exact absurd onStats (by simp only [Message.publish_subject]; decide)
  | loop nowMs connected timestamp draws =>
    simp only [step]
    split
    · exact ⟨tallied, nofun⟩
    · exact loopIteration_tallied arith config nowMs connected timestamp draws tallied

/-- Over every run of the program from its start, whatever it is sent, however its clock reads
and whatever the generator draws, every statistics report it publishes is consistent: its
`totalScans` is its `passCount` plus its `rejectCount`, and a breakdown `defectsByType` lists
only the types of `DEFECT_TYPES`, once each and in key order, with counts that add up to its
`rejectCount`, all as `int`s. -/
theorem stats_breakdown_consistent (config : DemoConfig) (startMs : Int) (events : List Event) :
    ∀ message ∈ (run arith config events { state := new startMs }).2,
      message.subject = statsSubject → StatsConsistent message.payload := by
  suffices keeps : ∀ process : Process ScannerStation, process.state.scanner.Tallied →
      ∀ message ∈ (run arith config events process).2,
        message.subject = statsSubject → StatsConsistent message.payload from
    keeps _ VisionScanner.new_tallied
  induction events with
  | nil => exact fun _ _ => nofun
  | cons event events ih =>
    intro process tallied message member
    obtain ⟨kept, reports⟩ := step_tallied arith config event tallied
    rcases List.mem_append.mp member with first | later
    · exact reports message first
    · exact ih _ kept message later

/-- Once the belt reports running, the pass of the loop ten seconds after the start scans a
package and publishes the statistics, and they are consistent. -/
theorem first_stats_consistent :
    let running := Message.publish "factory.line1.conveyor.status"
      (jsonObject [("mode", .string "running")])
    let events := [.deliver running 0, .loop 10000 true "t0" ⟨.zero, .zero, .zero⟩]
    let report := Message.publish statsSubject (statsPayload .inert loadDemoConfig
      { VisionScanner.new with totalScans := 1, passCount := 1 } "t0")
    report ∈ (run .inert loadDemoConfig events { state := new 0 }).2 ∧
      report.subject = statsSubject ∧ StatsConsistent report.payload := by
  intro running events report
  have published : report ∈ (run .inert loadDemoConfig events { state := new 0 }).2 :=
    List.mem_singleton.mpr rfl
  exact ⟨published, rfl,
    stats_breakdown_consistent .inert loadDemoConfig 0 events report published rfl⟩

/-- The scanner waits for the belt: it takes the belt as standing, and has scanned nothing. -/
structure Waiting (station : ScannerStation) : Prop where
  stopped : station.lineRunning = false
  unscanned : station.scanner.totalScans = 0

theorem new_waiting (startMs : Int) : (new startMs).Waiting := ⟨rfl, rfl⟩

/-- On anything but a status that reports the belt running, every handler leaves a waiting
scanner waiting. -/
theorem subscriptions_waiting {entry : String × Handler ScannerStation Int}
    (member : entry ∈ subscriptions arith) (nowMs : Int) {message : Message}
    (notRunning : message.subject = "factory.line1.conveyor.status" →
      (message.payload.get "mode").asString ≠ "running")
    (routed : GatewayClient.matchesSubject entry.1 message.subject = true)
    {station : ScannerStation} (waiting : station.Waiting) : (entry.2 nowMs message station).1.Waiting := by
  simp only [subscriptions, List.mem_cons, List.mem_singleton, List.not_mem_nil, or_false] at member
  rcases member with rfl | rfl | rfl <;>
    dsimp only [handleCommand, handleEmergency, handleConveyorStatus]
  · split_ifs <;> first | exact ⟨waiting.stopped, waiting.unscanned⟩ | exact ⟨waiting.stopped, rfl⟩
  · exact waiting
  · have status : "factory.line1.conveyor.status" = message.subject :=
      (matchesSubject_literal (by decide) (by decide)).mp routed
    split
    · exact ⟨by simpa using notRunning status.symm, waiting.unscanned⟩
    · exact waiting

/-- A waiting scanner's loop does nothing: it scans only while the belt runs, and reports only
once it has scanned. -/
theorem loopIteration_of_waiting (config : DemoConfig) (nowMs : Int) (connected : Bool)
    (timestamp : String) (draws : ScanDraws) {station : ScannerStation} (waiting : station.Waiting) :
    loopIteration arith config nowMs connected timestamp draws station = (station, []) := by
  simp [loopIteration, waiting.stopped, waiting.unscanned]

end ScannerStation

end GatewaySdk.Demo
