import GatewaySdk.Json

/-!
# The wire protocol

`Protocol::serialize` and `Protocol::deserialize` of `protocol.cpp`, with the timestamp
helpers they call: `getTimestamp`, the `put_time` text of a set timestamp, and
`parseTimestamp`, which is `get_time` (as libstdc++ of GCC 12 implements it) followed by
`mktime` and `from_time_t`.  The calendar arithmetic of `gmtime` and `mktime` is
`civil_from_days`/`days_from_civil`; the local time zone that `mktime` reads is a parameter,
its standard-time offset east of UTC in seconds.  A `Timestamp` counts nanoseconds, and
`from_time_t` multiplies seconds into the `int64_t` count of a `time_point`, wrapping as
x86-64 does.

`deserialize` of a serialized envelope gives back every field but one: for every envelope of an
enumerated type whose payload has finite doubles and `int64_t` integers, type, subject,
payload, correlation id and device id survive, although `json::parse` reads every integer
without a sign back as `number_unsigned`; the timestamp is whatever `parseTimestamp` reads from
the text that `serialize` wrote.  That is always a whole number of seconds, as a time point,
so no timestamp with a sub-second part comes back.

The reads reject only a field of the wrong JSON type.  A document that is not an object reads as
the default Publish envelope, as does an object without `type`, and an `int` type is cast without
a range check, so an envelope may come back with a type outside the enumeration.
-/

namespace GatewaySdk

namespace Protocol

/-- Days from 1970-01-01 to the proleptic Gregorian date `year-month-day`
(`days_from_civil`).  Days past the end of the month carry over, as `mktime` normalises
them. -/
def daysFromCivil (year month day : Int) : Int :=
  let y := if month ≤ 2 then year - 1 else year
  let era := y / 400
  let yearOfEra := y - era * 400
  let dayOfYear := (153 * ((month + 9) % 12) + 2) / 5 + day - 1
  era * 146097 + yearOfEra * 365 + yearOfEra / 4 - yearOfEra / 100 + dayOfYear - 719468

/-- The date of a day counted from 1970-01-01 (`civil_from_days`), as `gmtime` computes it. -/
def civilFromDays (days : Int) : Int × Int × Int :=
  let z := days + 719468
  let era := z / 146097
  let dayOfEra := z - era * 146097
  let yearOfEra := (dayOfEra - dayOfEra / 1460 + dayOfEra / 36524 - dayOfEra / 146096) / 365
  let dayOfYear := dayOfEra - (365 * yearOfEra + yearOfEra / 4 - yearOfEra / 100)
  let shifted := (5 * dayOfYear + 2) / 153
  let day := dayOfYear - (153 * shifted + 2) / 5 + 1
  let month := if shifted < 10 then shifted + 3 else shifted - 9
  (yearOfEra + era * 400 + (if month ≤ 2 then 1 else 0), month, day)

/-- A field of `strftime`: at least `width` decimal digits, zero-padded, after a `-` when
negative. -/
def formatNumber (width : Nat) (value : Int) : String :=
  let digits := (toString value.natAbs).data
  let sign := if value < 0 then ['-'] else []
  String.mk (sign ++ List.replicate (width - digits.length - sign.length) '0' ++ digits)

/-- `put_time(gmtime(&time), "%Y-%m-%dT%H:%M:%S")` of a `time_t`. -/
def formatUtc (seconds : Int) : String :=
  let (year, month, day) := civilFromDays (seconds / 86400)
  let secondOfDay := seconds % 86400
  formatNumber 4 year ++ "-" ++ formatNumber 2 month ++ "-" ++ formatNumber 2 day ++ "T" ++
    formatNumber 2 (secondOfDay / 3600) ++ ":" ++ formatNumber 2 (secondOfDay / 60 % 60) ++ ":" ++
    formatNumber 2 (secondOfDay % 60)

/-- `system_clock::to_time_t`: whole seconds, truncated toward zero. -/
def toTimeT (time : Timestamp) : Int :=
  time.tdiv (10 ^ 9)

/-- `Protocol::getTimestamp` at the clock reading `now`: seconds, then the milliseconds of
`now` written with `setw(3)` and fill `0`. -/
def getTimestamp (now : Timestamp) : String :=
  formatUtc (toTimeT now) ++ "." ++
    String.mk (List.leftpad 3 '0' (toString ((now.tdiv (10 ^ 6)).tmod 1000)).data) ++ "Z"

/-- `isspace` in the C locale. -/
def isSpace (c : Char) : Bool :=
  c = ' ' || c = '\t' || c = '\n' || c = '\x0b' || c = '\x0c' || c = '\r'

/-- The digit loop of libstdc++'s `time_get::_M_extract_num`: it reads at most `remaining`
digits and stops before a non-digit, or at a digit that takes the value above `max`.  Returns
the value read, the number of digits consumed before the stop and the rest of the input. -/
def extractDigits (max : Nat) : (remaining value count : Nat) → List Char → Nat × Nat × List Char
  | 0, value, count, chars => (value, count, chars)
  | _ + 1, value, count, [] => (value, count, [])
  | remaining + 1, value, count, c :: rest =>
    if '0' ≤ c ∧ c ≤ '9' then
      let next := value * 10 + (c.toNat - '0'.toNat)
      if max < next then (next, count, c :: rest)
      else extractDigits max remaining next (count + 1) rest
    else (value, count, c :: rest)

/-- `time_get::_M_extract_num`: a field of one to `len` digits whose value lies in
`[min, max]`. -/
def extractNum (min max len : Nat) (chars : List Char) : Option (Int × List Char) :=
  let (value, count, rest) := extractDigits max len 0 0 chars
  if 0 < count ∧ min ≤ value ∧ value ≤ max then some (value, rest) else none

/-- A literal character of the format, compared without regard to case. -/
def matchLiteral (literal : Char) : List Char → Option (List Char)
  | c :: rest =>
    if c.toUpper = literal.toUpper ∨ c.toLower = literal.toLower then some rest else none
  | [] => none

/-- The optional space that `%d` skips before its digits. -/
def skipSpace : List Char → List Char
  | c :: rest => if isSpace c then rest else c :: rest
  | [] => []

/-- The fields of a `std::tm` that `get_time` fills, as calendar values. -/
structure BrokenDownTime where
  year : Int
  month : Int
  day : Int
  hour : Int
  minute : Int
  second : Int
  deriving DecidableEq, Repr

/-- `is >> get_time(&tm, "%Y-%m-%dT%H:%M:%S")`: leading white space is skipped, each field
is read by `_M_extract_num` (`%d` after at most one space), and the rest of the input is
left unread. -/
def getTime (chars : List Char) : Option BrokenDownTime := do
  let year ← extractNum 0 9999 4 (chars.dropWhile isSpace)
  let month ← extractNum 1 12 2 =<< matchLiteral '-' year.2
  let day ← (fun rest => extractNum 1 31 2 (skipSpace rest)) =<< matchLiteral '-' month.2
  let hour ← extractNum 0 23 2 =<< matchLiteral 'T' day.2
  let minute ← extractNum 0 59 2 =<< matchLiteral ':' hour.2
  let second ← extractNum 0 60 2 =<< matchLiteral ':' minute.2
  pure { year := year.1, month := month.1, day := day.1, hour := hour.1, minute := minute.1,
         second := second.1 }

/-- `mktime` of a `std::tm` with `tm_isdst = 0`, in a zone `utcOffset` seconds east of UTC:
the fields are read as local standard time and normalised. -/
def mktime (time : BrokenDownTime) (utcOffset : Int) : Int :=
  daysFromCivil time.year time.month time.day * 86400 + time.hour * 3600 + time.minute * 60 +
    time.second - utcOffset

/-- `system_clock::from_time_t`: the seconds as the `int64_t` nanosecond count of a
`time_point`, which wraps outside 1677-2262. -/
def fromTimeT (seconds : Int) : Timestamp :=
  signedWrap 64 (seconds * 10 ^ 9)

/-- `Protocol::parseTimestamp`: `system_clock::from_time_t` of the `mktime` of what
`get_time` reads. -/
def parseTimestamp (text : String) (utcOffset : Int) : Result Timestamp :=
  match getTime text.data with
  | none => .error (.malformedJson, "Invalid timestamp format")
  | some time => .ok (fromTimeT (mktime time utcOffset))

/-- A timestamp that `parseTimestamp` reads is a time point of whole seconds. -/
theorem parseTimestamp_whole_seconds {text : String} {utcOffset time : Int}
    (parsed : parseTimestamp text utcOffset = .ok time) : ∃ seconds, time = fromTimeT seconds := by
  unfold parseTimestamp at parsed
  split at parsed
  · cases parsed
  · cases parsed
    exact ⟨_, rfl⟩

/-- A time point of whole seconds is a multiple of 512 ns, wrapped or not: `2^9` divides both
`10^9` and `2^64`. -/
theorem fromTimeT_emod_512 (seconds : Int) : fromTimeT seconds % 512 = 0 := by
  have wrapped := signedWrap_emod 64 (seconds * 10 ^ 9)
  calc fromTimeT seconds % 512
      = signedWrap 64 (seconds * 10 ^ 9) % 2 ^ 64 % 512 :=
        (Int.emod_emod_of_dvd _ (by decide)).symm
    _ = seconds * 10 ^ 9 % 2 ^ 64 % 512 := by rw [wrapped]
    _ = 0 := by
      rw [Int.emod_emod_of_dvd _ (by decide)]
      exact Int.emod_eq_zero_of_dvd ⟨seconds * 1953125, by simp only [Int.reducePow]; omega⟩

/-- `get<int>()` reads back the `int` that `serialize` stored. -/
theorem signedWrap_of_small {value : Int} (nonneg : 0 ≤ value) (small : value < 2 ^ 31) :
    signedWrap 32 value = value := by
  have low : value % 2 ^ 32 = value := Int.emod_eq_of_lt nonneg (by omega)
  have fits : value < 2 ^ (32 - 1) := small
  simp only [signedWrap, low, if_pos fits]

/-- The `timestamp` text that `serialize` writes: a set timestamp in whole seconds followed by
`Z`, otherwise `getTimestamp()` at the clock reading `now`. -/
def timestampText (message : Message) (now : Timestamp) : String :=
  match message.timestamp with
  | some time => formatUtc (toTimeT time) ++ "Z"
  | none => getTimestamp now

/-- The document `json j` that `serialize` fills for an envelope before dumping it. -/
def messageDocument (message : Message) (now : Timestamp) : Json :=
  let typed := Json.null.set "type" (.numberInteger message.type.code)
  let withSubject :=
    if message.subject = "" then typed else typed.set "subject" (.string message.subject)
  let withPayload :=
    if message.payload.isNull then withSubject
    else withSubject.set "payload" (jsonValueToNlohmann message.payload)
  let withCorrelation := match message.correlationId with
    | some id => withPayload.set "correlationId" (.string id)
    | none => withPayload
  let withTimestamp := withCorrelation.set "timestamp" (.string (timestampText message now))
  match message.deviceId with
  | some id => withTimestamp.set "deviceId" (.string id)
  | none => withTimestamp

/-- `Protocol::serialize`: the dump of the envelope's document. -/
def serialize {Text : Type} (codec : JsonCodec Text) (message : Message) (now : Timestamp) :
    Text :=
  codec.dump (messageDocument message now)

/-- The field reads of `Protocol::deserialize` on a parsed document, each present field read
with `get<T>()`; an error carries the `what()` text of the `type_error` a read throws.  A
timestamp that `parseTimestamp` rejects is left unset. -/
def readMessage (utcOffset : Int) (document : Json) : Except String Message := do
  let type ← if document.contains "type" then MessageType.mk <$> (document.get "type").getInt
    else pure MessageType.publish
  let subject ← if document.contains "subject" then (document.get "subject").getString
    else pure ""
  let payload :=
    if document.contains "payload" then nlohmannToJsonValue (document.get "payload") else .null
  let correlationId ← if document.contains "correlationId" then
      some <$> (document.get "correlationId").getString
    else pure none
  let timestamp ← if document.contains "timestamp" then
      (fun text => (parseTimestamp text utcOffset).toOption) <$>
        (document.get "timestamp").getString
    else pure none
  let deviceId ← if document.contains "deviceId" then
      some <$> (document.get "deviceId").getString
    else pure none
  pure { type, subject, payload, correlationId, timestamp, deviceId }

/-- `Protocol::deserialize`: parse, then read the fields; a `json::exception` of either step
becomes `MalformedJson`. -/
def deserialize {Text : Type} (codec : JsonCodec Text) (utcOffset : Int) (text : Text) :
    Result Message :=
  match codec.parse text >>= readMessage utcOffset with
  | .ok message => .ok message
  | .error what => .error (.malformedJson, "JSON parse error: " ++ what)

/-- The field reads of `deserialize` on the document of an envelope of an enumerated type
give back the envelope, with the timestamp that `parseTimestamp` reads from its text. -/
theorem readMessage_messageDocument (utcOffset now : Int) (message : Message)
    (enumerator : message.type.IsEnumerator) (sorted : message.payload.sortedKeys = true) :
    readMessage utcOffset (messageDocument message now) =
      .ok { message with
        timestamp := (parseTimestamp (timestampText message now) utcOffset).toOption } := by
  obtain ⟨⟨code⟩, subject, payload, correlationId, timestamp, deviceId⟩ := message
  have wrapped : signedWrap 32 code = code :=
    signedWrap_of_small enumerator.1 (Int.lt_of_le_of_lt enumerator.2 (by decide))
  cases correlationId <;> cases deviceId <;> by_cases empty : subject = "" <;>
    by_cases nullPayload : payload = .null <;>
    simp only [readMessage, messageDocument, nullPayload, JsonValue.isNull_iff, ↓reduceIte, empty,
      Json.contains_set, String.reduceEq, decide_False, decide_True, Json.contains_null,
      Bool.or_false, Bool.or_true, Json.getInt, Json.get_set, wrapped, Except.map_ok, Bool.or_self,
      Bool.false_eq_true, Json.getString, nlohmannToJsonValue_jsonValueToNlohmann payload sorted,
      bind_pure_comp, map_pure, pure_bind] <;> rfl

/-- The field reads give the same envelope from what `json::parse` reads back for the dump of a
well-formed document as from the document itself. -/
theorem readMessage_normalize (utcOffset : Int) {document : Json}
    (wellFormed : document.wellFormed = true) :
    readMessage utcOffset document.normalize = readMessage utcOffset document := by
  simp only [readMessage, Json.contains_normalize, Json.get_normalize, Json.getInt_normalize,
    Json.getString_normalize, nlohmannToJsonValue_normalize _ (Json.wellFormed_get wellFormed _)]

/-- The document of an envelope of an enumerated type whose payload is a value of `JsonValue`
is one `nlohmann::json` can hold. -/
theorem wellFormed_messageDocument (message : Message) (now : Timestamp)
    (enumerator : message.type.IsEnumerator) (sorted : message.payload.sortedKeys = true)
    (fits : message.payload.int64Ints = true) :
    (messageDocument message now).wellFormed = true := by
  have payloadWellFormed := wellFormed_jsonValueToNlohmann _ sorted fits
  have typeWellFormed : (Json.numberInteger message.type.code).wellFormed = true := by
    have := enumerator
    simp only [MessageType.IsEnumerator] at this
    simp only [Json.wellFormed, Json.every, Json.wellFormedNode, decide_eq_true_eq]
    omega
  unfold messageDocument
  repeat' first
    | apply Json.wellFormed_set
    | exact payloadWellFormed
    | exact typeWellFormed
    | split
    | rfl

theorem finiteFloats_messageDocument (message : Message) (now : Timestamp)
    (finite : message.payload.finiteDoubles = true) (sorted : message.payload.sortedKeys = true) :
    (messageDocument message now).finiteFloats = true := by
  have payloadFinite : (jsonValueToNlohmann message.payload).finiteFloats = true := by
    rw [finiteFloats_jsonValueToNlohmann _ sorted, finite]
  unfold messageDocument
  repeat' first
    | apply Json.finiteFloats_set
    | exact payloadFinite
    | split
    | rfl

/-- Over any codec and in any time zone, `deserialize` of `serialize` gives back an envelope of
an enumerated type whose payload has finite doubles and `int64_t` integers, except its
timestamp, which becomes what `parseTimestamp` reads from the text `serialize` wrote. -/
theorem deserialize_serialize {Text : Type} (codec : JsonCodec Text) (utcOffset now : Int)
    (message : Message) (enumerator : message.type.IsEnumerator)
    (finite : message.payload.finiteDoubles = true) (sorted : message.payload.sortedKeys = true)
    (fits : message.payload.int64Ints = true) :
    deserialize codec utcOffset (serialize codec message now) =
      .ok { message with
        timestamp := (parseTimestamp (timestampText message now) utcOffset).toOption } := by
  have wellFormed := wellFormed_messageDocument message now enumerator sorted fits
  unfold deserialize serialize
  rw [codec.parse_dump _ wellFormed (finiteFloats_messageDocument message now finite sorted)]
  simp only [bind, Except.bind, readMessage_normalize utcOffset wellFormed,
    readMessage_messageDocument utcOffset now message enumerator sorted]

/-- An envelope stamped 1.5 s after the epoch does not come back with its timestamp: with every
codec, in every time zone and at every clock reading the decoded timestamp differs, and in UTC
it comes back as 1 s. -/
theorem subsecond_timestamp_not_restored :
    let message : Message := { timestamp := some 1500000000 }
    (∀ {Text : Type} (codec : JsonCodec Text) (utcOffset now : Int), ∃ decoded,
      deserialize codec utcOffset (serialize codec message now) = .ok decoded ∧
        decoded.timestamp ≠ message.timestamp) ∧
    (deserialize JsonCodec.documents 0 (serialize JsonCodec.documents message 0)).toOption =
      some { timestamp := some 1000000000 } := by
  refine ⟨fun codec utcOffset now => ⟨_, deserialize_serialize codec utcOffset now _
    (by decide) rfl rfl rfl, fun same => ?_⟩, by decide⟩
  cases parsed : parseTimestamp (timestampText { timestamp := some 1500000000 } now) utcOffset
  · simp [parsed, Except.toOption] at same
  · obtain ⟨seconds, rfl⟩ := parseTimestamp_whole_seconds parsed
    simp only [parsed, Except.toOption, Option.some.injEq] at same
    have multiple := fromTimeT_emod_512 seconds
    rw [same] at multiple
    exact absurd multiple (by decide)

/-- `get<int>()` gives back every value of `int`. -/
theorem signedWrap_of_int32 {value : Int} (low : -2 ^ 31 ≤ value) (high : value < 2 ^ 31) :
    signedWrap 32 value = value := by
  simp only [signedWrap]
  split <;> omega

/-- `contains` is false on a document that is not an object, so every read takes its default
and a document that is no object reads as the default envelope: a Publish with an empty
subject and a null payload. -/
theorem readMessage_of_not_object (utcOffset : Int) {document : Json}
    (notObject : ∀ entries, document ≠ .object entries) :
    readMessage utcOffset document = .ok {} := by
  have absent : ∀ key, document.contains key = false := by
    intro key
    cases document <;> first | rfl | exact absurd rfl (notObject _)
  simp only [readMessage, absent]
  rfl

/-- The object with an `int` `type` field and no other field reads as an envelope of that
type, in the enumeration or not. -/
theorem readMessage_type_only (utcOffset : Int) {code : Int} (low : -2 ^ 31 ≤ code)
    (high : code < 2 ^ 31) :
    readMessage utcOffset (.object [("type", .numberInteger code)]) =
      .ok { type := ⟨code⟩ } := by
  have read : readMessage utcOffset (.object [("type", .numberInteger code)]) =
      .ok { type := ⟨signedWrap 32 code⟩ } := rfl
  rw [read, signedWrap_of_int32 low high]

/-- With every codec, a text that parses to a document other than an object decodes to the
default envelope. -/
theorem deserialize_of_not_object {Text : Type} (codec : JsonCodec Text) (utcOffset : Int)
    {text : Text} {document : Json} (parsed : codec.parse text = .ok document)
    (notObject : ∀ entries, document ≠ .object entries) :
    deserialize codec utcOffset text = .ok {} := by
  simp only [deserialize, parsed, bind, Except.bind, readMessage_of_not_object utcOffset notObject]

/-- The texts `[]`, `42` and `{}` decode to the default Publish envelope, and `{"type": 42}`
to an envelope whose type is none of the eleven enumerators. -/
theorem malformed_envelopes_decode :
    deserialize JsonCodec.documents 0 (.ok (.array [])) = .ok {} ∧
      deserialize JsonCodec.documents 0 (.ok (.numberInteger 42)) = .ok {} ∧
      deserialize JsonCodec.documents 0 (.ok (.object [])) = .ok {} ∧
      deserialize JsonCodec.documents 0 (.ok (.object [("type", .numberInteger 42)])) =
        .ok { type := ⟨42⟩ } ∧
      ¬ (MessageType.mk 42).IsEnumerator :=
  ⟨rfl, rfl, rfl, rfl, by decide⟩

end Protocol

end GatewaySdk
