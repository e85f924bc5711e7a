import GatewaySdk.Client.Handshake

/-!
# Inbound frames

`handleMessage` counts a frame that `deserialize` accepts, in `messagesReceived` and
`bytesReceived`, and hands it to the handler of its type.  A frame that `deserialize` rejects is
only logged: no error is counted, `onError` is not called, and nothing else changes, over any
number of such frames.  An accepted envelope whose type has no handler, a Publish, an Ack or a
type outside the enumeration, is only counted.  So is any document that is not an object,
since it decodes as a Publish.
-/

namespace GatewaySdk

namespace GatewayClient

variable {Text : Type} (env : Environment Text)

/-- A frame that `deserialize` rejects leaves the engine as it was. -/
theorem handleMessage_rejected {text : Text} {failure : ErrorCode × String}
    (rejected : Protocol.deserialize env.codec env.utcOffset text = .error failure)
    (client : GatewayClient Text) :
    (handleMessage env text).run client = some ((), client) := by
  simp only [handleMessage, rejected]
  rfl

/-- An operation that leaves the engine as it was does so on the polling thread too, which runs
it only while not asleep. -/
theorem onPollingThread_run_of_quiet {op : EngineM Text Unit} {client : GatewayClient Text}
    (quiet : op.run client = some ((), client)) :
    (onPollingThread op).run client = some ((), client) := by
  by_cases idle : client.poller = .idle
  · simpa [onPollingThread, idle] using quiet
  · simp [onPollingThread, idle]

/-- A run of frames that `deserialize` rejects leaves the engine as it was. -/
theorem run_rejected_frames {texts : List Text}
    (rejected : ∀ text ∈ texts,
      (Protocol.deserialize env.codec env.utcOffset text).toBool = false)
    (client : GatewayClient Text) : run env client (texts.map .receive) = some client := by
  induction texts with
  | nil => rfl
  | cons text texts ih =>
    obtain ⟨failure, failed⟩ : ∃ failure,
        Protocol.deserialize env.codec env.utcOffset text = .error failure := by
      cases decoded : Protocol.deserialize env.codec env.utcOffset text with
      | error failure => exact ⟨failure, rfl⟩
      | ok message =>
        have := rejected text (List.mem_cons_self _ _)
        rw [decoded] at this
        cases this
    have stepped : step env client (.receive text) = some client := by
      simp only [step, operation,
        onPollingThread_run_of_quiet (handleMessage_rejected env failed client), Option.map_some']
    simp only [List.map_cons, run, stepped, Option.some_bind]
    exact ih fun text member => rejected text (List.mem_cons_of_mem _ member)

/-- An accepted envelope whose type has no handler is counted and nothing else. -/
theorem handleMessage_unhandled {text : Text} {message : Message}
    (accepted : Protocol.deserialize env.codec env.utcOffset text = .ok message)
    (unhandled : message.type ∉ [.auth, .message, .error, .pong]) (client : GatewayClient Text) :
    (handleMessage env text).run client = some ((), { client with
      stats := { client.stats with
        messagesReceived := (client.stats.messagesReceived + 1) % 2 ^ 64
        bytesReceived := (client.stats.bytesReceived + env.codec.size text) % 2 ^ 64
        lastActivityAt := client.clock.system } }) := by
  simp only [List.mem_cons, List.mem_singleton, not_or, List.not_mem_nil, or_false] at unhandled
  obtain ⟨notAuth, notMessage, notError, notPong⟩ := unhandled
  simp only [handleMessage, accepted, notAuth, notMessage, notError, notPong, if_false]
  rfl

/-- A document that is not an object is counted as a received Publish and dispatched to no
handler. -/
theorem handleMessage_of_not_object {text : Text} {document : Json}
    (parsed : env.codec.parse text = .ok document)
    (notObject : ∀ entries, document ≠ .object entries) (client : GatewayClient Text) :
    (handleMessage env text).run client = some ((), { client with
      stats := { client.stats with
        messagesReceived := (client.stats.messagesReceived + 1) % 2 ^ 64
        bytesReceived := (client.stats.bytesReceived + env.codec.size text) % 2 ^ 64
        lastActivityAt := client.clock.system } }) :=
  handleMessage_unhandled env (Protocol.deserialize_of_not_object env.codec env.utcOffset parsed
    notObject) (by decide) client

end GatewayClient

/-- The sensor once connected, its user code registering every callback. -/
def connectedSensor : GatewayClient (Except String Json) :=
  GatewayClient.runOr (documentEnv passiveUser) (GatewayClient.new sensorConfig)
    (connectInputs authAccepted)

/-- Two frames that do not decode: a text that is no JSON, and an envelope whose `type` is a
string. -/
def undecodableFrames : List (Except String Json) :=
  [.error "[json.exception.parse_error.101] parse error at line 1, column 1: invalid literal",
    .ok (.object [("type", .string "auth")])]

namespace GatewayClient

/-- The connected sensor, polling and with `onError` registered, receives two frames that do
not decode: the run ends in the state it started from, so the error count stays 0 and
`onError` is not called. -/
theorem malformed_frames_not_counted :
    connectedSensor.state = .connected ∧ connectedSensor.poller = .idle ∧
      connectedSensor.stats.errorCount = 0 ∧
      run (documentEnv passiveUser) connectedSensor (undecodableFrames.map .receive) =
        some connectedSensor :=
  ⟨by decide, by decide, by decide, run_rejected_frames _ (by decide) _⟩

end GatewayClient

end GatewaySdk
