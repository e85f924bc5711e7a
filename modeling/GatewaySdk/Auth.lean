import GatewaySdk.Matching
import GatewaySdk.Config

/-!
# The authentication manager

`AuthManager` of `auth.h`/`auth.cpp`: the Auth request built from the configuration, the
reading of an Auth reply, the handshake state machine
`NotAuthenticated → Authenticating → {Authenticated | Failed}`, and the permission checks
`canPublish`/`canSubscribe`, which share one definition over the allow-list they read.

On valid subjects and valid allow-list patterns a permission check holds exactly when an
identity is present, its list is non-empty, and one of its patterns NATS-matches the subject.
-/

namespace GatewaySdk

/-- `AuthState` of `auth.h`. -/
inductive AuthState
  | notAuthenticated
  | authenticating
  | authenticated
  | failed
  deriving DecidableEq, Repr

/-- `AuthResult` of `auth.h`. -/
structure AuthResult where
  success : Bool := false
  error : ErrorCode := .success
  message : String := ""
  deviceInfo : Option DeviceInfo := none
  deriving DecidableEq, Repr

/-- The state of an `AuthManager`.  Its completion callback is left out: the engine registers
one that does nothing. -/
structure AuthManager where
  state : AuthState := .notAuthenticated
  deviceInfo : Option DeviceInfo := none
  deriving DecidableEq, Repr

namespace AuthManager

/-- `AuthManager::createAuthRequest`: an Auth envelope whose payload object carries the device
id, the token and the device type. -/
def createAuthRequest (config : GatewayConfig) : Message :=
  { type := .auth
    payload := (((JsonValue.object []).set "deviceId" (.string config.deviceId)).set "token"
      (.string config.authToken)).set "deviceType" (.string config.getDeviceTypeString) }

/-- The string items of an array field; other items are skipped. -/
def stringItems (field : JsonValue) : List String :=
  field.asArray.filterMap fun item => if item.isString then some item.asString else none

/-- The `DeviceInfo` that `processAuthResponse` reads from a `device` object. -/
def deviceOfObject (deviceObj : JsonValue) : DeviceInfo :=
  { deviceId := if deviceObj.contains "deviceId" then (deviceObj.get "deviceId").asString else ""
    deviceType :=
      if deviceObj.contains "deviceType" then (deviceObj.get "deviceType").asString else ""
    isConnected :=
      if deviceObj.contains "isConnected" then (deviceObj.get "isConnected").asBool else false
    allowedPublishTopics :=
      if deviceObj.contains "allowedPublishTopics" &&
          (deviceObj.get "allowedPublishTopics").isArray then
        stringItems (deviceObj.get "allowedPublishTopics")
      else []
    allowedSubscribeTopics :=
      if deviceObj.contains "allowedSubscribeTopics" &&
          (deviceObj.get "allowedSubscribeTopics").isArray then
        stringItems (deviceObj.get "allowedSubscribeTopics")
      else [] }

/-- `AuthManager::processAuthResponse`.  The identity is read only from a successful reply
that carries a `device` object. -/
def processAuthResponse (message : Message) : AuthResult :=
  if message.type ≠ .auth then
    { success := false, error := .invalidMessageType, message := "Expected Auth message type" }
  else
    let payload := message.payload
    let success := if payload.contains "success" then (payload.get "success").asBool else false
    { success
      error := if success then .success else .authenticationFailed
      message := if payload.contains "message" then (payload.get "message").asString else ""
      deviceInfo :=
        if success && payload.contains "device" && (payload.get "device").isObject then
          some (deviceOfObject (payload.get "device"))
        else none }

/-- `AuthManager::startAuth`. -/
def startAuth (manager : AuthManager) : AuthManager :=
  { manager with state := .authenticating }

/-- `AuthManager::handleMessage`: the updated manager and whether the message was handled.
Only an Auth envelope received while authenticating is handled; a failure keeps the stored
identity. -/
def handleMessage (manager : AuthManager) (message : Message) : AuthManager × Bool :=
  if manager.state ≠ .authenticating then (manager, false)
  else if message.type ≠ .auth then (manager, false)
  else
    let result := processAuthResponse message
    if result.success then ({ state := .authenticated, deviceInfo := result.deviceInfo }, true)
    else ({ manager with state := .failed }, true)

/-- `AuthManager::reset`. -/
def reset (_manager : AuthManager) : AuthManager :=
  { state := .notAuthenticated, deviceInfo := none }

/-- `AuthManager::isAuthenticated`. -/
def isAuthenticated (manager : AuthManager) : Bool :=
  manager.state = .authenticated

/-- `canPublish` and `canSubscribe`, over the allow-list `topics` they read: deny without an
identity, deny on an empty list, otherwise allow when some pattern matches. -/
def canAccess (topics : DeviceInfo → List String) (manager : AuthManager) (subject : String) :
    Bool :=
  match manager.deviceInfo with
  | none => false
  | some info =>
    if (topics info).isEmpty then false
    else (topics info).any fun pattern => matchesPattern pattern subject

/-- `AuthManager::canPublish`. -/
def canPublish : AuthManager → String → Bool :=
  canAccess DeviceInfo.allowedPublishTopics

/-- `AuthManager::canSubscribe`. -/
def canSubscribe : AuthManager → String → Bool :=
  canAccess DeviceInfo.allowedSubscribeTopics

/-- A permission check on a valid subject, against an allow-list of valid patterns. -/
theorem canAccess_iff (topics : DeviceInfo → List String) (manager : AuthManager)
    {subject : String} (validSubject : Protocol.isValidSubject subject = true)
    (validTopics : ∀ info ∈ manager.deviceInfo, ∀ pattern ∈ topics info,
      Protocol.isValidSubject pattern = true) :
    canAccess topics manager subject = true ↔
      ∃ info, manager.deviceInfo = some info ∧ topics info ≠ [] ∧
        ∃ pattern ∈ topics info, natsMatch (dotTokens pattern) (dotTokens subject) = true := by
  unfold canAccess
  cases identity : manager.deviceInfo with
  | none => simp
  | some info =>
    have valid := validTopics info (by simp [identity])
    simp only [List.isEmpty_iff, Option.some.injEq, exists_eq_left', Bool.if_false_left,
      Bool.and_eq_true, Bool.not_eq_true', decide_eq_false_iff_not, List.any_eq_true]
    refine and_congr Iff.rfl (exists_congr fun pattern => ?_)
    exact and_congr_right fun member =>
      by rw [matchesPattern_eq_natsMatch (valid pattern member) validSubject]

/-- `matchesPattern` is NATS matching on the `'.'`-tokens of valid subjects, whatever its fast
path and its `getline` tokenisation do; hence, over allow-lists of valid patterns,
`canPublish` and `canSubscribe` hold exactly when an identity is present, its list is
non-empty, and some pattern of the list NATS-matches the subject. -/
theorem matchesPattern_natsMatch_canPublish_canSubscribe :
    (∀ pattern subject, Protocol.isValidSubject pattern = true →
      Protocol.isValidSubject subject = true →
      matchesPattern pattern subject = natsMatch (dotTokens pattern) (dotTokens subject)) ∧
    (∀ manager subject, Protocol.isValidSubject subject = true →
      (∀ info ∈ manager.deviceInfo, ∀ pattern ∈ info.allowedPublishTopics,
        Protocol.isValidSubject pattern = true) →
      (canPublish manager subject = true ↔
        ∃ info, manager.deviceInfo = some info ∧ info.allowedPublishTopics ≠ [] ∧
          ∃ pattern ∈ info.allowedPublishTopics,
            natsMatch (dotTokens pattern) (dotTokens subject) = true)) ∧
    (∀ manager subject, Protocol.isValidSubject subject = true →
      (∀ info ∈ manager.deviceInfo, ∀ pattern ∈ info.allowedSubscribeTopics,
        Protocol.isValidSubject pattern = true) →
      (canSubscribe manager subject = true ↔
        ∃ info, manager.deviceInfo = some info ∧ info.allowedSubscribeTopics ≠ [] ∧
          ∃ pattern ∈ info.allowedSubscribeTopics,
            natsMatch (dotTokens pattern) (dotTokens subject) = true)) :=
  ⟨fun _ _ => matchesPattern_eq_natsMatch,
    fun manager _ valid topics => canAccess_iff _ manager valid topics,
    fun manager _ valid topics => canAccess_iff _ manager valid topics⟩

/-- The scenario of the specification: a sensor allowed to publish on `telemetry.>`. -/
theorem telemetry_sensor_permissions :
    let manager : AuthManager :=
      { state := .authenticated
        deviceInfo := some { allowedPublishTopics := ["telemetry.>"],
                             allowedSubscribeTopics := ["cmd.sensor-1.>"] } }
    (AuthManager.matchesPattern "a.*.c" "a.b.c" = natsMatch (dotTokens "a.*.c") (dotTokens "a.b.c")) ∧
    (canPublish manager "telemetry.x" = true ↔
      ∃ info, manager.deviceInfo = some info ∧ info.allowedPublishTopics ≠ [] ∧
        ∃ pattern ∈ info.allowedPublishTopics,
          natsMatch (dotTokens pattern) (dotTokens "telemetry.x") = true) ∧
    (canSubscribe manager "cmd.sensor-1.reset" = true ↔
      ∃ info, manager.deviceInfo = some info ∧ info.allowedSubscribeTopics ≠ [] ∧
        ∃ pattern ∈ info.allowedSubscribeTopics,
          natsMatch (dotTokens pattern) (dotTokens "cmd.sensor-1.reset") = true) :=
  ⟨matchesPattern_natsMatch_canPublish_canSubscribe.1 _ _ (by decide) (by decide),
    matchesPattern_natsMatch_canPublish_canSubscribe.2.1 _ _ (by decide) (by simp; decide),
    matchesPattern_natsMatch_canPublish_canSubscribe.2.2 _ _ (by decide) (by simp; decide)⟩

/-- `processAuthResponse` keeps the allow-list patterns as the reply gives them.  A reply that
allows publishing on `a.`, a pattern `isValidSubject` rejects, gives an identity that may
publish on `a`: `getline` drops the empty token after the dot, while the pattern's tokens,
`a` and the empty token, do not NATS-match the subject. -/
theorem unchecked_pattern_grants_publish :
    let manager := (handleMessage { state := .authenticating }
      { type := .auth, payload := .object [("success", .bool true),
        ("device", .object [("allowedPublishTopics", .array [.string "a."])])] }).1
    Protocol.isValidSubject "a" = true ∧ Protocol.isValidSubject "a." = false ∧
      manager.deviceInfo = some { allowedPublishTopics := ["a."] } ∧
      canPublish manager "a" = true ∧ natsMatch (dotTokens "a.") (dotTokens "a") = false := by
  decide

end AuthManager

end GatewaySdk
