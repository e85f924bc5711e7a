import GatewaySdk.Types
import Mathlib.Data.Rat.Defs

/-!
# Configuration

The records of `config.h` that the client engine reads, with their defaults.  Durations are
counts of milliseconds; the two `double` settings of the reconnect policy are exact rationals.
-/

namespace GatewaySdk

/-- `DeviceType` of `types.h`. -/
inductive DeviceType
  | sensor
  | actuator
  | controller
  | gateway
  | custom
  deriving DecidableEq, Repr

/-- `deviceTypeToString`. -/
def deviceTypeToString : DeviceType → String
  | .sensor => "sensor"
  | .actuator => "actuator"
  | .controller => "controller"
  | .gateway => "gateway"
  | .custom => "custom"

/-- `ReconnectConfig` of `config.h`. -/
structure ReconnectConfig where
  enabled : Bool := true
  initialDelay : Nat := 1000
  maxDelay : Nat := 30000
  backoffMultiplier : ℚ := 2
  jitterEnabled : Bool := true
  maxJitterFraction : ℚ := 1 / 4
  maxAttempts : Nat := 0
  resubscribeOnReconnect : Bool := true
  deriving DecidableEq, Repr

/-- `HeartbeatConfig` of `config.h`. -/
structure HeartbeatConfig where
  enabled : Bool := true
  interval : Nat := 30000
  timeout : Nat := 10000
  missedPongsBeforeDisconnect : Nat := 2
  deriving DecidableEq, Repr

/-- The fields of `GatewayConfig` that the engine reads.  The URL goes to the transport's
`connect`, which parses it; the timeouts and the TLS settings go to the carrier, whose outcomes
the model takes as inputs. -/
structure GatewayConfig where
  gatewayUrl : String := ""
  deviceId : String := ""
  authToken : String := ""
  deviceType : DeviceType := .sensor
  customDeviceType : String := ""
  reconnect : ReconnectConfig := {}
  heartbeat : HeartbeatConfig := {}
  deriving DecidableEq, Repr

/-- `GatewayConfig::getDeviceTypeString`. -/
def GatewayConfig.getDeviceTypeString (config : GatewayConfig) : String :=
  if config.deviceType = .custom ∧ config.customDeviceType ≠ "" then config.customDeviceType
  else deviceTypeToString config.deviceType

end GatewaySdk
