import GatewaySdk.Types
import GatewaySdk.Subject
import GatewaySdk.Matching
import GatewaySdk.SubjectGrammar
import GatewaySdk.Config
import GatewaySdk.Auth
import GatewaySdk.Registry
import GatewaySdk.Reconnect
import GatewaySdk.Json
import GatewaySdk.Protocol
import GatewaySdk.Decimal
import GatewaySdk.Timestamps
import GatewaySdk.Url
import GatewaySdk.Transport
import GatewaySdk.Client.State
import GatewaySdk.Client.Engine
import GatewaySdk.Client.Guarantees
import GatewaySdk.Client.Handshake
import GatewaySdk.Client.Reentrancy
import GatewaySdk.Client.Lifecycle
import GatewaySdk.Client.Subscriptions
import GatewaySdk.Client.Bursts
import GatewaySdk.Client.Heartbeat
import GatewaySdk.Client.Exceptions
import GatewaySdk.Client.InvalidUrl
import GatewaySdk.Client.SubscriptionIds
import GatewaySdk.Client.Resubscribe
import GatewaySdk.Client.Inbound
import GatewaySdk.Demo.Process
import GatewaySdk.Demo.Conveyor
import GatewaySdk.Demo.EStopButton
import GatewaySdk.Demo.Orchestrator
import GatewaySdk.Demo.ProductionCounter
import GatewaySdk.Demo.VisionScanner
import GatewaySdk.Demo.TemperatureSensor
import GatewaySdk.Demo.PackagingLine
