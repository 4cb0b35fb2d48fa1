import RemoteInfra.Library.Decimal
import RemoteInfra.Library.BinaryFloat
import RemoteInfra.Library.Pool
import RemoteInfra.Library.Traces
import RemoteInfra.Library.Serial
import RemoteInfra.Library.Records
import RemoteInfra.Library.Refinement
import RemoteInfra.Library.Arena
import RemoteInfra.Library.Base64Encoding
import RemoteInfra.Library.BinaryProduct
import RemoteInfra.Library.OrderStatistics
import RemoteInfra.Library.Leases
import RemoteInfra.Library.ExpiringStore
import RemoteInfra.Python.Texts
import RemoteInfra.Python.Json
import RemoteInfra.Vehicle.SignedMessage
import RemoteInfra.Vehicle.CommandRange
import RemoteInfra.Vehicle.MalformedPackets
import RemoteInfra.Vehicle.PublishedSchema
import RemoteInfra.Vehicle.VerifierRuns
import RemoteInfra.Vehicle.FailClosed
import RemoteInfra.Vehicle.ForgedPackets
import RemoteInfra.Vehicle.FalseBrake
import RemoteInfra.Vehicle.Watchdog
import RemoteInfra.Vehicle.Uploads
import RemoteInfra.Vehicle.PacketLoss
import RemoteInfra.Vehicle.Telemetry
import RemoteInfra.Vehicle.CommandVerifierRuns
import RemoteInfra.Vehicle.MixedFields
import RemoteInfra.Console.VideoGrid
import RemoteInfra.Console.TeleopPage
import RemoteInfra.Console.PageMoves
import RemoteInfra.Console.PageRuns
import RemoteInfra.Console.SignIn
import RemoteInfra.Console.SignInRuns
import RemoteInfra.EndToEnd.SignedBytes
import RemoteInfra.Vehicle.Agent
import RemoteInfra.Vehicle.AuditDelivery
import RemoteInfra.Vehicle.TokenRefresh
import RemoteInfra.Vehicle.VideoPublisher
import RemoteInfra.EndToEnd.Expiry
import RemoteInfra.EndToEnd.Provenance
import RemoteInfra.EndToEnd.Release
import RemoteInfra.EndToEnd.PublicKeys
import RemoteInfra.Gateway.LeaseIntegrity
import RemoteInfra.Gateway.LeaseAgreement
import RemoteInfra.Gateway.Handlers
import RemoteInfra.Gateway.HandlerFailures
import RemoteInfra.Gateway.SavedExpiry
import RemoteInfra.Gateway.AtomicUpdates
import RemoteInfra.Gateway.LeaseLocks
import RemoteInfra.Gateway.ViewerAccounting
import RemoteInfra.Gateway.Faults
import RemoteInfra.Gateway.LeaseHistory
import RemoteInfra.Gateway.HandlerLeases
import RemoteInfra.Gateway.LeaseExpiry
import RemoteInfra.Gateway.VehicleGuards
import RemoteInfra.Gateway.VehicleEndpoints
import RemoteInfra.Gateway.OperatorConnect
import RemoteInfra.Gateway.OIDC
import RemoteInfra.EndToEnd.Channel
import RemoteInfra.EndToEnd.LettingGo
