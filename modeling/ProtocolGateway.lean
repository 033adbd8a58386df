import ProtocolGateway.Message.Charset
import ProtocolGateway.Proofs.Delivery.InOrder
import ProtocolGateway.Proofs.Gateway.Agreeing
import ProtocolGateway.Proofs.Gateway.Ledger
import ProtocolGateway.Proofs.Gateway.Notifying
import ProtocolGateway.Proofs.Gateway.Outcomes
import ProtocolGateway.Proofs.Gateway.Pieces
import ProtocolGateway.Proofs.RequestForms
import ProtocolGateway.Proofs.ResourceKey
import ProtocolGateway.Proofs.Routing.Access
import ProtocolGateway.Proofs.Routing.Invalidation
import ProtocolGateway.Proofs.Routing.Lifetime
import ProtocolGateway.Proofs.Routing.LiveEntries
import ProtocolGateway.Server.Endpoint
import ProtocolGateway.Server.Metrics
import ProtocolGateway.Proofs.Plugin.DeclaredSettings
import ProtocolGateway.Proofs.Message.Charsets
import ProtocolGateway.Proofs.CanonicalText
import ProtocolGateway.Proofs.Message.Sealing
import ProtocolGateway.Proofs.Routing.Refusing
import ProtocolGateway.Proofs.Server.Resources
import ProtocolGateway.Proofs.Message.ContentTypes
import ProtocolGateway.Proofs.Routing.Expiry
