import ServiceGateway.Application
import ServiceGateway.EntityAddress
import ServiceGateway.JsonReader
import ServiceGateway.Proofs.AddressIdentity
import ServiceGateway.Proofs.Applications
import ServiceGateway.Proofs.CanonicalName
import ServiceGateway.Proofs.DispatchOutcomes
import ServiceGateway.Proofs.FixedLevel
import ServiceGateway.Proofs.HiddenServices
import ServiceGateway.Proofs.KeyKinds
import ServiceGateway.Proofs.LogLevels
import ServiceGateway.Proofs.MountPoints
import ServiceGateway.Proofs.NamespaceFolding
import ServiceGateway.Proofs.OpaqueFailures
import ServiceGateway.Proofs.PlainResults
import ServiceGateway.Proofs.ResolvedSettings
import ServiceGateway.Proofs.TypeNames
import ServiceGateway.RaisedError
import ServiceGateway.ValueConstruction
