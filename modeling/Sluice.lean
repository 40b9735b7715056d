import Sluice.Main
import Sluice.Proofs.Handoff.Rotation
import Sluice.Proofs.Readiness.Agreement
import Sluice.Proofs.Run.Addressees
import Sluice.Proofs.Run.Boundary
import Sluice.Proofs.Run.Cascade
import Sluice.Proofs.Run.Copy
import Sluice.Proofs.Run.Delivery
import Sluice.Proofs.Run.Isolation
import Sluice.Proofs.Run.Progress
import Sluice.Proofs.Run.Rediscovery
import Sluice.Proofs.Run.Reordering
import Sluice.Proofs.Run.Staged
import Sluice.Proofs.Run.Stops
import Sluice.Socket.Outside
import Sluice.Socket.Script
import Sluice.Proofs.Run.Reception
import Sluice.Proofs.Store.Demand
import Sluice.Proofs.Address.Literals
import Sluice.Proofs.Address.Endpoints
import Sluice.Proofs.Start.Validated
import Sluice.Proofs.Socket.Flushing
import Sluice.Proofs.Socket.Interruptions
import Sluice.Proofs.Handoff.Harvest
import Sluice.Proofs.Cli.Usable
import Sluice.Proofs.Readiness.Storage
import Sluice.Proofs.Readiness.Tokens
