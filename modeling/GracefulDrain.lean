import GracefulDrain.Drain.ClockedTracker
import GracefulDrain.Main
import GracefulDrain.Proofs.HealthEndpoint
import GracefulDrain.Proofs.ProbeRace
import GracefulDrain.Proofs.QuietEnd
import GracefulDrain.Proofs.StopOutcome
import GracefulDrain.Proofs.TrackerHistory
import GracefulDrain.Service.Server
import GracefulDrain.Proofs.Readiness
import GracefulDrain.Proofs.AcceptedRoutes
import GracefulDrain.Proofs.PhaseOrder
import GracefulDrain.Proofs.LateStart
import GracefulDrain.Proofs.ServiceSteps
import GracefulDrain.Proofs.InertTraffic
import GracefulDrain.Proofs.AddedStops
import GracefulDrain.Proofs.TrackedRequests
import GracefulDrain.Proofs.DirectProbes
import GracefulDrain.Proofs.OutlivedDrain
import GracefulDrain.Proofs.ExportedMetrics
import GracefulDrain.Proofs.LayeredLoad
import GracefulDrain.Proofs.CountingLaw
import GracefulDrain.Proofs.DrainEnd
import GracefulDrain.Proofs.TimeoutCause
import GracefulDrain.Proofs.ProbeOrigin
import GracefulDrain.Proofs.DeployerMark
import GracefulDrain.Proofs.HealthRules
import GracefulDrain.Proofs.SpelledAlike
