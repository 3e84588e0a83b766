import AutostreamUpdater.Contract.PlanIntent
import AutostreamUpdater.Contract.PortJSON
import AutostreamUpdater.Port.Ownership
import AutostreamUpdater.Port.PolicyCodec
import AutostreamUpdater.Port.Revisions
import AutostreamUpdater.Port.Lane
import AutostreamUpdater.Port.EnvFile
import AutostreamUpdater.Compose.Mapping
import AutostreamUpdater.Agent.Clear
import AutostreamUpdater.Credential.Files
import AutostreamUpdater.Software.Orphans
import AutostreamUpdater.Software.Pins
import AutostreamUpdater.Software.Cutover
import AutostreamUpdater.Release.Trusted
import AutostreamUpdater.Release.Semver
import AutostreamUpdater.Recovery.Crash
import AutostreamUpdater.Recovery.Log
import AutostreamUpdater.Agent.Adoption
import AutostreamUpdater.Agent.Projection
