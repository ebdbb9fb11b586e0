import PingoraGateway.Api.Store
import PingoraGateway.Api.Types
import PingoraGateway.Binding.Hostname
import PingoraGateway.Binding.Labels
import PingoraGateway.Binding.Policy
import PingoraGateway.Binding.Evaluator
import PingoraGateway.Builder.Duration
import PingoraGateway.Builder.Build
import PingoraGateway.Builder.Weight
import PingoraGateway.Dns.ResolvConf
import PingoraGateway.Config.Resolver
import PingoraGateway.Controller.Syncer
import PingoraGateway.Controller.Mappers
import PingoraGateway.Controller.RouteReconciler
import PingoraGateway.Controller.GatewayReconciler
import PingoraGateway.ReferenceGrant.Validator
import PingoraGateway.Controller.ReferenceGrantMapper
import PingoraGateway.System.State
import PingoraGateway.System.Step
import PingoraGateway.System.Startup
import PingoraGateway.Correctness.Binding
import PingoraGateway.Correctness.StatusWriter
import PingoraGateway.Correctness.SyncerSpec
import PingoraGateway.Correctness.Connection
import PingoraGateway.Correctness.Versions
import PingoraGateway.Correctness.Relevance
import PingoraGateway.Correctness.SystemSpec
import PingoraGateway.Correctness.ProxyTable
import PingoraGateway.Correctness.Hostnames
import PingoraGateway.Correctness.GatewayStatus
import PingoraGateway.Correctness.Selection
import PingoraGateway.Correctness.Builder
import PingoraGateway.Correctness.Secrets
import PingoraGateway.Correctness.ReferenceGrants
import PingoraGateway.Correctness.StatusTimes
import PingoraGateway.Correctness.Durations
import PingoraGateway.Correctness.Weights
import PingoraGateway.Correctness.Ownership
import PingoraGateway.Correctness.Settling
import PingoraGateway.Correctness.GrantRequests
import PingoraGateway.Correctness.ConfigChanges
import PingoraGateway.Correctness.ClusterDomain
import PingoraGateway.Correctness.RelevanceChanges
import PingoraGateway.Correctness.Blocking
import PingoraGateway.Correctness.Draining
