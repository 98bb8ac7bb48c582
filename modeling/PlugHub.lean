import PlugHub.Relay.CreditLedger
import PlugHub.Accounts.AgentAccess
import PlugHub.Accounts.ConsumerSocketGuard
import PlugHub.Accounts.SecurityFields
import PlugHub.Accounts.Sessions
import PlugHub.Bridge.StreamAccounts
import PlugHub.Bridge.RestAccounts
import PlugHub.Relay.DispatchOrder
import PlugHub.Bridge.StreamBuffers
import PlugHub.Relay.OutboundAccounts
import PlugHub.Relay.OutboundOverload
import PlugHub.Inbound.CommitOrder
import PlugHub.Registries.AgentSessions
import PlugHub.Registries.IdempotencyAges
import PlugHub.Inbound.IngressBudget
import PlugHub.Bridge.CommandIsolation
import PlugHub.Frames.SignatureInputs
import PlugHub.Frames.Forwarding
import PlugHub.Bridge.RestMaterialize
import PlugHub.Bridge.AckRetry
import PlugHub.RateLimits.LocalFirst
import PlugHub.Registries.Conversations
import PlugHub.Relay.BatchRequests
import PlugHub.Relay.CircuitBreaker
import PlugHub.Relay.Percentile
import PlugHub.Cluster.BridgeForward
import PlugHub.Cluster.ReplyChannel
import PlugHub.Scheduling.ProfileSyncSlots
import PlugHub.Scheduling.ProfileSyncScheduler
import PlugHub.Scheduling.PreparationPromises
import PlugHub.Cluster.ForwardErrors
import PlugHub.Cluster.Presence
import PlugHub.Cluster.RedisConnection
import PlugHub.Deliveries.PublishSerialization
import PlugHub.Deliveries.PwaPush
import PlugHub.Deliveries.RegistrationOutbox
import PlugHub.Deliveries.SocketAudit
import PlugHub.Deliveries.BacklogCursor
import PlugHub.Deliveries.Subscriptions
import PlugHub.Profiles.CatalogPages
import PlugHub.Profiles.InMemory
import PlugHub.Profiles.RefreshPromises
import PlugHub.Registries.AgentRegisterHandshake
import PlugHub.Registries.TtlStores
import PlugHub.Accounts.ClientRetryRollback
import PlugHub.Accounts.OpaqueTokens
import PlugHub.Bridge.CorrelationIds
import PlugHub.Scheduling.HealthPiggyback
import PlugHub.Scheduling.ProfilePushes
import PlugHub.Scheduling.ReconcileTicks
import PlugHub.RateLimits.LuaScripts
import PlugHub.Registries.CapabilitiesKey
import PlugHub.Inbound.AgentContract
import PlugHub.Bridge.RelayReservations
import PlugHub.Deliveries.PublishIdempotency
import PlugHub.RateLimits.RegisterAttempts
import PlugHub.Scheduling.AdvisoryLock
