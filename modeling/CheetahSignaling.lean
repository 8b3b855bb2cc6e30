import CheetahSignaling.DeviceMigration
import CheetahSignaling.OwnerFencing
import CheetahSignaling.MediaCallbackStopped
import CheetahSignaling.MediaStop
import CheetahSignaling.MediaStartOrder
import CheetahSignaling.MediaMigrationReservation
import CheetahSignaling.CommandDispatchRecovery
import CheetahSignaling.TakeoverFencing
import CheetahSignaling.IdempotencyScoping
import CheetahSignaling.MediaNodeFencing
import CheetahSignaling.CascadeResponses
import CheetahSignaling.CascadeTeardown
import CheetahSignaling.AccessAcceptance
import CheetahSignaling.AccessRouting
import CheetahSignaling.SessionFencing
import CheetahSignaling.ClientOutcome
import CheetahSignaling.ClientResends
import CheetahSignaling.ServerAcknowledgement
import CheetahSignaling.DigestAgreement
import CheetahSignaling.DigestReplay
import CheetahSignaling.MediaAcknowledgement
import CheetahSignaling.SipRoundTrip
import CheetahSignaling.AggregateSequence
import CheetahSignaling.AssignmentChoice
import CheetahSignaling.AssignmentRateExact
import CheetahSignaling.DialogCounter
import CheetahSignaling.DialogIdentity
import CheetahSignaling.MediaEventCursor
import CheetahSignaling.NodeReservationsExact
import CheetahSignaling.OutboxDelivery
import CheetahSignaling.ShardOrder
import CheetahSignaling.TimerExact
import CheetahSignaling.InboxFailures
import CheetahSignaling.MediaSessionCalls
import CheetahSignaling.OperationCalls
import CheetahSignaling.DeviceChanges
import CheetahSignaling.PhaseMigration
import CheetahSignaling.NetworkZone
import CheetahSignaling.XAddrPolicy
