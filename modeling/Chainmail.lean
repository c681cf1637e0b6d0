import Chainmail.RatchetAtomicity
import Chainmail.RatchetReplay
import Chainmail.RatchetDelivery
import Chainmail.TokenSolvency
import Chainmail.ReverseLookup
import Chainmail.DMailToken
import Chainmail.JsonRoundTrip
import Chainmail.SenderAuthenticity
import Chainmail.SealedOpening
import Chainmail.ProofOfWork
import Chainmail.MessageEnvelope
import Chainmail.MessageOpening
import Chainmail.Addressee
import Chainmail.WalletIdentity
import Chainmail.LoginIdentity
import Chainmail.DMailNode
import Chainmail.Inbox
import Chainmail.Coercion
import Chainmail.DhtStorage
import Chainmail.RelayNode
import Chainmail.RelayRetention
import Chainmail.RelayReplication
import Chainmail.RateLimiter
import Chainmail.SlidingWindow
import Chainmail.ReputationLimiter
import Chainmail.GlobalLimit
import Chainmail.AcceptedWork
import Chainmail.TokenHistory
import Chainmail.Unbonding
import Chainmail.StakeAccounting
import Chainmail.NodeRegistry
import Chainmail.RelayRewards
import Chainmail.Accrual
import Chainmail.Emission
import Chainmail.NameOwnership
import Chainmail.TimestampProofs
import Chainmail.AuthService
import Chainmail.LocalRegistry
import Chainmail.LoginSoundness
import Chainmail.MessageQueue
import Chainmail.QueueDelivery
import Chainmail.OnionRouting
import Chainmail.OnionRoundTrip
import Chainmail.UserActions
import Chainmail.EnvelopeCollisions
import Chainmail.RelayExpiry
import Chainmail.GuardedRelay
import Chainmail.LegacyFetch
import Chainmail.SmtpGateway
import Chainmail.WalletNonces
import Chainmail.SecureServer
import Chainmail.UsernameRegistry
import Chainmail.UsernameRaces
import Chainmail.MessageStore
import Chainmail.SharedStorage
import Chainmail.ReadMarks
import Chainmail.Mailboxes
import Chainmail.MessagesController
import Chainmail.MailDisclosure
import Chainmail.RewardArithmetic
import Chainmail.RoutingKeys
import Chainmail.InboxListing
import Chainmail.EnvelopeRoundTrips
import Chainmail.TamperedEnvelopes
import Chainmail.ApiLogin
import Chainmail.SkippedStorage
import Chainmail.HeaderAuthenticity
import Chainmail.DoubleRatchetService
import Chainmail.RatchetLockstep
import Chainmail.SendingChains
import Chainmail.SessionManager
import Chainmail.SessionRestarts
import Chainmail.ClaimCadence
import Chainmail.OperatorFrames
import Chainmail.FetchedRecords
import Chainmail.GossipSurvival
import Chainmail.StoreReplies
import Chainmail.RegistrationFaults
import Chainmail.ListedIds
import Chainmail.ReturnedIds
import Chainmail.IdentityFiles
import Chainmail.WalletOwnership
import Chainmail.ReputationMoves
import Chainmail.DailyQuota
import Chainmail.QueueFailures
import Chainmail.RetryAfter
import Chainmail.CleanupRaces
import Chainmail.OnionCircuits
import Chainmail.RouteSelection
import Chainmail.BestByKey
import Chainmail.ReplicationCounts
import Chainmail.NetworkFetch
import Chainmail.AddressCache
import Chainmail.ConnectionPool
import Chainmail.LeadingZeros
import Chainmail.LiveSockets
import Chainmail.MinimalWork
import Chainmail.RecordHops
import Chainmail.ReplicationTargets
import Chainmail.RelayScores
import Chainmail.ReconnectTimers
import Chainmail.RelayFlags
import Chainmail.SessionJson
import Chainmail.StoredSessions
import Chainmail.MovingAverage
import Chainmail.RelayRouting
import Chainmail.Attachments
import Chainmail.ExpiringMap
import Chainmail.GuardedRoutes
import Chainmail.KeptKeys
import Chainmail.RequestAuthenticity
import Chainmail.AnchoredMail
import Chainmail.IdentityBackups
import Chainmail.JsonCanonical
import Chainmail.OfflineDelivery
import Chainmail.ProofChecks
import Chainmail.RecipientLookup
import Chainmail.RegisteredNames
import Chainmail.ApiMail
