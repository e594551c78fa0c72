import P2POverlay.Octets
import P2POverlay.Transitions
import P2POverlay.Streaming
import P2POverlay.SlidingWindow
import P2POverlay.Loops
import P2POverlay.Rankings
import P2POverlay.XorGeometry
import P2POverlay.JsonValues
import P2POverlay.ReplayCache
import P2POverlay.ReplayTermination
import P2POverlay.Identifiers
import P2POverlay.Frames
import P2POverlay.FrameStreams
import P2POverlay.FrameGrammar
import P2POverlay.Cryptography
import P2POverlay.KeyExpansion
import P2POverlay.Handshakes
import P2POverlay.HandshakeCodec
import P2POverlay.NodeRecords
import P2POverlay.KeyDerivations
import P2POverlay.UnorderedMaps
import P2POverlay.RecordStores
import P2POverlay.SecureSessions
import P2POverlay.WireHeaders
import P2POverlay.RejectedFrames
import P2POverlay.SecureChannel
import P2POverlay.Exchanges
import P2POverlay.KeyAgreement
import P2POverlay.AuthenticatedSessions
import P2POverlay.SessionTransitions
import P2POverlay.SealingNonces
import P2POverlay.Connections
import P2POverlay.OutgoingWrites
import P2POverlay.PlaintextFrames
import P2POverlay.NodeHandshakes
import P2POverlay.Segmentation
import P2POverlay.Transparency
import P2POverlay.Downgrade
import P2POverlay.HonestNodes
import P2POverlay.Links
import P2POverlay.LeadingHandshakes
import P2POverlay.CrossedHandshakes
import P2POverlay.AntiRollback
import P2POverlay.OwnRecords
import P2POverlay.RecordLedgers
import P2POverlay.Replicas
import P2POverlay.XorMetric
import P2POverlay.LookupSessions
import P2POverlay.LookupCompletion
import P2POverlay.CandidateStates
import P2POverlay.OwnerIsolation
import P2POverlay.RecordLookups
import P2POverlay.DhtMessages
import P2POverlay.LookupCalls
import P2POverlay.Buckets
import P2POverlay.BucketInvariants
import P2POverlay.BucketRuns
import P2POverlay.BucketOrder
import P2POverlay.RoutingTables
import P2POverlay.ClosestContacts
import P2POverlay.BucketIndices
import P2POverlay.LookupInvariants
import P2POverlay.LookupConvergence
import P2POverlay.LookupParallelism
import P2POverlay.Networks
import P2POverlay.DhtNodes
import P2POverlay.NodeEffects
import P2POverlay.NodeRuns
import P2POverlay.ValueLookups
import P2POverlay.ValueRollback
import P2POverlay.AliasResolution
import P2POverlay.StoreRounds
import P2POverlay.Settlements
import P2POverlay.PublishQuorum
import P2POverlay.TruthfulAcks
import P2POverlay.LookupCallbacks
import P2POverlay.CallbackCounts
import P2POverlay.NetworkLaws
import P2POverlay.ContactSources
import P2POverlay.VerifiedContacts
import P2POverlay.UnsolicitedResponses
import P2POverlay.MessageRoundTrips
import P2POverlay.TableRuns
import P2POverlay.ServedRecords
import P2POverlay.RecordBytes
import P2POverlay.ConnectionLaws
import P2POverlay.EventLoops
import P2POverlay.ConnectionLifetimes
import P2POverlay.ConnectionLists
import P2POverlay.ReceiveBuffers
import P2POverlay.FrameVersions
import P2POverlay.MarkedConnections
import P2POverlay.PingCorrelation
import P2POverlay.FindSessions
import P2POverlay.LookupReports
import P2POverlay.NetworkLookups
import P2POverlay.LookupProgress
import P2POverlay.PendingCalls
import P2POverlay.PendingPublications
import P2POverlay.FindLaws
import P2POverlay.FindPreparations
import P2POverlay.NegativeAnswers
import P2POverlay.StoredValues
import P2POverlay.LookupWindows
import P2POverlay.BootstrapPeers
