import JeanGrey.Library.BigEndian
import JeanGrey.Library.SelfDelimiting
import JeanGrey.Library.Outcome
import JeanGrey.Library.Reassembly
import JeanGrey.Library.Runs
import JeanGrey.Library.Newest
import JeanGrey.Library.Deadlines
import JeanGrey.Library.Tickets
import JeanGrey.Library.Windows
import JeanGrey.Library.Occurrences
import JeanGrey.Library.Files
import JeanGrey.Library.InOrder
import JeanGrey.Bytes
import JeanGrey.Framing
import JeanGrey.Handler
import JeanGrey.HandlerReassembly
import JeanGrey.HandlerLink
import JeanGrey.HandlerWindow
import JeanGrey.HandlerSubstreams
import JeanGrey.Crates
import JeanGrey.Crypto
import JeanGrey.SymbolicCrates
import JeanGrey.Handshake
import JeanGrey.HandshakeTranscript
import JeanGrey.HandshakeDuplex
import JeanGrey.HandshakeInvariant
import JeanGrey.HandshakeSequences
import JeanGrey.Records
import JeanGrey.Signing
import JeanGrey.HandshakeAgreement
import JeanGrey.RecordsAuthenticity
import JeanGrey.RecordsFreshness
import JeanGrey.RecordsAcceptance
import JeanGrey.Storage
import JeanGrey.StorageRuns
import JeanGrey.Session
import JeanGrey.SessionPlaintext
import JeanGrey.FrameCodec
import JeanGrey.SessionGrammar
import JeanGrey.SessionChannel
import JeanGrey.SessionRejection
import JeanGrey.SessionDuplicates
import JeanGrey.SessionIntegrity
import JeanGrey.SessionCompleteness
import JeanGrey.Behaviour
import JeanGrey.BehaviourReactions
import JeanGrey.BehaviourMoves
import JeanGrey.BehaviourHandshakes
import JeanGrey.BehaviourRuns
import JeanGrey.BehaviourExhaustion
import JeanGrey.BehaviourStreams
import JeanGrey.BehaviourLives
import JeanGrey.BehaviourNonces
import JeanGrey.BehaviourReplies
import JeanGrey.BehaviourNetwork
import JeanGrey.BehaviourAttribution
import JeanGrey.BehaviourDelivery
import JeanGrey.BehaviourMessages
import JeanGrey.BehaviourReceipts
import JeanGrey.BehaviourRouting
import JeanGrey.BehaviourRedundancy
import JeanGrey.BehaviourAgreement
import JeanGrey.BehaviourConvergence
import JeanGrey.BehaviourConversation
import JeanGrey.BehaviourDelivered
import JeanGrey.Node
import JeanGrey.Cli
import JeanGrey.NodeFrames
import JeanGrey.NodeRuns
import JeanGrey.NodeMoves
import JeanGrey.NodeHistory
import JeanGrey.NodeFace
import JeanGrey.NodePublish
import JeanGrey.NodeIsolation
import JeanGrey.NodeRefusals
import JeanGrey.NodeExchanges
import JeanGrey.NodeCandidates
import JeanGrey.NodeRecovery
import JeanGrey.NodeProbes
import JeanGrey.NodeAnswers
import JeanGrey.NodeAcks
import JeanGrey.NodeRecords
import JeanGrey.NodeCache
import JeanGrey.NodeInteractive
import JeanGrey.NodeAdvertising
import JeanGrey.NodeInterfaces
import JeanGrey.NodeAgenda
import JeanGrey.NodePaths
import JeanGrey.NodeLookups
import JeanGrey.NodeRetries
