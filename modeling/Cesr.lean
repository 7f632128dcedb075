import Cesr.Lib.Sextets
import Cesr.Lib.Base64
import Cesr.Lib.SortedSet
import Cesr.Lib.Positions
import Cesr.Lib.Checks
import Cesr.Lib.Calls
import Cesr.Lib.Delta
import Cesr.Lib.Climb
import Cesr.Core.Primitives
import Cesr.Core.Verify
import Cesr.Core.Base64
import Cesr.Core.Base64Int
import Cesr.Core.MatterCode
import Cesr.Core.MatterBuilder
import Cesr.Core.MatterCodec
import Cesr.Core.MatterBinary
import Cesr.Core.MatterBuilt
import Cesr.Core.Indexer
import Cesr.Core.IndexerCodec
import Cesr.Core.KeyPair
import Cesr.Events.Threshold
import Cesr.Events.Primitive
import Cesr.Events.MemberSet
import Cesr.Events.Event
import Cesr.Events.Tel
import Cesr.Keri.Rejection
import Cesr.Keri.Authority
import Cesr.Keri.KeyState
import Cesr.Keri.Lifecycle
import Cesr.Keri.Run
import Cesr.Keri.Invariant
import Cesr.Keri.Snapshot
import Cesr.Keri.Acceptance
import Cesr.Keri.Disposition
import Cesr.Keri.Delegation
import Cesr.Keri.Receipt
import Cesr.Keri.Duplicity
import Cesr.Keri.Contest
import Cesr.Keri.Registry
import Cesr.Keri.RegistryRun
import Cesr.Keri.Credential
import Cesr.Keri.Custody
import Cesr.Keri.CustodyRun
import Cesr.Events.Acdc
import Cesr.Keri.CredentialVerifier
import Cesr.Keri.CredentialWalk
import Cesr.Events.Exn
import Cesr.Keri.Ipex
import Cesr.Keri.IpexRun
import Cesr.Lib.Resume
import Cesr.Lib.Loops
import Cesr.Lib.Refusal
import Cesr.Core.Counter
import Cesr.Core.Version
import Cesr.Stream.TextStream
import Cesr.Stream.GroupKind
import Cesr.Stream.GroupFrame
import Cesr.Stream.Readers
import Cesr.Stream.GroupReads
import Cesr.Stream.Cursors
import Cesr.Stream.GroupCursor
import Cesr.Stream.GroupRun
import Cesr.Stream.GroupParse
import Cesr.Stream.MessageHead
import Cesr.Stream.Enclosure
import Cesr.Stream.BodyHead
import Cesr.Stream.Framer
import Cesr.Stream.FramerTurn
import Cesr.Stream.FramerRun
import Cesr.Stream.FramerChunks
import Cesr.Stream.FramerSpan
import Cesr.Stream.EnclosureScan
import Cesr.Stream.GroupRefusal
import Cesr.Stream.Shortage
import Cesr.Stream.CodecShortage
import Cesr.Stream.Codec
import Cesr.Stream.CodecRun
import Cesr.Stream.Encode
import Cesr.Stream.SoftField
import Cesr.Stream.Translate
import Cesr.Lib.WriterJson
import Cesr.Codec.Scanner
import Cesr.Codec.Reads
import Cesr.Codec.Budget
import Cesr.Codec.CanonicalValue
import Cesr.Lib.Slots
import Cesr.Codec.Said
import Cesr.Codec.SadScan
import Cesr.Codec.SaidText
import Cesr.Lib.Fractions
import Cesr.Events.ThresholdSum
import Cesr.Events.ThresholdExact
import Cesr.Keri.Quorum
import Cesr.Lib.Digits
import Cesr.Keri.CustodyPaths
import Cesr.Lib.Calendar
import Cesr.Lib.Decimal
import Cesr.Lib.Faults
import Cesr.Lib.Descent
import Cesr.Keri.ReplyTime
import Cesr.Keri.Discovery
import Cesr.Core.MatterSoft
import Cesr.Core.MatterPromote
import Cesr.Stream.Unwrap
import Cesr.Stream.Wrapping
import Cesr.Core.NumberCodec
import Cesr.Stream.Elements
import Cesr.Stream.ElementText
import Cesr.Codec.SaidLaw
import Cesr.Lib.BitRuns
import Cesr.Core.MnemonicWords
import Cesr.Core.Mnemonic
import Cesr.Codec.Utf8
import Cesr.Codec.JsonText
import Cesr.Lib.CompactJson
import Cesr.Lib.JsonString
import Cesr.Codec.OpaqueScan
import Cesr.Codec.OpaqueString
import Cesr.Codec.OpaqueNumber
import Cesr.Codec.OpaqueTurn
import Cesr.Codec.Recognizers
import Cesr.Codec.Field
import Cesr.Codec.Threshold
import Cesr.Codec.Seal
import Cesr.Codec.Event
import Cesr.Codec.Deserialize
import Cesr.Codec.Tel
import Cesr.Codec.Acdc
import Cesr.Codec.Exn
import Cesr.Codec.Blocks
import Cesr.Codec.NestedSaid
import Cesr.Lib.JsonTally
import Cesr.Codec.Meter
import Cesr.Codec.MeterWalk
import Cesr.Codec.MeterAnchor
import Cesr.Codec.MeterFields
import Cesr.Codec.BudgetExact
import Cesr.Codec.Routed
import Cesr.Codec.RoutedScan
import Cesr.Codec.RoutedWriter
import Cesr.Codec.SealShape
import Cesr.Codec.AnchorAgree
import Cesr.Codec.AnchorReading
import Cesr.Codec.ArrayScan
import Cesr.Codec.AnchorEvents
import Cesr.Codec.AnchorPass
import Cesr.Codec.ThresholdReads
import Cesr.Codec.EventWriter
import Cesr.Codec.EventReads
import Cesr.Codec.EventText
import Cesr.Codec.EventCarried
import Cesr.Codec.EventRoundTrip
import Cesr.Codec.EventRewrite
import Cesr.Stream.GroupLimits
import Cesr.Stream.EnclosureContents
import Cesr.Stream.FramerLimits
import Cesr.Stream.GroupScan
import Cesr.Codec.Attachments
import Cesr.Codec.AttachmentWalk
import Cesr.Codec.Message
import Cesr.Codec.MessageKinds
import Cesr.Codec.MessageContents
import Cesr.Codec.MessageReads
