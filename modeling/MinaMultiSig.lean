import MinaMultiSig.Library.FiniteMap
import MinaMultiSig.Library.Transition
import MinaMultiSig.Library.FixedWidth
import MinaMultiSig.Library.BitPacking
import MinaMultiSig.Library.DepthForest
import MinaMultiSig.Library.Outcome
import MinaMultiSig.Library.ShamirSharing
import MinaMultiSig.Library.DecimalText
import MinaMultiSig.Library.Json
import MinaMultiSig.Library.JsonSyntax
import MinaMultiSig.Library.Serde
import MinaMultiSig.Library.SerdeRecord
import MinaMultiSig.Library.SerdeReading
import MinaMultiSig.Dkg.Session
import MinaMultiSig.Dkg.SessionInvariant
import MinaMultiSig.Dkg.Network
import MinaMultiSig.Dkg.NodeInvariant
import MinaMultiSig.Dkg.WorldInvariant
import MinaMultiSig.Dkg.Numbered
import MinaMultiSig.Dkg.Agreement
import MinaMultiSig.Dkg.EchoBroadcast
import MinaMultiSig.Dkg.Timeliness
import MinaMultiSig.Dkg.Progress
import MinaMultiSig.Tx.Field
import MinaMultiSig.Tx.ROInput
import MinaMultiSig.Tx.Signer
import MinaMultiSig.Tx.Utf8
import MinaMultiSig.Tx.Legacy
import MinaMultiSig.Tx.NetworkId
import MinaMultiSig.Tx.NetworkSeparation
import MinaMultiSig.Tx.PallasMessage
import MinaMultiSig.Tx.ROInputFormat
import MinaMultiSig.Tx.MessageFormat
import MinaMultiSig.Tx.ZkApp.Types
import MinaMultiSig.Tx.ZkApp.Packing
import MinaMultiSig.Tx.ZkApp.PackingLayout
import MinaMultiSig.Tx.ZkApp.PackingBinding
import MinaMultiSig.Tx.ZkApp.Commitment
import MinaMultiSig.Tx.ZkApp.CallForest
import MinaMultiSig.Tx.ZkApp.CommitmentBinding
import MinaMultiSig.Tx.ZkApp.SignatureInjection
import MinaMultiSig.Tx.ZkApp.Serde
import MinaMultiSig.Tx.ZkApp.CommandReading
import MinaMultiSig.Tx.ZkApp.WellFormed
import MinaMultiSig.Tx.LegacySerde
import MinaMultiSig.Tx.TextForms
import MinaMultiSig.Tx.Envelope
import MinaMultiSig.Tx.EnvelopeSerde
import MinaMultiSig.Tx.EnvelopeReading
import MinaMultiSig.Tx.FromText
import MinaMultiSig.Tx.ChainedSigning
import MinaMultiSig.Frost.Core
import MinaMultiSig.Frost.Reference
import MinaMultiSig.Frost.BluePallas
import MinaMultiSig.Frost.ThresholdSignature
import MinaMultiSig.Frost.ParityHooks
import MinaMultiSig.Frost.SavedPayload
import MinaMultiSig.Frost.ChallengeBinding
import MinaMultiSig.Participant.Sign
import MinaMultiSig.Coordinator.Session
import MinaMultiSig.Coordinator.SessionInvariant
import MinaMultiSig.Dkg.SessionRun
import MinaMultiSig.RejectedMessages
import MinaMultiSig.Coordinator.HttpComms
import MinaMultiSig.Coordinator.Gathered
import MinaMultiSig.Coordinator.ReceiveLoop
import MinaMultiSig.Frost.MessageBounds
import MinaMultiSig.Tx.LegacyMemo
import MinaMultiSig.Tx.Graphql
import MinaMultiSig.Tx.ZkApp.Acceptance
import MinaMultiSig.Tx.ZkApp.GreedyPacking
import MinaMultiSig.Tx.ZkApp.UriBinding
import MinaMultiSig.Frost.HashInput
import MinaMultiSig.Tx.Loading
import MinaMultiSig.Frost.Dealer
import MinaMultiSig.Frost.DealerSigning
import MinaMultiSig.Library.Recoding
import MinaMultiSig.Library.Sha256
import MinaMultiSig.Tx.Base58Check
import MinaMultiSig.Tx.NetworkNames
import MinaMultiSig.Tx.ZkApp.TokenText
import MinaMultiSig.Dkg.Conclusion
import MinaMultiSig.Dkg.Keygen
import MinaMultiSig.Dkg.KeygenDealt
import MinaMultiSig.Dkg.KeygenHonest
import MinaMultiSig.Dkg.KeygenSecrecy
import MinaMultiSig.Dkg.KeygenSigning
import MinaMultiSig.Channel.Cipher
import MinaMultiSig.Channel.CipherSpec
import MinaMultiSig.Channel.Network
import MinaMultiSig.Channel.NetworkInvariant
import MinaMultiSig.Channel.OrderedDelivery
import MinaMultiSig.Dkg.SealedKeygen
import MinaMultiSig.Signing.Authenticity
import MinaMultiSig.Signing.MinaSessions
import MinaMultiSig.Signing.HonestSession
import MinaMultiSig.Cli.Contact
import MinaMultiSig.Library.SortedMap
import MinaMultiSig.Cli.AddressBook
import MinaMultiSig.Cli.Dealing
import MinaMultiSig.Cli.Signers
