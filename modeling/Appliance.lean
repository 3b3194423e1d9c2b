import Appliance.Address
import Appliance.Cipher.Aes
import Appliance.Cipher.Cbc
import Appliance.Cipher.Padding
import Appliance.Config
import Appliance.Conversion
import Appliance.Decimal.Shortest
import Appliance.Device
import Appliance.DeviceError
import Appliance.DeviceInfo
import Appliance.Digest.Md5
import Appliance.Discovered
import Appliance.Frame
import Appliance.Frame.Body
import Appliance.Frame.Header
import Appliance.Hex
import Appliance.Json.Basic
import Appliance.Json.Decode
import Appliance.Json.Fault
import Appliance.Json.Printer
import Appliance.Json.Reader
import Appliance.Note
import Appliance.Octets
import Appliance.Proofs.Baseline
import Appliance.Proofs.BlockCipher
import Appliance.Proofs.BodyCipher
import Appliance.Proofs.BodyRepair
import Appliance.Proofs.CipherTexts
import Appliance.Proofs.ClosingOutcomes
import Appliance.Proofs.Course
import Appliance.Proofs.DecodedScalars
import Appliance.Proofs.Deeds
import Appliance.Proofs.DeviceInfoMembers
import Appliance.Proofs.DiscoveryHistories
import Appliance.Proofs.DiscoverySets
import Appliance.Proofs.ErrorClasses
import Appliance.Proofs.FrameAcceptance
import Appliance.Proofs.FrameLayout
import Appliance.Proofs.FrameRoundTrip
import Appliance.Proofs.FrameTampering
import Appliance.Proofs.HandshakePlacement
import Appliance.Proofs.HandshakeRenewal
import Appliance.Proofs.HandshakeTries
import Appliance.Proofs.HeaderOctets
import Appliance.Proofs.JsonObstacles
import Appliance.Proofs.JsonScalars
import Appliance.Proofs.JsonText
import Appliance.Proofs.Lockstep
import Appliance.Proofs.Members
import Appliance.Proofs.PropertyBatches
import Appliance.Proofs.RecordReading
import Appliance.Proofs.ReplyJudgement
import Appliance.Proofs.ReplySize
import Appliance.Proofs.RequestContent
import Appliance.Proofs.RequestEnvelope
import Appliance.Proofs.RequestIds
import Appliance.Proofs.RequestReading
import Appliance.Proofs.ResponseShapes
import Appliance.Proofs.RetryBudget
import Appliance.Proofs.RetryIds
import Appliance.Proofs.Runs
import Appliance.Proofs.ScanReport
import Appliance.Proofs.SequenceCycle
import Appliance.Proofs.SocketLife
import Appliance.Proofs.SocketScopes
import Appliance.Proofs.TokenText
import Appliance.Proofs.UdpExchanges
import Appliance.Proofs.UnreadableDatagrams
import Appliance.Proofs.Utf8
import Appliance.ProtocolError
import Appliance.Request
import Appliance.Response
import Appliance.Scanner
import Appliance.Sequence
import Appliance.Session
import Appliance.Text.Blank
import Appliance.Text.Graphic
import Appliance.Text.Quoted
import Appliance.Text.Utf8
import Appliance.Token
import Appliance.Transport
import Appliance.TransportError
import Appliance.Udp.Arrival
import Appliance.Udp.Connected
import Appliance.Udp.Host
