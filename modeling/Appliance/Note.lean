import Appliance.Config
import Appliance.DeviceError
import Appliance.DeviceInfo
import Appliance.Discovered
import Appliance.Frame
import Appliance.Request
import Appliance.Session

/-!
# Notes

What a client notes about its work as it goes, with a severity each. A note holds what it is about;
the wording is in `Note.message` and `Note.fields`, and a line joins them. Which notes the coding of
a frame and the keeping of a session give is said here too, beside the functions that do the work.
-/

namespace Appliance

/-- How much a note matters. -/
inductive Severity where
  | warn
  | info
  | debug
  | trace
  deriving DecidableEq, Repr

namespace Severity

/-- The place of a severity in the order, the most severe first. -/
def rank : Severity → Nat
  | .warn => 0
  | .info => 1
  | .debug => 2
  | .trace => 3

/-- The word for a severity. -/
def word : Severity → String
  | .warn => "WARN"
  | .info => "INFO"
  | .debug => "DEBUG"
  | .trace => "TRACE"

/-- A note of one severity is kept where notes down to another are. -/
def isWithin (s threshold : Severity) : Bool := s.rank ≤ threshold.rank

end Severity

/-- A note of a client. -/
inductive Note where
  | checksumComputed (bodyLength : Nat) (checksum : Block)
  | bodyEncrypted (plainLength cipherLength : Nat)
  | frameEncoded (deviceId timestamp : UInt32) (length : Nat)
  | bodyRepaired
  | deviceIdChanged (old new : UInt32)
  | sessionEstablished (deviceId timestamp : UInt32)
  | replyIdDiffers (sent received : UInt32)
  | socketOpening (remote : String)
  | socketClosed (remote : String)
  | datagramSent (data : Octets)
  | datagramReceived (data : Octets)
  | readTimeout (timeout : Millis)
  | readError (reason : String)
  | emptyDatagram
  | sentTo (length : Nat) (target : String)
  | receivedFrom (length : Nat) (source : String)
  | closeFailed (remote : String) (error : TransportError)
  | handshakeReply (remote : String) (header : Header)
  | handshakeComplete (remote : String) (deviceId timestamp : UInt32)
  | handshakeFailed (attempt attempts : Nat) (remote : String) (error : DeviceError)
  | requestSent (remote : String) (request : Request)
  | replied (remote : String) (value : Json)
  | recoverableError (method : String) (report : ErrorReport) (retriesLeft : Nat)
  | noReply (method remote : String) (error : TransportError) (retriesLeft : Nat)
  | infoRequested
  | infoReceived (info : DeviceInfo)
  | propertyCount (requested received : Nat)
  | scanStarted (target : String)
  | scanDone (found : Nat)
  | scanReadError (error : TransportError)
  | scanReplyIgnored (source : String) (error : ProtocolError)
  | deviceFound (device : Discovered)
  | scanDuplicate (source : String)
  | noHandshakeReply (target : String)

namespace Note

/-- The severity of a note. -/
def severity : Note → Severity
  | .checksumComputed _ _ | .bodyEncrypted _ _ | .frameEncoded _ _ _ | .socketOpening _
  | .socketClosed _ | .datagramSent _ | .datagramReceived _ | .sentTo _ _ | .receivedFrom _ _
  | .handshakeReply _ _ | .replied _ _ | .scanDuplicate _ => .trace
  | .bodyRepaired | .sessionEstablished _ _ | .readTimeout _ | .requestSent _ _ | .infoRequested
  | .infoReceived _ | .propertyCount _ _ | .scanStarted _ | .noHandshakeReply _ => .debug
  | .handshakeComplete _ _ _ | .scanDone _ | .deviceFound _ => .info
  | .deviceIdChanged _ _ | .replyIdDiffers _ _ | .readError _ | .emptyDatagram | .closeFailed _ _
  | .handshakeFailed _ _ _ _ | .recoverableError _ _ _ | .noReply _ _ _ _ | .scanReadError _
  | .scanReplyIgnored _ _ => .warn

/-- A time with the greatest unit of which it has one, and the fraction that is left. -/
def duration (t : Millis) : String :=
  if t = 0 then "0ns"
  else if t < 1000 then toString t ++ "ms"
  else
    let fraction := ((toString (1000 + t % 1000)).toList.drop 1).reverse.dropWhile (· == '0')
    let seconds := toString (t / 1000)
    if fraction.isEmpty then seconds ++ "s"
    else seconds ++ "." ++ String.ofList fraction.reverse ++ "s"

/-- The first octets of a datagram, in uppercase hexadecimal. -/
def preview (data : Octets) : String :=
  "[" ++ ", ".intercalate ((data.take 32).map fun x => String.ofList (Hex.upperOfOctet x)) ++ "]"

/-- The words of a note. -/
def message : Note → String
  | .checksumComputed _ _ => "Calculated checksum"
  | .bodyEncrypted _ _ => "Encrypted body"
  | .frameEncoded _ _ _ => "Encoded frame"
  | .bodyRepaired => "Parsed body after applying firmware quirk fixes"
  | .deviceIdChanged _ _ => "Device id changed between handshakes"
  | .sessionEstablished _ _ => "Session established"
  | .replyIdDiffers _ _ => "Reply id differs from request id"
  | .socketOpening remote => "Opening UDP socket towards " ++ remote
  | .socketClosed remote => "Closed UDP socket towards " ++ remote
  | .datagramSent data => "Sending " ++ toString data.length ++ " bytes via UDP: " ++ preview data
  | .datagramReceived data =>
    "Received " ++ toString data.length ++ " bytes via UDP: " ++ preview data
  | .readTimeout timeout => "Read timeout after " ++ duration timeout
  | .readError reason => "Read error: " ++ reason
  | .emptyDatagram => "Received 0 bytes"
  | .sentTo length target => "Sending " ++ toString length ++ " bytes to " ++ target
  | .receivedFrom length source => "Received " ++ toString length ++ " bytes from " ++ source
  | .closeFailed remote error => "Failed to close socket to " ++ remote ++ ": " ++ error.message
  | .handshakeReply remote header => "Handshake reply from " ++ remote ++ ": " ++ header.text
  | .handshakeComplete remote deviceId timestamp =>
    "Handshake with " ++ remote ++ " complete (device_id=" ++ Hex.ofUInt32 deviceId ++ ", ts=" ++
      toString timestamp ++ ")"
  | .handshakeFailed attempt attempts remote error =>
    "Handshake attempt " ++ toString attempt ++ "/" ++ toString attempts ++ " with " ++ remote ++
      " failed: " ++ error.message
  | .requestSent remote request => remote ++ " -> " ++ request.text
  | .replied remote value => remote ++ " <- " ++ value.text
  | .recoverableError method report retriesLeft =>
    "Recoverable error for " ++ method ++ ": " ++ report.text ++ ", retrying (" ++
      toString retriesLeft ++ " left)"
  | .noReply method remote error retriesLeft =>
    "No reply for " ++ method ++ " from " ++ remote ++ ": " ++ error.message ++ ", retrying (" ++
      toString retriesLeft ++ " left)"
  | .infoRequested => "Getting device info..."
  | .infoReceived info => "Device info: " ++ info.text
  | .propertyCount requested received =>
    "Count (" ++ toString requested ++ ") of requested properties does not match the count (" ++
      toString received ++ ") of received values"
  | .scanStarted target => "Sending discovery handshake to " ++ target
  | .scanDone found => "Discovery done (" ++ toString found ++ " new devices)"
  | .scanReadError error => "Error while reading discovery results: " ++ error.message
  | .scanReplyIgnored source error =>
    "Ignoring invalid discovery reply from " ++ source ++ ": " ++ error.message
  | .deviceFound device => device.text
  | .scanDuplicate source => "Duplicate discovery reply from " ++ source
  | .noHandshakeReply target => "No handshake reply from " ++ target

/-- The named values of a note. -/
def fields : Note → List (String × String)
  | .checksumComputed bodyLength checksum =>
    [("body_len", toString bodyLength), ("checksum", Hex.encode checksum.toOctets)]
  | .bodyEncrypted plainLength cipherLength =>
    [("plaintext_len", toString plainLength), ("ciphertext_len", toString cipherLength)]
  | .frameEncoded deviceId timestamp length =>
    [("device_id", toString deviceId), ("timestamp", toString timestamp), ("len", toString length)]
  | .deviceIdChanged old new => [("old", Hex.ofUInt32 old), ("new", Hex.ofUInt32 new)]
  | .sessionEstablished deviceId timestamp =>
    [("device_id", Hex.ofUInt32 deviceId), ("timestamp", toString timestamp)]
  | .replyIdDiffers sent received => [("sent", toString sent), ("received", toString received)]
  | _ => []

/-- A note on one line: its severity, its words and its named values. -/
def line (n : Note) : String :=
  " ".intercalate
    (n.severity.word :: n.message :: n.fields.map fun (name, value) => name ++ "=" ++ value)

end Note

/-- What is noted when a plain text is enciphered. -/
def Token.encryptNotes (plain cipher : Octets) : List Note :=
  [.bodyEncrypted plain.length cipher.length]

/-- What is noted when a frame is made. -/
def Frame.encodeNotes {α : Type} [Payload α] (payload : α) (deviceId timestamp : UInt32)
    (token : Token) : List Note :=
  match Payload.json payload with
  | .error _ => []
  | .ok json =>
    let plain := json.octets
    let cipher := token.encrypt plain
    let length := Header.size + cipher.length
    let header := Frame.headerOf 0 deviceId timestamp token cipher
    Token.encryptNotes plain cipher ++
      if length > Frame.maxSize then []
      else
        [.checksumComputed cipher.length header.checksum, .frameEncoded deviceId timestamp length]

/-- What is noted when a frame is read: its checksum is computed once to compare it, and once more
to report it where it differs. -/
def Frame.decodeNotes (octets : Octets) (token : Token) : List Note :=
  match Header.parse octets with
  | .error _ => []
  | .ok header =>
    if header.isHandshake then []
    else
      let cipher := octets.drop Header.size
      let expected := checksum header.fields token cipher
      let note := Note.checksumComputed cipher.length expected
      if expected ≠ header.checksum then [note, note]
      else
        match (token.decrypt? cipher).map Body.read with
        | some (.ok (_, true)) => [note, .bodyRepaired]
        | _ => [note]

/-- What is noted when a handshake is taken as the new baseline. -/
def Session.establishNotes (s : Session) (deviceId timestamp : UInt32) : List Note :=
  (match s.deviceId? with
    | some old => if old = deviceId then [] else [.deviceIdChanged old deviceId]
    | none => []) ++
  [.sessionEstablished deviceId timestamp]

/-- What is noted when a reply is taken into account. -/
def Session.observeReplyNotes (s : Session) (id : Option UInt32) : List Note :=
  match id with
  | some id => if id = s.currentId then [] else [.replyIdDiffers s.currentId id]
  | none => []

end Appliance
