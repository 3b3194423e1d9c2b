import Appliance.Transport

/-!
# Calls to a device

A client keeps a session with one device over a transport. A call makes a handshake where it needs
one, sends its request, judges the reply, and makes the request again while its budget lasts: after a
failure of the transport with a new handshake and an id further on, after a passing refusal of the
device as it is. Any other end of an attempt ends the call.

Every function gives its result and the device after it. The journal on the device's line holds all
that was done, so that what a call does on the wire can be read off it.
-/

namespace Appliance

/-- A client of one device: the transport to it, the line, the session and the settings. -/
structure Device (σ : Type) where
  transport : Transport σ
  line : Line σ
  session : Session
  config : DeviceConfig

/-- What a call may be told besides its method and parameters. -/
structure SendOptions where
  /-- How often the request is made again, if not as often as the settings say. -/
  retryCount : Option Nat
  /-- Further members of the request. -/
  extra : List (String × Json)

/-- Nothing told. -/
def SendOptions.default : SendOptions := ⟨none, []⟩

/-- How far the id of a request is moved on after a failure of the transport. -/
def retryIdStride : UInt32 := 100

/-- The method that asks a device about itself. -/
def infoMethod : String := "miIO.info"

/-- The method that asks for properties, unless another one is given. -/
def propertyMethod : String := "get_prop"

/-- The end of an attempt whose reply is a response. -/
def Verdict.ofReply : Reply → Verdict
  | .result value => .success value
  | .error report =>
    if isRecoverableCode report.code then .recoverable report
    else .fatal (.device report.code report.message)

/-- The end of an attempt by the reply that came for a method from an address, and the session after
it. Only a reply that is authentic, has a body and is a response moves the session. -/
def Session.judge (s : Session) (address method : String) (reply : Octets) : Verdict × Session :=
  match Frame.decode reply s.token with
  | .error e =>
    (.fatal (if e.isIntegrityFailure then .invalidToken address else .protocol e), s)
  | .ok frame =>
    match frame.body with
    | none => (.fatal (.invalidResponse (.handshake method)), s)
    | some body =>
      match Response.ofJson body with
      | .error e => (.fatal (.protocol e), s)
      | .ok response =>
        (.ofReply response.reply, s.observeReply frame.header.timestamp response.id)

/-- What is noted when a reply is judged. -/
def Session.judgeNotes (s : Session) (reply : Octets) : List Note :=
  Frame.decodeNotes reply s.token ++
    match (Frame.decode reply s.token).toOption.bind (·.body) with
    | none => []
    | some body =>
      match Response.ofJson body with
      | .error _ => []
      | .ok response => s.observeReplyNotes response.id

namespace Device

variable {σ : Type}

/-- A client before any handshake. -/
def new (transport : Transport σ) (state : σ) (token : Token) (config : DeviceConfig) : Device σ :=
  ⟨transport, ⟨state, []⟩, .new token, config⟩

/-- The address of the device, as messages name it. -/
def remote (d : Device σ) : String := d.transport.remote d.line.state

/-- The device with one more entry in its journal. -/
def record (d : Device σ) (e : Entry) : Device σ := { d with line := d.line.record e }

/-- The device with one more note in its journal. -/
def note (d : Device σ) (n : Note) : Device σ := d.record (.note n)

/-- The device with some notes more in its journal. -/
def noteAll (d : Device σ) (notes : List Note) : Device σ := { d with line := d.line.noteAll notes }

/-! ## Handshakes -/

/-- The device after a handshake has been answered. -/
def establish (d : Device σ) (header : Header) : Device σ :=
  let d := d.noteAll (d.session.establishNotes header.deviceId header.timestamp)
  let d := { d with session := d.session.establish header.deviceId header.timestamp }
  d.note (.handshakeComplete d.remote header.deviceId header.timestamp)

/-- Tries handshakes, of a total of which a number are left, until one is answered. -/
def handshakeLoop (total : Nat) : Nat → Device σ → Except DeviceError Header × Device σ
  | 0, d => (.error (.unreachable d.remote total), { d with session := d.session.invalidate })
  | left + 1, d =>
    let (result, line) := d.transport.handshake d.config.timeout d.line
    let d := { d with line }
    match result with
    | .ok header => (.ok header, d.establish header)
    | .error e => handshakeLoop total left (d.note (.handshakeFailed (total - left) total d.remote e))

/-- Makes a session with the device. -/
def sendHandshake (d : Device σ) : Except DeviceError Header × Device σ :=
  let total := max 1 d.config.handshakeAttempts
  handshakeLoop total total d

/-! ## Requests -/

/-- Makes a request once. -/
def attempt (d : Device σ) (request : Request) : Verdict × Device σ :=
  match d.session.deviceId with
  | .error e => (.fatal (.protocol e), d)
  | .ok deviceId =>
    let timestamp := d.session.nextTimestamp
    let notes := Frame.encodeNotes request deviceId timestamp d.session.token
    match Frame.encode request deviceId timestamp d.session.token with
    | .error e => (.fatal (.protocol e), d.noteAll notes)
    | .ok frame =>
      let d := (d.noteAll notes).note (.requestSent d.remote request)
      let (reply, line) := d.transport.exchange frame d.config.timeout d.line
      let d := { d with line }
      match reply with
      | .error e => (.transport e, d)
      | .ok reply =>
        let (verdict, session) := d.session.judge d.remote request.method reply
        (verdict, { d.noteAll (d.session.judgeNotes reply) with session })

/-- The device ready for a request: with a new session if one is wanted or there is none. -/
def prepare (d : Device σ) (handshake : Bool) : Except DeviceError Unit × Device σ :=
  if handshake || !d.session.isReady then
    let (result, d) := d.sendHandshake
    (result.map fun _ => (), d)
  else (.ok (), d)

/-- The request that a device makes next, and the device with its id handed out. -/
def nextRequest (d : Device σ) (method : String) (params : Json) (extra : List (String × Json)) :
    Request × Device σ :=
  let d := { d with session := d.session.nextId }
  ((Request.new d.session.currentId method params).withExtra extra, d)

/-- Makes a request, again while retries are left. It is said whether a handshake is due before, and
how many attempts were made. -/
def sendLoop (method : String) (params : Json) (extra : List (String × Json)) :
    Nat → Bool → Nat → Device σ → Except DeviceError Json × Device σ
  | retries, handshake, made, d =>
    match d.prepare handshake with
    | (.error e, d) => (.error e, d)
    | (.ok (), d) =>
      let (request, d) := d.nextRequest method params extra
      let (verdict, d) := d.attempt request
      let d := d.record (.attempt request verdict)
      match verdict with
      | .success value => (.ok value, d.note (.replied d.remote value))
      | .fatal e => (.error e, d)
      | .recoverable report =>
        match retries with
        | 0 => (.error (.device report.code report.message), d)
        | left + 1 =>
          sendLoop method params extra left false (made + 1)
            (d.note (.recoverableError request.method report left))
      | .transport e =>
        match retries with
        | 0 => (.error (.noResponse (made + 1) e), d)
        | left + 1 =>
          let d := { d with session := (d.session.skipIds retryIdStride).invalidate }
          sendLoop method params extra left true (made + 1)
            (d.note (.noReply request.method d.remote e left))

/-- Sends a command with options and gives the result of the reply. -/
def sendWith (d : Device σ) (method : String) (params : Json) (options : SendOptions) :
    Except DeviceError Json × Device σ :=
  let d := d.record (.command method params options.extra)
  let retries := options.retryCount.getD d.config.retryCount
  sendLoop method params options.extra retries (!d.session.isReady || !d.config.lazyDiscover) 0 d

/-- Sends a command and gives the result of the reply. -/
def send (d : Device σ) (method : String) (params : Json) : Except DeviceError Json × Device σ :=
  d.sendWith method params .default

/-- Sends a command and gives the result of the reply as what is asked for. -/
def sendTyped {α : Type} [Json.Decodable α] (d : Device σ) (method : String) (params : Json) :
    Except DeviceError α × Device σ :=
  match d.send method params with
  | (.error e, d) => (.error e, d)
  | (.ok v, d) => ((convert v).mapError .conversion, d)

/-- Asks a device about itself. -/
def info (d : Device σ) : Except DeviceError DeviceInfo × Device σ :=
  match (d.note .infoRequested).send infoMethod (.array []) with
  | (.error (.protocol e), d) => (.error (.infoUnavailable (.undecodable e)), d)
  | (.error e, d) => (.error e, d)
  | (.ok v, d) =>
    match convert v with
    | .error e => (.error (.infoUnavailable (.unfit e)), d)
    | .ok (info : DeviceInfo) => (.ok info, d.note (.infoReceived info))

/-! ## Properties -/

/-- A list in pieces of a size, the last one perhaps shorter. The first argument bounds the number
of pieces. -/
def pieces {α : Type} (size : Nat) : Nat → List α → List (List α)
  | 0, _ => []
  | n + 1, xs => if xs.isEmpty then [] else xs.take size :: pieces size n (xs.drop size)

/-- How many properties are asked for at a time: as many as are given, if there is no limit. -/
def pieceSize (count : Nat) (most : Option Nat) : Nat :=
  match most with
  | some (n + 1) => n + 1
  | _ => max count 1

/-- Asks for pieces of a list of properties in turn, behind the values already received. -/
def collect (getter : String) :
    List (List Json) → List Json → Device σ → Except DeviceError (List Json) × Device σ
  | [], values, d => (.ok values, d)
  | piece :: rest, values, d =>
    match d.send getter (.array piece) with
    | (.error e, d) => (.error e, d)
    | (.ok (.array more), d) => collect getter rest (values ++ more) d
    | (.ok other, d) => (.error (.invalidResponse (.notList getter other)), d)

/-- Asks for properties, at most a number of them at a time, and gives their values in order. -/
def getProperties (d : Device σ) (properties : List Json) (getter : Option String)
    (most : Option Nat) : Except DeviceError (List Json) × Device σ :=
  let size := pieceSize properties.length most
  let all := pieces size properties.length properties
  match collect (getter.getD propertyMethod) all [] d with
  | (.error e, d) => (.error e, d)
  | (.ok values, d) =>
    if values.length ≠ properties.length then
      (.ok values, d.note (.propertyCount properties.length values.length))
    else (.ok values, d)

/-! ## Runs -/

end Device

/-- A call to a device. -/
inductive Call where
  | handshake
  | send (method : String) (params : Json)
  | sendWith (method : String) (params : Json) (options : SendOptions)
  /-- A command whose result is turned into a value of some type and written again. -/
  | sendTyped (method : String) (params : Json) (convert : Json → Except ConversionError Json)
  | info
  | getProperties (properties : List Json) (getter : Option String) (most : Option Nat)

/-- What a call gives. -/
inductive Answer where
  | value (v : Json)
  | header (h : Header)
  | info (i : DeviceInfo)
  deriving DecidableEq

namespace Device

variable {σ : Type}

/-- Makes a call. -/
def perform (d : Device σ) : Call → Except DeviceError Answer × Device σ
  | .handshake =>
    let (r, d) := d.sendHandshake
    (r.map .header, d)
  | .send method params =>
    let (r, d) := d.send method params
    (r.map .value, d)
  | .sendWith method params options =>
    let (r, d) := d.sendWith method params options
    (r.map .value, d)
  | .sendTyped method params convert =>
    match d.send method params with
    | (.error e, d) => (.error e, d)
    | (.ok v, d) => (((convert v).mapError .conversion).map .value, d)
  | .info =>
    let (r, d) := d.info
    (r.map .info, d)
  | .getProperties properties getter most =>
    let (r, d) := d.getProperties properties getter most
    (r.map fun values => .value (.array values), d)

/-- Makes calls in turn and gives the results in order. -/
def run (d : Device σ) : List Call → List (Except DeviceError Answer) × Device σ
  | [] => ([], d)
  | call :: calls =>
    let (result, d) := d.perform call
    let (results, d) := d.run calls
    (result :: results, d)

end Device

end Appliance
