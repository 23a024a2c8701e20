import ClusterConnect.Endpoint
import ClusterConnect.Text.Percent

/-!
# Connection URLs

A URL names servers and a database, or a database alone, and may set properties:

    postgresql://host[:port][,host[:port]...]/database[?name=value[&name=value...]]
    postgresql:aws://cluster-endpoint[:port]/database[?...]
    postgresql:database[?...]

* `Url`: the parts of a URL.
* `Url.parse?`: the reading of a text. A text with another scheme is no URL of ours, which is not a
  fault; a text with our scheme that breaks the grammar is.
* `Url.properties`: the properties that a URL sets on top of others.
* `parseUrl`: both steps, and the refusal of plain URLs in strict mode.
-/

namespace ClusterConnect

open Text

/-- Which scheme a URL is written for. -/
inductive Mode where
  /-- Servers that are reached directly. -/
  | plain
  /-- A cluster whose connection survives a failover. -/
  | clusterAware
deriving Repr, DecidableEq

namespace Mode

/-- The scheme at the front of every URL of ours. -/
def plainScheme : String := "postgresql:"

/-- The scheme at the front of a cluster URL. -/
def clusterScheme : String := "postgresql:aws:"

/-- The scheme of a mode. -/
def scheme : Mode → String
  | .plain => plainScheme
  | .clusterAware => clusterScheme

/-- The mode that the front of a text calls for. -/
def ofUrl (url : String) : Mode :=
  if clusterScheme.toList.isPrefixOf url.toList then .clusterAware else .plain

/-- The name of a mode. -/
def name : Mode → String
  | .plain => "plain"
  | .clusterAware => "cluster-aware"

end Mode

/-- Whether a text starts with our scheme. -/
def isOurs (url : String) : Bool := Mode.plainScheme.toList.isPrefixOf url.toList

/-- A host with the port written behind it, if any. The text of the port is kept as written. -/
structure Address where
  host : String
  port : Option String
deriving Repr, DecidableEq

/-- What a URL points at. -/
inductive Target where
  /-- A list of servers and a database on them. -/
  | servers (addresses : List Address) (database : String)
  /-- A database on servers named elsewhere. -/
  | database (name : String)
deriving Repr, DecidableEq

/-- The parts of a connection URL. -/
structure Url where
  mode : Mode
  target : Target
  /-- The properties that the URL sets, in the order in which it sets them. -/
  arguments : List (String × String)
deriving Repr, DecidableEq

/-- Why a text with our scheme is refused. -/
inductive UrlFault where
  /-- There is no text. -/
  | missing
  /-- No slash ends the list of servers. -/
  | unterminatedServers (url : String)
  /-- A port is not a number. -/
  | portNotNumeric (port url : String)
  /-- A port has more digits than can be read. -/
  | portTooLong (port : String)
  /-- A port is no port number. -/
  | portOutOfRange (port url : String)
  /-- A plain URL in strict mode. -/
  | rejected (url : String)
deriving Repr, DecidableEq

namespace UrlFault

/-- The wording of a fault. -/
def message : UrlFault → String
  | .missing => "url is null"
  | .unterminatedServers url => "URL must contain a / at the end of the host or port: " ++ url
  | .portNotNumeric port _ => "URL invalid port number: " ++ port
  | .portTooLong _ => "too many digits for an integer"
  | .portOutOfRange port _ => "URL port: " ++ port ++ " not valid (1:65535)"
  | .rejected url =>
    "acceptAwsProtocolOnly mode is enabled; URL must start with \"" ++ Mode.clusterScheme ++
      "\" but was: " ++ url

/-- The line that the log shows about a fault, where it is worth a warning. -/
def warning? (f : UrlFault) : Option String :=
  match f with
  | .unterminatedServers _ | .portNotNumeric .. | .portOutOfRange .. => some f.message
  | .missing | .portTooLong _ | .rejected _ => none

/-- A fault as a failure. A port with too many digits fails in the reading of integers and is not
reported as a fault of the URL. -/
def failure (f : UrlFault) : Failure :=
  match f with
  | .missing => .driver (.ofKind .malformedUrl f.message)
  | .unterminatedServers url | .portNotNumeric _ url | .portOutOfRange _ url =>
    .driver ((DriverError.ofKind .malformedUrl f.message).about (.text url))
  | .portTooLong _ => .ofForeign .unusableValue f.message
  | .rejected url => .driver ((DriverError.ofKind .protocolRejected f.message).about (.text url))

end UrlFault

/-! ## Reading -/

/-- Checks the text of a port. -/
def checkPort (port : List Char) (url : String) : Except UrlFault Unit :=
  if port.isEmpty || !port.all Char.isDigit then .error (.portNotNumeric (String.ofList port) url)
  else if Number.maxIntegerDigits < port.length then .error (.portTooLong (String.ofList port))
  else if 1 ≤ digitsValue port ∧ digitsValue port ≤ 65535 then .ok ()
  else .error (.portOutOfRange (String.ofList port) url)

/-- One item of a server list: the port follows the last colon, unless a closing bracket stands
behind that colon. -/
def Address.parse (item : List Char) (url : String) : Except UrlFault Address :=
  match cutLast ':' ']' item with
  | none => .ok ⟨String.ofList item, none⟩
  | some (host, port) =>
    match checkPort port url with
    | .error f => .error f
    | .ok () => .ok ⟨String.ofList host, some (String.ofList port)⟩

/-- The items of a server list. The first fault counts. -/
def Address.parseAll (url : String) : List (List Char) → Except UrlFault (List Address)
  | [] => .ok []
  | item :: rest =>
    match Address.parse item url with
    | .error f => .error f
    | .ok a =>
      match Address.parseAll url rest with
      | .error f => .error f
      | .ok as => .ok (a :: as)

/-- What follows the scheme, up to the question mark. -/
def Target.parse (body : List Char) (url : String) : Except UrlFault Target :=
  match afterPrefix? ['/', '/'] body with
  | none => .ok (.database (String.ofList (Percent.decodeText body)))
  | some rest =>
    match cut '/' rest with
    | (_, none) => .error (.unterminatedServers url)
    | (list, some name) =>
      match Address.parseAll url (list.splitOn ',') with
      | .error f => .error f
      | .ok addresses => .ok (.servers addresses (String.ofList (Percent.decodeText name)))

/-- One setting behind the question mark: a name, and an encoded value behind the first equals
sign. A name alone sets the empty text. -/
def parseArgument (token : List Char) : String × String :=
  match cut '=' token with
  | (name, none) => (String.ofList name, "")
  | (name, some value) => (String.ofList name, String.ofList (Percent.decodeText value))

/-- The settings behind the question mark. Empty ones are skipped. -/
def parseArguments (query : List Char) : List (String × String) :=
  ((query.splitOn '&').filter (!·.isEmpty)).map parseArgument

/-- The mode and the rest of a text that starts with one of our schemes. -/
def splitScheme? (server : List Char) : Option (Mode × List Char) :=
  match afterPrefix? Mode.clusterScheme.toList server with
  | some body => some (.clusterAware, body)
  | none => (afterPrefix? Mode.plainScheme.toList server).map fun body => (.plain, body)

/-- The parts of a text, `none` if its scheme is not ours. -/
def Url.parse? (url : String) : Except UrlFault (Option Url) :=
  let (server, query) := cut '?' url.toList
  match splitScheme? server with
  | none => .ok none
  | some (mode, body) =>
    match Target.parse body url with
    | .error f => .error f
    | .ok target => .ok (some ⟨mode, target, parseArguments (query.getD [])⟩)

/-! ## Properties of a URL -/

/-- Texts with commas between them. -/
def commaList (parts : List String) : String := String.ofList (join ',' (parts.map String.toList))

/-- What a target sets: all of host, port and database for a list of servers; for a database alone,
those of the three that have no value yet. -/
def Target.apply (t : Target) (props : Properties) : Properties :=
  match t with
  | .servers addresses name =>
    ((props.insert Property.database.name name).insert Property.host.name
      (commaList (addresses.map Address.host))).insert Property.port.name
      (commaList (addresses.map fun a => a.port.getD defaultPortText))
  | .database name =>
    ((props.insertIfAbsent Property.port.name defaultPortText).insertIfAbsent Property.host.name
      defaultHost).insertIfAbsent Property.database.name name

/-- The properties that a URL sets on top of others. -/
def Url.properties (u : Url) (base : Properties) : Properties :=
  (u.target.apply base).insertAll u.arguments

/-- The properties of a URL on top of `base`, `none` if its scheme is not ours. `strict` says
whether plain URLs are refused where the properties do not decide it. -/
def parseUrl (url : Option String) (base : Properties) (strict : Bool) :
    Except UrlFault (Option Properties) :=
  match url with
  | none => .error .missing
  | some url =>
    match Url.parse? url with
    | .error f => .error f
    | .ok none => .ok none
    | .ok (some u) =>
      let props := u.properties base
      if strictMode props strict && Mode.ofUrl url != .clusterAware then .error (.rejected url)
      else .ok (some props)

end ClusterConnect
