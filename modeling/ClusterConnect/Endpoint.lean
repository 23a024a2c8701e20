import ClusterConnect.Failure
import ClusterConnect.Number.Numeral
import ClusterConnect.Properties.Catalogue
import ClusterConnect.Text.Split

/-!
# Server endpoints

* `Endpoint`: a host and a port to connect to; `Endpoint.text` writes it.
* `Properties.endpoints`: the endpoints that the properties name, or the fault that prevents it.
-/

namespace ClusterConnect

/-- One server to connect to. -/
structure Endpoint where
  host : String
  port : Int
  /-- The local address to connect from. -/
  localAddress : Option String
deriving Repr, DecidableEq

/-- The port of a server that no other port is given for. -/
def defaultPort : Nat := 5432

/-- The default port as text. -/
def defaultPortText : String := Text.integerText defaultPort

/-- The host of a server that no host is given for. -/
def defaultHost : String := "localhost"

/-- Host and port with a colon between them; a host that holds colons is set in brackets. -/
def Endpoint.text (e : Endpoint) : String :=
  if e.host.toList.contains ':' then "[" ++ e.host ++ "]:" ++ Text.integerText e.port
  else e.host ++ ":" ++ Text.integerText e.port

/-- Why properties name no list of endpoints. -/
inductive EndpointFault where
  /-- There are not as many hosts as ports. -/
  | countMismatch (hosts ports : Nat)
  /-- A port is not an integer. -/
  | portNotNumeric (port : String)
deriving Repr, DecidableEq

/-- The wording of a fault. -/
def EndpointFault.message : EndpointFault → String
  | .countMismatch hosts ports =>
    "Host list (" ++ Text.integerText hosts ++ " entries) does not match port list (" ++
      Text.integerText ports ++ " entries)"
  | .portNotNumeric port => "URL invalid port number: " ++ port

/-- A fault as a failure. A port that is no integer has the unusable text as its cause. -/
def EndpointFault.failure (f : EndpointFault) : Failure :=
  let e := DriverError.ofKind .malformedUrl f.message
  match f with
  | .countMismatch .. => .driver e
  | .portNotNumeric port => .driver (e.causedBy (.ofForeign .unusableValue port))

/-- A host without one pair of enclosing brackets. -/
def unbracketed (host : List Char) : List Char :=
  match host with
  | '[' :: rest => if rest.getLast? = some ']' then rest.dropLast else host
  | _ => host

/-- The items of a comma separated list. -/
def items (s : String) : List (List Char) := s.toList.splitOn ','

/-- The endpoints of hosts and ports taken in pairs. -/
def pairUp (localAddress : Option String) :
    List (List Char) → List (List Char) → Except EndpointFault (List Endpoint)
  | host :: hosts, port :: ports =>
    match Number.integer? port with
    | none => .error (.portNotNumeric (String.ofList port))
    | some number =>
      match pairUp localAddress hosts ports with
      | .error f => .error f
      | .ok rest => .ok (⟨String.ofList (unbracketed host), number, localAddress⟩ :: rest)
  | _, _ => .ok []

/-- A text, or a default in place of a missing or empty one. -/
def nonEmptyOr (s : Option String) (default : String) : String :=
  match s with
  | some t => if t.isEmpty then default else t
  | none => default

/-- The endpoints that the properties name, in order. -/
def Properties.endpoints (p : Properties) : Except EndpointFault (List Endpoint) :=
  let hosts := items (nonEmptyOr (p.get? Property.host.name) defaultHost)
  let ports := items (nonEmptyOr (p.get? Property.port.name) defaultPortText)
  if ports.length = hosts.length then
    pairUp (Property.localSocketAddress.get? p) hosts ports
  else .error (.countMismatch hosts.length ports.length)

end ClusterConnect
