import ClusterConnect.Properties
import ClusterConnect.Timeline
import ClusterConnect.Text.Letter

/-!
# The known properties

The connection properties that the driver understands, each with its default and its
documentation, and the ways to read them.

* `Property`: a known property; `Property.all` lists them in the order in which they are shown.
* `Property.get?`, `isPresent`, `isTrue`, `time?`: reading a property from a mapping.
* `strictMode`: whether only cluster URLs are accepted.
-/

namespace ClusterConnect

/-- A connection property that the driver understands. -/
structure Property where
  name : String
  default : Option String := none
  description : String
  required : Bool := false
  choices : List String := []
deriving Repr, DecidableEq

namespace Property

def user : Property where
  name := "user"
  description := "Username to connect to the database as."
  required := true

def password : Property where
  name := "password"
  description := "Password to use when authenticating."

def host : Property where
  name := "PGHOST"
  default := some "localhost"
  description := "Comma separated hostnames taken from the URL."

def port : Property where
  name := "PGPORT"
  default := some "5432"
  description := "Comma separated ports taken from the URL."

def database : Property where
  name := "PGDBNAME"
  description := "Database name taken from the URL."

def loginTimeout : Property where
  name := "loginTimeout"
  description := "Seconds to wait for the whole connection attempt; 0 or unset waits forever."

def connectTimeout : Property where
  name := "connectTimeout"
  default := some "10"
  description := "Seconds allowed for opening the socket to a single host."

def sslMode : Property where
  name := "sslmode"
  description := "SSL negotiation mode."
  choices := ["disable", "allow", "prefer", "require", "verify-ca", "verify-full"]

def applicationName : Property where
  name := "ApplicationName"
  default := some "pgaws"
  description := "Name reported as application_name."

def targetServerType : Property where
  name := "targetServerType"
  default := some "any"
  description := "Kind of server to accept when several hosts are listed."
  choices := ["any", "primary", "standby", "prefer-standby", "read-write", "read-only"]

def localSocketAddress : Property where
  name := "localSocketAddress"
  description := "Local address to bind when connecting to the server. Parsed but not applied by "
    ++ "the asyncpg transport."

def clusterUrlsOnly : Property where
  name := "acceptAwsProtocolOnly"
  description := "Only accept postgresql:aws: URLs; overrides the process wide setting."
  choices := ["true", "false"]

def enableFailover : Property where
  name := "enableClusterAwareFailover"
  default := some "true"
  description := "Keep one logical connection alive across a cluster failover."
  choices := ["true", "false"]

def failoverTimeout : Property where
  name := "failoverTimeoutMs"
  default := some "60000"
  description := "Milliseconds allowed for reconnecting after a failover."

def loggerLevel : Property where
  name := "loggerLevel"
  description := "Driver log level."
  choices := ["OFF", "DEBUG", "TRACE"]

def loggerFile : Property where
  name := "loggerFile"
  description := "File the driver log is written to."

/-- Every known property, in the order in which they are shown. -/
def all : List Property :=
  [user, password, host, port, database, loginTimeout, connectTimeout, sslMode, applicationName,
   targetServerType, localSocketAddress, clusterUrlsOnly, enableFailover, failoverTimeout,
   loggerLevel, loggerFile]

/-- The value of a property in a mapping, else its default. -/
def get? (p : Property) (props : Properties) : Option String := (props.get? p.name).or p.default

/-- Whether a mapping has a value for a property. -/
def isPresent (p : Property) (props : Properties) : Bool := props.contains p.name

/-- Whether a text says `true`, with blanks around it and letter case left out of account. -/
def saysTrue (s : String) : Bool :=
  Text.lowercase (Text.strip Text.isBlank s.toList) = "true".toList

/-- Whether the value of a property says `true`. -/
def isTrue (p : Property) (props : Properties) : Bool := (p.get? props).any saysTrue

/-- The value of a property as a time: `.ok none` if it has no value, the offending text if its
value is no numeral. -/
def time? {τ : Type} [Timeline τ] (p : Property) (props : Properties) :
    Except String (Option τ) :=
  match p.get? props with
  | none => .ok none
  | some s =>
    match Timeline.read? s with
    | some t => .ok (some t)
    | none => .error s

end Property

/-- Whether only cluster URLs are accepted: the property decides if present, else `default`. -/
def strictMode (props : Properties) (default : Bool) : Bool :=
  if Property.clusterUrlsOnly.isPresent props then Property.clusterUrlsOnly.isTrue props
  else default

theorem strictMode_eq (props : Properties) (default : Bool) :
    strictMode props default =
      ((props.get? Property.clusterUrlsOnly.name).map Property.saysTrue).getD default := by
  unfold strictMode Property.isPresent Properties.contains Property.isTrue Property.get?
  cases props.get? Property.clusterUrlsOnly.name <;> rfl

namespace Properties

/-- The name to log in with, empty if there is none. -/
def user (p : Properties) : String := (p.get? Property.user.name).getD ""

/-- The database to use, empty if there is none. -/
def database (p : Properties) : String := (p.get? Property.database.name).getD ""

end Properties

end ClusterConnect
