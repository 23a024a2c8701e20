import ClusterConnect.Attempt
import ClusterConnect.Configuration
import ClusterConnect.Failover
import ClusterConnect.Resolution

/-!
# The driver

The driver takes a URL and gives a connection, or declines because the URL is not its own.

* `Connection`: what an application holds.
* `Driver.makeConnection`: a connection for resolved properties.
* `Discipline`: how a caller waits for a worker; `Driver.awaitJob` is the one that programs run with.
* `Driver.connectWithTimeout`: a connection within a time limit.
* `Driver.connect`: all steps from a URL on; `Driver.connectBy` takes them with any discipline.
* `Driver.acceptsUrl`, `Driver.propertyInfo`: what the driver makes of a URL without connecting.
-/

namespace ClusterConnect

variable {τ : Type}

/-! ## Connections -/

/-- What an application holds. -/
inductive Connection (τ : Type) where
  | direct (link : LinkId)
  | failover (handle : FailoverHandle τ)

/-- An action on a connection. -/
abbrev Using (τ α : Type) := Act (Connection τ × Environment τ) α

namespace Connection

variable [Timeline τ]

/-- Does one thing with a link and another with a handle. -/
def either {α : Type} (onLink : LinkId → Doing τ α) (onHandle : Handling τ α) : Using τ α :=
  .ofFunction fun s =>
    match s.1 with
    | .direct id =>
      let r := (onLink id).runFrom s.2
      (r.1, (s.1, r.2))
    | .failover h =>
      let r := onHandle.runFrom (h, s.2)
      (r.1, (.failover r.2.1, r.2.2))

/-- Sends a statement. -/
def call (s : Statement) : Using τ Value := either (send · s) (FailoverHandle.call s)

/-- Closes the connection. -/
def close : Using τ Unit := either closeLink FailoverHandle.close

/-- Whether the connection is closed. -/
def isClosed : Using τ Bool := either isLinkClosed FailoverHandle.isClosed

/-- Closes a connection that is not used any more. -/
def dispose (c : Connection τ) : Doing τ Unit :=
  .ofFunction fun env =>
    let r := close.runFrom (c, env)
    (r.1, r.2.2)

end Connection

/-! ## The driver -/

/-- A driver's settings. -/
structure Driver where
  connector : Connector := .builtin
  /-- Whether the managers of the application have failover switched on, `none` if the driver's own
  managers are used. -/
  externalManagers : Option Bool := none
  /-- The configuration files, of which the first counts most. -/
  configFiles : List Path := []

namespace Driver

variable [Timeline τ]

/-- Reads a URL, and logs what is wrong with it. -/
def parseLogged (url : Option String) (base : Properties) : Doing τ (Option Properties) := do
  match parseUrl url base (← get).strict with
  | .ok p => return p
  | .error f =>
    f.warning?.forM (warn "url")
    throw f.failure

/-- Resolves the properties of a connection, and logs what is wrong with them. -/
def resolveLogged (url : Option String) (overrides : Overrides) (defaults : Properties) :
    Doing τ (Option Properties) := do
  match resolve url overrides defaults (← get).strict with
  | .ok p => return p
  | .error f =>
    f.warning?.forM (warn "url")
    throw f.failure

/-- The default properties. -/
def defaults (d : Driver) : Doing τ Properties := do
  let env ← get
  Act.give (Configuration.defaults env.files env.login d.configFiles)

/-- Who looks after a connection to a cluster endpoint. -/
def supervisor (d : Driver) (endpoint : Endpoint) (props : Properties) (url : String) :
    Doing τ (Supervisor τ) := do
  match d.externalManagers with
  | none => return .manager ⟨endpoint, props, url, d.connector, Timeline.second⟩
  | some enabled =>
    record (.entrusted endpoint props url)
    return .external enabled

/-- A connection to the first endpoint that the properties name, through a manager. With failover
off the manager's link is handed out as it is. -/
def makeClusterConnection (d : Driver) (url : String) (props : Properties) :
    Doing τ (Option (Connection τ)) := do
  match props.endpoints with
  | .error f => throw f.failure
  | .ok [] => return none
  | .ok (endpoint :: _) =>
    let h ← FailoverHandle.connect (← d.supervisor endpoint props url)
    if h.supervisor.isEnabled then return some (.failover h)
    return h.current.map .direct

/-- A connection for resolved properties, `none` for a plain URL in strict mode and where the
connector declines. Without a URL there is nothing to tell the mode from. -/
def makeConnection (d : Driver) (url : Option String) (props : Properties) :
    Doing τ (Option (Connection τ)) := do
  match url with
  | none => throw (.ofForeign .missingMember "a URL is needed")
  | some url =>
    if Mode.ofUrl url = .clusterAware then d.makeClusterConnection url props
    else if strictMode props (← get).strict then return none
    else
      match props.endpoints with
      | .error f => throw f.failure
      | .ok endpoints =>
        return (← openLink d.connector ⟨endpoints, props.user, props.database, props, url⟩).map
          .direct

/-- The making of a connection as a worker's job. -/
def job (d : Driver) (url : Option String) (props : Properties) : Job τ (Connection τ) where
  connect := d.makeConnection url props
  close := Connection.dispose

/-- How a caller waits for a worker that does a job, within a time limit in milliseconds. -/
abbrev Discipline (τ : Type) := Job τ (Connection τ) → τ → Doing τ (Option (Connection τ))

/-- Whether a time limit in milliseconds makes for a deadline; a longer one does not. -/
def hasDeadline (timeLimit : τ) : Bool :=
  Timeline.before (Timeline.ofMilliseconds timeLimit) Timeline.longestWait

/-- Lets a worker do a job while the caller waits. If the worker comes too late for a caller with a
deadline, it closes its connection. A failure that would end the program ends the worker, and the
caller waits in vain. -/
def awaitJob (j : Job τ (Connection τ)) (timeLimit : τ) : Doing τ (Option (Connection τ)) := do
  modify fun env => { env with side := .worker, late := false }
  let r ← j.connect.outcome
  let late := (← get).late && hasDeadline timeLimit
  if late then discard (j.discard r).outcome
  modify fun env => { env with side := .caller }
  if late || isLost r then throw (leavingFailure .timedOut) else Act.give (delivered r)

/-- Whether a time limit in milliseconds makes a caller wait for a worker. -/
def isBounding (timeLimit : τ) : Bool :=
  !(Timeline.isUndefined timeLimit || Timeline.atMost timeLimit Timeline.zero)

/-- A connection for resolved properties within a time limit in milliseconds. Without a positive
limit the caller makes the connection itself. -/
def connectWithin (d : Driver) (await : Discipline τ) (url : Option String) (props : Properties)
    (timeLimit : τ) : Doing τ (Option (Connection τ)) :=
  if isBounding timeLimit then await (d.job url props) timeLimit else d.makeConnection url props

/-- A connection for resolved properties within a time limit in milliseconds. -/
def connectWithTimeout (d : Driver) (url : Option String) (props : Properties) (timeLimit : τ) :
    Doing τ (Option (Connection τ)) :=
  d.connectWithin awaitJob url props timeLimit

/-- A time limit in seconds as one in milliseconds. An undefined one is none. -/
def inMilliseconds (seconds : τ) : τ :=
  if Timeline.isUndefined seconds then Timeline.zero else Timeline.toMilliseconds seconds

/-- The time limit for a connection in milliseconds: the property, else the registry's limit in
seconds. -/
def loginTimeLimit (registryLimit : τ) (props : Properties) : Doing τ τ := do
  let (limit, unreadable) := Property.loginTimeout.timeOrDefault props
  warnUnreadable "driver" .loginTimeout unreadable
  return inMilliseconds (limit.getD registryLimit)

/-- The error for a URL of ours whose default properties cannot be loaded. -/
def defaultsFailure (f : Failure) : Failure :=
  if f.isKind .config then
    .driver ((DriverError.unexpected "Error loading default settings from driverconfig").causedBy f)
  else f

/-- A connection for resolved properties, with the log set up and the time limit that holds. -/
def establish (d : Driver) (await : Discipline τ) (registryLimit : τ) (url : String)
    (props : Properties) : Doing τ (Option (Connection τ)) := do
  configureLogging props
  d.connectWithin await (some url) props (← loginTimeLimit registryLimit props)

/-- A connection for a URL and what the caller supplies, `none` if the URL is not ours.
`registryLimit` is the registry's time limit in seconds. -/
def connectBy (d : Driver) (await : Discipline τ) (registryLimit : τ) (url : Option String)
    (info : Overrides) : Doing τ (Option (Connection τ)) := do
  match url with
  | none => throw UrlFault.missing.failure
  | some url =>
    if isOurs url then
      let defaults ←
        match ← (d.defaults).outcome with
        | .ok p => pure p
        | .error f => throw (defaultsFailure f)
      match ← resolveLogged (some url) info defaults with
      | none => return none
      | some props =>
        match ← (d.establish await registryLimit url props).outcome with
        | .ok c => return c
        | .error f => throw f.reported
    else return none

/-- A connection for a URL and what the caller supplies, `none` if the URL is not ours. -/
def connect (d : Driver) (registryLimit : τ) (url : Option String) (info : Overrides) :
    Doing τ (Option (Connection τ)) :=
  d.connectBy awaitJob registryLimit url info

/-- Whether a failure reports a URL that breaks the grammar or is refused. -/
def isUrlFailure (f : Failure) : Bool := f.driver?.any (·.kind.isMalformedUrl)

/-- The properties of a URL on top of others, `none` if the URL is not ours, breaks the grammar or
is refused. -/
def parseTolerant (url : Option String) (base : Properties) : Doing τ (Option Properties) := do
  match ← (parseLogged url base).outcome with
  | .ok p => return p
  | .error f => if isUrlFailure f then return none else throw f

/-- Whether a URL is ours, well formed and not refused. -/
def acceptsUrl (url : Option String) : Doing τ Bool :=
  return (← parseTolerant url .empty).isSome

/-- The known properties with the values that a URL and the caller give them. -/
def propertyInfo (url : Option String) (info : Properties) :
    Doing τ (List (Property × Option String)) := do
  let props := (← parseTolerant url info).getD info
  return Property.all.map fun p => (p, p.get? props)

end Driver

end ClusterConnect
