import ClusterConnect.Environment

/-!
# Links to servers

Links are opened by a connector: the built-in one, or one of the application. The driver puts its
own rules on top of links of the built-in connector; those of an application's connector are used
as they are.

* `dialArguments`: what the built-in connector is asked for.
* `openLink`: an attempt to open a link.
* `send`, `closeLink`, `isLinkClosed`: the use of a link.
* `statementFailure`: how the failure of a statement is reported.
-/

namespace ClusterConnect

variable {τ : Type}

/-! ## Opening -/

/-- Where links come from. -/
inductive Connector where
  | builtin
  /-- A connector of the application. -/
  | custom
deriving Repr, DecidableEq

/-- A text unless it is empty. -/
def unlessEmpty (s : String) : Option String := if s.isEmpty then none else some s

section

variable [Timeline τ]

/-- The value of a property as a time. A text that is no numeral is left out of account, and given
back beside the default. -/
def Property.timeOrDefault (p : Property) (props : Properties) : Option τ × Option String :=
  match p.time? props with
  | .ok t => (t, none)
  | .error s => ((p.time? .empty).toOption.getD none, some s)

/-- What the built-in connector is asked for. -/
def dialArguments (endpoints : List Endpoint) (user database : String) (props : Properties) :
    DialArguments τ where
  hosts := endpoints.map (·.host)
  ports := endpoints.map (·.port)
  user := unlessEmpty user
  database := unlessEmpty database
  password := Property.password.get? props
  timeLimit := (Property.connectTimeout.timeOrDefault props).1.filter Timeline.isPositive
  sslMode := (Property.sslMode.get? props).bind unlessEmpty
  targetServerType :=
    ((Property.targetServerType.get? props).bind unlessEmpty).filter (· != "any")
  applicationName := (Property.applicationName.get? props).bind unlessEmpty

/-- Warns about the value of a property that is no numeral. -/
def warnUnreadable (part : String) (p : Property) (text : Option String) : Doing τ Unit :=
  match text with
  | some s => warn part ("Couldn't parse " ++ p.name ++ " value: " ++ s)
  | none => pure ()

/-- What comes of the next attempt to open a link. -/
def nextOpening : Doing τ (OpenResult τ) := do
  let env ← get
  match env.openings with
  | [] => throw env.refusal
  | o :: rest =>
    set { env with openings := rest, late := env.late || o.overdue }
    pass o.delay
    return o.result

/-- A new link for what an attempt gave. -/
def enlist (managed : Bool) (r : OpenResult τ) : Doing τ (Option LinkId) := do
  match r with
  | .failed f => throw f
  | .nothing => return none
  | .opened session =>
    let id := (← get).links.length
    modify (·.addLink { session, managed })
    record (.opened id)
    return some id

/-- A failure on its way out of the loop that runs the sessions of the built-in connector. The end
of an iteration cannot leave the loop as such. -/
def leavingLoop : Failure → Failure
  | .foreign ⟨.iterationEnd, _⟩ => .ofForeign .wrongState "coroutine raised StopIteration"
  | f => f

/-- The failure of the built-in connector. -/
def dialFailure (endpoints : List Endpoint) (f : Failure) : Failure :=
  if f.endsProgram then f
  else .driver ((DriverError.ofKind .connectionFailed ("Failed to connect to " ++
    commaSeparated (endpoints.map Endpoint.text) ++ ": " ++ f.text)).causedBy f)

/-- Asks the built-in connector for a link. -/
def dial (r : OpenRequest) : Doing τ (Option LinkId) := do
  warnUnreadable "connection" .connectTimeout
    (Property.connectTimeout.timeOrDefault (τ := τ) r.properties).2
  record (.dialed (dialArguments r.endpoints r.user r.database r.properties))
  match ← (nextOpening >>= enlist true).outcome with
  | .ok link => return link
  | .error f => throw (dialFailure r.endpoints (leavingLoop f))

/-- Asks a connector for a link. A connector of the application may decline by giving none. -/
def openLink (c : Connector) (r : OpenRequest) : Doing τ (Option LinkId) := do
  match c with
  | .builtin => dial r
  | .custom =>
    record (.requested r (← get).side)
    nextOpening >>= enlist false

end

/-! ## Failures of statements -/

/-- How the failure of a statement on a link of the built-in connector is reported: a passed time
limit, a lost link, or a fault that the server reports. Other failures stay as they are. -/
def statementFailure (query : Value) (f : Failure) : Failure :=
  let lost : Failure :=
    .driver ((DriverError.ofKind .connectionFailed ("Connection lost: " ++ f.text)).causedBy f)
  match f with
  | .driver _ => f
  | .foreign e =>
    match e.kind with
    | .system .timedOut =>
      .driver ({ (DriverError.ofKind .query "Query timed out.").about query with
        state := .queryCanceled }.causedBy f)
    | .system _ => lost
    | .server fault =>
      if fault.losesLink then lost
      else .driver (((DriverError.ofKind .query f.text).about query).causedBy f)
    | _ => f

/-! ## Use -/

/-- The link with a given number. -/
def linkAt (id : LinkId) : Doing τ (Link τ) := do
  match (← get).links[id]? with
  | some link => return link
  | none => throw (.ofForeign .missingMember "no such link")

/-- Changes a link. -/
def changeLink (id : LinkId) (f : Link τ → Link τ) : Doing τ Unit :=
  modify (·.changeLink id f)

@[simp] theorem runFrom_changeLink (id : LinkId) (f : Link τ → Link τ) (env : Environment τ) :
    (changeLink id f).runFrom env = (.ok (), env.changeLink id f) := rfl

section

variable [Timeline τ]

/-- Sends a statement over a link, whatever the state of the link. -/
def transmit (id : LinkId) (s : Statement) : Doing τ Value := do
  record (.sent id s)
  let session := (← linkAt id).session
  let reply := session.replies.headD {}
  changeLink id fun link =>
    { link with session := { session with replies := session.replies.tail } }
  pass reply.delay
  match reply.response with
  | .standard => return session.standard s
  | .value v => return v
  | .failed f => throw f

/-- Sends a statement over a link. A link of the built-in connector refuses once it is closed, and
reports failures in the driver's own kinds. -/
def send (id : LinkId) (s : Statement) : Doing τ Value := do
  let link ← linkAt id
  if link.managed then
    if link.released then throw (.driver (.connectionClosed s.query))
    match ← (transmit id s).outcome with
    | .ok v => return v
    | .error f => throw (statementFailure s.query (leavingLoop f))
  else transmit id s

/-- Ends the session of a link. -/
def endSession (id : LinkId) : Doing τ Unit := do
  record (.closed id)
  let closing := (← linkAt id).session.closing
  pass closing.delay
  match closing.failure with
  | some f => throw f
  | none => pure ()

/-- Closes a link. A link of the built-in connector is closed once; if that fails, it is dropped. -/
def closeLink (id : LinkId) : Doing τ Unit := do
  let link ← linkAt id
  if link.managed then
    if link.released then return
    changeLink id fun link => { link with released := true }
    match ← (endSession id).outcome with
    | .ok () => changeLink id fun link => { link with ended := true }
    | .error f => if f.endsProgram then throw f else record (.terminated id)
  else
    changeLink id fun link => { link with released := true, ended := true }
    endSession id

end

/-- Whether a link has been closed or has ended by itself. -/
def isLinkClosed (id : LinkId) : Doing τ Bool := do
  let link ← linkAt id
  return link.ended || link.managed && link.released

/-- Lets the session of a link end by itself. -/
def loseSession (id : LinkId) : Doing τ Unit :=
  changeLink id fun link => { link with ended := true }

end ClusterConnect
