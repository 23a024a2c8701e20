import ClusterConnect.Link

/-!
# Connections that survive a failover

A cluster endpoint always leads to the instance that accepts writes. When a link to it is lost, a
new link to the same endpoint reaches the instance that has taken over.

* `Manager`: opens the links to a cluster endpoint, and replaces a lost one: `Manager.replace`
  retries until a deadline.
* `Supervisor`: a manager of the driver, or one that the application supplies.
* `FailoverHandle`: a connection whose link may be replaced. A statement that meets a lost link is
  reported and not sent again.
-/

namespace ClusterConnect

variable {τ : Type}

/-- Looks after the link to a cluster endpoint. -/
structure Manager (τ : Type) where
  endpoint : Endpoint
  properties : Properties
  url : String
  connector : Connector
  /-- How long to wait between two attempts. -/
  retryInterval : τ

/-- Who looks after the link of a failover handle. -/
inductive Supervisor (τ : Type) where
  | manager (m : Manager τ)
  /-- A manager of the application, with failover switched on or off. -/
  | external (enabled : Bool)

/-- A connection whose link may be replaced. -/
structure FailoverHandle (τ : Type) where
  supervisor : Supervisor τ
  /-- The link in use, if there is one. -/
  current : Option LinkId
  /-- Whether the application has closed the connection. -/
  closed : Bool := false

section

variable [Timeline τ]

namespace Manager

/-- What a connector is asked for in each attempt. -/
def request (m : Manager τ) : OpenRequest :=
  ⟨[m.endpoint], m.properties.user, m.properties.database, m.properties, m.url⟩

/-- Asks for a link to the endpoint. -/
def connect (m : Manager τ) : Doing τ (Option LinkId) := openLink m.connector m.request

/-- The time allowed for a replacement, in seconds. -/
def replacementTime (m : Manager τ) : Doing τ τ := do
  let (time, unreadable) := Property.failoverTimeout.timeOrDefault (τ := τ) m.properties
  warnUnreadable "failover" .failoverTimeout unreadable
  return Timeline.ofMilliseconds (time.getD Timeline.zero)

/-- The error that a replacement ends with when its time is up. -/
def giveUp (m : Manager τ) (f : Failure) : Failure :=
  .driver ((DriverError.ofKind .failoverFailed ("Unable to re-establish a connection to " ++
    m.endpoint.text ++ ": " ++ f.text)).causedBy f)

/-- Asks for a link once. A failed connection gives that failure after a pause, unless the next
attempt would start after the deadline. -/
def tryOnce (m : Manager τ) (deadline : τ) : Doing τ (Except Failure (Option LinkId)) := do
  match ← m.connect.outcome with
  | .ok link => return .ok link
  | .error f =>
    if !f.isKind .connectionFailed then throw f
    if Timeline.atMost deadline (Timeline.add (← get).now m.retryInterval) then throw (m.giveUp f)
    sleep m.retryInterval
    return .error f

/-- What stands for the end of a replacement that is not followed any further, after the failure of
its last attempt. It is an error of the general kind, and nothing else in the library raises one. -/
def unfollowed (f : Failure) : Failure :=
  .driver ((DriverError.ofKind .general "The replacement is not followed any further.").causedBy f)

/-- Asks for links until one comes, a failure other than a failed connection occurs, or time is up.
At most `limit` attempts after the first are followed. -/
def retry (m : Manager τ) (deadline : τ) : (limit : Nat) → Doing τ (Option LinkId)
  | 0 => do
    match ← m.tryOnce deadline with
    | .ok link => return link
    | .error f => throw (unfollowed f)
  | limit + 1 => do
    match ← m.tryOnce deadline with
    | .ok link => return link
    | .error _ => m.retry deadline limit

/-- Closes a link that is no longer of use. Failures are ignored, unless they end the program. -/
def discard (link : Option LinkId) : Doing τ Unit := do
  match link with
  | none => pure ()
  | some id =>
    match ← (closeLink id).outcome with
    | .ok () => pure ()
    | .error f => if f.endsProgram then throw f

/-- Closes a lost link and opens another one in its place. The time allowed counts from then on.
The first attempt that the outside has no answer prepared for is the last that is followed. -/
def replace (m : Manager τ) (stale : Option LinkId) (cause : Failure) :
    Doing τ (Option LinkId) := do
  warn "failover"
    ("Connection to " ++ m.endpoint.text ++ " lost, starting failover: " ++ cause.text)
  discard stale
  let start := (← get).now
  let time ← m.replacementTime
  m.retry (Timeline.add start time) (← get).openings.length

end Manager

namespace Supervisor

/-- Whether lost links are replaced. -/
def isEnabled : Supervisor τ → Bool
  | .manager m => Property.enableFailover.isTrue m.properties
  | .external enabled => enabled

/-- Asks for the first link. -/
def connect : Supervisor τ → Doing τ (Option LinkId)
  | .manager m => m.connect
  | .external _ => nextOpening >>= enlist false

/-- Asks for a link in place of a lost one. -/
def replace (s : Supervisor τ) (stale : Option LinkId) (cause : Failure) :
    Doing τ (Option LinkId) := do
  match s with
  | .manager m => m.replace stale cause
  | .external _ =>
    record (.replacementAsked cause)
    nextOpening >>= enlist false

end Supervisor

/-- Sends a statement over the link in use, if there is one. -/
def sendOver (link : Option LinkId) (s : Statement) : Doing τ Value :=
  match link with
  | some id => send id s
  | none => throw (.ofForeign .missingMember "no link in use")

/-- Closes the link in use, if there is one. -/
def closeCurrent (link : Option LinkId) : Doing τ Unit :=
  match link with
  | some id => closeLink id
  | none => throw (.ofForeign .missingMember "no link in use")

/-- Whether the link in use is closed, if there is one. -/
def isCurrentClosed (link : Option LinkId) : Doing τ Bool :=
  match link with
  | some id => isLinkClosed id
  | none => throw (.ofForeign .missingMember "no link in use")

/-- What the application learns when a link has been replaced under a statement. -/
def failoverSucceeded (cause : Failure) : Failure :=
  .driver ((DriverError.ofKind .failoverSucceeded
    ("The active connection has changed due to a connection failure. " ++
      "Please re-configure session state if required.")).causedBy cause)

/-- An action on a failover handle. -/
abbrev Handling (τ α : Type) := Act (FailoverHandle τ × Environment τ) α

namespace FailoverHandle

/-- A handle on a new link. -/
def connect (s : Supervisor τ) : Doing τ (FailoverHandle τ) := do
  return ⟨s, ← s.connect, false⟩

/-- Replaces the link in use. -/
def failover (cause : Failure) : Handling τ Unit := do
  let h := (← get).1
  let link ← Act.onSecond (h.supervisor.replace h.current cause)
  modify fun s => ({ s.1 with current := link }, s.2)

/-- Sends a statement over the link in use. When the link turns out to be lost, it is replaced if
failover is on, and the statement is given up. -/
def call (s : Statement) : Handling τ Value := do
  let h := (← get).1
  if h.closed then throw (.driver (.connectionClosed s.query))
  match ← (Act.onSecond (sendOver h.current s)).outcome with
  | .ok v => return v
  | .error f =>
    if f.isKind .connectionFailed && h.supervisor.isEnabled then
      failover f
      throw (failoverSucceeded f)
    else throw f

/-- Closes the handle and the link in use. Only the first time counts. -/
def close : Handling τ Unit := do
  let h := (← get).1
  if h.closed then return
  modify fun s => ({ s.1 with closed := true }, s.2)
  Act.onSecond (closeCurrent h.current)

/-- Whether the handle or the link in use is closed. -/
def isClosed : Handling τ Bool := do
  let h := (← get).1
  if h.closed then return true
  Act.onSecond (isCurrentClosed h.current)

end FailoverHandle

end

end ClusterConnect
