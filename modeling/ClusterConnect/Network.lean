import ClusterConnect.Endpoint
import ClusterConnect.Properties.Catalogue

/-!
# What the driver does to the outside, and what the outside does to the driver

The driver opens links to servers, sends statements over them and closes them. What comes back is
decided outside. This module has both sides as data.

* `Statement`: what is sent over a link. `OpenRequest`, `DialArguments`: what is asked for when a
  link is opened, by a connector of the application or by the built-in one.
* `Session`, `Reply`, `Closing`, `Opening`: what the outside will do, as a plan for each link.
* `Link`: a link that has been opened.
* `Event`: what the outside has seen.
-/

namespace ClusterConnect

/-! ## Requests -/

/-- What is wanted of a statement. -/
inductive Method where
  | execute
  | fetch
  | fetchrow
  /-- The value in one column of the first row. -/
  | fetchval (column : Int)
deriving Repr, DecidableEq

/-- The name of a method. -/
def Method.name : Method → String
  | .execute => "execute"
  | .fetch => "fetch"
  | .fetchrow => "fetchrow"
  | .fetchval _ => "fetchval"

/-- The method of the given name; `column` is the one that `fetchval` is asked for. -/
def Method.ofName? (name : String) (column : Int) : Option Method :=
  [.execute, .fetch, .fetchrow, .fetchval column].find? (·.name == name)

/-- A statement with its arguments. The caller may hand over any value as the statement itself. -/
structure Statement where
  method : Method
  query : Value
  arguments : List Value
  /-- The time limit, which is handed to the server link as it is. -/
  timeLimit : Value

/-- What a connector of the application is asked for. -/
structure OpenRequest where
  endpoints : List Endpoint
  user : String
  database : String
  properties : Properties
  url : String

/-- What the built-in connector is asked for. A part that the properties leave open is absent. -/
structure DialArguments (τ : Type) where
  hosts : List String
  ports : List Int
  user : Option String
  database : Option String
  password : Option String
  timeLimit : Option τ
  sslMode : Option String
  targetServerType : Option String
  applicationName : Option String

/-! ## Plans -/

/-- What a link answers to one statement. -/
inductive Response where
  /-- The answer that the session gives unless told otherwise. -/
  | standard
  | value (v : Value)
  | failed (failure : Failure)

/-- A response and the time it takes. -/
structure Reply (τ : Type) where
  delay : Option τ := none
  response : Response := .standard

/-- What becomes of closing a link. -/
structure Closing (τ : Type) where
  delay : Option τ := none
  failure : Option Failure := none

/-- The life of a link. -/
structure Session (τ : Type) where
  /-- What the link is called where it matters to tell links apart. -/
  label : String := ""
  /-- The replies to the coming statements. -/
  replies : List (Reply τ) := []
  /-- The answer to every other statement. -/
  standard : Statement → Value := fun _ => .null
  closing : Closing τ := {}

/-- What an attempt to open a link gives. -/
inductive OpenResult (τ : Type) where
  | opened (session : Session τ)
  | failed (failure : Failure)
  /-- No link and no failure. -/
  | nothing

/-- An attempt to open a link. -/
structure Opening (τ : Type) where
  /-- Whether it ends only after a caller with a deadline has stopped waiting for it. -/
  overdue : Bool := false
  delay : Option τ := none
  result : OpenResult τ

/-! ## Links -/

/-- Tells the links apart, in the order in which they were opened. -/
abbrev LinkId := Nat

/-- A link that has been opened. -/
structure Link (τ : Type) where
  session : Session τ
  /-- Whether it comes from the built-in connector. -/
  managed : Bool
  /-- Whether the driver has asked for it to be closed. -/
  released : Bool := false
  /-- Whether the session has ended. -/
  ended : Bool := false

/-! ## Events -/

/-- On which side of a bounded attempt something happens. -/
inductive Side where
  | caller
  | worker
deriving Repr, DecidableEq

/-- What the outside sees of the driver. -/
inductive Event (τ : Type) where
  /-- A connector of the application is asked for a link. -/
  | requested (request : OpenRequest) (side : Side)
  /-- The built-in connector is asked for a link. -/
  | dialed (arguments : DialArguments τ)
  /-- A manager of the application is asked to look after a cluster connection. -/
  | entrusted (endpoint : Endpoint) (properties : Properties) (url : String)
  /-- A manager of the application is asked for a replacement. -/
  | replacementAsked (cause : Failure)
  /-- A link has been handed over to the driver. -/
  | opened (link : LinkId)
  | sent (link : LinkId) (statement : Statement)
  | closed (link : LinkId)
  /-- A link is dropped without ceremony. -/
  | terminated (link : LinkId)
  | slept (span : τ)
  /-- A command is run, with a text as its input if there is one. An argument that has no value is
  `none`. -/
  | ran (command : List (Option String)) (input : Option String)
  /-- A caller waits for a worker, for at most the given time. -/
  | waited (limit : Option τ)

end ClusterConnect
