import ClusterConnect.Logging
import ClusterConnect.Network

/-!
# The environment of the driver

Everything that the driver reads and changes outside its own values: the clock, the links, the log,
files, and the settings that hold for all drivers together.

* `Environment`: the state; `Act`: what can be done in a state.
* `record`, `sleep`, `pass`, `warn`: the basic actions.
* `Act.outcome`: an action whose failure is looked at; `Act.onSecond`: an action on one part of a state.

The limit: of what the driver itself puts into its logs only the warnings are modelled. Its notes of
lower levels, on what it is about to do and on failures that it passes over, are left out. Nothing
reads them back; but a log of which the level has been lowered holds them beside what is said here.
-/

namespace ClusterConnect

/-- An action on a state. The state is kept when the action fails. -/
abbrev Act (σ α : Type) := ExceptT Failure (StateM σ) α

namespace Act

variable {σ ρ α β : Type}

/-- Runs an action. -/
def runFrom (a : Act σ α) (s : σ) : Except Failure α × σ := (ExceptT.run a).run s

/-- An action that a function on states describes. -/
def ofFunction (f : σ → Except Failure α × σ) : Act σ α := ExceptT.mk fun s => f s

/-- The outcome of an action as a value. -/
def outcome (a : Act σ α) : Act σ (Except Failure α) :=
  .ofFunction fun s =>
    let r := a.runFrom s
    (.ok r.1, r.2)

/-- The action that has a given outcome. -/
def give (r : Except Failure α) : Act σ α := .ofFunction fun s => (r, s)

/-- An action on the second part of a pair. -/
def onSecond (a : Act ρ α) : Act (σ × ρ) α :=
  .ofFunction fun s =>
    let r := a.runFrom s.2
    (r.1, (s.1, r.2))

/-- Does one action after the other and gives the outcome of the first, whatever comes of the
second, unless the second fails. -/
def followedBy (a : Act σ α) (b : Act σ Unit) : Act σ α := do
  let r ← a.outcome
  b
  give r

@[simp] theorem runFrom_pure (x : α) (s : σ) : (pure x : Act σ α).runFrom s = (.ok x, s) := rfl

@[simp] theorem runFrom_throw (f : Failure) (s : σ) :
    (throw f : Act σ α).runFrom s = (.error f, s) := rfl

@[simp] theorem runFrom_get (s : σ) : (get : Act σ σ).runFrom s = (.ok s, s) := rfl

@[simp] theorem runFrom_set (t s : σ) : (set t : Act σ PUnit).runFrom s = (.ok ⟨⟩, t) := rfl

@[simp] theorem runFrom_modify (f : σ → σ) (s : σ) :
    (modify f : Act σ PUnit).runFrom s = (.ok ⟨⟩, f s) := rfl

@[simp] theorem runFrom_outcome (a : Act σ α) (s : σ) :
    a.outcome.runFrom s = (.ok (a.runFrom s).1, (a.runFrom s).2) := rfl

@[simp] theorem runFrom_give (r : Except Failure α) (s : σ) :
    (give r : Act σ α).runFrom s = (r, s) := rfl

@[simp] theorem runFrom_onSecond (a : Act ρ α) (s : σ × ρ) :
    (onSecond a).runFrom s = ((a.runFrom s.2).1, (s.1, (a.runFrom s.2).2)) := rfl

/-- An action is followed by another one from the state that it leaves, unless it fails. -/
theorem runFrom_bind (a : Act σ α) (k : α → Act σ β) (s : σ) :
    (a >>= k).runFrom s =
      match a.runFrom s with
      | (.ok x, t) => (k x).runFrom t
      | (.error f, t) => (.error f, t) := by
  change StateT.run (m := Id) (ExceptT.bindCont (m := StateM σ) k (a.runFrom s).1) (a.runFrom s).2 = _
  rcases a.runFrom s with ⟨_ | x, t⟩ <;> rfl

theorem runFrom_bind_of_ok {a : Act σ α} {s t : σ} {x : α} (h : a.runFrom s = (.ok x, t))
    (k : α → Act σ β) : (a >>= k).runFrom s = (k x).runFrom t := by
  rw [runFrom_bind, h]

theorem runFrom_bind_of_error {a : Act σ α} {s t : σ} {f : Failure}
    (h : a.runFrom s = (.error f, t)) (k : α → Act σ β) :
    (a >>= k).runFrom s = (.error f, t) := by
  rw [runFrom_bind, h]

theorem runFrom_map (g : α → β) (a : Act σ α) (s : σ) :
    (g <$> a).runFrom s = ((a.runFrom s).1.map g, (a.runFrom s).2) := by
  rw [map_eq_pure_bind, runFrom_bind]
  rcases a.runFrom s with ⟨_ | x, t⟩ <;> rfl

@[simp] theorem runFrom_forM_nil (g : β → Act σ PUnit) (s : σ) :
    (([] : List β).forM g).runFrom s = (.ok ⟨⟩, s) := rfl

theorem runFrom_forM_cons_of_ok {g : β → Act σ PUnit} {x : β} {s t : σ} {u : PUnit}
    (h : (g x).runFrom s = (.ok u, t)) (xs : List β) :
    ((x :: xs).forM g).runFrom s = (xs.forM g).runFrom t :=
  runFrom_bind_of_ok h fun _ => xs.forM g

theorem runFrom_forM_cons_of_error {g : β → Act σ PUnit} {x : β} {s t : σ} {f : Failure}
    (h : (g x).runFrom s = (.error f, t)) (xs : List β) :
    ((x :: xs).forM g).runFrom s = (.error f, t) :=
  runFrom_bind_of_error h fun _ => xs.forM g

end Act

/-- The state of everything around the driver. -/
structure Environment (τ : Type) where
  /-- The time on the clock. -/
  now : τ
  /-- The coming attempts to open a link. -/
  openings : List (Opening τ) := []
  /-- How every attempt beyond those fails. -/
  refusal : Failure := .ofForeign (.system .connectionRefused) "Connection refused"
  /-- The links opened so far. -/
  links : List (Link τ) := []
  /-- What the outside has seen, earliest first. -/
  events : List (Event τ) := []
  /-- On which side of a bounded attempt the driver works at present. -/
  side : Side := .caller
  /-- Whether a link came after its caller's deadline in the attempt at hand. -/
  late : Bool := false
  logging : Logging := {}
  /-- The names of the logs that records have been put into. -/
  logNames : List String := []
  files : FileTree := {}
  /-- What has been printed. -/
  output : String := ""
  /-- What has been printed on the error output. -/
  errorOutput : String := ""
  /-- The time stamp at the front of a log line. -/
  stamp : String := ""
  /-- The name that the user is logged in with, if it is known. -/
  login : Option String := none
  /-- Whether only cluster URLs are accepted where the properties do not decide it. -/
  strict : Bool := false

namespace Environment

variable {τ : Type}

/-- Notes an event. -/
def note (env : Environment τ) (e : Event τ) : Environment τ :=
  { env with events := env.events ++ [e] }

/-- Lets time pass. -/
def elapse [Timeline τ] (env : Environment τ) (span : Option τ) : Environment τ :=
  match span with
  | some t => { env with now := Timeline.add env.now t }
  | none => env

/-- Adds a link behind those opened so far. -/
def addLink (env : Environment τ) (link : Link τ) : Environment τ :=
  { env with links := env.links ++ [link] }

/-- Changes the link with a given number. -/
def changeLink (env : Environment τ) (id : LinkId) (f : Link τ → Link τ) : Environment τ :=
  { env with links := env.links.modify id f }

/-- Prints a line. -/
def print (env : Environment τ) (line : String) : Environment τ :=
  { env with output := env.output ++ line ++ "\n" }

/-- Prints a line on the error output. -/
def complain (env : Environment τ) (line : String) : Environment τ :=
  { env with errorOutput := env.errorOutput ++ line ++ "\n" }

/-- Writes a line where a handler of the log writes to. -/
def deliver (env : Environment τ) (text : String) (h : LogHandler) : Environment τ :=
  match h.file with
  | some location => { env with files := writeLine env.files location text }
  | none => env.complain text

/-- Puts a record into the log called `name`. A log outside the driver's own has no handlers and
the level of the surrounding program. -/
def log (env : Environment τ) (level : Level) (name message : String) : Environment τ :=
  let logging : Logging := if Logging.covers env.logNames name then env.logging else {}
  let env := { env with logNames := name :: env.logNames }
  let text := env.stamp ++ Logging.recordText level name message
  let env := (logging.destinations level).foldl (fun env h => env.deliver text h) env
  if logging.isShownBare level then env.complain message else env

/-! ### What the changes leave as it is -/

@[simp] theorem events_note (env : Environment τ) (e : Event τ) :
    (env.note e).events = env.events ++ [e] := rfl

@[simp] theorem links_note (env : Environment τ) (e : Event τ) :
    (env.note e).links = env.links := rfl

@[simp] theorem openings_note (env : Environment τ) (e : Event τ) :
    (env.note e).openings = env.openings := rfl

@[simp] theorem events_elapse [Timeline τ] (env : Environment τ) (span : Option τ) :
    (env.elapse span).events = env.events := by cases span <;> rfl

@[simp] theorem links_elapse [Timeline τ] (env : Environment τ) (span : Option τ) :
    (env.elapse span).links = env.links := by cases span <;> rfl

@[simp] theorem openings_elapse [Timeline τ] (env : Environment τ) (span : Option τ) :
    (env.elapse span).openings = env.openings := by cases span <;> rfl

@[simp] theorem events_addLink (env : Environment τ) (link : Link τ) :
    (env.addLink link).events = env.events := rfl

@[simp] theorem links_addLink (env : Environment τ) (link : Link τ) :
    (env.addLink link).links = env.links ++ [link] := rfl

@[simp] theorem openings_addLink (env : Environment τ) (link : Link τ) :
    (env.addLink link).openings = env.openings := rfl

@[simp] theorem events_changeLink (env : Environment τ) (id : LinkId) (f : Link τ → Link τ) :
    (env.changeLink id f).events = env.events := rfl

@[simp] theorem openings_changeLink (env : Environment τ) (id : LinkId) (f : Link τ → Link τ) :
    (env.changeLink id f).openings = env.openings := rfl

theorem getElem?_changeLink (env : Environment τ) (id id' : LinkId) (f : Link τ → Link τ) :
    (env.changeLink id f).links[id']? =
      if id = id' then env.links[id']?.map f else env.links[id']? := by
  unfold changeLink
  rw [List.getElem?_modify]
  split <;> simp

theorem getElem?_changeLink_self {env : Environment τ} {id : LinkId} {link : Link τ}
    (h : env.links[id]? = some link) (f : Link τ → Link τ) :
    (env.changeLink id f).links[id]? = some (f link) := by
  rw [getElem?_changeLink, if_pos rfl, h, Option.map_some]

end Environment

variable {τ : Type}

/-- An action on the environment. -/
abbrev Doing (τ α : Type) := Act (Environment τ) α

/-- Notes an event. -/
def record (e : Event τ) : Doing τ Unit := modify (·.note e)

@[simp] theorem runFrom_record (e : Event τ) (env : Environment τ) :
    (record e).runFrom env = (.ok (), env.note e) := rfl

/-- Lets time pass. -/
def pass [Timeline τ] (span : Option τ) : Doing τ Unit := modify (·.elapse span)

@[simp] theorem runFrom_pass [Timeline τ] (span : Option τ) (env : Environment τ) :
    (pass span).runFrom env = (.ok (), env.elapse span) := rfl

/-- Waits without doing anything. -/
def sleep [Timeline τ] (span : τ) : Doing τ Unit := do
  record (.slept span)
  pass (some span)

/-- Prints a line. -/
def say (line : String) : Doing τ Unit := modify (·.print line)

/-- Prints a line on the error output. -/
def complain (line : String) : Doing τ Unit := modify (·.complain line)

/-- Puts a warning into one of the driver's logs. These are the only records of its own that are
modelled. -/
def warn (part message : String) : Doing τ Unit :=
  modify (·.log Level.warning (Logging.rootName ++ "." ++ part) message)

/-- Applies the two properties of the log. -/
def configureLogging (props : Properties) : Doing τ Unit := do
  let env ← get
  let request := (Property.loggerLevel.get? props).map LevelRequest.ofText
  let file := Property.loggerFile.get? props
  let (opened, files) :=
    match env.logging.fileToOpen? request file with
    | some name => openLog env.files name
    | none => (.refused, env.files)
  let (logging, announced, result) :=
    env.logging.configure request (file.map fun name => (name, opened))
  set { env with logging := logging, files := files }
  if announced then complain "Cannot enable FileHandler, fallback to stderr."
  Act.give result

end ClusterConnect
