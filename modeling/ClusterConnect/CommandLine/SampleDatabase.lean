import ClusterConnect.CommandLine.Arguments
import ClusterConnect.Configuration
import ClusterConnect.Environment

/-!
# The command that sets up a sample database

Starts a database server in a container, fills it with sample data, and stores the credentials in a
configuration file.

* `Docker`: what the container commands will answer.
* `SampleDatabase`: what is asked for; `SampleDatabase.read` takes it from the arguments.
* `SampleDatabase.run`: the exit code, after everything has been done.
-/

namespace ClusterConnect

variable {τ : Type}

/-- What the container commands will answer. -/
structure Docker where
  installed : Bool := true
  /-- The list of the containers with the name asked for. -/
  listing : String := ""
  /-- The exit codes of the coming checks whether the server is ready; later ones succeed. -/
  readiness : List Int := []
  /-- The command that fails where failures matter. -/
  failing : Option String := none

/-- An action with containers. -/
abbrev Containing (τ α : Type) := Act (Docker × Environment τ) α

/-- What is asked of the command. An option that is given without a value leaves `none`. -/
structure SampleDatabase where
  container : Option String := some "pgaws-sample-db"
  port : Option Int := some 5543
  password : Option String := some "pgaws"
  database : Option String := some "pgaws_demo"
  user : Option String := some "pgaws"
deriving Repr, DecidableEq

namespace SampleDatabase

open CommandLine

/-- The port that a text says. -/
def setPort (s : Option String) (d : SampleDatabase) : Option SampleDatabase :=
  match s with
  | none => some { d with port := none }
  | some s => (Number.integer? s.toList).map fun port => { d with port := some port }

/-- The arguments of the command. -/
def grammar : Grammar SampleDatabase where
  options :=
    [("-h", .help), ("--help", .help),
     ("--container", .value fun s d => some { d with container := s }),
     ("--port", .value setPort),
     ("--password", .value fun s d => some { d with password := s }),
     ("--database", .value fun s d => some { d with database := s }),
     ("--user", .value fun s d => some { d with user := s })]

/-- What a list of arguments asks for. -/
def read (arguments : List String) : Except Ending SampleDatabase := grammar.read {} arguments

/-! ## Container commands -/

/-- The image that the server is started from. -/
def image : String := "postgres:16-alpine"

/-- The statements that fill the database. -/
def seed : String :=
  "CREATE TABLE IF NOT EXISTS endpoints (\n    id SERIAL PRIMARY KEY,\n    host TEXT NOT NULL,\n" ++
  "    role TEXT NOT NULL DEFAULT 'writer'\n);\nINSERT INTO endpoints (host, role) VALUES\n" ++
  "    ('cluster-a.local', 'writer'),\n    ('cluster-b.local', 'reader')\nON CONFLICT DO NOTHING;"

/-- What an option stands for inside a text. -/
def shown (value : Option String) : String := value.getD "[]"

/-- The port inside a text. -/
def portText (d : SampleDatabase) : String := shown (d.port.map Text.integerText)

/-- The arguments of a container command; `none` stands for an option without a value. -/
abbrev Command := List (Option String)

/-- Runs a container command without looking at its exit code. -/
def invoke (arguments : Command) (input : Option String) : Containing τ Unit := do
  Act.onSecond (record (.ran (some "docker" :: arguments) input))
  if !(← get).1.installed then throw FileFault.notFound.failure

/-- Runs a container command that has to succeed. -/
def insist (arguments : Command) (input : Option String) : Containing τ Unit := do
  invoke arguments input
  if arguments.head? = some (← get).1.failing then throw (.ofForeign .failedCommand "docker")

/-- Shows a container command before it is run. An option without a value cannot be shown. -/
def announce (arguments : Command) : Containing τ Unit :=
  match arguments.mapM id with
  | none => throw (.ofForeign .wrongType "an argument without a value")
  | some texts => Act.onSecond (say (" ".intercalate ("$" :: "docker" :: texts)))

/-- Whether there is a container with the name asked for. -/
def containerExists (d : SampleDatabase) : Containing τ Bool := do
  invoke (["ps", "-a", "--filter", "name=" ++ shown d.container, "--format",
    "\x7b\x7b.ID\x7d\x7d"].map some) none
  return !(Text.strip Text.isBlank (← get).1.listing.toList).isEmpty

/-- The command that starts a new container. -/
def startCommand (d : SampleDatabase) : Command :=
  ["run", "-d", "--name", d.container, "-e", some ("POSTGRES_PASSWORD=" ++ shown d.password), "-e",
   some ("POSTGRES_DB=" ++ shown d.database), "-e", some ("POSTGRES_USER=" ++ shown d.user), "-p",
   some (d.portText ++ ":5432"), image]

/-- Whether the server is ready. -/
def isReady (d : SampleDatabase) : Containing τ Bool := do
  invoke ["exec", d.container, "pg_isready", "-U", d.user] none
  let docker := (← get).1
  modify fun s => ({ s.1 with readiness := s.1.readiness.tail }, s.2)
  return docker.readiness.headD 0 = 0

/-- Waits until the server is ready, for a given number of checks with a second between them. -/
def awaitReadiness [Timeline τ] (d : SampleDatabase) : (checks : Nat) → Containing τ Unit
  | 0 =>
    Act.onSecond (say "Warning: database did not report ready state; continuing anyway.")
  | checks + 1 => do
    if ← d.isReady then return
    Act.onSecond (sleep Timeline.second)
    d.awaitReadiness checks

/-- Starts the container, which may exist already. -/
def startContainer [Timeline τ] (d : SampleDatabase) : Containing τ Unit := do
  if ← d.containerExists then
    Act.onSecond (say ("Container '" ++ shown d.container ++ "' already exists. Reusing it."))
    announce ["start", d.container]
    invoke ["start", d.container] none
  else
    announce d.startCommand
    insist d.startCommand none
  d.awaitReadiness 15

/-- Fills the database. -/
def seedData (d : SampleDatabase) : Containing τ Unit := do
  let command : Command := ["exec", "-i", d.container, "psql", "-U", d.user, "-d", d.database, "-v",
    "ON_ERROR_STOP=1"]
  announce command
  insist command (some seed)

/-! ## Credentials -/

/-- Properties with the credentials in place of any other. -/
def withCredentials (d : SampleDatabase) (p : Properties) : Properties :=
  (p.insert Property.user.name (shown d.user)).insert Property.password.name (shown d.password)

/-- The properties in the configuration file, if there is one. An unreadable file is announced and
left out of account. -/
def storedProperties (file : Path) : Doing τ Properties := do
  let files := (← get).files
  match files.isFile file with
  | .error f => throw f.failure
  | .ok false => return .empty
  | .ok true =>
    match Configuration.load files file with
    | .ok p => return p
    | .error f =>
      if f.isKind .config then
        say ("Ignoring unreadable " ++ file.text ++ ": " ++ f.text)
        return .empty
      else throw f

/-- Stores the credentials in the configuration file. -/
def storeCredentials (d : SampleDatabase) (file : Path) : Doing τ Unit := do
  let p ← storedProperties file
  let (result, files) := Configuration.save (← get).files file (d.withCredentials p)
  modify fun env => { env with files := files }
  Act.give result
  say ("Stored sample credentials in " ++ file.text ++ ".")

/-- Whether a failure says that there is no container command. -/
def isNotInstalled (f : Failure) : Bool :=
  match f with
  | .foreign e => e.kind = .system .notFound
  | .driver _ => false

/-- Does what is asked for and gives the exit code. -/
def run [Timeline τ] (file : Path) (d : SampleDatabase) : Containing τ Nat := do
  let prepare : Containing τ Unit := do
    d.startContainer
    d.seedData
  match ← prepare.outcome with
  | .error f =>
    if isNotInstalled f then
      Act.onSecond (say "Docker is not installed or not on PATH.")
      return 1
    else throw f
  | .ok () =>
    Act.onSecond (d.storeCredentials file)
    Act.onSecond (say ("Sample database is ready. Try: pgaws postgresql://localhost:" ++
      d.portText ++ "/" ++ shown d.database ++ " --connect"))
    return 0

end SampleDatabase

end ClusterConnect
