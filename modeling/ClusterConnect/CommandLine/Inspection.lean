import ClusterConnect.CommandLine.Arguments
import ClusterConnect.Driver

/-!
# The command that inspects a URL

Shows the properties that a URL resolves to, and on request opens a connection and runs a statement
over it. Passwords are not shown.

* `Inspection`: what is asked for; `Inspection.read` takes it from the arguments.
* `Inspection.run`: the exit code, after everything has been printed.
-/

namespace ClusterConnect

variable {τ : Type}

/-- What is asked of the command. -/
structure Inspection where
  url : String := ""
  /-- Properties as written on the command line, in order. One without a value is `none`. -/
  settings : List (Option String) := []
  strict : Bool := false
  connect : Bool := false
  /-- The statement to run, `none` if it is given without a value. -/
  query : Option String := some "SELECT version()"
deriving Repr, DecidableEq

namespace Inspection

open CommandLine

/-- One more property. -/
def addSetting (s : Option String) (i : Inspection) : Option Inspection :=
  some { i with settings := i.settings ++ [s] }

/-- The arguments of the command. -/
def grammar : Grammar Inspection where
  options :=
    [("-h", .help), ("--help", .help), ("-s", .value addSetting), ("--set", .value addSetting),
     ("--strict", .switch fun i => { i with strict := true }),
     ("--connect", .switch fun i => { i with connect := true }),
     ("--query", .value fun s i => some { i with query := s })]
  positionals := [fun s i => { i with url := s }]

/-- What a list of arguments asks for. -/
def read (arguments : List String) : Except Ending Inspection := grammar.read {} arguments

/-- The name and the value in a property as written, which an equals sign separates. -/
def parseSetting (s : String) : Option (String × String) :=
  match Text.cut '=' s.toList with
  | (name, some value) =>
    if name.isEmpty then none else some (String.ofList name, String.ofList value)
  | (_, none) => none

/-- The properties as written, or the first one that is not well formed. -/
def parseSettings : List (Option String) → Except (Option String) (List (String × String))
  | [] => .ok []
  | s :: rest =>
    match s.bind parseSetting with
    | none => .error s
    | some e => (parseSettings rest).map (e :: ·)

/-- The names of the properties whose values are not shown. -/
def masked : List String := [Property.password.name]

/-- A property as it is shown. -/
def line (e : String × String) : String :=
  e.1 ++ " = " ++ if masked.contains e.1 then "****" else e.2

/-- Runs the statement and shows the value, and closes the connection in any case. -/
def runQuery [Timeline τ] (query : Value) (c : Connection τ) : Doing τ Unit :=
  .ofFunction fun env =>
    let query : Using τ Unit := do
      let v ← Connection.call ⟨.fetchval 0, query, [], .null⟩
      Act.onSecond (say v.asText)
    let r := (query.followedBy Connection.close).runFrom (c, env)
    (r.1, r.2.2)

/-- Shows the error of a step, unless it is not one of the driver's. -/
def report (describe : DriverError → String) (f : Failure) : Doing τ Nat := do
  match f with
  | .driver e =>
    complain (describe e)
    return 1
  | .foreign _ => throw f

/-- Connects and runs the statement. -/
def tryConnection [Timeline τ] (d : Driver) (registryLimit : τ) (i : Inspection)
    (overrides : Overrides) : Doing τ Nat := do
  match ← d.connect registryLimit (some i.url) overrides with
  | none =>
    complain "driver declined the URL"
    return 2
  | some c =>
    runQuery (i.query.elim (.list []) .text) c
    return 0

/-- Shows the properties and, if that is asked for, goes on to connect. -/
def display [Timeline τ] (d : Driver) (registryLimit : τ) (i : Inspection) (overrides : Overrides)
    (props : Properties) : Doing τ Nat := do
  props.sorted.forM fun e => say (line e)
  if i.connect then
    match ← (i.tryConnection d registryLimit overrides).outcome with
    | .ok code => return code
    | .error f => report (fun e => "error [" ++ e.state.code ++ "]: " ++ e.message) f
  else return 0

/-- Resolves the properties, with the defaults loaded first. -/
def resolveProperties [Timeline τ] (d : Driver) (i : Inspection) (overrides : Overrides) :
    Doing τ (Option Properties) := do
  Driver.resolveLogged (some i.url) overrides (← d.defaults)

/-- Does what is asked for and gives the exit code. Failures that are not the driver's end the
command. -/
def run [Timeline τ] (d : Driver) (registryLimit : τ) (i : Inspection) : Doing τ Nat := do
  if i.strict then modify fun env => { env with strict := true }
  match parseSettings i.settings with
  | .error none => throw (.ofForeign .missingMember "a property without a value")
  | .error (some s) =>
    complain ("Expected KEY=VALUE, got '" ++ s ++ "'")
    return 2
  | .ok es =>
    let overrides := Overrides.ofProperties (.ofList es)
    match ← (i.resolveProperties d overrides).outcome with
    | .error f => report (fun e => "error: " ++ e.message) f
    | .ok none =>
      complain ("not a pgaws URL: " ++ i.url)
      return 2
    | .ok (some props) => i.display d registryLimit overrides props

end Inspection

end ClusterConnect
