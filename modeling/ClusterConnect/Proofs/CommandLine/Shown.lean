import ClusterConnect.Proofs.CommandLine.Settings
import ClusterConnect.Proofs.CommandLine.Unreadable
import ClusterConnect.Proofs.Driver.Requests
import ClusterConnect.Proofs.Link.Extension
import ClusterConnect.Proofs.Resolution.Projection

/-!
# What the command shows is what it connects with

The command resolves the properties and shows them. To connect, it hands the same URL and the same
properties to the driver, which resolves them for itself. Then the properties go through a time limit,
a worker, a manager and perhaps some replacements before a link is asked for. Here the two ends are
compared.

* `Connection.AsksOnly`: what may still be asked for on behalf of a connection; `Connects`: what was
  asked for on the way to one.
* `Driver.connects_makeConnection` up to `Driver.connects_connect`: requests have the properties that
  were resolved, however often they are passed on.
* `Inspection.run_of_ill_formed`, `run_of_separator`, `run_of_fault`: a run that comes to a fault before
  it has shown anything. `run_of_answer`, `extends_run`: what it does otherwise.
* `Inspection.shows_what_it_asks_for`: the two ends, and when the command refuses to go on.
-/

namespace ClusterConnect

open Act Environment

variable {τ : Type} [Timeline τ] {P : Event τ → Prop}

/-! ## Connections -/

namespace Connection

/-- Whatever is asked for on behalf of a connection is of a given kind. -/
def AsksOnly (P : Event τ → Prop) : Connection τ → Prop
  | .direct _ => True
  | .failover h => ∃ m, h.supervisor = .manager m ∧ ∀ side, P (m.ask side)

/-- The use of a connection asks for nothing else, even if its link is replaced. -/
theorem AsksOnly.call {c : Connection τ} (h : c.AsksOnly P) (q : Statement)
    (env : Environment τ) :
    let s := ((Connection.call q).runFrom (c, env)).2
    s.1.AsksOnly P ∧ Extends P env s.2 := by
  cases c with
  | direct id => exact ⟨trivial, extends_send id q env⟩
  | failover handle =>
    obtain ⟨m, hm, hasks⟩ := h
    obtain ⟨hm', hextends⟩ := FailoverHandle.extends_call (s := (handle, env)) hm hasks q
    exact ⟨⟨m, hm', hasks⟩, hextends⟩

theorem extends_close (c : Connection τ) (env : Environment τ) :
    Extends P env (close.runFrom (c, env)).2.2 := by
  cases c with
  | direct id => exact extends_closeLink id env
  | failover handle => exact FailoverHandle.extends_close (s := (handle, env))

theorem extends_dispose (c : Connection τ) : Within (Extends P) (dispose c) :=
  fun env => extends_close c env

end Connection

/-- On the way to an answer, nothing was asked for that is not of a given kind, and nothing else will
be on behalf of the connection, if the answer is one. -/
structure Connects (P : Event τ → Prop) (env : Environment τ)
    (r : Except Failure (Option (Connection τ)) × Environment τ) : Prop where
  extended : Extends P env r.2
  asksOnly : ∀ c, r.1 = .ok (some c) → c.AsksOnly P

namespace Driver

variable {d : Driver}

/-- The event of a request for a connection with resolved properties. For a cluster URL only the
first endpoint counts. -/
def IsRequest (d : Driver) (url : String) (props : Properties) (e : Event τ) : Prop :=
  ∃ endpoints side, props.endpoints = .ok endpoints ∧
    e = d.connector.ask
      ⟨if Mode.ofUrl url = .clusterAware then endpoints.take 1 else endpoints, props.user,
        props.database, props, url⟩ side

theorem connects_makeClusterConnection (hd : d.IsStandard) {url : String}
    (hurl : Mode.ofUrl url = .clusterAware) (props : Properties) (env : Environment τ) :
    Connects (d.IsRequest url props) env ((d.makeClusterConnection url props).runFrom env) := by
  unfold makeClusterConnection
  cases hendpoints : props.endpoints with
  | error f => exact ⟨Std.Refl.refl env, nofun⟩
  | ok endpoints =>
    cases endpoints with
    | nil => exact ⟨Std.Refl.refl env, nofun⟩
    | cons endpoint rest =>
      let m : Manager τ := ⟨endpoint, props, url, .builtin, Timeline.second⟩
      have hsupervisor : d.supervisor endpoint props url = pure (.manager m) := by
        unfold supervisor
        rw [hd.managers, hd.connector]
      have hasks : ∀ side, d.IsRequest url props (m.ask side) := by
        intro side
        refine ⟨endpoint :: rest, side, hendpoints, ?_⟩
        rw [if_pos hurl, hd.connector]
        rfl
      have hextends : Extends (d.IsRequest url props) env
          ((FailoverHandle.connect (.manager m)).runFrom env).2 :=
        (Manager.extends_connect hasks).bind (fun _ => within_pure _) env
      -- whatever link the new handle gets, it keeps the manager that it was made for
      have hsup : ∀ h, ((FailoverHandle.connect (.manager m)).runFrom env).1 = .ok h →
          h.supervisor = .manager m := by
        intro h hh
        unfold FailoverHandle.connect at hh
        rw [runFrom_bind] at hh
        split at hh
        · exact (Except.ok.inj hh) ▸ rfl
        · cases hh
      dsimp only
      rw [hsupervisor, pure_bind, runFrom_bind]
      generalize (FailoverHandle.connect (.manager m)).runFrom env = answer at hextends hsup ⊢
      rcases answer with ⟨f | h, env'⟩
      · exact ⟨hextends, nofun⟩
      · dsimp only
        split
        · refine ⟨hextends, ?_⟩
          rintro c ⟨⟩
          exact ⟨m, hsup h rfl, hasks⟩
        · refine ⟨hextends, ?_⟩
          intro c hc
          cases hcurrent : h.current with
          | none => rw [hcurrent] at hc; cases hc
          | some id => rw [hcurrent] at hc; cases hc; exact trivial

theorem connects_makeConnection (hd : d.IsStandard) (url : String) (props : Properties)
    (env : Environment τ) :
    Connects (d.IsRequest url props) env ((d.makeConnection (some url) props).runFrom env) := by
  unfold makeConnection
  dsimp only
  split
  · next hurl => exact connects_makeClusterConnection hd hurl props env
  · next hurl =>
    rw [runFrom_bind_of_ok (runFrom_get env)]
    split
    · exact ⟨Std.Refl.refl env, nofun⟩
    · cases hendpoints : props.endpoints with
      | error f => exact ⟨Std.Refl.refl env, nofun⟩
      | ok endpoints =>
        let r : OpenRequest := ⟨endpoints, props.user, props.database, props, url⟩
        have hasks : ∀ side, d.IsRequest url props (d.connector.ask r side : Event τ) := by
          intro side
          refine ⟨endpoints, side, hendpoints, ?_⟩
          rw [if_neg hurl]
        have hopened := extends_openLink hasks env
        dsimp only
        rw [bind_pure_comp, runFrom_map]
        generalize (openLink d.connector r).runFrom env = answer at hopened ⊢
        rcases answer with ⟨f | _ | id, env'⟩
        · exact ⟨hopened, nofun⟩
        · exact ⟨hopened, nofun⟩
        · refine ⟨hopened, ?_⟩
          rintro c ⟨⟩
          exact trivial

/-- A connection that came too late is closed, and closing it asks for nothing. -/
theorem connects_awaitJob (hd : d.IsStandard) (url : String) (props : Properties) (timeLimit : τ)
    (env : Environment τ) :
    Connects (d.IsRequest url props) env
      ((awaitJob (d.job (some url) props) timeLimit).runFrom env) := by
  let begun : Environment τ := { env with side := .worker, late := false }
  have hbegun : Extends (d.IsRequest url props) env begun := .of_eq rfl rfl
  have hmade := connects_makeConnection hd url props begun
  have hback : ∀ e : Environment τ, Extends (d.IsRequest url props) e { e with side := .caller } :=
    fun _ => .of_eq rfl rfl
  rw [runFrom_awaitJob]
  have hconnect : (d.job (some url) props).connect =
      (d.makeConnection (some url) props : Doing τ (Option (Connection τ))) := rfl
  rw [hconnect]
  generalize (d.makeConnection (some url) props).runFrom { env with side := .worker, late := false } =
    r at hmade ⊢
  dsimp only
  have hworked := IsTrans.trans _ _ _ hbegun hmade.extended
  cases hlate : r.2.late && hasDeadline timeLimit with
  | true =>
    -- the caller has left, so the worker closes what it has made
    have hleft : Extends (d.IsRequest url props) r.2
        (((d.job (some url) props).discard r.1).runFrom r.2).2 := by
      obtain ⟨f | _ | c, env'⟩ := r
      · exact Std.Refl.refl env'
      · exact Std.Refl.refl env'
      · rw [BoundedWait.runFrom_discard]
        exact c.extends_dispose env'
    exact ⟨IsTrans.trans _ _ _ hworked (IsTrans.trans _ _ _ hleft (hback _)), nofun⟩
  | false =>
    simp only [Bool.false_or, Bool.false_eq_true, if_false]
    refine ⟨IsTrans.trans _ _ _ hworked (hback _), ?_⟩
    intro c hc
    split at hc
    · cases hc
    · obtain ⟨f | _ | c', env'⟩ := r
      · cases hc
      · cases hc
      · cases hc
        exact hmade.asksOnly c rfl

theorem connects_establish (hd : d.IsStandard) (registryLimit : τ) (url : String)
    (props : Properties) (env : Environment τ) :
    Connects (d.IsRequest url props) env
      ((d.establish awaitJob registryLimit url props).runFrom env) := by
  have hlogged := extends_configureLogging (P := d.IsRequest url props) props env
  unfold establish
  rw [runFrom_bind]
  generalize (configureLogging props).runFrom env = answer at hlogged ⊢
  rcases answer with ⟨f | u, mid⟩
  · exact ⟨hlogged, nofun⟩
  · obtain ⟨limit, env', hrun, -⟩ := runFrom_loginTimeLimit registryLimit props mid
    have hwarned : Within (Extends (d.IsRequest url props)) (loginTimeLimit registryLimit props) :=
      (extends_warnUnreadable _ _ _).bind fun _ => within_pure _
    have hlimit := hwarned mid
    rw [hrun] at hlimit
    dsimp only
    rw [runFrom_bind_of_ok hrun]
    have hready := IsTrans.trans _ _ _ hlogged hlimit
    unfold connectWithin
    split
    · have hend := connects_awaitJob hd url props limit env'
      exact ⟨IsTrans.trans _ _ _ hready hend.extended, hend.asksOnly⟩
    · have hend := connects_makeConnection hd url props env'
      exact ⟨IsTrans.trans _ _ _ hready hend.extended, hend.asksOnly⟩

/-- The driver resolves the properties once, and whatever it asks for has these. -/
theorem connects_connect (hd : d.IsStandard) {url : String} {info : Overrides} {props : Properties}
    {env : Environment τ} (h : d.resolved? url info env = some props) (registryLimit : τ) :
    Connects (d.IsRequest url props) env
      ((d.connect registryLimit (some url) info).runFrom env) := by
  have hend := connects_establish hd registryLimit url props env
  unfold connect
  rw [runFrom_connectBy_of_some h]
  refine ⟨hend.extended, ?_⟩
  intro c hc
  rcases hanswer : ((d.establish awaitJob registryLimit url props).runFrom env).1 with f | answer <;>
    rw [hanswer] at hc
  · cases hc
  · exact hend.asksOnly c (hanswer.trans hc)

end Driver

/-! ## The command -/

namespace Inspection

variable {i : Inspection} {d : Driver} {env : Environment τ} {overrides : Overrides}
variable {props defaults : Properties}

/-- The statement is sent over the connection, its answer is printed, and the connection is closed. -/
theorem extends_runQuery (query : Value) {c : Connection τ} (h : c.AsksOnly P) :
    Within (Extends P) (runQuery query c) := by
  intro env
  let shown : Using τ Unit := do
    let v ← Connection.call ⟨.fetchval 0, query, [], .null⟩
    onSecond (say v.asText)
  have hshown : Extends P env (shown.runFrom (c, env)).2.2 := by
    obtain ⟨-, hcall⟩ := h.call ⟨.fetchval 0, query, [], .null⟩ env
    dsimp only [shown]
    rw [runFrom_bind]
    generalize (Connection.call ⟨.fetchval 0, query, [], .null⟩).runFrom (c, env) = answer at hcall ⊢
    rcases answer with ⟨f | v, s⟩
    · exact hcall
    · exact IsTrans.trans _ _ _ hcall (.print v.asText)
  show Extends P env ((shown.followedBy Connection.close).runFrom (c, env)).2.2
  rw [state_followedBy]
  exact IsTrans.trans _ _ _ hshown (Connection.extends_close _ _)

theorem extends_tryConnection (hd : d.IsStandard) (registryLimit : τ)
    (h : d.resolved? i.url overrides env = some props) :
    Extends (d.IsRequest i.url props) env
      ((i.tryConnection d registryLimit overrides).runFrom env).2 := by
  obtain ⟨hextended, hasks⟩ := Driver.connects_connect hd h registryLimit
  unfold tryConnection
  rw [runFrom_bind]
  generalize (d.connect registryLimit (some i.url) overrides).runFrom env = answer at hextended hasks ⊢
  rcases answer with ⟨f | _ | c, env'⟩
  · exact hextended
  · have hdeclined : Within (Extends (d.IsRequest i.url props))
        (complain "driver declined the URL" >>= fun _ => pure 2 : Doing τ Nat) :=
      (extends_complain _).bind fun _ => within_pure 2
    exact IsTrans.trans _ _ _ hextended (hdeclined env')
  · have hquery : Within (Extends (d.IsRequest i.url props))
        (runQuery (i.query.elim (.list []) .text) c >>= fun _ => pure 0 : Doing τ Nat) :=
      (extends_runQuery _ (hasks c rfl)).bind fun _ => within_pure 0
    exact IsTrans.trans _ _ _ hextended (hquery env')

omit [Timeline τ] in
theorem extends_report (describe : DriverError → String) (f : Failure) :
    Within (Extends P) (report describe f : Doing τ Nat) := by
  cases f with
  | driver e => exact (extends_complain _).bind fun _ => within_pure 1
  | foreign e => exact within_throw _

/-- The properties are printed first, and whatever is asked for after that has them. -/
theorem extends_display (hd : d.IsStandard) (registryLimit : τ)
    (h : d.resolved? i.url overrides env = some props) :
    Extends (d.IsRequest i.url props)
      { env with
        output := env.output ++ String.join (props.sorted.map fun e => line e ++ "\n") }
      ((i.display d registryLimit overrides props).runFrom env).2 := by
  unfold display
  rw [runFrom_bind_of_ok (runFrom_sayAll props.sorted env)]
  generalize hshown : ({ env with
    output := env.output ++ String.join (props.sorted.map fun e => line e ++ "\n") } :
      Environment τ) = shown
  -- what has been printed has no part in the second resolution
  have hagain : d.resolved? i.url overrides shown = some props := by
    rw [← hshown]
    exact h
  split
  · have htried := extends_tryConnection hd registryLimit hagain
    rw [runFrom_bind_of_ok (runFrom_outcome _ _)]
    generalize (i.tryConnection d registryLimit overrides).runFrom shown = answer at htried ⊢
    rcases answer with ⟨f | code, env'⟩
    · exact IsTrans.trans _ _ _ htried (extends_report _ f env')
    · exact htried
  · exact Std.Refl.refl shown

/-! ### The course of a run -/

section

variable {es : List (String × String)}

/-- A property that is not well formed is shown. -/
theorem run_of_ill_formed {s : String} (h : parseSettings i.settings = .error (some s))
    (d : Driver) (registryLimit : τ) (env : Environment τ) :
    (i.run d registryLimit).runFrom env =
      (.ok 2, (i.begun env).complain ("Expected KEY=VALUE, got '" ++ s ++ "'")) := by
  unfold run begun
  cases i.strict <;> rw [h] <;> rfl

/-- A property that is missing altogether ends the run without a code. -/
theorem run_of_separator (h : parseSettings i.settings = .error none) (d : Driver)
    (registryLimit : τ) (env : Environment τ) :
    (i.run d registryLimit).runFrom env =
      (.error (.ofForeign .missingMember "a property without a value"), i.begun env) := by
  unfold run begun
  cases i.strict <;> rw [h] <;> rfl

/-- What is done with the answer of a resolution that ends without a fault. -/
theorem run_of_answer {answer : Option Properties} (hes : parseSettings i.settings = .ok es)
    (hdefaults : Configuration.defaults env.files env.login d.configFiles = .ok defaults)
    (h : resolve (some i.url) (.ofProperties (.ofList es)) defaults (i.strict || env.strict) =
      .ok answer) (registryLimit : τ) :
    (i.run d registryLimit).runFrom env =
      match answer with
      | none => (.ok 2, (i.begun env).complain ("not a pgaws URL: " ++ i.url))
      | some props =>
        (i.display d registryLimit (.ofProperties (.ofList es)) props).runFrom (i.begun env) := by
  have hlogged : (Driver.resolveLogged (some i.url) (.ofProperties (.ofList es)) defaults).runFrom
      (i.begun env) = (.ok answer, i.begun env) := Driver.runFrom_resolveLogged_of_ok h
  rw [runFrom_run_of_defaults hes hdefaults, hlogged]
  cases answer <;> rfl

theorem extends_run (hd : d.IsStandard) (hes : parseSettings i.settings = .ok es)
    (hdefaults : Configuration.defaults env.files env.login d.configFiles = .ok defaults)
    (h : resolve (some i.url) (.ofProperties (.ofList es)) defaults (i.strict || env.strict) =
      .ok (some props)) (registryLimit : τ) :
    Extends (d.IsRequest i.url props)
      { i.begun env with
        output := env.output ++ String.join (props.sorted.map fun e => line e ++ "\n") }
      ((i.run d registryLimit).runFrom env).2 := by
  have hresolved : d.resolved? i.url (.ofProperties (.ofList es)) (i.begun env) = some props :=
    Driver.resolved?_eq_some_iff.mpr ⟨defaults, hdefaults, h⟩
  rw [run_of_answer hes hdefaults h]
  exact extends_display hd registryLimit hresolved

omit [Timeline τ] in
theorem output_resolveLogged (url : Option String) (overrides : Overrides) (defaults : Properties)
    (env : Environment τ) :
    ((Driver.resolveLogged url overrides defaults).runFrom env).2.output = env.output := by
  cases h : resolve url overrides defaults env.strict with
  | ok p =>
    unfold Driver.resolveLogged
    rw [runFrom_bind_of_ok (runFrom_get env), h]
    rfl
  | error f =>
    rw [Driver.runFrom_resolveLogged_of_fault env h]
    exact env.output_warned f

theorem run_of_fault {f : ResolutionFault} (hes : parseSettings i.settings = .ok es)
    (hdefaults : Configuration.defaults env.files env.login d.configFiles = .ok defaults)
    (h : resolve (some i.url) (.ofProperties (.ofList es)) defaults (i.strict || env.strict) =
      .error f) (registryLimit : τ) :
    let final := (i.run d registryLimit).runFrom env
    final.1 ≠ .ok 2 ∧ final.2.events = env.events ∧ final.2.output = env.output := by
  intro final
  have hsilent := output_resolveLogged (some i.url) (.ofProperties (.ofList es)) defaults (i.begun env)
  have hfault : resolve (some i.url) (.ofProperties (.ofList es)) defaults (i.begun env).strict =
      .error f := h
  obtain ⟨env', hlogged, hquiet⟩ := Driver.runFrom_resolveLogged_of_error hfault
  have hrun : final = (report (fun e => "error: " ++ e.message) f.failure).runFrom env' := by
    show (i.run d registryLimit).runFrom env = _
    rw [runFrom_run_of_defaults hes hdefaults, hlogged]
  rw [hlogged] at hsilent
  rw [hrun]
  cases f.failure with
  | driver e => exact ⟨by rintro ⟨⟩, hquiet.events, hsilent⟩
  | foreign e => exact ⟨nofun, hquiet.events, hsilent⟩

end

/-! ### The two ends -/

/-- What prints anything or asks for a link has come to properties. -/
theorem resolved_of_shown (hdefaults : Configuration.defaults env.files env.login d.configFiles =
      .ok defaults) {registryLimit : τ}
    (h : requests (env.since ((i.run d registryLimit).runFrom env).2) ≠ [] ∨
      ((i.run d registryLimit).runFrom env).2.output ≠ env.output) :
    ∃ es p, parseSettings i.settings = .ok es ∧
      resolve (some i.url) (.ofProperties (.ofList es)) defaults (i.strict || env.strict) =
        .ok (some p) := by
  have hquiet : ∀ final : Environment τ, final.events = env.events → final.output = env.output →
      ¬ (requests (env.since final) ≠ [] ∨ final.output ≠ env.output) := by
    rintro final hevents houtput (hasked | hprinted)
    · rw [Environment.since_eq (hevents.trans (List.append_nil _).symm)] at hasked
      exact hasked rfl
    · exact hprinted houtput
  rcases hes : parseSettings i.settings with (_ | s) | es
  · rw [run_of_separator hes] at h
    exact absurd h (hquiet _ rfl rfl)
  · rw [run_of_ill_formed hes] at h
    exact absurd h (hquiet _ rfl rfl)
  · rcases hresolve : resolve (some i.url) (.ofProperties (.ofList es)) defaults
      (i.strict || env.strict) with f | _ | p
    · obtain ⟨-, hevents, houtput⟩ := run_of_fault hes hdefaults hresolve registryLimit
      exact absurd h (hquiet _ hevents houtput)
    · rw [run_of_answer hes hdefaults hresolve] at h
      exact absurd h (hquiet _ rfl rfl)
    · exact ⟨es, p, rfl, hresolve⟩

/-- A run that shows properties prints something. -/
theorem output_ne_of_resolved {es : List (String × String)} (hd : d.IsStandard)
    (hes : parseSettings i.settings = .ok es)
    (hdefaults : Configuration.defaults env.files env.login d.configFiles = .ok defaults)
    (h : resolve (some i.url) (.ofProperties (.ofList es)) defaults (i.strict || env.strict) =
      .ok (some props)) (registryLimit : τ) :
    ((i.run d registryLimit).runFrom env).2.output ≠ env.output := by
  obtain ⟨given, -, hparse⟩ := parseUrl_of_resolve h
  obtain ⟨more, hmore⟩ := (extends_run hd hes hdefaults h registryLimit).output
  have hne := (isListing_sorted props).ne_empty (contains_host_of_parseUrl hparse)
  intro hsame
  refine hne ?_
  have htexts := congrArg String.toList (hsame.symm.trans hmore)
  rw [String.toList_append, String.toList_append, List.append_assoc] at htexts
  have hnothing := List.append_eq_nil_iff.mp (List.self_eq_append_right.mp htexts)
  exact String.toList_eq_nil_iff.mp hnothing.1

/-- When the code is that of a misused command, without anything shown. -/
theorem ends_misused_iff (hd : d.IsStandard)
    (hdefaults : Configuration.defaults env.files env.login d.configFiles = .ok defaults)
    (registryLimit : τ) :
    let final := (i.run d registryLimit).runFrom env
    final.1 = .ok 2 ∧ final.2.output = env.output ↔
      parseSettings i.settings ≠ .error none ∧
        ((∃ s ∈ i.settings, ¬ IsWellFormed s) ∨ isOurs i.url = false) := by
  intro final
  cases hes : parseSettings i.settings with
  | error s =>
    obtain ⟨front, back, hsplit, -, hs⟩ := parseSettings_eq_error_iff.mp hes
    have hmem : s ∈ i.settings := hsplit ▸ List.mem_append_right front List.mem_cons_self
    dsimp only [final]
    cases s with
    | none =>
      rw [run_of_separator hes]
      exact iff_of_false (fun h => nomatch h.1) fun h => h.1 rfl
    | some s =>
      rw [run_of_ill_formed hes]
      exact iff_of_true ⟨rfl, rfl⟩ ⟨nofun, .inl ⟨_, hmem, hs⟩⟩
  | ok es =>
    have hwell : ¬ ∃ s ∈ i.settings, ¬ IsWellFormed s := by
      rintro ⟨s, hs, hnot⟩
      exact hnot (isWellFormed_of_pairs (pairs_of_parseSettings hes) s hs)
    have hnot : (.ok es : Except (Option String) _) ≠ .error none := nofun
    rw [or_iff_right hwell, and_iff_right hnot, ← resolve_eq_none_iff (.ofProperties (.ofList es))
      defaults (i.strict || env.strict)]
    rcases hresolve : resolve (some i.url) (.ofProperties (.ofList es)) defaults
      (i.strict || env.strict) with f | _ | p
    · obtain ⟨hend, -⟩ := run_of_fault hes hdefaults hresolve registryLimit
      exact iff_of_false (fun h => hend h.1) nofun
    · dsimp only [final]
      rw [run_of_answer hes hdefaults hresolve]
      exact iff_of_true ⟨rfl, rfl⟩ rfl
    · have hne := output_ne_of_resolved hd hes hdefaults hresolve registryLimit
      exact iff_of_false (fun h => hne h.2) nofun

/-- **What the command shows is what it connects with.** Take any run of the command over configuration
files that can be loaded. If it prints anything, or asks for a link, then each property it was given
is well formed, with the last value of a name counting; these properties and the URL are resolved to
a mapping; a listing of that mapping is what is printed first; and each request for a link, however
often the link is replaced, has the arguments that this very mapping makes, with all endpoints for a
plain URL and the first of them for one of a cluster.

The run ends with code 2 and nothing printed for a property that is not well formed, and for a URL of
another kind, and not otherwise. There is one exception: if the first property that is not well
formed is missing altogether, the run ends in another way. -/
theorem shows_what_it_asks_for (configFiles : List Path) (registryLimit : τ) (i : Inspection)
    (env : Environment τ) {defaults : Properties}
    (hloadable : Configuration.defaults env.files env.login configFiles = .ok defaults) :
    let final := (i.run { configFiles } registryLimit).runFrom env
    let asked := requests (env.since final.2)
    (asked ≠ [] ∨ final.2.output ≠ env.output →
      ∃ given p text more, (∀ s ∈ i.settings, IsWellFormed s) ∧
        (∀ key value, given.get? key = some value ↔ LastPair i.settings key value) ∧
        resolve (some i.url) (.ofProperties given) defaults (i.strict || env.strict) =
          .ok (some p) ∧
        IsListing p text ∧ final.2.output = env.output ++ text ++ more ∧
        ∀ e ∈ asked, ∃ endpoints, p.endpoints = .ok endpoints ∧
          e = .dialed (dialArguments
            (if Mode.ofUrl i.url = .clusterAware then endpoints.take 1 else endpoints)
            p.user p.database p)) ∧
      ((final.1 = .ok 2 ∧ final.2.output = env.output ↔
          (∃ s ∈ i.settings, ¬ IsWellFormed s) ∨ ¬ "postgresql:".toList <+: i.url.toList) ↔
        ¬ ∃ front back, i.settings = front ++ none :: back ∧ ∀ s ∈ front, IsWellFormed s) := by
  intro final asked
  let d : Driver := { configFiles }
  have hd : d.IsStandard := ⟨rfl, rfl⟩
  refine ⟨fun hshown => ?_, ?_⟩
  · obtain ⟨es, p, hes, hresolve⟩ := resolved_of_shown (d := d) hloadable hshown
    have hpairs := pairs_of_parseSettings hes
    obtain ⟨⟨new, hnew, hrequests⟩, more, hmore⟩ :=
      extends_run (d := d) hd hes hloadable hresolve registryLimit
    refine ⟨.ofList es, p, _, more, isWellFormed_of_pairs hpairs,
      fun key value => get?_settings hpairs, hresolve, isListing_sorted p, hmore, fun e he => ?_⟩
    have hsince : env.since final.2 = new := Environment.since_eq hnew
    obtain ⟨hmem, hasks⟩ := List.mem_filter.mp he
    obtain ⟨endpoints, side, hendpoints, rfl⟩ := hrequests e (hsince ▸ hmem) hasks
    exact ⟨endpoints, hendpoints, rfl⟩
  · have hends : final.1 = .ok 2 ∧ final.2.output = env.output ↔ _ :=
      ends_misused_iff hd hloadable registryLimit
    have hforeign : isOurs i.url = false ↔ ¬ "postgresql:".toList <+: i.url.toList :=
      Bool.eq_false_iff.trans (not_congr isOurs_iff)
    have hill : (∃ front back, i.settings = front ++ none :: back ∧
        ∀ s ∈ front, IsWellFormed s) → ∃ s ∈ i.settings, ¬ IsWellFormed s := by
      rintro ⟨front, back, hsplit, -⟩
      exact ⟨none, by simp [hsplit], not_isWellFormed_none⟩
    rw [hforeign, ne_eq, parseSettings_eq_separator_iff] at hends
    rw [hends]
    -- the exception is one of the cases in which the code is expected
    constructor
    · intro hiff hexception
      exact (hiff.mpr (.inl (hill hexception))).1 hexception
    · exact fun hregular => and_iff_right hregular

/-- A name is given twice, and the link is lost under the statement and replaced. Both requests have
the properties that are shown. -/
theorem shows_what_it_asks_for_replaced :
    let reset : Failure := .ofForeign (.system .connectionReset) "reset"
    let i : Inspection :=
      { url := "postgresql:aws://db:6000,spare/sales",
        settings := [some "user=ann", some "user=eve"], connect := true }
    let env : Environment Int :=
      { now := 0, openings := [{ result := .opened { replies := [{ response := .failed reset }] } },
        { result := .opened {} }] }
    let final := (i.run {} 0).runFrom env
    let asked := requests (env.since final.2)
    asked.length = 2 ∧ ∃ given p, given.get? "user" = some "eve" ∧
      resolve (some i.url) (.ofProperties given) .empty false = .ok (some p) ∧
      ∀ e ∈ asked, ∃ endpoints, p.endpoints = .ok endpoints ∧
        e = .dialed (dialArguments (endpoints.take 1) p.user p.database p) := by
  intro reset i env final asked
  have hloadable : Configuration.defaults env.files env.login [] = .ok .empty := rfl
  have hlength : asked.length = 2 := by
    have hresolve : resolve (some "postgresql:aws://db:6000,spare/sales")
        (.ofProperties (.ofList [("user", "ann"), ("user", "eve")])) .empty false =
          .ok (some _) := rfl
    -- sorting does not evaluate, so the lines are passed over and only what follows them is computed
    dsimp only [asked, final]
    rw [run_of_answer (d := {}) rfl hloadable hresolve]
    dsimp only
    rw [display, runFrom_bind_of_ok (runFrom_sayAll _ _)]
    decide +kernel
  have hasked : asked ≠ [] := List.ne_nil_of_length_pos (hlength ▸ Nat.two_pos)
  obtain ⟨given, p, text, more, -, hgiven, hresolve, -, -, hrequests⟩ :=
    (shows_what_it_asks_for [] 0 i env hloadable).1 (.inl hasked)
  have hcluster : Mode.ofUrl i.url = .clusterAware := by decide
  have hlast : LastPair i.settings "user" "eve" :=
    ⟨[some "user=ann"], some "user=eve", [], rfl, ⟨rfl, by decide, by decide⟩, by simp⟩
  refine ⟨hlength, given, p, (hgiven _ _).mpr hlast, hresolve, fun e he => ?_⟩
  obtain ⟨endpoints, hendpoints, rfl⟩ := hrequests e he
  rw [if_pos hcluster]
  exact ⟨endpoints, hendpoints, rfl⟩

/-- Two hyphens that are attached to the option are not well formed, and the run of the command does
not end with a code. This goes by the older releases of the reader of arguments, for which two hyphens
are no value. -/
theorem missing_setting_is_not_refused :
    ∃ i, read ["postgresql://db1:6000/sales", "--set=--"] = .ok i ∧
      (∃ s ∈ i.settings, ¬ IsWellFormed s) ∧
      ∀ env : Environment Int, ∃ e : ForeignError, e.kind = .missingMember ∧
        ((i.run {} 0).runFrom env).1 = .error (.foreign e) := by
  refine ⟨{ url := "postgresql://db1:6000/sales", settings := [none] }, by decide +kernel, ?_, ?_⟩
  · exact ⟨none, List.mem_singleton_self none, not_isWellFormed_none⟩
  · intro env
    rw [run_of_separator rfl]
    exact ⟨_, rfl, rfl⟩

end Inspection

end ClusterConnect
