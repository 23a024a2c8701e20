import ClusterConnect.Driver
import ClusterConnect.Proofs.Failover.Handle

/-!
# The course of a connection

What the driver does on the way from a URL to a connection, step by step.

* `Driver.resolved?`: the properties that the URL, the caller, the files and the login name come to.
  Without them the way ends, in the same manner whatever the time limit
  (`runFrom_connectBy_of_unresolved`); with them it goes on to `Driver.establish`
  (`runFrom_connectBy_of_some`).
* `Driver.attempt?`: the properties and the state in which an attempt to make a connection starts.
* `Environment.warned`: what a fault in the properties leaves behind
  (`runFrom_resolveLogged_of_fault`).
* `runFrom_awaitJob`: what comes of a worker's job, and what becomes of it if the worker is late.
* `runFrom_loginTimeLimit`, `quiet_loginTimeLimit`, `calm_dispose`: the steps that leave links alone,
  or ask for none.
-/

namespace ClusterConnect

variable {τ : Type} [Timeline τ]

namespace Environment

omit [Timeline τ] in
/-- The environment once a fault has been logged, if it is worth a warning. -/
def warned (env : Environment τ) (f : ResolutionFault) : Environment τ :=
  f.warning?.elim env (env.log Level.warning (Logging.rootName ++ "." ++ "url"))

omit [Timeline τ] in
theorem quiet_warned (env : Environment τ) (f : ResolutionFault) : env.Quiet (env.warned f) := by
  unfold warned
  cases f.warning? with
  | none => exact Std.Refl.refl env
  | some message => exact quiet_warn "url" message env

omit [Timeline τ] in
theorem output_warned (env : Environment τ) (f : ResolutionFault) :
    (env.warned f).output = env.output := by
  unfold warned
  cases f.warning? with
  | none => rfl
  | some message =>
    obtain ⟨logNames, files, errorOutput, hlog⟩ :=
      env.log_eq Level.warning (Logging.rootName ++ "." ++ "url") message
    show (env.log Level.warning (Logging.rootName ++ "." ++ "url") message).output = _
    rw [hlog]

omit [Timeline τ] in
theorem warned_withFiles (env : Environment τ) (files : FileTree) (f : ResolutionFault) :
    ∃ files', (env.withFiles files).warned f = (env.warned f).withFiles files' := by
  unfold warned
  cases f.warning? with
  | none => exact ⟨files, rfl⟩
  | some message => exact env.log_withFiles files Level.warning _ message

end Environment

namespace Driver

omit [Timeline τ] in
/-- The properties of a connection, if the layers give any. -/
def resolved? (d : Driver) (url : String) (info : Overrides) (env : Environment τ) :
    Option Properties :=
  match Configuration.defaults env.files env.login d.configFiles with
  | .error _ => none
  | .ok defaults =>
    match resolve (some url) info defaults env.strict with
    | .ok p => p
    | .error _ => none

omit [Timeline τ] in
theorem resolved?_eq_some_iff {d : Driver} {url : String} {info : Overrides} {env : Environment τ}
    {props : Properties} :
    d.resolved? url info env = some props ↔
      ∃ defaults, Configuration.defaults env.files env.login d.configFiles = .ok defaults ∧
        resolve (some url) info defaults env.strict = .ok (some props) := by
  unfold resolved?
  cases Configuration.defaults env.files env.login d.configFiles with
  | error f => simp
  | ok defaults =>
    simp only [Except.ok.injEq, exists_eq_left']
    cases resolve (some url) info defaults env.strict <;> simp

section

variable {d : Driver} {url : String} {info : Overrides} {env : Environment τ} {props : Properties}

omit [Timeline τ] in
theorem runFrom_resolveLogged_of_ok {defaults : Properties} {p : Option Properties}
    (h : resolve (some url) info defaults env.strict = .ok p) :
    (resolveLogged (some url) info defaults).runFrom env = (.ok p, env) := by
  unfold resolveLogged
  rw [Act.runFrom_bind_of_ok (Act.runFrom_get env), h]
  rfl

omit [Timeline τ] in
/-- A fault in the layers is logged where it is worth a warning, and raised. -/
theorem runFrom_resolveLogged_of_fault {url : Option String} {defaults : Properties}
    {f : ResolutionFault} (env : Environment τ)
    (h : resolve url info defaults env.strict = .error f) :
    (resolveLogged url info defaults).runFrom env = (.error f.failure, env.warned f) := by
  unfold resolveLogged Environment.warned
  rw [Act.runFrom_bind_of_ok (Act.runFrom_get env), h]
  dsimp only
  cases f.warning? <;> rfl

omit [Timeline τ] in
/-- The warning is all there is. -/
theorem runFrom_resolveLogged_of_error {defaults : Properties} {f : ResolutionFault}
    (h : resolve (some url) info defaults env.strict = .error f) :
    ∃ env', (resolveLogged (some url) info defaults).runFrom env = (.error f.failure, env') ∧
      env.Quiet env' :=
  ⟨env.warned f, runFrom_resolveLogged_of_fault env h, env.quiet_warned f⟩

omit [Timeline τ] in
theorem quiet_resolveLogged (url : Option String) (info : Overrides) (defaults : Properties) :
    IsQuiet (resolveLogged url info defaults : Doing τ (Option Properties)) := by
  unfold resolveLogged
  refine Act.within_get.bind fun env => ?_
  cases resolve url info defaults env.strict with
  | ok p => exact Act.within_pure p
  | error f =>
    refine Act.Within.bind ?_ fun _ => Act.within_throw f.failure
    cases f.warning? with
    | none => exact Act.within_pure _
    | some message => exact quiet_warn "url" message

omit [Timeline τ] in
theorem runFrom_loaded (d : Driver) (env : Environment τ) :
    (d.defaults).outcome.runFrom env =
      (.ok (Configuration.defaults env.files env.login d.configFiles), env) := rfl

theorem runFrom_connectBy_of_defaults {defaults : Properties} (hours : isOurs url = true)
    (h : Configuration.defaults env.files env.login d.configFiles = .ok defaults)
    (await : Discipline τ) (registryLimit : τ) :
    (d.connectBy await registryLimit (some url) info).runFrom env =
      (resolveLogged (some url) info defaults >>= fun p =>
        match p with
        | none => pure none
        | some props => do
          match ← (d.establish await registryLimit url props).outcome with
          | .ok c => return c
          | .error f => throw f.reported).runFrom env := by
  unfold connectBy
  simp only [hours, if_true]
  rw [Act.runFrom_bind_of_ok (runFrom_loaded d env), h]
  exact congrArg (Act.runFrom · env) (pure_bind defaults _)

theorem runFrom_connectBy_of_no_defaults {f : Failure} (hours : isOurs url = true)
    (h : Configuration.defaults env.files env.login d.configFiles = .error f)
    (await : Discipline τ) (registryLimit : τ) :
    (d.connectBy await registryLimit (some url) info).runFrom env =
      (.error (defaultsFailure f), env) := by
  unfold connectBy
  simp only [hours, if_true]
  rw [Act.runFrom_bind_of_ok (runFrom_loaded d env), h]
  rfl

theorem runFrom_connectBy_of_not_ours (hours : isOurs url = false) (await : Discipline τ)
    (registryLimit : τ) :
    (d.connectBy await registryLimit (some url) info).runFrom env = (.ok none, env) := by
  unfold connectBy
  simp only [hours, Bool.false_eq_true, if_false]
  rfl

/-- Once the properties are there, the rest is up to them. -/
theorem runFrom_connectBy_of_some (h : d.resolved? url info env = some props)
    (await : Discipline τ) (registryLimit : τ) :
    (d.connectBy await registryLimit (some url) info).runFrom env =
      (((d.establish await registryLimit url props).runFrom env).1.mapError Failure.reported,
        ((d.establish await registryLimit url props).runFrom env).2) := by
  obtain ⟨defaults, hdefaults, hresolve⟩ := resolved?_eq_some_iff.mp h
  have hours : isOurs url = true := by
    unfold resolve at hresolve
    dsimp only at hresolve
    split at hresolve
    · assumption
    · exact absurd hresolve (by simp)
  rw [runFrom_connectBy_of_defaults hours hdefaults,
    Act.runFrom_bind_of_ok (runFrom_resolveLogged_of_ok hresolve)]
  dsimp only
  rw [Act.runFrom_bind_of_ok (Act.runFrom_outcome _ env)]
  cases ((d.establish await registryLimit url props).runFrom env).1 <;> rfl

/-- Without properties no connection is made, and it makes no difference how long the caller would
have waited for one. -/
theorem runFrom_connectBy_of_unresolved (h : d.resolved? url info env = none) :
    ∃ r env', env.Quiet env' ∧ (∀ c, r ≠ .ok (some c)) ∧
      ∀ (await : Discipline τ) registryLimit,
        (d.connectBy await registryLimit (some url) info).runFrom env = (r, env') := by
  cases hours : isOurs url with
  | false => exact ⟨_, env, Std.Refl.refl env, by simp, runFrom_connectBy_of_not_ours hours⟩
  | true =>
    cases hdefaults : Configuration.defaults env.files env.login d.configFiles with
    | error f =>
      exact ⟨_, env, Std.Refl.refl env, by simp, runFrom_connectBy_of_no_defaults hours hdefaults⟩
    | ok defaults =>
      cases hresolve : resolve (some url) info defaults env.strict with
      | error f =>
        obtain ⟨env', hrun, hquiet⟩ := runFrom_resolveLogged_of_error hresolve
        refine ⟨.error f.failure, env', hquiet, by simp, ?_⟩
        intro await registryLimit
        rw [runFrom_connectBy_of_defaults hours hdefaults, Act.runFrom_bind_of_error hrun]
      | ok p =>
        obtain rfl : p = none := by
          simpa [resolved?, hdefaults, hresolve] using h
        refine ⟨.ok none, env, Std.Refl.refl env, by simp, ?_⟩
        intro await registryLimit
        rw [runFrom_connectBy_of_defaults hours hdefaults,
          Act.runFrom_bind_of_ok (runFrom_resolveLogged_of_ok hresolve)]
        rfl

/-! ### Attempts -/

/-- What an attempt to make a connection starts with, if it comes to one: the properties are there,
and the log is set up. -/
def attempt? (d : Driver) (url : String) (info : Overrides) (env : Environment τ) :
    Option (Properties × Environment τ) :=
  match d.resolved? url info env with
  | none => none
  | some props =>
    match (configureLogging props).runFrom env with
    | (.ok _, start) => some (props, start)
    | (.error _, _) => none

/-- If it comes to no attempt, nothing is done about links, and it makes no difference how long the
caller would have waited. -/
theorem runFrom_connectBy_of_no_attempt (h : d.attempt? url info env = none) :
    ∃ r env', env.Quiet env' ∧ ∀ (await : Discipline τ) registryLimit,
      (d.connectBy await registryLimit (some url) info).runFrom env = (r, env') := by
  unfold attempt? at h
  cases hresolved : d.resolved? url info env with
  | none =>
    obtain ⟨r, env', hquiet, -, hrun⟩ := runFrom_connectBy_of_unresolved hresolved
    exact ⟨r, env', hquiet, hrun⟩
  | some props =>
    rw [hresolved] at h
    dsimp only at h
    have hquiet := quiet_configureLogging props env
    rcases hlog : (configureLogging props).runFrom env with ⟨f | u, start⟩
    · -- the log cannot be set up, and that is the end of it
      have hrun : ∀ (await : Discipline τ) limit,
          (d.establish await limit url props).runFrom env = (.error f, start) := fun _ _ =>
        Act.runFrom_bind_of_error hlog _
      rw [hlog] at hquiet
      refine ⟨.error f.reported, start, hquiet, fun await limit => ?_⟩
      rw [runFrom_connectBy_of_some hresolved, hrun]
      rfl
    · rw [hlog] at h
      exact absurd h (by simp)

omit [Timeline τ] in
theorem attempt?_eq_some_iff {start : Environment τ} :
    d.attempt? url info env = some (props, start) ↔
      d.resolved? url info env = some props ∧
        (configureLogging props).runFrom env = (.ok (), start) := by
  unfold attempt?
  cases d.resolved? url info env with
  | none => simp
  | some props' =>
    dsimp only
    rcases hlog : (configureLogging props').runFrom env with ⟨f | u, start'⟩
    · constructor
      · intro h
        exact absurd h (by simp)
      · rintro ⟨hprops, hrun⟩
        obtain rfl := Option.some.inj hprops
        rw [hlog] at hrun
        exact absurd (congrArg Prod.fst hrun) (by simp)
    · constructor
      · intro h
        obtain ⟨rfl, rfl⟩ := Prod.mk.inj (Option.some.inj h)
        exact ⟨rfl, hlog⟩
      · rintro ⟨hprops, hrun⟩
        obtain rfl := Option.some.inj hprops
        rw [hlog] at hrun
        rw [(Prod.mk.inj hrun).2]

end

/-! ## Waiting for a worker -/

/-- The whole course of waiting for a worker. -/
theorem runFrom_awaitJob (j : Job τ (Connection τ)) (timeLimit : τ) (start : Environment τ) :
    (awaitJob j timeLimit).runFrom start =
      let r := j.connect.runFrom { start with side := .worker, late := false }
      let late := r.2.late && hasDeadline timeLimit
      let left := if late then ((j.discard r.1).runFrom r.2).2 else r.2
      (if late || isLost r.1 then .error (leavingFailure .timedOut) else delivered r.1,
        { left with side := .caller }) := by
  unfold awaitJob
  rw [Act.runFrom_bind_of_ok (Act.runFrom_modify _ start),
    Act.runFrom_bind_of_ok (Act.runFrom_outcome j.connect _),
    Act.runFrom_bind_of_ok (Act.runFrom_get _)]
  generalize j.connect.runFrom { start with side := .worker, late := false } = r
  dsimp only
  cases hlate : r.2.late && hasDeadline timeLimit with
  | false =>
    simp only [Bool.false_eq_true, if_false, Bool.false_or]
    rw [Act.runFrom_bind_of_ok (Act.runFrom_modify _ _)]
    split <;> rfl
  | true =>
    simp only [if_true, Bool.true_or]
    rfl

/-! ## Calm steps -/

theorem runFrom_loginTimeLimit (registryLimit : τ) (props : Properties) (env : Environment τ) :
    ∃ limit env', (loginTimeLimit registryLimit props).runFrom env = (.ok limit, env') ∧
      Calm [] env env' := by
  obtain ⟨env', hwarn, hcalm⟩ := runFrom_warnUnreadable "driver" .loginTimeout
    (Property.loginTimeout.timeOrDefault (τ := τ) props).2 env
  unfold loginTimeLimit
  rw [Act.runFrom_bind_of_ok hwarn]
  exact ⟨_, env', rfl, hcalm⟩

theorem quiet_loginTimeLimit (registryLimit : τ) (props : Properties) :
    IsQuiet (loginTimeLimit registryLimit props) :=
  (quiet_warnUnreadable _ _ _).bind fun _ => Act.within_pure _

end Driver

/-- To dispose of a connection is to close the link in use, unless its handle is closed. -/
theorem runFrom_dispose_failover (h : FailoverHandle τ) (env : Environment τ) :
    (Connection.dispose (.failover h)).runFrom env =
      if h.closed then (.ok (), env) else (closeCurrent h.current).runFrom env := by
  show (((FailoverHandle.close.runFrom (h, env)).1, (FailoverHandle.close.runFrom (h, env)).2.2) :
    Except Failure Unit × Environment τ) = _
  cases hclosed : h.closed with
  | true =>
    rw [FailoverHandle.runFrom_close_of_closed hclosed]
    rfl
  | false =>
    rw [FailoverHandle.runFrom_close_of_open hclosed]
    rfl

theorem calm_closeCurrent (link : Option LinkId) : IsCalm (τ := τ) (closeCurrent link) := by
  cases link with
  | some id => exact calm_closeLink id
  | none => exact Act.within_throw _

theorem calm_dispose (c : Connection τ) : IsCalm (Connection.dispose c) := by
  intro env
  cases c with
  | direct id => exact calm_closeLink id env
  | failover h =>
    rw [runFrom_dispose_failover]
    split
    · exact Std.Refl.refl env
    · exact calm_closeCurrent h.current env

end ClusterConnect
