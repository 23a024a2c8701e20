import ClusterConnect.CommandLine.Inspection
import ClusterConnect.Proofs.Attempt.Steps
import ClusterConnect.Proofs.Driver.Course
import ClusterConnect.Proofs.Link.Account

/-!
# The command closes what it opens

The command opens links through a driver of its own, and however a run ends, it has let go of all of
them. Each of them passes through several hands on the way: a worker that may come too late, a handle
that may replace it, and the command itself, which closes its connection whatever came of the
statement.

* `Idle`: nothing is held and the links are accounted for. `Secured`: what making a connection leads
  to, which is a connection in custody or else idleness.
* `Driver.secured_makeConnection`, `Driver.secured_awaitJob`, `Driver.secured_connect`: the driver
  hands the link on or lets go of it.
* `Inspection.idle_runQuery`, `Inspection.idle_run`: the command leaves nothing held.
* `Inspection.closes_what_it_opens`: every link is closed once, and dropped exactly if that failed.
-/

namespace ClusterConnect

variable {τ : Type} {start env env' : Environment τ}

open Act Environment

/-! ## Hands that a link passes through -/

/-- Nothing is held, and the links are accounted for. -/
structure Idle (start env : Environment τ) : Prop where
  accounted : Accounted env
  vacant : ∃ current, Vacant start current env

theorem Idle.quiet (h : Idle start env) (hquiet : env.Quiet env') : Idle start env' := by
  obtain ⟨haccounted, current, hvacant⟩ := h
  exact ⟨haccounted.of_eq hquiet.events hquiet.links, current, hvacant.calm (.of_quiet hquiet)⟩

theorem IsQuiet.idle {α : Type} {a : Doing τ α} (h : IsQuiet a) : Keeps (Idle start) a :=
  fun env henv => henv.quiet (h env)

/-- The link of a connection is in custody. Its manager uses the built-in connector. -/
def Connection.InCustody (start : Environment τ) (c : Connection τ) (env : Environment τ) : Prop :=
  match c with
  | .direct id => Custody start (some id) env
  | .failover h =>
    ClusterConnect.InCustody start (h, env) ∧
      ∃ m, h.supervisor = .manager m ∧ m.connector = .builtin

/-- What making a connection leads to: the connection is in custody, or there is none and nothing is
held. -/
def Secured (start : Environment τ) :
    Except Failure (Option (Connection τ)) → Environment τ → Prop
  | .ok (some c), env => Accounted env ∧ c.InCustody start env
  | _, env => Idle start env

theorem Secured.of_idle {r : Except Failure (Option (Connection τ))} (h : Idle start env)
    (hr : ∀ c, r ≠ .ok (some c)) : Secured start r env := by
  rcases r with f | _ | c
  · exact h
  · exact h
  · exact absurd rfl (hr c)

theorem Connection.InCustody.quiet {c : Connection τ} (h : c.InCustody start env)
    (hquiet : env.Quiet env') : c.InCustody start env' := by
  have hcalm : Calm [] env env' := .of_quiet hquiet
  cases c with
  | direct id => exact Custody.calm h hcalm
  | failover h' =>
    obtain ⟨⟨hsupervised, hcustody, hclosed⟩, hbuiltin⟩ := h
    refine ⟨⟨hsupervised, hcustody.calm hcalm, ?_⟩, hbuiltin⟩
    intro hmark
    have hsince : start.since env' = start.since env := by
      unfold Environment.since
      rw [hquiet.events]
    rw [hsince]
    exact hclosed hmark

theorem Secured.quiet {r : Except Failure (Option (Connection τ))} (h : Secured start r env)
    (hquiet : env.Quiet env') : Secured start r env' := by
  rcases r with f | _ | c
  · exact Idle.quiet h hquiet
  · exact Idle.quiet h hquiet
  · exact ⟨h.1.of_eq hquiet.events hquiet.links, h.2.quiet hquiet⟩

theorem Secured.mapError {r : Except Failure (Option (Connection τ))} (h : Secured start r env)
    (g : Failure → Failure) : Secured start (r.mapError g) env := by
  rcases r with f | _ | c <;> exact h

variable [Timeline τ]

/-- Closing a connection lets go of its link. -/
theorem Connection.InCustody.close {c : Connection τ} (hcustody : c.InCustody start env)
    (haccounted : Accounted env) :
    Idle start (Connection.close.runFrom (c, env)).2.2 := by
  cases c with
  | direct id => exact ⟨accounted_closeLink id env haccounted, some id, Custody.closeLink hcustody⟩
  | failover h =>
    obtain ⟨hin, hbuiltin⟩ := hcustody
    obtain ⟨hin', hclosed⟩ := FailoverHandle.inCustody_close hin
    have haccounted' := FailoverHandle.accounted_close (h, env) ⟨hbuiltin, haccounted⟩
    exact ⟨haccounted'.2, _, hin'.custody, hin'.closed hclosed⟩

/-- The use of a connection leaves its link, or the one that has replaced it, in custody. -/
theorem Connection.InCustody.call {c : Connection τ} (hcustody : c.InCustody start env)
    (haccounted : Accounted env) (q : Statement) :
    let s := ((Connection.call q).runFrom (c, env)).2
    Accounted s.2 ∧ s.1.InCustody start s.2 := by
  cases c with
  | direct id =>
    exact ⟨accounted_send id q env haccounted, Custody.calmly hcustody (calm_send id q env)⟩
  | failover h =>
    obtain ⟨hin, hbuiltin⟩ := hcustody
    have haccounted' := FailoverHandle.accounted_call q (h, env) ⟨hbuiltin, haccounted⟩
    exact ⟨haccounted'.2, FailoverHandle.inCustody_call hin q, haccounted'.1⟩

namespace Driver

/-- A driver with the built-in connector and managers of its own. -/
structure IsStandard (d : Driver) : Prop where
  connector : d.connector = .builtin
  managers : d.externalManagers = none

variable {d : Driver}

theorem secured_makeClusterConnection (hd : d.IsStandard) (url : String) (props : Properties)
    (hidle : Idle start env) :
    Secured start ((d.makeClusterConnection url props).runFrom env).1
      ((d.makeClusterConnection url props).runFrom env).2 := by
  unfold makeClusterConnection
  cases props.endpoints with
  | error f => exact .of_idle hidle (by simp)
  | ok endpoints =>
    cases endpoints with
    | nil => exact .of_idle hidle (by simp)
    | cons endpoint rest =>
      let m : Manager τ := ⟨endpoint, props, url, .builtin, Timeline.second⟩
      have hsupervisor : d.supervisor endpoint props url = pure (.manager m) := by
        unfold supervisor
        rw [hd.managers, hd.connector]
      obtain ⟨haccounted, current, hvacant⟩ := hidle
      have hnew := FailoverHandle.inCustody_connect_of_vacant m hvacant
      have haccounted' := FailoverHandle.accounted_connect (m := m) rfl env haccounted
      dsimp only
      rw [hsupervisor, pure_bind, runFrom_bind]
      generalize (FailoverHandle.connect (.manager m)).runFrom env = answer at hnew haccounted' ⊢
      rcases answer with ⟨f | h, env'⟩
      · exact ⟨haccounted', current, hnew⟩
      · obtain ⟨hin, -, hsup⟩ := hnew
        dsimp only
        split
        · exact ⟨haccounted', hin, m, hsup, rfl⟩
        · cases hcurrent : h.current with
          | none =>
            have hcustody := hin.custody
            rw [hcurrent] at hcustody
            exact ⟨haccounted', none, hcustody.vacant_of_none⟩
          | some id =>
            have hcustody := hin.custody
            rw [hcurrent] at hcustody
            exact ⟨haccounted', hcustody⟩

theorem secured_makeConnection (hd : d.IsStandard) (url : Option String) (props : Properties)
    (hidle : Idle start env) :
    Secured start ((d.makeConnection url props).runFrom env).1
      ((d.makeConnection url props).runFrom env).2 := by
  unfold makeConnection
  cases url with
  | none => exact .of_idle hidle (by simp)
  | some url =>
    dsimp only
    split
    · exact secured_makeClusterConnection hd url props hidle
    · rw [runFrom_bind_of_ok (runFrom_get env)]
      split
      · exact .of_idle hidle (by simp)
      · cases props.endpoints with
        | error f => exact .of_idle hidle (by simp)
        | ok endpoints =>
          let r : OpenRequest := ⟨endpoints, props.user, props.database, props, url⟩
          obtain ⟨haccounted, current, hvacant⟩ := hidle
          have hopened := replaced_openLink .builtin r hvacant
          have haccounted' := accounted_openLink r env haccounted
          dsimp only
          rw [hd.connector, bind_pure_comp, runFrom_map]
          generalize (openLink .builtin r).runFrom env = answer at hopened haccounted' ⊢
          rcases answer with ⟨f | _ | id, env'⟩
          · exact ⟨haccounted', current, hopened⟩
          · exact ⟨haccounted', none, hopened.vacant_of_none⟩
          · exact ⟨haccounted', hopened⟩

/-- A worker that comes too late lets go of its link itself. -/
theorem secured_awaitJob (hd : d.IsStandard) (url : String) (props : Properties) (timeLimit : τ)
    (hidle : Idle start env) :
    Secured start ((awaitJob (d.job (some url) props) timeLimit).runFrom env).1
      ((awaitJob (d.job (some url) props) timeLimit).runFrom env).2 := by
  have hbegun : Idle start { env with side := .worker, late := false } :=
    hidle.quiet ⟨rfl, rfl, rfl, rfl⟩
  have hmade := secured_makeConnection hd (some url) props hbegun
  have hback : ∀ e : Environment τ, e.Quiet { e with side := .caller } :=
    fun _ => ⟨rfl, rfl, rfl, rfl⟩
  rw [runFrom_awaitJob]
  have hconnect : (d.job (some url) props).connect =
      (d.makeConnection (some url) props : Doing τ (Option (Connection τ))) := rfl
  rw [hconnect]
  generalize (d.makeConnection (some url) props).runFrom { env with side := .worker, late := false } =
    r at hmade ⊢
  dsimp only
  cases hlate : r.2.late && hasDeadline timeLimit with
  | true =>
    have hleft : Idle start (((d.job (some url) props).discard r.1).runFrom r.2).2 := by
      obtain ⟨f | _ | c, env'⟩ := r
      · exact hmade
      · exact hmade
      · rw [BoundedWait.runFrom_discard]
        exact hmade.2.close hmade.1
    exact hleft.quiet (hback _)
  | false =>
    simp only [Bool.false_or, Bool.false_eq_true, if_false]
    cases hlost : isLost r.1 with
    | true =>
      -- a worker that was lost has made no connection
      obtain ⟨f | _ | c, env'⟩ := r
      · exact Idle.quiet hmade (hback _)
      · exact Idle.quiet hmade (hback _)
      · exact absurd hlost Bool.false_ne_true
    | false => exact (hmade.mapError Failure.reported).quiet (hback _)

theorem secured_establish (hd : d.IsStandard) (registryLimit : τ) (url : String)
    (props : Properties) (hidle : Idle start env) :
    Secured start ((d.establish awaitJob registryLimit url props).runFrom env).1
      ((d.establish awaitJob registryLimit url props).runFrom env).2 := by
  have hlogged := hidle.quiet (quiet_configureLogging props env)
  unfold establish
  rw [runFrom_bind]
  generalize (configureLogging props).runFrom env = answer at hlogged ⊢
  rcases answer with ⟨f | u, mid⟩
  · exact hlogged
  · obtain ⟨limit, env', hrun, -⟩ := runFrom_loginTimeLimit registryLimit props mid
    have hlimit := quiet_loginTimeLimit registryLimit props mid
    rw [hrun] at hlimit
    dsimp only
    rw [runFrom_bind_of_ok hrun]
    unfold connectWithin
    split
    · exact secured_awaitJob hd url props limit (hlogged.quiet hlimit)
    · exact secured_makeConnection hd (some url) props (hlogged.quiet hlimit)

theorem secured_connect (hd : d.IsStandard) (registryLimit : τ) (url : String) (info : Overrides)
    (hidle : Idle start env) :
    Secured start ((d.connect registryLimit (some url) info).runFrom env).1
      ((d.connect registryLimit (some url) info).runFrom env).2 := by
  unfold connect
  cases hresolved : d.resolved? url info env with
  | none =>
    obtain ⟨r, env', hquiet, hr, hrun⟩ := runFrom_connectBy_of_unresolved hresolved
    rw [hrun]
    exact .of_idle (hidle.quiet hquiet) hr
  | some props =>
    rw [runFrom_connectBy_of_some hresolved]
    exact (secured_establish hd registryLimit url props hidle).mapError _

end Driver

/-! ## The command -/

namespace Inspection

/-- The connection is closed whatever comes of the statement. -/
theorem idle_runQuery (query : Value) {c : Connection τ} (haccounted : Accounted env)
    (hcustody : c.InCustody start env) : Idle start ((runQuery query c).runFrom env).2 := by
  let shown : Using τ Unit := do
    let v ← Connection.call ⟨.fetchval 0, query, [], .null⟩
    onSecond (say v.asText)
  have hrun : ((runQuery query c).runFrom env).2 =
      ((shown.followedBy Connection.close).runFrom (c, env)).2.2 := rfl
  have hshown : Accounted (shown.runFrom (c, env)).2.2 ∧
      (shown.runFrom (c, env)).2.1.InCustody start (shown.runFrom (c, env)).2.2 := by
    have hcall := hcustody.call haccounted ⟨.fetchval 0, query, [], .null⟩
    dsimp only [shown]
    rw [runFrom_bind]
    generalize (Connection.call ⟨.fetchval 0, query, [], .null⟩).runFrom (c, env) = answer at hcall ⊢
    rcases answer with ⟨f | v, s⟩
    · exact hcall
    · have hsay := quiet_say v.asText s.2
      exact ⟨hcall.1.of_eq hsay.events hsay.links, hcall.2.quiet hsay⟩
  rw [hrun, state_followedBy]
  exact hshown.2.close hshown.1

/-- Connecting and running the statement leaves nothing held. -/
theorem idle_tryConnection {d : Driver} (hd : d.IsStandard) (registryLimit : τ) (i : Inspection)
    (overrides : Overrides) : Keeps (Idle start) (i.tryConnection d registryLimit overrides) := by
  intro env hidle
  have hconnect := Driver.secured_connect hd registryLimit i.url overrides hidle
  unfold tryConnection
  rw [runFrom_bind]
  generalize (d.connect registryLimit (some i.url) overrides).runFrom env = answer at hconnect ⊢
  rcases answer with ⟨f | _ | c, env'⟩
  · exact hconnect
  · exact ((quiet_complain _).idle.bind fun _ => within_pure 2) env' hconnect
  · have hquery := idle_runQuery (i.query.elim (.list []) .text) hconnect.1 hconnect.2
    dsimp only
    rw [runFrom_bind]
    generalize (runQuery (i.query.elim (.list []) .text) c).runFrom env' = answer at hquery ⊢
    rcases answer with ⟨f | u, env''⟩ <;> exact hquery

/-- A link that comes too late and cannot be closed in peace. -/
example :
    let session : Session Int :=
      { closing := { failure := some (.ofForeign (.system .timedOut) "no answer") } }
    let start : Environment Int :=
      { now := 0, openings := [{ overdue := true, result := .opened session }] }
    let i : Inspection := { url := "postgresql:aws://db/app?loginTimeout=1", connect := true }
    let final := ((i.tryConnection {} 0 []).runFrom start).2
    (closedLinks final.events, droppedLinks final.events) = ([0], [0]) := by
  decide +kernel

omit [Timeline τ] in
theorem quiet_report (describe : DriverError → String) (f : Failure) :
    IsQuiet (report describe f : Doing τ Nat) := by
  cases f with
  | driver e => exact (quiet_complain _).bind fun _ => within_pure 1
  | foreign e => exact within_throw _

omit [Timeline τ] in
theorem quiet_sayAll (lines : List (String × String)) :
    IsQuiet (lines.forM fun e => say (line e) : Doing τ PUnit) := by
  induction lines with
  | nil => exact within_pure _
  | cons e rest ih => exact (quiet_say _).bind fun _ => ih

theorem quiet_resolveProperties (d : Driver) (i : Inspection) (overrides : Overrides) :
    IsQuiet (i.resolveProperties d overrides : Doing τ (Option Properties)) := by
  have hdefaults : IsQuiet (d.defaults : Doing τ Properties) := .still fun _ => rfl
  exact hdefaults.bind fun defaults => Driver.quiet_resolveLogged _ overrides defaults

theorem idle_display {d : Driver} (hd : d.IsStandard) (registryLimit : τ) (i : Inspection)
    (overrides : Overrides) (props : Properties) :
    Keeps (Idle start) (i.display d registryLimit overrides props) := by
  unfold display
  refine (quiet_sayAll _).idle.bind fun _ => ?_
  split
  · refine (idle_tryConnection hd registryLimit i overrides).outcome.bind fun answer => ?_
    cases answer with
    | ok code => exact within_pure code
    | error f => exact (quiet_report _ f).idle
  · exact within_pure 0

/-- However a run of the command ends, nothing is held. -/
theorem idle_run {d : Driver} (hd : d.IsStandard) (registryLimit : τ) (i : Inspection) :
    Keeps (Idle start) (i.run d registryLimit) := by
  have hswitch : Keeps (Idle start)
      (modify fun env : Environment τ => { env with strict := true }) := by
    rintro env ⟨haccounted, current, hvacant⟩
    exact ⟨haccounted.of_eq rfl rfl, current, hvacant.calm (.of_eq rfl rfl rfl)⟩
  unfold run
  refine hswitch.after ?_
  cases parseSettings i.settings with
  | error s =>
    cases s with
    | none => exact within_throw _
    | some s => exact (quiet_complain _).idle.bind fun _ => within_pure 2
  | ok es =>
    refine (quiet_resolveProperties d i _).idle.outcome.bind fun answer => ?_
    rcases answer with f | _ | props
    · exact (quiet_report _ f).idle
    · exact (quiet_complain _).idle.bind fun _ => within_pure 2
    · exact idle_display hd registryLimit i _ props

/-- **The command closes what it opens.** Whatever the command is asked to do, and whatever comes of
its attempts to open links, of the statements on them and of closing them: when the run has ended and
its worker, too, the links handed over are those in the environment, in their order, each of them has
been closed exactly once, and it has been dropped, once, exactly if closing it failed. A failure that
ends the program drops nothing. -/
theorem closes_what_it_opens (configFiles : List Path) (registryLimit : τ) (i : Inspection)
    (start : Environment τ) :
    let final := ((i.run { configFiles } registryLimit).runFrom
      { start with links := [], events := [] }).2
    opened final.events = List.range final.links.length ∧
      ∀ id link, final.links[id]? = some link →
        (closedLinks final.events).count id = 1 ∧
        (droppedLinks final.events).count id = if link.session.resists then 1 else 0 := by
  intro final
  let begun : Environment τ := { start with links := [], events := [] }
  have hidle : Idle begun final :=
    idle_run ⟨rfl, rfl⟩ registryLimit i begun ⟨.of_empty rfl rfl, none, vacant_start begun⟩
  obtain ⟨haccounted, current, hvacant⟩ := hidle
  refine ⟨haccounted.opened, ?_⟩
  intro id link hlink
  have hopened : id ∈ opened final.events := by
    rw [haccounted.opened, List.mem_range]
    exact (List.getElem?_eq_some_iff.mp hlink).1
  have hreleased : link.released = true := by
    -- a link that has not been released would still be held
    rw [← Bool.not_eq_false]
    intro hreleased
    have hclosed : id ∉ closedLinks final.events := by
      rw [← List.count_eq_zero, haccounted.closed, hlink, Option.elim_some, Link.closings, hreleased]
      rfl
    have hheld : held final.events = [] := hvacant.nothingHeld
    have hid := mem_held_of_not_closed hopened hclosed
    rw [hheld] at hid
    exact absurd hid List.not_mem_nil
  rw [haccounted.closed, haccounted.dropped, hlink]
  simp [Link.closings, Link.droppings, hreleased]

end Inspection

end ClusterConnect
