import ClusterConnect.Proofs.Attempt.Agreement
import ClusterConnect.Proofs.Driver.Fresh
import ClusterConnect.Proofs.Driver.Requests

/-!
# Connections within a time limit

Under a time limit the driver lets a worker make the connection. This file compares that with the
connection that the caller would have made itself.

* `Plan.await`: the discipline of a caller that follows the protocol of attempts.
* `runFrom_connectBy_of_attempt`: what a connection comes to once it has come to an attempt.
* `awaitJob_ends`, `connect_ends`: the discipline that programs run with takes the two ends of an
  attempt and no other; `overdue` says which.
* `connect_bounded`: the comparison, for every plan and for programs.
-/

namespace ClusterConnect

variable {τ : Type}

open BoundedWait (Plan Passes Ends afterJob ObliviousJob closings)

/-! ## What can be told from the dealings -/

/-- The closing of a link is no matter of sides. -/
theorem closedLinks_dealings (es : List (Event τ)) : closedLinks (dealings es) = closedLinks es := by
  unfold closedLinks dealings
  rw [List.filterMap_filterMap]
  congr 1
  funext e
  cases e <;> rfl

/-- Whether an event is a request has nothing to do with who makes it. -/
theorem Event.asks_of_dealing? {e e' : Event τ} (h : e.dealing? = some e') : e'.asks = e.asks := by
  cases e <;> cases h <;> rfl

theorem requests_dealings_of_calm {es : List (Event τ)} (h : ∀ e ∈ es, e.isCalm = true) :
    requests (dealings es) = [] := by
  unfold requests dealings
  rw [List.filter_eq_nil_iff]
  intro e' he'
  obtain ⟨e, he, hd⟩ := List.mem_filterMap.mp he'
  rw [Event.asks_of_dealing? hd, Event.not_asks_of_isCalm (h e he)]
  exact Bool.false_ne_true

theorem Calmly.requests_dealings {env env' : Environment τ} (h : Calmly env env') :
    requests (dealings env'.events) = requests (dealings env.events) := by
  obtain ⟨new, h⟩ := h
  have happend : dealings env'.events = dealings env.events ++ dealings new := by
    rw [h.events]
    exact List.filterMap_append
  rw [happend, requests_append, requests_dealings_of_calm h.calm, List.append_nil]

variable [Timeline τ]

theorem Same.closedLinks {env env' : Environment τ} (h : Same env env') :
    ClusterConnect.closedLinks env.events = ClusterConnect.closedLinks env'.events := by
  rw [← closedLinks_dealings env.events, h.dealings, closedLinks_dealings]

/-! ## Following the protocol -/

/-- Waiting for a worker in the way that a plan lays down. The state is the one that everybody leaves
behind: the worker has come to its end, too. -/
def BoundedWait.Plan.await (p : Plan τ) : Driver.Discipline τ := fun j timeLimit =>
  .ofFunction fun env =>
    let start := { env with side := .worker }
    ((p.call j timeLimit start).1.getD (.error Plan.endless),
      { (p.final j timeLimit start).2 with side := .caller })

/-- What a worker stores is not reported twice. -/
theorem mapError_delivered {α : Type} (r : Except Failure α) :
    (delivered r).mapError Failure.reported = r.mapError Failure.reported := by
  cases r with
  | ok x => rfl
  | error f => exact congrArg Except.error f.reported_reported

namespace Driver

section

variable {d : Driver} {url : String} {info : Overrides} {env start : Environment τ}
variable {props : Properties}

/-- Without a time limit among the properties, that of the registry holds. -/
theorem runFrom_loginTimeLimit_of_unset (h : props.get? Property.loginTimeout.name = none)
    (registryLimit : τ) (env : Environment τ) :
    (loginTimeLimit registryLimit props).runFrom env = (.ok (inMilliseconds registryLimit), env) := by
  have hvalue : Property.loginTimeout.get? props = none := by
    unfold Property.get?
    rw [h]
    rfl
  have htime : Property.loginTimeout.timeOrDefault (τ := τ) props = (none, none) := by
    unfold Property.timeOrDefault Property.time?
    rw [hvalue]
  unfold loginTimeLimit
  rw [htime]
  rfl

/-- From an attempt on, the caller's own time limit decides, if the properties set none. -/
theorem runFrom_connectBy_of_attempt (h : d.attempt? url info env = some (props, start))
    (hunset : props.get? Property.loginTimeout.name = none) (await : Discipline τ) (limit : τ) :
    (d.connectBy await limit (some url) info).runFrom env =
      (((d.connectWithin await (some url) props (inMilliseconds limit)).runFrom start).1.mapError
          Failure.reported,
        ((d.connectWithin await (some url) props (inMilliseconds limit)).runFrom start).2) := by
  obtain ⟨hresolved, hlog⟩ := attempt?_eq_some_iff.mp h
  have hrun : (d.establish await limit url props).runFrom env =
      (d.connectWithin await (some url) props (inMilliseconds limit)).runFrom start := by
    unfold establish
    rw [Act.runFrom_bind_of_ok hlog,
      Act.runFrom_bind_of_ok (runFrom_loginTimeLimit_of_unset hunset limit start)]
  rw [runFrom_connectBy_of_some hresolved, hrun]

/-- Without a bounding limit the caller makes the connection itself. -/
theorem runFrom_connectBy_of_unbounded (h : d.attempt? url info env = some (props, start))
    (hunset : props.get? Property.loginTimeout.name = none) {limit : τ}
    (hlimit : isBounding (inMilliseconds limit) = false) (await : Discipline τ) :
    (d.connectBy await limit (some url) info).runFrom env =
      (((d.makeConnection (some url) props).runFrom start).1.mapError Failure.reported,
        ((d.makeConnection (some url) props).runFrom start).2) := by
  have hrun := runFrom_connectBy_of_attempt h hunset await limit
  rw [connectWithin, hlimit] at hrun
  exact hrun

/-- With one it leaves that to a worker. -/
theorem runFrom_connectBy_of_bounded (h : d.attempt? url info env = some (props, start))
    (hunset : props.get? Property.loginTimeout.name = none) {limit : τ}
    (hlimit : isBounding (inMilliseconds limit) = true) (await : Discipline τ) :
    (d.connectBy await limit (some url) info).runFrom env =
      (((await (d.job (some url) props) (inMilliseconds limit)).runFrom start).1.mapError
          Failure.reported,
        ((await (d.job (some url) props) (inMilliseconds limit)).runFrom start).2) := by
  have hrun := runFrom_connectBy_of_attempt h hunset await limit
  rw [connectWithin, hlimit] at hrun
  exact hrun

end

/-! ## What the job leaves behind -/

theorem obliviousJob (d : Driver) (url : Option String) (props : Properties) :
    ObliviousJob (d.job (τ := τ) url props) where
  connect := oblivious_makeConnection d url props
  close := oblivious_dispose

/-- A connection that is discarded as soon as it is made is closed once. -/
theorem closedLinks_discard (d : Driver) (url : Option String) (props : Properties)
    {start : Environment τ} {c : Connection τ} {id : LinkId}
    (hmade : ((d.makeConnection url props).runFrom start).1 = .ok (some c))
    (hid : c.link? = some id) :
    closedLinks (afterJob (d.job url props) start .discarded).events =
      closedLinks start.events ++ [id] := by
  obtain ⟨hclosed, hfresh⟩ := made_makeConnection d url props start
  show closedLinks (((d.job url props).discard
    ((d.makeConnection url props).runFrom start).1).runFrom _).2.events = _
  rw [hmade, BoundedWait.runFrom_discard]
  exact (closedLinks_dispose (hfresh c hmade) hid).trans (congrArg (· ++ [id]) hclosed)

/-- What an attempt leaves behind whose outcome is discarded: the requests of the job, done once, and
the closing of its connection. -/
theorem of_discarded (d : Driver) (url : Option String) (props : Properties)
    {start left : Environment τ} (h : Same (afterJob (d.job url props) start .discarded) left) :
    let made := (d.makeConnection url props).runFrom start
    requests (dealings left.events) = requests (dealings made.2.events) ∧
      ∀ c, made.1 = .ok (some c) → ∀ id, c.link? = some id →
        closedLinks left.events = closedLinks start.events ++ [id] := by
  intro made
  constructor
  · -- closing what has been made asks for nothing
    rw [← h.dealings]
    exact Calmly.requests_dealings (calm_discard calm_dispose made.1 made.2)
  · intro c hc id hid
    rw [← h.closedLinks]
    exact closedLinks_discard d url props hc hid

/-! ## The discipline of programs -/

/-- Whether the worker of a program comes too late for its caller: making the connection has taken
too long, and the caller has a deadline. -/
def overdue (j : Job τ (Connection τ)) (timeLimit : τ) (start : Environment τ) : Bool :=
  (j.connect.runFrom { start with side := .worker, late := false }).2.late && hasDeadline timeLimit

/-- **Programs keep to the protocol.** The discipline that they run with comes to one of the two ends
of an attempt. -/
theorem awaitJob_ends {j : Job τ (Connection τ)} (hj : ObliviousJob j) (timeLimit : τ)
    (start : Environment τ) (hlost : isLost (j.connect.runFrom start).1 = false) :
    let r := (awaitJob j timeLimit).runFrom start
    (overdue j timeLimit start = false →
      r.1 = delivered (j.connect.runFrom start).1 ∧ Same (j.connect.runFrom start).2 r.2) ∧
    (overdue j timeLimit start = true →
      r.1 = .error (leavingFailure .timedOut) ∧ Same (afterJob j start .discarded) r.2) := by
  obtain ⟨hout, hmade⟩ := hj.connect start { start with side := .worker, late := false } rfl
  have hleft := (hj.discard (j.connect.runFrom start).1 _ _ hmade).2
  rw [runFrom_awaitJob]
  rw [hout] at hlost hleft
  dsimp only
  constructor
  · intro hlate
    rw [overdue] at hlate
    rw [hlate, Bool.false_or, hlost, hout]
    exact ⟨rfl, hmade⟩
  · intro hlate
    rw [overdue] at hlate
    rw [hlate, afterJob, hout]
    exact ⟨rfl, hleft⟩

/-- With a time limit a program comes to what it would have come to without one, or to an attempt
whose outcome is discarded. -/
theorem connect_ends {d : Driver} {url : String} {info : Overrides} {env start : Environment τ}
    {props : Properties} {t z : τ} (ht : isBounding (inMilliseconds t) = true)
    (hz : isBounding (inMilliseconds z) = false)
    (h : d.attempt? url info env = some (props, start))
    (hunset : props.get? Property.loginTimeout.name = none)
    (hlost : isLost ((d.makeConnection (some url) props).runFrom start).1 = false) :
    let j := d.job (some url) props
    let direct := (d.connect z (some url) info).runFrom env
    let program := (d.connect t (some url) info).runFrom env
    (overdue j (inMilliseconds t) start = false →
      program.1 = direct.1 ∧ Same direct.2 program.2) ∧
    (overdue j (inMilliseconds t) start = true →
      program.1 = .error (leavingFailure .timedOut) ∧
        Same (afterJob j start .discarded) program.2) := by
  unfold connect
  rw [runFrom_connectBy_of_unbounded h hunset hz, runFrom_connectBy_of_bounded h hunset ht]
  dsimp only
  obtain ⟨htaken, hdiscarded⟩ :=
    awaitJob_ends (d.obliviousJob (some url) props) (inMilliseconds t) start hlost
  constructor
  · intro hlate
    obtain ⟨hout, hsame⟩ := htaken hlate
    rw [hout, mapError_delivered]
    exact ⟨rfl, hsame⟩
  · intro hlate
    obtain ⟨hout, hsame⟩ := hdiscarded hlate
    rw [hout]
    exact ⟨rfl, hsame⟩

/-! ## The comparison -/

/-- **A connection within a time limit is the one that the caller would have made itself.** No time
limit is among the properties, and that of the registry counts. If it comes to no attempt, the limit
makes no difference. Else a worker makes the connection once, and no failure ends the program.

In the protocol of attempts, with any plan of who does what when:

* a caller that looks more often than checks pass has an answer: what is stored, or that its time is
  over;
* if the outcome is stored in time, the caller comes to what it would have come to without a limit,
  and leaves the same behind, the requests included;
* if the deadline is seen first, the caller learns so and gets nothing else. The connection is still
  made, once, with the same requests, and if there is one, it is closed once.

A program comes to the second or to the third of these, as its worker is in time or too late. -/
theorem connect_bounded (d : Driver) (url : String) (info : Overrides) (env : Environment τ)
    (p : Plan τ) {t z : τ} (ht : isBounding (inMilliseconds t) = true)
    (hz : isBounding (inMilliseconds z) = false)
    (hunset : (d.resolved? url info env).bind (·.get? Property.loginTimeout.name) = none) :
    let direct := (d.connect z (some url) info).runFrom env
    let bounded := (d.connectBy p.await t (some url) info).runFrom env
    let program := (d.connect t (some url) info).runFrom env
    (d.attempt? url info env = none → bounded = direct ∧ program = direct) ∧
      ∀ props start, d.attempt? url info env = some (props, start) →
        let j := d.job (some url) props
        let made := j.connect.runFrom start
        let limit := inMilliseconds t
        let begun := { start with side := .worker }
        let call := p.call j limit begun
        let final := p.final j limit begun
        isLost made.1 = false →
          (∀ n < p.looks, (∀ k < n, Passes j (p.deadline j limit begun) (p.checked j limit begun k)) →
            Ends (p.deadline j limit begun) (p.checked j limit begun n) →
            ∃ o, call.1 = some o ∧
              (call.2.1.attempt.stored.isSome = true ∨ call.2.1.attempt.state = .timedOut)) ∧
          (∀ o, call.1 = some o →
            (call.2.1.attempt.stored.isSome = true →
              bounded.1 = direct.1 ∧ Same direct.2 bounded.2) ∧
            (call.2.1.attempt.state = .timedOut →
              bounded.1 = .error (leavingFailure .timedOut) ∧
              final.1.worked = [(made.1, .discarded)] ∧
              requests (dealings bounded.2.events) = requests (dealings direct.2.events) ∧
              ∀ c, made.1 = .ok (some c) → closings final.1 = [c] ∧
                ∀ id, c.link? = some id →
                  closedLinks bounded.2.events = closedLinks start.events ++ [id])) ∧
          (overdue j limit start = false → program.1 = direct.1 ∧ Same direct.2 program.2) ∧
          (overdue j limit start = true →
            program.1 = .error (leavingFailure .timedOut) ∧
            requests (dealings program.2.events) = requests (dealings direct.2.events) ∧
            ∀ c, made.1 = .ok (some c) → ∀ id, c.link? = some id →
              closedLinks program.2.events = closedLinks start.events ++ [id]) := by
  intro direct bounded program
  refine ⟨fun h => ?_, ?_⟩
  · obtain ⟨r, env', -, hrun⟩ := runFrom_connectBy_of_no_attempt h
    have hdirect : direct = (r, env') := hrun awaitJob z
    exact ⟨(hrun p.await t).trans hdirect.symm, (hrun awaitJob t).trans hdirect.symm⟩
  intro props start h j made limit begun call final hlost
  have hprops : props.get? Property.loginTimeout.name = none := by
    rw [(attempt?_eq_some_iff.mp h).1] at hunset
    exact hunset
  have hdirect : direct = (made.1.mapError Failure.reported, made.2) :=
    runFrom_connectBy_of_unbounded h hprops hz awaitJob
  have hj : ObliviousJob j := d.obliviousJob (some url) props
  have hstart : Same start begun := .onSide start .worker
  obtain ⟨hintime, hlate⟩ := connect_ends ht hz h hprops hlost
  refine ⟨fun n hn hpassed hends => p.answered hpassed hends hn, ?_, hintime, ?_⟩
  · intro o hcall
    have hbounded : bounded =
        (o.mapError Failure.reported, { final.2 with side := .caller }) := by
      have hanswer : call.1.getD (.error Plan.endless) = o := by
        rw [hcall]
        rfl
      rw [← hanswer]
      exact runFrom_connectBy_of_bounded h hprops ht p.await
    -- the two ends of the attempt, carried over to the driver, which reports failures once more
    constructor
    · intro hstored
      obtain ⟨ho, -, hsame⟩ := Plan.taken hj hstart hlost hcall hstored
      rw [hbounded, hdirect, ho, mapError_delivered]
      exact ⟨rfl, hsame⟩
    · intro hstate
      obtain ⟨ho, hworked, hsame⟩ := Plan.timedOut hj hstart hlost hcall hstate
      have hleft : Same (afterJob j start .discarded) bounded.2 := by
        rw [hbounded]
        exact hsame
      obtain ⟨hrequests, hclosed⟩ := of_discarded d (some url) props hleft
      refine ⟨?_, hworked, ?_, fun c hc => ⟨?_, hclosed c hc⟩⟩
      · rw [hbounded, ho]
        rfl
      · rw [hdirect]
        exact hrequests
      · rw [closings, hworked, hc]
        rfl
  · intro hoverdue
    obtain ⟨hout, hleft⟩ := hlate hoverdue
    obtain ⟨hrequests, hclosed⟩ := of_discarded d (some url) props hleft
    refine ⟨hout, ?_, hclosed⟩
    rw [hdirect]
    exact hrequests

/-- Two callers that wait for a hundred milliseconds. The worker of the first one stores its
connection after sixty, and the caller comes to it. That of the second one runs only when the caller
has left: the link that it gets is closed. -/
theorem connect_bounded_in_time_and_late :
    let d : Driver := { connector := .custom }
    let url := "postgresql://db/app"
    let env : Environment Int := { now := 0, openings := [{ result := .opened {} }] }
    let inTime : Plan Int := { waits := [[.time 60, .worker]], looks := 2, once := by decide }
    let tooLate : Plan Int :=
      { waits := [[.time 60], [.time 40]], looks := 3, after := [.worker], once := by decide }
    let direct := (d.connect 0 (some url) []).runFrom env
    let first := (d.connectBy inTime.await 100 (some url) []).runFrom env
    let second := (d.connectBy tooLate.await 100 (some url) []).runFrom env
    first.1 = direct.1 ∧ requests (dealings first.2.events) = requests (dealings direct.2.events) ∧
      second.1 = .error (leavingFailure .timedOut) ∧ closedLinks second.2.events = [0] := by
  intro d url env inTime tooLate direct first second
  let attempt := (d.attempt? url [] env).get (by decide +kernel +zetaReduce)
  let props := attempt.1
  let start := attempt.2
  let j : Job Int (Connection Int) := d.job (some url) props
  have hlost : isLost (j.connect.runFrom start).1 = false := by decide +kernel +zetaReduce
  obtain ⟨c, hc, hid⟩ : ∃ c, (j.connect.runFrom start).1 = .ok (some c) ∧ c.link? = some 0 := by
    have h : (j.connect.runFrom start).1.toOption.join.bind Connection.link? = some 0 := by
      decide +kernel +zetaReduce
    rcases hmade : (j.connect.runFrom start).1 with f | _ | c
    · simp [hmade, Except.toOption] at h
    · simp [hmade, Except.toOption] at h
    · exact ⟨c, rfl, by simpa [hmade, Except.toOption] using h⟩
  -- the first caller: its only wait passes, and the check after it finds the connection
  obtain ⟨hanswered, hends, -⟩ := (connect_bounded d url [] env inTime (t := 100) (z := 0)
    (by decide) (by decide) (by decide +kernel +zetaReduce)).2 props start
    (Option.some_get _).symm hlost
  obtain ⟨o, ho, -⟩ := hanswered 1 (by decide) (by decide +kernel +zetaReduce)
    (by decide +kernel +zetaReduce)
  obtain ⟨hout, hsame⟩ := (hends o ho).1 (by decide +kernel +zetaReduce)
  -- the second caller: both of its waits pass, and its time is over then
  obtain ⟨hanswered', hends', -⟩ := (connect_bounded d url [] env tooLate (t := 100) (z := 0)
    (by decide) (by decide) (by decide +kernel +zetaReduce)).2 props start
    (Option.some_get _).symm hlost
  obtain ⟨o', ho', -⟩ := hanswered' 2 (by decide) (by decide +kernel +zetaReduce)
    (by decide +kernel +zetaReduce)
  obtain ⟨herror, -, -, hclosed⟩ := (hends' o' ho').2 (by decide +kernel +zetaReduce)
  have hstart : closedLinks start.events = [] := by decide +kernel +zetaReduce
  refine ⟨hout, ?_, herror, ?_⟩
  · rw [hsame.dealings]
  · rw [(hclosed c hc).2 0 hid, hstart]
    rfl

end Driver

end ClusterConnect
