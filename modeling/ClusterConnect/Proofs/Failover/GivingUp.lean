import ClusterConnect.Proofs.Failover.Reconnection
import ClusterConnect.Proofs.Timeline.Exact
import Mathlib.Algebra.Order.Archimedean.Basic
import Mathlib.Tactic.Linarith

/-!
# Giving up on an endpoint

A replacement must come to an end even if the endpoint never comes back. This is a question of times
only: each pause brings the clock nearer to the deadline, if the deadline is a time that a clock can
come near to. Times are exact here.

* `ExactTime.IsSpan`, `Manager.Unreachable`: an endpoint to which no connection succeeds, and a clock
  that goes on.
* `Manager.allowance_cases`: the time allowed for a replacement, from the text of the property.
* `Manager.beyond_deadline`: some attempt is the last, whatever the outside does.
* `Manager.givesUp_iff`: an endpoint that stays unreachable is given up, unless the text of the
  property says "not a number".
-/

namespace ClusterConnect

namespace ExactTime

/-- Whether an action takes no time, or a time that a clock can measure. -/
def IsSpan : Option ExactTime → Prop
  | none => True
  | some t => ∃ q : ℚ, 0 ≤ q ∧ t = .finite q

/-- The clock goes on. -/
theorem now_elapse (env : Environment ExactTime) {c : ℚ} (hnow : env.now = .finite c)
    {span : Option ExactTime} (hspan : IsSpan span) :
    ∃ c', c ≤ c' ∧ (env.elapse span).now = .finite c' := by
  cases span with
  | none => exact ⟨c, le_refl c, hnow⟩
  | some t =>
    obtain ⟨q, hq, rfl⟩ := hspan
    refine ⟨c + q, by linarith, ?_⟩
    show Timeline.add env.now (.finite q) = .finite (c + q)
    rw [hnow]
    rfl

end ExactTime

open ExactTime

/-! ## Connections that fail -/

/-- The failure of a connector for what the outside has said. -/
def Connector.reported (c : Connector) (r : OpenRequest) (f : Failure) : Failure :=
  match c with
  | .builtin => dialFailure r.endpoints (leavingLoop f)
  | .custom => f

section

variable {τ : Type} [Timeline τ] {env : Environment τ} {o : Opening τ} {rest : List (Opening τ)}
  {f : Failure}

variable (env) in
theorem runFrom_refused (managed : Bool) (h : env.openings = o :: rest) (hf : o.result = .failed f) :
    (nextOpening >>= enlist managed).runFrom env =
      (.error f, ({ env with openings := rest, late := env.late || o.overdue }).elapse o.delay) := by
  rw [Act.runFrom_bind_of_ok (runFrom_nextOpening_cons h), hf]
  rfl

/-- A failed attempt uses up what the outside has prepared for it. -/
theorem runFrom_openLink_refused (c : Connector) (r : OpenRequest) (h : env.openings = o :: rest)
    (hf : o.result = .failed f) :
    ∃ t, (openLink c r).runFrom env = (.error (c.reported r f), t) ∧ t.openings = rest ∧
      t.now = (env.elapse o.delay).now := by
  have hend : ∀ e : Environment τ, e.now = env.now →
      (({ e with openings := rest, late := e.late || o.overdue }).elapse o.delay).openings = rest ∧
      (({ e with openings := rest, late := e.late || o.overdue }).elapse o.delay).now =
        (env.elapse o.delay).now := by
    intro e he
    cases hd : o.delay with
    | none => exact ⟨rfl, he⟩
    | some span => exact ⟨rfl, congrArg (Timeline.add · span) he⟩
  cases c with
  | custom =>
    exact ⟨_, runFrom_refused (env.note _) false h hf, hend (env.note _) rfl⟩
  | builtin =>
    obtain ⟨mid, hlogged, hrun⟩ := runFrom_dial r env
    let asked := mid.note (.dialed (dialArguments r.endpoints r.user r.database r.properties))
    have hrefused := runFrom_refused asked true (hlogged.quiet.openings.trans h) hf
    refine ⟨_, ?_, hend asked hlogged.now⟩
    show (dial r).runFrom env = _
    rw [hrun, hrefused]
    rfl

end

namespace Manager

variable {m : Manager ExactTime} {env start : Environment ExactTime}

/-- An attempt to open a link that fails to connect, after a time that a clock can measure. -/
def FailsToConnect (m : Manager ExactTime) (o : Opening ExactTime) : Prop :=
  IsSpan o.delay ∧
    ∃ f, o.result = .failed f ∧
      (m.connector.reported m.request f).isKind .connectionFailed = true

/-- **An endpoint that stays unreachable.** Each attempt to open a link fails to connect. Nothing on
the way takes for ever, and no failure to close the old link ends the program. -/
structure Unreachable (m : Manager ExactTime) (stale : Option LinkId)
    (env : Environment ExactTime) : Prop where
  clock : ∃ c : ℚ, env.now = .finite c
  closing : ∀ id link, stale = some id → env.links[id]? = some link →
    IsSpan link.session.closing.delay ∧
      ∀ f, link.session.closing.failure = some f → f.endsProgram = false
  openings : ∀ o ∈ env.openings, m.FailsToConnect o

theorem runFrom_connect_fails {o : Opening ExactTime} {rest : List (Opening ExactTime)}
    (h : env.openings = o :: rest) (ho : m.FailsToConnect o) :
    ∃ f t, m.connect.runFrom env = (.error f, t) ∧ f.isKind .connectionFailed = true ∧
      t.openings = rest ∧ t.now = (env.elapse o.delay).now := by
  obtain ⟨-, f, hf, hkind⟩ := ho
  obtain ⟨t, hrun, hopenings, hnow⟩ := runFrom_openLink_refused m.connector m.request h hf
  exact ⟨_, t, hrun, hkind, hopenings, hnow⟩

/-- What closing the old link comes to. -/
theorem Unreachable.settles {stale : Option LinkId} (h : m.Unreachable stale env) :
    (∃ c : ℚ, ((closeCurrent stale).runFrom env).2.now = .finite c) ∧
      ∀ f, ((closeCurrent stale).runFrom env).1 = .error f → f.endsProgram = false := by
  obtain ⟨c, hnow⟩ := h.clock
  cases stale with
  | none =>
    refine ⟨⟨c, hnow⟩, fun f hf => ?_⟩
    obtain rfl := Except.error.inj hf
    rfl
  | some id =>
    show (∃ c : ℚ, ((closeLink id).runFrom env).2.now = .finite c) ∧
      ∀ f, ((closeLink id).runFrom env).1 = .error f → f.endsProgram = false
    cases hlink : env.links[id]? with
    | none =>
      have hrun : (closeLink id).runFrom env = _ :=
        Act.runFrom_bind_of_error (runFrom_linkAt_of_none hlink) _
      rw [hrun]
      refine ⟨⟨c, hnow⟩, fun f hf => ?_⟩
      obtain rfl := Except.error.inj hf
      rfl
    | some link =>
      obtain ⟨hspan, hends⟩ := h.closing id link rfl hlink
      have hclosed : ∀ g : Link ExactTime → Link ExactTime, ∃ c' : ℚ,
          (((env.changeLink id g).note (.closed id)).elapse link.session.closing.delay).now =
            .finite c' := by
        intro g
        obtain ⟨c', -, hc'⟩ :=
          now_elapse ((env.changeLink id g).note (.closed id)) hnow hspan
        exact ⟨c', hc'⟩
      cases hm : link.managed with
      | false =>
        rw [runFrom_closeLink_custom hlink hm]
        refine ⟨hclosed _, fun f hf => hends f ?_⟩
        unfold Closing.outcome at hf
        cases hfail : link.session.closing.failure with
        | none => simp [hfail] at hf
        | some g =>
          rw [hfail] at hf
          rw [Except.error.inj hf]
      | true =>
        cases hr : link.released with
        | true =>
          have hs := Link.isSpent_of_released hm hr
          rw [runFrom_closeLink_of_spent hlink hs]
          exact ⟨⟨c, hnow⟩, fun f hf => absurd hf (by simp)⟩
        | false =>
          rw [runFrom_closeLink_managed hlink hm hr]
          cases hfail : link.session.closing.failure with
          | none => exact ⟨hclosed _, fun f hf => absurd hf (by simp)⟩
          | some g =>
            simp only [hends g hfail, Bool.false_eq_true, if_false]
            exact ⟨hclosed _, fun f hf => absurd hf (by simp)⟩

/-! ## The attempts -/

section

variable (h : ∀ o ∈ start.openings, m.FailsToConnect o)

include h

/-- Each attempt uses up one of the prepared failures. -/
theorem openings_beforeAttempt {k : Nat} (hk : k ≤ start.openings.length) :
    (m.beforeAttempt start k).openings = start.openings.drop k := by
  induction k with
  | zero => rfl
  | succ k ih =>
    have hdrop := ih (Nat.le_of_succ_le hk)
    rw [List.drop_eq_getElem_cons hk] at hdrop
    obtain ⟨f, t, hrun, -, hopenings, -⟩ :=
      runFrom_connect_fails hdrop (h _ (List.getElem_mem hk))
    rw [beforeAttempt, hrun]
    show ((t.note _).elapse _).openings = _
    rw [Environment.openings_elapse, Environment.openings_note, hopenings]

/-- As long as the outside has an answer prepared, the attempt fails to connect. -/
theorem attempt_fails {k : Nat} (hk : k < start.openings.length) :
    ∃ f t, m.connect.runFrom (m.beforeAttempt start k) = (.error f, t) ∧
      f.isKind .connectionFailed = true ∧
      ∃ o ∈ start.openings, t.now = ((m.beforeAttempt start k).elapse o.delay).now := by
  have hdrop := openings_beforeAttempt h (Nat.le_of_lt hk)
  rw [List.drop_eq_getElem_cons hk] at hdrop
  have ho := h _ (List.getElem_mem hk)
  obtain ⟨f, t, hrun, hkind, -, hnow⟩ := runFrom_connect_fails hdrop ho
  exact ⟨f, t, hrun, hkind, _, List.getElem_mem hk, hnow⟩

/-- Each pause brings the clock nearer to the deadline. -/
theorem clock_beforeAttempt {c r : ℚ} (hnow : start.now = .finite c)
    (hr : m.retryInterval = .finite r) {k : Nat} (hk : k ≤ start.openings.length) :
    ∃ c', c + k * r ≤ c' ∧ (m.beforeAttempt start k).now = .finite c' := by
  induction k with
  | zero => exact ⟨c, by simp, hnow⟩
  | succ k ih =>
    obtain ⟨c₁, hc₁, hbefore⟩ := ih (Nat.le_of_succ_le hk)
    obtain ⟨f, t, hrun, -, o, ho, hafter⟩ := attempt_fails h hk
    obtain ⟨c₂, hc₂, hlater⟩ := now_elapse _ hbefore (h o ho).1
    refine ⟨c₂ + r, ?_, ?_⟩
    · rw [Nat.cast_succ]
      linarith
    · rw [beforeAttempt, hrun]
      show Timeline.add t.now m.retryInterval = _
      rw [hafter, hlater, hr]
      rfl

/-- An attempt after which another one follows leaves the clock at a time from which a pause does not
reach the deadline. -/
theorem Retries.clock {deadline : ExactTime} {k : Nat} {c : ℚ}
    (hretries : m.Retries deadline (m.beforeAttempt start k)) (hk : k < start.openings.length)
    (hnow : (m.beforeAttempt start k).now = .finite c) :
    ∃ c', c ≤ c' ∧
      Timeline.atMost deadline (Timeline.add (.finite c') m.retryInterval) = false := by
  obtain ⟨f, t, hrun, -, hearly⟩ := hretries
  obtain ⟨f', t', hrun', -, o, ho, hafter⟩ := attempt_fails h hk
  obtain ⟨-, rfl⟩ := Prod.mk.inj (hrun.symm.trans hrun')
  obtain ⟨c', hc, hc'⟩ := now_elapse _ hnow (h o ho).1
  rw [hafter, hc'] at hearly
  exact ⟨c', hc, hearly⟩

end

/-- **Some attempt is the last.** With a positive retry interval, and a time allowed that is finite or
before all times, there is a number of pauses after which the deadline is reached, whatever the
outside does. -/
theorem beyond_deadline (hpositive : Timeline.isPositive m.retryInterval = true)
    (hallowed : m.allowance = .infinite true ∨ ∃ allowed : ℚ, m.allowance = .finite allowed) :
    ∃ last : Nat, ∀ (start : Environment ExactTime) (c : ℚ), start.now = .finite c →
      (∀ o ∈ start.openings, m.FailsToConnect o) → last < start.openings.length →
        ¬ m.Retries (Timeline.add (.finite c) m.allowance) (m.beforeAttempt start last) := by
  cases hr : m.retryInterval with
  | undefined =>
    rw [hr] at hpositive
    cases hpositive
  | infinite negative =>
    obtain rfl : negative = false := by
      rw [hr] at hpositive
      cases negative <;> first | rfl | cases hpositive
    -- An endless pause reaches every deadline.
    refine ⟨0, fun start c hnow h hlast hretries => ?_⟩
    obtain ⟨c', -, hearly⟩ := hretries.clock h hlast hnow
    rw [hr] at hearly
    rcases hallowed with ha | ⟨allowed, ha⟩ <;> rw [ha] at hearly <;> cases hearly
  | finite r =>
    have hr₀ : 0 < r := by
      rw [hr] at hpositive
      exact of_decide_eq_true hpositive
    rcases hallowed with ha | ⟨allowed, ha⟩
    · refine ⟨0, fun start c hnow h hlast hretries => ?_⟩
      obtain ⟨c', -, hearly⟩ := hretries.clock h hlast hnow
      rw [hr, ha] at hearly
      cases hearly
    · -- So many pauses take at least the time allowed, and the attempts take no time back.
      obtain ⟨last, hlast⟩ := exists_nat_ge (allowed / r)
      refine ⟨last, fun start c hnow h hk hretries => ?_⟩
      obtain ⟨c₁, hc₁, hbefore⟩ := clock_beforeAttempt h hnow hr (Nat.le_of_lt hk)
      obtain ⟨c', hc', hearly⟩ := hretries.clock h hk hbefore
      rw [hr, ha] at hearly
      have hnot : ¬ c + allowed ≤ c' + r := of_decide_eq_false hearly
      have hreached : allowed ≤ last * r := (div_le_iff₀ hr₀).mp hlast
      exact hnot (by linarith)

/-! ## The time allowed -/

/-- The time allowed is what the text of the property says, or a minute. -/
theorem allowance_cases (m : Manager ExactTime) :
    (∃ text t, m.properties.get? Property.failoverTimeout.name = some text ∧
      Timeline.read? text = some t ∧ m.allowance = Timeline.ofMilliseconds t) ∨
    ((∀ text, m.properties.get? Property.failoverTimeout.name = some text →
      (Timeline.read? text : Option ExactTime) = none) ∧ m.allowance = .finite 60) := by
  have hdefault : (Timeline.read? "60000" : Option ExactTime) = some (.finite 60000) := by
    decide +kernel
  have hminute : (Timeline.ofMilliseconds (.finite 60000) : ExactTime) = .finite 60 := by
    decide +kernel
  have hget : Property.failoverTimeout.get? m.properties =
      (m.properties.get? Property.failoverTimeout.name).or (some "60000") := rfl
  have hempty : (Property.failoverTimeout.time? .empty : Except String (Option ExactTime)) =
      .ok (some (.finite 60000)) := by
    unfold Property.time?
    rw [show Property.failoverTimeout.get? .empty = some "60000" from rfl]
    dsimp only
    rw [hdefault]
  unfold allowance Property.timeOrDefault
  rw [hempty]
  unfold Property.time?
  rw [hget]
  cases htext : m.properties.get? Property.failoverTimeout.name with
  | none =>
    right
    dsimp only [Option.none_or]
    rw [hdefault]
    exact ⟨nofun, hminute⟩
  | some text =>
    dsimp only [Option.some_or]
    cases hread : (Timeline.read? text : Option ExactTime) with
    | none =>
      right
      refine ⟨fun text' h => ?_, hminute⟩
      obtain rfl := Option.some.inj h
      exact hread
    | some t => exact .inl ⟨text, t, rfl, hread, rfl⟩

/-- A time allowed that is neither undefined nor infinite, or before all times. -/
theorem allowance_of_read
    (hfinite : ∀ text, m.properties.get? Property.failoverTimeout.name = some text →
      Timeline.read? text ≠ some (ExactTime.infinite false))
    (hdefined : ∀ text, m.properties.get? Property.failoverTimeout.name = some text →
      Timeline.read? text ≠ some ExactTime.undefined) :
    m.allowance = .infinite true ∨ ∃ allowed : ℚ, m.allowance = .finite allowed := by
  rcases m.allowance_cases with ⟨text, t, htext, hread, hallowance⟩ | ⟨-, hallowance⟩
  · rw [hallowance]
    match t, hread with
    | .undefined, hread => exact absurd hread (hdefined text htext)
    | .infinite false, hread => exact absurd hread (hfinite text htext)
    | .infinite true, _ => exact .inl rfl
    | .finite q, _ => exact .inr ⟨_, rfl⟩
  · exact .inr ⟨60, hallowance⟩

/-! ## Giving up -/

/-- **A manager gives up on an endpoint that stays unreachable**, after a number of attempts that
nothing but the manager decides. The handle stays as it is. -/
def GivesUp (m : Manager ExactTime) : Prop :=
  ∃ attempts, ∀ (h : FailoverHandle ExactTime) (env : Environment ExactTime) (cause : Failure),
    h.supervisor = .manager m → m.Unreachable h.current env → attempts ≤ env.openings.length →
      ∃ f final, f.isKind .connectionFailed = true ∧
        (FailoverHandle.failover cause).runFrom (h, env) = (.error (m.giveUp f), (h, final)) ∧
        (env.since final).countP Event.asks ≤ attempts

theorem asks_ask (m : Manager ExactTime) (side : Side) : (m.ask side).asks = true :=
  m.connector.asks_ask m.request side

theorem countP_failedAttempts (m : Manager ExactTime) (side : Side) (n : Nat) :
    (m.failedAttempts side n).countP Event.asks = n := by
  have hslept : (Event.slept m.retryInterval).asks = false := rfl
  induction n with
  | zero => rfl
  | succ n ih =>
    have hsucc : m.failedAttempts side (n + 1) =
        [m.ask side, .slept m.retryInterval] ++ m.failedAttempts side n := by
      simp [failedAttempts, List.replicate_succ]
    rw [hsucc, List.countP_append, ih, List.countP_cons_of_pos (m.asks_ask side),
      List.countP_cons_of_neg (by simp [hslept]), List.countP_nil, Nat.zero_add, Nat.add_comm]

theorem countP_handed (outcome : Except Failure (Option LinkId)) :
    (handed outcome : List (Event ExactTime)).countP Event.asks = 0 := by
  match outcome with
  | .ok (some id) => rfl
  | .ok none => rfl
  | .error f => rfl

/-- A manager that gives up says so, which a replacement that is not followed to its end does not. -/
theorem unfollowed_ne_giveUp (m : Manager ExactTime) (f g : Failure) : unfollowed f ≠ m.giveUp g := by
  intro h
  cases congrArg (fun f : Failure => f.isKind .failoverFailed) h

/-- **A failover on an unreachable endpoint** is given up, or it uses up all that the outside has
prepared. -/
theorem failover_unreachable {h : FailoverHandle ExactTime} (hm : h.supervisor = .manager m)
    (cause : Failure) (hdown : m.Unreachable h.current env) :
    ∃ start c n, start.now = .finite c ∧ start.openings = env.openings ∧
      (∀ k < n, m.Retries (Timeline.add (.finite c) m.allowance) (m.beforeAttempt start k)) ∧
      ((n < env.openings.length ∧ ∃ f final, f.isKind .connectionFailed = true ∧
          Timeline.atMost (Timeline.add (.finite c) m.allowance)
            (Timeline.add final.now m.retryInterval) = true ∧
          (FailoverHandle.failover cause).runFrom (h, env) = (.error (m.giveUp f), (h, final)) ∧
          (env.since final).countP Event.asks = n + 1) ∨
        env.openings.length ≤ n ∧ ∀ f final,
          (FailoverHandle.failover cause).runFrom (h, env) = (.error (m.giveUp f), (h, final)) →
            env.openings.length < (env.since final).countP Event.asks) := by
  obtain ⟨warned, closing, hlogged, rfl, -, hgo⟩ := m.runFrom_replace h.current cause env
  -- Warning leaves everything as it is that makes the endpoint unreachable.
  have hwarned : m.Unreachable h.current warned := by
    obtain ⟨_, _, _, rfl⟩ := hlogged
    exact ⟨hdown.clock, hdown.closing, hdown.openings⟩
  obtain ⟨⟨c, hclosed⟩, hignored⟩ := hwarned.settles
  obtain ⟨start, hstart, hreplace⟩ := hgo hignored
  obtain ⟨new, hquiet, -⟩ := closedLinks_closeCurrent h.current warned
  have hopenings : start.openings = env.openings := by
    rw [hstart.quiet.openings, hquiet.openings, hlogged.quiet.openings]
  have hstarted : start.events = env.events ++ new := by
    rw [hstart.quiet.events, hquiet.events, hlogged.quiet.events]
  obtain ⟨n, hbefore, hlast⟩ := m.retry_course
    (Timeline.add ((closeCurrent h.current).runFrom warned).2.now m.allowance)
    start.openings.length start
  rw [← hreplace, hclosed] at hlast
  rw [hclosed] at hbefore
  rw [FailoverHandle.runFrom_failover hm]
  generalize (m.replace h.current cause).runFrom env = p at hlast ⊢
  obtain ⟨outcome, final⟩ := p
  refine ⟨start, c, n, hstart.now.trans hclosed, hopenings, hbefore, ?_⟩
  rcases hlast with hconcluded | ⟨hn, f, -, hrun⟩
  · have hasks : (env.since final).countP Event.asks = n + 1 := by
      have hfinal : final.events = env.events ++
          (new ++ m.failedAttempts start.side n ++
            m.ask (m.beforeAttempt start n).side :: handed outcome) := by
        rw [hconcluded.events, Manager.events_beforeAttempt hbefore, hstarted]
        simp only [List.append_assoc]
      have hcalm : new.countP Event.asks = 0 := by
        rw [List.countP_eq_zero]
        intro e he
        simp [Event.not_asks_of_isCalm (hquiet.calm e he)]
      rw [Environment.since_eq hfinal, List.countP_append, List.countP_append, hcalm,
        countP_failedAttempts, List.countP_cons_of_pos (m.asks_ask _), countP_handed]
      omega
    rcases Nat.lt_or_ge n env.openings.length with hn | hn
    · -- The outside has an answer prepared: the attempt fails to connect, so time must be up.
      obtain ⟨f, t, hconnect, hkind, -⟩ := attempt_fails
        (fun o ho => hdown.openings o (hopenings ▸ ho)) (hopenings ▸ hn)
      left
      refine ⟨hn, f, t, hkind, ?_⟩
      cases hconcluded with
      | linked hc => cases hc.symm.trans hconnect
      | failed hc other =>
        obtain ⟨hf, -⟩ := Prod.mk.inj (hc.symm.trans hconnect)
        obtain rfl := Except.error.inj hf
        exact absurd (hkind.symm.trans other) (by simp)
      | gaveUp hc _ hlate =>
        obtain ⟨hf, rfl⟩ := Prod.mk.inj (hc.symm.trans hconnect)
        obtain rfl := Except.error.inj hf
        exact ⟨hlate, rfl, hasks⟩
    · right
      refine ⟨hn, fun f final' hrun => ?_⟩
      obtain rfl : final = final' := congrArg (·.2.2) hrun
      omega
  · -- What is not followed any further has not been given up.
    right
    obtain ⟨rfl, rfl⟩ := Prod.mk.inj hrun
    refine ⟨by rw [← hopenings]; omega, fun f' final hgaveUp => ?_⟩
    exact absurd (Except.error.inj (congrArg Prod.fst hgaveUp)) (m.unfollowed_ne_giveUp f f')

/-- Nothing is late for an undefined deadline: however much fails, the manager does not give up. -/
theorem not_givesUp_of_undefined {m : Manager ExactTime} (hallowance : m.allowance = .undefined) :
    ¬ m.GivesUp := by
  rintro ⟨attempts, hgivesUp⟩
  -- As many attempts as the manager has at most, all of which fail at once.
  let down : Failure := .driver (.ofKind .connectionFailed "")
  let refused : Opening ExactTime := { result := .failed down }
  let h : FailoverHandle ExactTime := { supervisor := .manager m, current := none }
  let env : Environment ExactTime :=
    { now := .finite 0, openings := List.replicate attempts refused }
  have hdown : m.Unreachable h.current env := by
    refine ⟨⟨0, rfl⟩, nofun, fun o ho => ?_⟩
    obtain rfl := List.eq_of_mem_replicate ho
    refine ⟨trivial, down, rfl, ?_⟩
    unfold Connector.reported
    cases m.connector <;> rfl
  have hlength : env.openings.length = attempts := List.length_replicate
  obtain ⟨f, final, -, hrun, hasks⟩ := hgivesUp h env down rfl hdown (Nat.le_of_eq hlength.symm)
  obtain ⟨start, c, n, -, -, -, ⟨-, f', final', -, hlate, -, -⟩ | ⟨-, hmore⟩⟩ :=
    failover_unreachable rfl down hdown
  · rw [hallowance] at hlate
    cases hlate
  · have := hmore f final hrun
    omega

/-- The time allowed is undefined if the text says so. -/
theorem allowance_of_undefined {text : String}
    (htext : m.properties.get? Property.failoverTimeout.name = some text)
    (hread : Timeline.read? text = some ExactTime.undefined) : m.allowance = .undefined := by
  rcases m.allowance_cases with ⟨text', t, htext', hread', hallowance⟩ | ⟨hnone, -⟩
  · obtain rfl := Option.some.inj (htext.symm.trans htext')
    obtain rfl := Option.some.inj (hread.symm.trans hread')
    exact hallowance
  · exact absurd (hread.symm.trans (hnone text htext)) (by simp)

/-- **When a manager gives up on an endpoint that stays unreachable.** Let the retry interval be
positive, and let the text of the property not say that there is no limit. Then the manager gives up,
exactly unless the text says "not a number". -/
theorem givesUp_iff {m : Manager ExactTime}
    (positive : Timeline.isPositive m.retryInterval = true)
    (limited : ∀ text, m.properties.get? Property.failoverTimeout.name = some text →
      Timeline.read? text ≠ some (ExactTime.infinite false)) :
    m.GivesUp ↔ ∀ text, m.properties.get? Property.failoverTimeout.name = some text →
      Timeline.read? text ≠ some ExactTime.undefined := by
  constructor
  · intro hgivesUp text htext hread
    exact not_givesUp_of_undefined (allowance_of_undefined htext hread) hgivesUp
  · intro hdefined
    obtain ⟨last, hlast⟩ := m.beyond_deadline positive (allowance_of_read limited hdefined)
    refine ⟨last + 1, fun h env cause hm hdown hattempts => ?_⟩
    obtain ⟨start, c, n, hnow, hopenings, hbefore, hend⟩ := failover_unreachable hm cause hdown
    have hn : n ≤ last := by
      by_contra hmore
      refine hlast start c hnow (fun o ho => hdown.openings o (hopenings ▸ ho)) ?_
        (hbefore last (by omega))
      rw [hopenings]
      omega
    rcases hend with ⟨-, f, final, hkind, -, hrun, hasks⟩ | ⟨hall, -⟩
    · exact ⟨f, final, hkind, hrun, by omega⟩
    · omega

/-- A second is allowed, with pauses of two fifths of one. -/
theorem givesUp_after_second :
    let m : Manager ExactTime :=
      ⟨⟨"cluster", 5432, none⟩, .ofList [("failoverTimeoutMs", "1000")],
        "postgresql:aws://cluster/db", .custom, .finite (2 / 5)⟩
    m.GivesUp := by
  intro m
  have hread : Timeline.read? "1000" = some (ExactTime.finite 1000) := by decide +kernel
  have hpositive : Timeline.isPositive m.retryInterval = true := by decide +kernel
  refine (givesUp_iff hpositive ?_).mpr ?_
  all_goals
    rintro _ ⟨⟩ hother
    exact absurd (hread.symm.trans hother) nofun

/-- **A time limit that is no number is no limit.** The pauses are half a minute long and the text of
the property does not say that there is no limit; but the deadline that it gives is never reached. -/
theorem undefined_timeout_never_gives_up :
    let m : Manager ExactTime :=
      ⟨⟨"cluster", 5432, none⟩, .ofList [("failoverTimeoutMs", "nan")],
        "postgresql:aws://cluster/db", .custom, .finite 30⟩
    Timeline.isPositive m.retryInterval = true ∧
      (∀ text, m.properties.get? Property.failoverTimeout.name = some text →
        Timeline.read? text ≠ some (ExactTime.infinite false)) ∧
      ¬ m.GivesUp := by
  intro m
  have hread : Timeline.read? "nan" = some ExactTime.undefined := by decide +kernel
  refine ⟨by decide +kernel, ?_, ?_⟩
  · rintro _ ⟨⟩ hinfinite
    exact absurd (hread.symm.trans hinfinite) nofun
  · have htext : m.properties.get? Property.failoverTimeout.name = some "nan" := rfl
    exact not_givesUp_of_undefined (allowance_of_undefined htext hread)

end Manager

end ClusterConnect
