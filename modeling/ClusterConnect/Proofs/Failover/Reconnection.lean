import ClusterConnect.Proofs.Failover.Custody
import ClusterConnect.Proofs.Timeline.Comparison

/-!
# The course of a reconnection

A manager closes the lost link, fixes a deadline and asks for another link, over and over until one
comes, something else than a connection fails, or its time is up. This module follows it attempt by
attempt.

* `Environment.Logged`: nothing but the log has changed; `closableLinks`: the links that closing a
  lost one closes.
* `Manager.ask`: what is seen of the request of each attempt; `events_openLink`: and of its answer.
* `Manager.beforeAttempt`: the state before each attempt; `Manager.Retries`: an attempt after which
  another one follows; `Manager.Concluded`: the three ways in which an attempt can be the last.
* `Manager.retry_course`: a replacement is attempts after which another one follows, and a last one;
  `Manager.retries_of_unfollowed`: it shows if the last one is not followed.
* `failover_course`: what a failover does to the old link, to the outside and to the handle.
-/

namespace ClusterConnect

variable {τ : Type}

/-! ## The log alone -/

/-- Nothing but the log has changed. -/
def Environment.Logged (env env' : Environment τ) : Prop :=
  ∃ logNames files errorOutput, env' = { env with logNames, files, errorOutput }

namespace Environment.Logged

variable {env env' : Environment τ}

theorem refl (env : Environment τ) : env.Logged env :=
  ⟨env.logNames, env.files, env.errorOutput, rfl⟩

theorem now (h : env.Logged env') : env'.now = env.now := by
  obtain ⟨_, _, _, rfl⟩ := h
  rfl

theorem side (h : env.Logged env') : env'.side = env.side := by
  obtain ⟨_, _, _, rfl⟩ := h
  rfl

theorem quiet (h : env.Logged env') : env.Quiet env' := by
  obtain ⟨_, _, _, rfl⟩ := h
  exact ⟨rfl, rfl, rfl, rfl⟩

end Environment.Logged

theorem logged_warn (part message : String) (env : Environment τ) :
    ∃ env', (warn part message).runFrom env = (.ok (), env') ∧ env.Logged env' :=
  ⟨_, rfl, env.log_eq Level.warning (Logging.rootName ++ "." ++ part) message⟩

theorem logged_warnUnreadable (part : String) (p : Property) (text : Option String)
    (env : Environment τ) :
    ∃ env', (warnUnreadable part p text).runFrom env = (.ok (), env') ∧ env.Logged env' := by
  cases text with
  | some s => exact logged_warn _ _ env
  | none => exact ⟨env, rfl, .refl env⟩

/-- The built-in connector is asked once a warning may have been given, and its failures are its own. -/
theorem runFrom_dial [Timeline τ] (r : OpenRequest) (env : Environment τ) :
    ∃ mid, env.Logged mid ∧
      (dial r).runFrom env =
        let granted := (nextOpening >>= enlist true).runFrom
          (mid.note (.dialed (dialArguments r.endpoints r.user r.database r.properties)))
        (granted.1.mapError (dialFailure r.endpoints ∘ leavingLoop), granted.2) := by
  obtain ⟨mid, hwarn, hlogged⟩ := logged_warnUnreadable "connection" .connectTimeout
    (Property.connectTimeout.timeOrDefault (τ := τ) r.properties).2 env
  refine ⟨mid, hlogged, ?_⟩
  unfold dial
  rw [Act.runFrom_bind_of_ok hwarn, Act.runFrom_bind_of_ok (runFrom_record _ mid),
    Act.runFrom_bind_of_ok (Act.runFrom_outcome _ _)]
  dsimp only
  generalize (nextOpening (τ := τ) >>= enlist true).runFrom _ = answer
  obtain ⟨o, env'⟩ := answer
  cases o <;> rfl

/-! ## One attempt to open a link -/

/-- What is seen of the answer to an attempt: the link that is handed over, if there is one. -/
def handed : Except Failure (Option LinkId) → List (Event τ)
  | .ok (some id) => [.opened id]
  | _ => []

section

variable [Timeline τ]

/-- An attempt to open a link shows as one request, and the link if one comes. -/
theorem events_openLink (c : Connector) (r : OpenRequest) (env : Environment τ) :
    ((openLink c r).runFrom env).2.events =
      env.events ++ c.ask r env.side :: handed ((openLink c r).runFrom env).1 := by
  obtain ⟨mid, hcalm, hanswer⟩ := openLink_answered c r env
  have hmid : (mid.note (c.ask r env.side)).events = env.events ++ [c.ask r env.side] := by
    rw [Environment.events_note, hcalm.events, List.append_nil]
  generalize (openLink c r).runFrom env = answer at hanswer ⊢
  obtain ⟨outcome, env'⟩ := answer
  cases hanswer with
  | opened session id _ hevents _ _ =>
    rw [hevents, hmid, List.append_assoc]
    rfl
  | declined hevents _ _ _ =>
    rw [hevents, hmid]
    rfl
  | failed f hevents _ _ =>
    rw [hevents, hmid]
    rfl

theorem side_nextOpening (env : Environment τ) :
    (nextOpening.runFrom env).2.side = env.side := by
  cases h : env.openings with
  | nil => rw [runFrom_nextOpening_nil h]
  | cons o rest =>
    rw [runFrom_nextOpening_cons h]
    cases o.delay <;> rfl

theorem side_granted (managed : Bool) (env : Environment τ) :
    ((nextOpening >>= enlist managed).runFrom env).2.side = env.side := by
  have hnext := side_nextOpening env
  rcases h : nextOpening.runFrom env with ⟨f | r, mid⟩ <;> rw [h] at hnext
  · rw [Act.runFrom_bind_of_error h]
    exact hnext
  · rw [Act.runFrom_bind_of_ok h]
    cases r <;> exact hnext

/-- An attempt to open a link is made on one side. -/
theorem side_openLink (c : Connector) (r : OpenRequest) (env : Environment τ) :
    ((openLink c r).runFrom env).2.side = env.side := by
  cases c with
  | custom => exact side_granted false _
  | builtin =>
    obtain ⟨mid, hlogged, hrun⟩ := runFrom_dial r env
    show ((dial r).runFrom env).2.side = env.side
    rw [hrun]
    exact (side_granted true _).trans hlogged.side

end

/-! ## The attempts of a replacement -/

section

variable [Timeline τ]

namespace Manager

/-- What is seen of the request. -/
def ask (m : Manager τ) (side : Side) : Event τ := m.connector.ask m.request side

/-- The time allowed for a replacement, in seconds: what the property says, or its default where that
is no numeral. -/
def allowance (m : Manager τ) : τ :=
  Timeline.ofMilliseconds
    ((Property.failoverTimeout.timeOrDefault (τ := τ) m.properties).1.getD Timeline.zero)

/-- The state before each attempt, if the attempts before it fail to connect and time is left. -/
def beforeAttempt (m : Manager τ) (start : Environment τ) : Nat → Environment τ
  | 0 => start
  | k + 1 => ((sleep m.retryInterval).runFrom (m.connect.runFrom (m.beforeAttempt start k)).2).2

/-- **An attempt after which another one follows**: it fails to connect, and a pause later the
deadline is not reached. -/
def Retries (m : Manager τ) (deadline : τ) (env : Environment τ) : Prop :=
  ∃ f t, m.connect.runFrom env = (.error f, t) ∧ f.isKind .connectionFailed = true ∧
    Timeline.atMost deadline (Timeline.add t.now m.retryInterval) = false

/-- **What the last attempt comes to.** -/
inductive Concluded (m : Manager τ) (deadline : τ) (env : Environment τ) :
    Except Failure (Option LinkId) × Environment τ → Prop where
  /-- The connector gives a link, or declines. -/
  | linked {link : Option LinkId} {t : Environment τ} (h : m.connect.runFrom env = (.ok link, t)) :
      Concluded m deadline env (.ok link, t)
  /-- Something else than a connection fails. -/
  | failed {f : Failure} {t : Environment τ} (h : m.connect.runFrom env = (.error f, t))
      (other : f.isKind .connectionFailed = false) : Concluded m deadline env (.error f, t)
  /-- A connection fails, and a pause later the deadline is reached. -/
  | gaveUp {f : Failure} {t : Environment τ} (h : m.connect.runFrom env = (.error f, t))
      (failed : f.isKind .connectionFailed = true)
      (late : Timeline.atMost deadline (Timeline.add t.now m.retryInterval) = true) :
      Concluded m deadline env (.error (m.giveUp f), t)

variable {m : Manager τ} {deadline : τ} {env : Environment τ}

/-- The attempt that follows starts before the deadline is reached. -/
theorem Retries.not_atMost {start : Environment τ} {k : Nat}
    (h : m.Retries deadline (m.beforeAttempt start k)) :
    Timeline.atMost deadline (m.beforeAttempt start (k + 1)).now = false := by
  obtain ⟨f, t, hconnect, -, hearly⟩ := h
  have hnow : (m.beforeAttempt start (k + 1)).now = Timeline.add t.now m.retryInterval := by
    rw [beforeAttempt, hconnect]
    rfl
  rw [hnow]
  exact hearly

/-- Either another attempt follows, or this one is the last. -/
theorem runFrom_tryOnce (m : Manager τ) (deadline : τ) (env : Environment τ) :
    (m.Retries deadline env ∧ ∃ f, f.isKind .connectionFailed = true ∧
      (m.tryOnce deadline).runFrom env =
        (.ok (.error f), ((sleep m.retryInterval).runFrom (m.connect.runFrom env).2).2)) ∨
    ∃ p, m.Concluded deadline env p ∧ (m.tryOnce deadline).runFrom env = (p.1.map .ok, p.2) := by
  unfold tryOnce
  rw [Act.runFrom_bind_of_ok (Act.runFrom_outcome _ env)]
  rcases h : m.connect.runFrom env with ⟨f | link, t⟩
  · dsimp only
    cases hk : f.isKind .connectionFailed with
    | false => exact .inr ⟨_, .failed h hk, rfl⟩
    | true =>
      simp only [Bool.not_true, Bool.false_eq_true, if_false]
      rw [Act.runFrom_bind_of_ok (Act.runFrom_get t)]
      cases hlate : Timeline.atMost deadline (Timeline.add t.now m.retryInterval) with
      | true => exact .inr ⟨_, .gaveUp h hk hlate, rfl⟩
      | false => exact .inl ⟨⟨f, t, h, hk, hlate⟩, f, hk, rfl⟩
  · exact .inr ⟨_, .linked h, rfl⟩

/-- The attempts after the first one are those of a replacement that begins with the second one. -/
theorem beforeAttempt_succ (m : Manager τ) (start : Environment τ) (k : Nat) :
    m.beforeAttempt start (k + 1) = m.beforeAttempt (m.beforeAttempt start 1) k := by
  induction k with
  | zero => rfl
  | succ k ih =>
    exact congrArg (fun e => ((sleep m.retryInterval).runFrom (m.connect.runFrom e).2).2) ih

/-- Nothing follows the last attempt, however many might. -/
theorem runFrom_retry_of_last {start : Environment τ}
    {p : Except Failure (Option LinkId) × Environment τ}
    (h : (m.tryOnce deadline).runFrom start = (p.1.map .ok, p.2)) (limit : Nat) :
    (m.retry deadline limit).runFrom start = p := by
  obtain ⟨f | link, t⟩ := p <;> cases limit <;> rw [retry, Act.runFrom_bind, h] <;> rfl

/-- **The course of the attempts.** Some attempts fail with time left for another one each. Then one
is the last; or the next attempt is not followed any more. -/
theorem retry_course (m : Manager τ) (deadline : τ) (limit : Nat) (start : Environment τ) :
    ∃ n, (∀ k < n, m.Retries deadline (m.beforeAttempt start k)) ∧
      (m.Concluded deadline (m.beforeAttempt start n) ((m.retry deadline limit).runFrom start) ∨
        n = limit + 1 ∧ ∃ f, f.isKind .connectionFailed = true ∧
          (m.retry deadline limit).runFrom start =
            (.error (unfollowed f), m.beforeAttempt start n)) := by
  have hone : ∀ n, n < 1 → n = 0 := fun n hn => Nat.lt_one_iff.mp hn
  -- After a first attempt that is not the last, the rest begins with the second one.
  induction limit generalizing start with
  | zero =>
    rcases runFrom_tryOnce m deadline start with ⟨hretries, f, hk, htry⟩ | ⟨p, hp, htry⟩
    · refine ⟨1, fun k hk => by rw [hone k hk]; exact hretries, .inr ⟨rfl, f, hk, ?_⟩⟩
      rw [retry, Act.runFrom_bind_of_ok htry]
      rfl
    · refine ⟨0, nofun, .inl ?_⟩
      rw [runFrom_retry_of_last htry]
      exact hp
  | succ limit ih =>
    rcases runFrom_tryOnce m deadline start with ⟨hretries, f, -, htry⟩ | ⟨p, hp, htry⟩
    · obtain ⟨n, hbefore, hlast⟩ := ih (m.beforeAttempt start 1)
      have hretry : (m.retry deadline (limit + 1)).runFrom start =
          (m.retry deadline limit).runFrom (m.beforeAttempt start 1) := by
        rw [retry, Act.runFrom_bind_of_ok htry]
        rfl
      refine ⟨n + 1, ?_, ?_⟩
      · intro k hk
        cases k with
        | zero => exact hretries
        | succ k =>
          rw [beforeAttempt_succ]
          exact hbefore k (Nat.lt_of_succ_lt_succ hk)
      · rw [beforeAttempt_succ, hretry]
        exact hlast.imp_right fun ⟨hn, hf⟩ => ⟨congrArg Nat.succ hn, hf⟩
    · refine ⟨0, nofun, .inl ?_⟩
      rw [runFrom_retry_of_last htry]
      exact hp

/-- The last attempt tells its failure from that of a replacement that is not followed to its end, if
the outside does. -/
theorem Concluded.ne_unfollowed {g f : Failure} {t : Environment τ}
    (h : m.Concluded deadline env (.error g, t))
    (houtside : (m.connect.runFrom env).1 ≠ .error (unfollowed f)) : g ≠ unfollowed f := by
  cases h with
  | failed hc _ =>
    rintro rfl
    exact houtside (by rw [hc])
  | gaveUp hc _ _ =>
    intro hg
    cases congrArg (fun g : Failure => g.isKind .failoverFailed) hg

/-- **The end of what is followed shows.** If a replacement comes to the failure that stands for it,
then all attempts that are followed have failed with time left for another one each. -/
theorem retries_of_unfollowed {limit : Nat} {start : Environment τ} {f : Failure}
    (houtside : ∀ env, (m.connect.runFrom env).1 ≠ .error (unfollowed f))
    (h : ((m.retry deadline limit).runFrom start).1 = .error (unfollowed f)) :
    ∀ k ≤ limit, m.Retries deadline (m.beforeAttempt start k) := by
  obtain ⟨n, hbefore, hconcluded | ⟨rfl, -⟩⟩ := m.retry_course deadline limit start
  · generalize (m.retry deadline limit).runFrom start = p at h hconcluded
    obtain ⟨outcome, t⟩ := p
    obtain rfl : outcome = .error (unfollowed f) := h
    exact absurd rfl (hconcluded.ne_unfollowed (houtside _))
  · exact fun k hk => hbefore k (Nat.lt_succ_of_le hk)

/-- The built-in connector never fails in that way. -/
theorem connect_ne_unfollowed (hm : m.connector = .builtin) (env : Environment τ) (f : Failure) :
    (m.connect.runFrom env).1 ≠ .error (unfollowed f) := by
  have hdial : m.connect = dial m.request := by
    unfold Manager.connect
    rw [hm]
    rfl
  obtain ⟨mid, -, hrun⟩ := runFrom_dial m.request env
  rw [hdial, hrun]
  intro h
  obtain ⟨g, -, hg⟩ := mapError_eq_error_iff.mp h
  rw [Function.comp_apply, dialFailure] at hg
  split at hg
  · next hends =>
    rw [hg] at hends
    cases hends
  · cases congrArg (fun g : Failure => g.isKind .general) hg

/-! ### What is seen of the attempts -/

/-- What is seen of an attempt after which another one follows: the request, and a pause of exactly
the retry interval. -/
def failedAttempts (m : Manager τ) (side : Side) (n : Nat) : List (Event τ) :=
  (List.replicate n [m.ask side, .slept m.retryInterval]).flatten

theorem side_beforeAttempt (m : Manager τ) (start : Environment τ) (n : Nat) :
    (m.beforeAttempt start n).side = start.side := by
  induction n with
  | zero => rfl
  | succ n ih => exact (side_openLink m.connector m.request _).trans ih

theorem events_connect (m : Manager τ) (env : Environment τ) :
    (m.connect.runFrom env).2.events =
      env.events ++ m.ask env.side :: handed (m.connect.runFrom env).1 :=
  events_openLink m.connector m.request env

theorem events_beforeAttempt {start : Environment τ} {n : Nat}
    (h : ∀ k < n, m.Retries deadline (m.beforeAttempt start k)) :
    (m.beforeAttempt start n).events = start.events ++ m.failedAttempts start.side n := by
  induction n with
  | zero => exact (List.append_nil _).symm
  | succ n ih =>
    obtain ⟨f, t, hconnect, -, -⟩ := h n (Nat.lt_succ_self n)
    have hevents := events_connect m (m.beforeAttempt start n)
    rw [hconnect, side_beforeAttempt, ih fun k hk => h k (Nat.lt_succ_of_lt hk)] at hevents
    have hsucc : m.failedAttempts start.side (n + 1) =
        m.failedAttempts start.side n ++ [m.ask start.side, .slept m.retryInterval] := by
      simp [failedAttempts, List.replicate_succ']
    have hslept : (m.beforeAttempt start (n + 1)).events = t.events ++ [.slept m.retryInterval] := by
      rw [beforeAttempt, hconnect]
      rfl
    rw [hslept, hevents, hsucc]
    simp [handed]

theorem Concluded.events {p : Except Failure (Option LinkId) × Environment τ}
    (h : m.Concluded deadline env p) : p.2.events = env.events ++ m.ask env.side :: handed p.1 := by
  have hevents := events_connect m env
  cases h with
  | linked hc => rwa [hc] at hevents
  | failed hc _ => rwa [hc] at hevents
  | gaveUp hc _ _ => rwa [hc] at hevents

theorem runFrom_replacementTime_eq (m : Manager τ) (env : Environment τ) :
    ∃ env', m.replacementTime.runFrom env = (.ok m.allowance, env') ∧ env.Logged env' := by
  obtain ⟨env', hwarn, hlogged⟩ := logged_warnUnreadable "failover" .failoverTimeout
    (Property.failoverTimeout.timeOrDefault (τ := τ) m.properties).2 env
  unfold replacementTime
  rw [Act.runFrom_bind_of_ok hwarn]
  exact ⟨env', rfl, hlogged⟩

end Manager

/-! ## The old link -/

omit [Timeline τ] in
/-- The links that closing a lost one closes: that one, unless it cannot be closed again. -/
def closableLinks (env : Environment τ) : Option LinkId → List LinkId
  | none => []
  | some id => if env.links[id]?.any (!·.isSpent) then [id] else []

omit [Timeline τ] in
theorem closableLinks_of_quiet {env env' : Environment τ} (h : env.Quiet env')
    (stale : Option LinkId) : closableLinks env' stale = closableLinks env stale := by
  unfold closableLinks
  rw [h.links]

/-- Closing a link is calm, and closes no other link. -/
theorem closedLinks_closeCurrent (stale : Option LinkId) (env : Environment τ) :
    ∃ new, Calm new env ((closeCurrent stale).runFrom env).2 ∧
      closedLinks new = closableLinks env stale := by
  have hnothing : Calm [] env env := .of_eq rfl rfl rfl
  cases stale with
  | none => exact ⟨[], hnothing, rfl⟩
  | some id =>
    show ∃ new, Calm new env ((closeLink id).runFrom env).2 ∧
      closedLinks new = closableLinks env (some id)
    cases h : env.links[id]? with
    | none =>
      unfold closeLink
      rw [Act.runFrom_bind_of_error (runFrom_linkAt_of_none h)]
      exact ⟨[], hnothing, by simp [closableLinks, h, closedLinks]⟩
    | some link =>
      cases hm : link.managed with
      | false =>
        rw [runFrom_closeLink_custom h hm]
        refine ⟨_, (Calm.changeLink_note env id _).trans (.elapse _ _), ?_⟩
        simp [closableLinks, h, Link.isSpent, hm, closedLinks, Event.closes?]
      | true =>
        cases hr : link.released with
        | true =>
          have hs := Link.isSpent_of_released hm hr
          rw [runFrom_closeLink_of_spent h hs]
          exact ⟨[], hnothing, by simp [closableLinks, h, hs, closedLinks]⟩
        | false =>
          have hlinks : closableLinks env (some id) = [id] := by
            simp [closableLinks, h, Link.isSpent, hr]
          have hclose := (Calm.changeLink_note env id ({ · with released := true })).trans
            (.elapse _ link.session.closing.delay)
          rw [runFrom_closeLink_managed h hm hr, hlinks]
          cases link.session.closing.failure with
          | none => exact ⟨_, hclose.trans (.changeLink _ id fun _ hs => hs), rfl⟩
          | some f =>
            dsimp only
            split
            · exact ⟨_, hclose, rfl⟩
            · exact ⟨_, hclose.trans (.note rfl), rfl⟩

/-! ## The whole failover -/

omit [Timeline τ] in
/-- The handle after a replacement: a new link is the current one, and a failure changes nothing. -/
def FailoverHandle.after (h : FailoverHandle τ) : Except Failure (Option LinkId) → FailoverHandle τ
  | .ok link => { h with current := link }
  | .error _ => h

theorem FailoverHandle.runFrom_failover {h : FailoverHandle τ} {m : Manager τ}
    (hm : h.supervisor = .manager m) (cause : Failure) (env : Environment τ) :
    (FailoverHandle.failover cause).runFrom (h, env) =
      (((m.replace h.current cause).runFrom env).1.map fun _ => (),
        (h.after ((m.replace h.current cause).runFrom env).1,
          ((m.replace h.current cause).runFrom env).2)) := by
  have hreplace : (Act.onSecond (h.supervisor.replace h.current cause)).runFrom (h, env) =
      (((m.replace h.current cause).runFrom env).1,
        (h, ((m.replace h.current cause).runFrom env).2)) := by
    rw [Act.runFrom_onSecond, hm]
    rfl
  unfold FailoverHandle.failover
  rw [Act.runFrom_bind_of_ok (Act.runFrom_get _)]
  dsimp only
  rw [Act.runFrom_bind, hreplace]
  rcases (m.replace h.current cause).runFrom env with ⟨f | link, t⟩ <;> rfl

/-- **What a replacement does before its attempts.** It warns and closes the old link. A failure to
close it that ends the program is its own; otherwise the deadline is fixed, and the attempts follow. -/
theorem Manager.runFrom_replace (m : Manager τ) (stale : Option LinkId) (cause : Failure)
    (env : Environment τ) :
    ∃ warned closing, env.Logged warned ∧ (closeCurrent stale).runFrom warned = closing ∧
      (∀ f, closing.1 = .error f → f.endsProgram = true →
        (m.replace stale cause).runFrom env = (.error f, closing.2)) ∧
      ((∀ f, closing.1 = .error f → f.endsProgram = false) →
        ∃ start, closing.2.Logged start ∧
          (m.replace stale cause).runFrom env =
            (m.retry (Timeline.add closing.2.now m.allowance) start.openings.length).runFrom
              start) := by
  obtain ⟨warned, hwarn, hlogged⟩ := logged_warn "failover"
    ("Connection to " ++ m.endpoint.text ++ " lost, starting failover: " ++ cause.text) env
  have hdiscard := Manager.runFrom_discard stale warned
  generalize hclosing : (closeCurrent stale).runFrom warned = closing at hdiscard
  refine ⟨warned, closing, hlogged, hclosing, ?_, ?_⟩
  · intro f hf hends
    unfold Manager.replace
    rw [Act.runFrom_bind_of_ok hwarn]
    refine Act.runFrom_bind_of_error ?_ _
    simp only [hdiscard, hf, hends, if_true]
  · intro hignored
    have hdiscarded : (Manager.discard stale).runFrom warned = (.ok (), closing.2) := by
      rw [hdiscard]
      cases hf : closing.1 with
      | ok u => rfl
      | error f => simp only [hignored f hf, Bool.false_eq_true, if_false]
    obtain ⟨start, htime, hstart⟩ := m.runFrom_replacementTime_eq closing.2
    refine ⟨start, hstart, ?_⟩
    unfold Manager.replace
    rw [Act.runFrom_bind_of_ok hwarn, Act.runFrom_bind_of_ok hdiscarded,
      Act.runFrom_bind_of_ok (Act.runFrom_get closing.2), Act.runFrom_bind_of_ok htime,
      Act.runFrom_bind_of_ok (Act.runFrom_get start)]

/-- **The course of a failover.** Take any handle with a manager of the driver: any link in use, any
properties and retry interval, any plan for closing and opening links.

* The old link is closed once, before anything is asked for. A failure to close it is ignored, unless
  it ends the program; then the failover ends with it.
* The deadline is fixed after that, once. Then links are asked for one at a time. Each attempt but the
  last fails to connect with time left, and is followed by one pause of exactly the retry interval; so
  each attempt but the first starts before a deadline that is a number.
* The last attempt gives a link or declines, fails in another way, or fails to connect when a pause
  would reach the deadline. Only in the first case the handle changes: the new link is in use. (Or the
  failover is not followed any further, and says so: every attempt that the plan has an answer for,
  and one more, has failed with time left.) -/
theorem failover_course {m : Manager τ} {h : FailoverHandle τ} (hm : h.supervisor = .manager m)
    (cause : Failure) (env : Environment τ) :
    ∃ warned closing, env.Logged warned ∧ (closeCurrent h.current).runFrom warned = closing ∧
      (∃ new, closing.2.events = env.events ++ new ∧ (∀ e ∈ new, e.isCalm = true) ∧
        closedLinks new = closableLinks env h.current) ∧
      (∀ f, closing.1 = .error f → f.endsProgram = true →
        (FailoverHandle.failover cause).runFrom (h, env) = (.error f, (h, closing.2))) ∧
      ((∀ f, closing.1 = .error f → f.endsProgram = false) →
        ∃ start deadline n, closing.2.Logged start ∧
          deadline = Timeline.add closing.2.now m.allowance ∧
          (∀ k < n, m.Retries deadline (m.beforeAttempt start k)) ∧
          (m.beforeAttempt start n).events =
            closing.2.events ++ m.failedAttempts start.side n ∧
          (Timeline.Total τ → Timeline.isUndefined deadline = false → ∀ k < n,
            Timeline.isUndefined (m.beforeAttempt start (k + 1)).now = false →
              Timeline.before (m.beforeAttempt start (k + 1)).now deadline = true) ∧
          ((∃ outcome final, m.Concluded deadline (m.beforeAttempt start n) (outcome, final) ∧
              final.events = closing.2.events ++ m.failedAttempts start.side n ++
                m.ask start.side :: handed outcome ∧
              (m.replace h.current cause).runFrom env = (outcome, final) ∧
              (FailoverHandle.failover cause).runFrom (h, env) =
                (outcome.map fun _ => (), (h.after outcome, final))) ∨
            n = env.openings.length + 1 ∧ ∃ f, f.isKind .connectionFailed = true ∧
              (FailoverHandle.failover cause).runFrom (h, env) =
                (.error (Manager.unfollowed f), (h, m.beforeAttempt start n)))) := by
  obtain ⟨warned, closing, hlogged, hclosing, hended, hgo⟩ := m.runFrom_replace h.current cause env
  obtain ⟨new, hcalm, hclosed⟩ := closedLinks_closeCurrent h.current warned
  rw [hclosing] at hcalm
  refine ⟨warned, closing, hlogged, hclosing, ⟨new, ?_, hcalm.calm, ?_⟩, ?_, ?_⟩
  · rw [hcalm.events, hlogged.quiet.events]
  · rw [hclosed, closableLinks_of_quiet hlogged.quiet]
  · intro f hf hends
    rw [FailoverHandle.runFrom_failover hm, hended f hf hends]
    rfl
  · intro hignored
    obtain ⟨start, hstart, hreplace⟩ := hgo hignored
    have hlength : start.openings.length = env.openings.length := by
      rw [hstart.quiet.openings, hcalm.openings, hlogged.quiet.openings]
    -- From here on the old link is closed and the deadline fixed: the attempts follow.
    obtain ⟨n, hbefore, hlast⟩ := m.retry_course (Timeline.add closing.2.now m.allowance)
      start.openings.length start
    have hevents := Manager.events_beforeAttempt hbefore
    rw [hstart.quiet.events] at hevents
    refine ⟨start, _, n, hstart, rfl, hbefore, hevents, ?_, ?_⟩
    · intro htotal hdeadline k hk hnow
      exact htotal _ _ hdeadline hnow (hbefore k hk).not_atMost
    · rw [FailoverHandle.runFrom_failover hm, hreplace]
      rcases hlast with hconcluded | ⟨hn, f, hf, hrun⟩
      · left
        generalize (m.retry _ _).runFrom start = p at hconcluded
        have hfinal := hconcluded.events
        rw [hevents, m.side_beforeAttempt] at hfinal
        exact ⟨p.1, p.2, hconcluded, hfinal, rfl, rfl⟩
      · right
        rw [hrun]
        exact ⟨by rw [hn, hlength], f, hf, rfl⟩

/-- The old link takes a while to close and fails to, which does not count. The endpoint takes two more
attempts to come back. -/
theorem failover_course_third :
    let down : Failure := .driver (.ofKind .connectionFailed "down")
    let m : Manager Int := ⟨⟨"db", 5432, none⟩, .empty, "postgresql:aws://db/", .custom, 400⟩
    let h : FailoverHandle Int := { supervisor := .manager m, current := some 0 }
    let refused : Opening Int := { delay := some 100, result := .failed down }
    let closing : Closing Int := { delay := some 50, failure := some (.ofForeign .wrongState "") }
    let env : Environment Int :=
      { now := 0, links := [{ session := { closing }, managed := false }],
        openings := [refused, refused, { result := .opened {} }] }
    let run := (FailoverHandle.failover down).runFrom (h, env)
    run = (.ok (), ({ h with current := some 1 }, run.2.2)) ∧
      ∃ new n, run.2.2.events = new ++ m.failedAttempts .caller n ++ [m.ask .caller, .opened 1] ∧
        closedLinks new = [0] := by
  intro down m h refused closing env run
  -- The general theorem says how a failover can end; the new link in use says which of them it was.
  have hcurrent : run.2.1.current = some 1 := by decide +kernel
  obtain ⟨warned, closing, ⟨_, _, _, rfl⟩, rfl, ⟨new, hnew, -, hclosed⟩, -, hgo⟩ :=
    failover_course (m := m) (h := h) rfl down env
  obtain ⟨start, deadline, n, hstart, -, -, -, -, hlast⟩ := hgo (by
    intro f hf
    obtain rfl := Except.error.inj hf
    rfl)
  rcases hlast with ⟨outcome, final, -, hevents, -, hfail⟩ | ⟨-, f, -, hfail⟩
  · have hrun : run = (outcome.map fun _ => (), (h.after outcome, final)) := hfail
    rw [hrun] at hcurrent ⊢
    cases outcome with
    | error f => exact absurd (Option.some.inj hcurrent) Nat.zero_ne_one
    | ok link =>
      obtain rfl : link = some 1 := hcurrent
      refine ⟨rfl, _, n, ?_, hclosed⟩
      rw [hevents, hnew, hstart.side]
      rfl
  · have hrun : run = _ := hfail
    rw [hrun] at hcurrent
    exact absurd (Option.some.inj hcurrent) Nat.zero_ne_one

end

end ClusterConnect
