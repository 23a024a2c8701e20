import ClusterConnect.Proofs.Failover.Reconnection
import ClusterConnect.Proofs.Link.Life

/-!
# What the application learns of a failed statement

A session of the built-in connector may fail under any statement. The link reports that in the
driver's own kinds, and a failover handle over it passes the report on or replaces the link. This file
says for which failures it works out.

* `ForeignKind.losesLink`: the failures that mean a lost link, by the code that the server gives.
  `DriverError.Reports`: what is due for a failure of the session. `statementFailure_cases`: it is done
  for all of them but one kind.
* `Environment.Ordinary`, `Serves`: what the outside may do to a link and to those that replace it.
  `Serves.send`, `Serves.closeLink`, `Serves.connect`, `Serves.replace`: it can do no other harm.
* `Serving`: a handle in such an environment. `foreign_of_call_iff`: what one statement can raise
  beside errors of the driver, and `serving_play`: this is so after any run.
* `failures_reported_iff`: links and handles together. `misuse_is_not_reported`: the kind left out.
-/

namespace ClusterConnect

variable {τ : Type}

/-! ## What is due -/

/-- Whether a session may raise a failure of this kind under a statement: faults of the server and of
the system, and the refusal of its own library to be used that way. -/
def ForeignKind.ofSession : ForeignKind → Bool
  | .server _ | .system _ | .misuse => true
  | _ => false

/-- The code that the server gives for a fault. A fault that is nothing but a fault has none. -/
def ServerFault.code? : ServerFault → Option String
  | .general => none
  | .connection => some "08000"
  | .connectionGone => some "08003"
  | .connectionRejected => some "08004"
  | .connectionFailure => some "08006"
  | .uniqueViolation => some "23505"
  | .invalidPassword => some "28P01"
  | .undefinedTable => some "42P01"
  | .tooManyConnections => some "53300"
  | .queryCanceled => some "57014"
  | .adminShutdown => some "57P01"
  | .cannotConnectNow => some "57P03"

/-- Whether a code is one of those for the connection itself: the first two characters are the class. -/
def isConnectionCode (code : String) : Bool := code.toList.take 2 = ['0', '8']

/-- Whether a failure of this kind means that the link to the server is lost: the code of the server
is one of those for the connection, or the system reports a fault. A time limit that has passed leaves
the link as it is.

A server that is shut down (`adminShutdown`), or does not take connections yet, gives a code of another
class: the operator has intervened. That counts as a failure of the statement, even though the server
will not answer the next one either. -/
def ForeignKind.losesLink : ForeignKind → Bool
  | .server fault => fault.code?.any isConnectionCode
  | .system fault => fault ≠ .timedOut
  | _ => false

/-- The driver looks at the kind of the fault where the meaning goes by its code. -/
theorem ServerFault.losesLink_eq (fault : ServerFault) :
    fault.losesLink = fault.code?.any isConnectionCode := by
  cases fault <;> rfl

/-- Whether a session may raise a failure under a statement. -/
def Failure.ofSession : Failure → Bool
  | .driver _ => false
  | .foreign e => e.kind.ofSession

/-- **What is due to the application** when a statement fails: an error of the driver with the failure
as its cause. It says that the connection has failed if the link is lost, and otherwise which
statement has. -/
structure DriverError.Reports (d : DriverError) (query : Value) (e : ForeignError) : Prop where
  chained : d.cause = some (.foreign e)
  lost : e.kind.losesLink = true → d.kind = .connectionFailed
  remaining : e.kind.losesLink = false → d.kind = .query ∧ d.subject = some query

/-- A failure of a session is reported as is due, unless the session has been misused; that is raised
as it is. -/
theorem statementFailure_cases {e : ForeignError} (he : e.kind.ofSession = true) (query : Value) :
    (e.kind = .misuse ∧ statementFailure query (leavingLoop (.foreign e)) = .foreign e) ∨
      e.kind ≠ .misuse ∧
        ∃ d, statementFailure query (leavingLoop (.foreign e)) = .driver d ∧ d.Reports query e := by
  obtain ⟨kind, message⟩ := e
  cases kind with
  | misuse => exact .inl ⟨rfl, rfl⟩
  | server fault =>
    refine .inr ⟨nofun, ?_⟩
    have hcode := fault.losesLink_eq
    cases hlost : fault.losesLink with
    | true =>
      have hreport : statementFailure query (leavingLoop (.foreign ⟨.server fault, message⟩)) = _ :=
        if_pos hlost
      have hclass : (ForeignKind.server fault).losesLink = true := hcode.symm.trans hlost
      exact ⟨_, hreport, rfl, fun _ => rfl, fun h => absurd (hclass.symm.trans h) (by simp)⟩
    | false =>
      have hreport : statementFailure query (leavingLoop (.foreign ⟨.server fault, message⟩)) = _ :=
        if_neg (by simp [hlost])
      have hclass : (ForeignKind.server fault).losesLink = false := hcode.symm.trans hlost
      exact ⟨_, hreport, rfl, fun h => absurd (hclass.symm.trans h) (by simp), fun _ => ⟨rfl, rfl⟩⟩
  | system fault =>
    refine .inr ⟨nofun, ?_⟩
    cases fault with
    | timedOut => exact ⟨_, rfl, rfl, nofun, fun _ => ⟨rfl, rfl⟩⟩
    | _ => exact ⟨_, rfl, rfl, fun _ => rfl, nofun⟩
  | _ => cases he

/-- A failure to open a link is reported as a failed connection, unless it ends the program. -/
theorem dialFailure_leavingLoop (endpoints : List Endpoint) {f : Failure}
    (hf : f.endsProgram = false) :
    ∃ d, dialFailure endpoints (leavingLoop f) = .driver d ∧ d.kind = .connectionFailed := by
  have hleaving : (leavingLoop f).endsProgram = false := by
    unfold leavingLoop
    split
    · rfl
    · exact hf
  exact ⟨_, if_neg (by simp [hleaving]), rfl⟩

/-! ## What the outside may do -/

/-- A session whose statements fail as those of sessions do, and whose end does not end the program. -/
structure Session.IsOrdinary (s : Session τ) : Prop where
  replies : ∀ r ∈ s.replies, ∀ f, r.response = .failed f → f.ofSession = true
  closing : ∀ f, s.closing.failure = some f → f.endsProgram = false

/-- An attempt to open a link gives such a session or fails, and that does not end the program. -/
def OpenResult.IsOrdinary : OpenResult τ → Prop
  | .opened s => s.IsOrdinary
  | .failed f => f.endsProgram = false
  | .nothing => False

/-- An environment in which the built-in connector gives such sessions, now and later. -/
structure Environment.Ordinary (env : Environment τ) : Prop where
  links : ∀ link ∈ env.links, link.managed = true → link.session.IsOrdinary
  openings : ∀ o ∈ env.openings, o.result.IsOrdinary
  refusal : env.refusal.endsProgram = false

/-- An ordinary environment with a link of the built-in connector in it. -/
structure Serves (id : LinkId) (env : Environment τ) : Prop extends env.Ordinary where
  present : ∃ link, env.links[id]? = some link ∧ link.managed = true

/-- Whether a session answers a statement with a given failure can be decided. -/
instance (s : Session τ) (q : Statement) (e : ForeignError) :
    Decidable (s.answer q = .error (.foreign e)) :=
  match h : s.answer q with
  | .ok _ => .isFalse nofun
  | .error (.driver _) => .isFalse nofun
  | .error (.foreign e') => decidable_of_iff (e' = e) (by simp)

/-- An answer of an ordinary session is a value or one of its failures. -/
theorem Session.IsOrdinary.answer {s : Session τ} (h : s.IsOrdinary) {q : Statement} {f : Failure}
    (hf : s.answer q = .error f) : ∃ e, f = .foreign e ∧ e.kind.ofSession = true := by
  have hfailed : f.ofSession = true := by
    unfold Session.answer at hf
    cases hreplies : s.replies with
    | nil => simp [hreplies] at hf
    | cons r rest =>
      rw [hreplies, List.headD_cons] at hf
      cases hresponse : r.response with
      | failed g =>
        rw [hresponse] at hf
        obtain rfl := Except.error.inj hf
        exact h.replies r (by simp [hreplies]) g hresponse
      | standard | value => simp [hresponse] at hf
  cases f with
  | driver d => cases hfailed
  | foreign e => exact ⟨e, rfl, hfailed⟩

theorem Session.IsOrdinary.answered {s : Session τ} (h : s.IsOrdinary) : s.answered.IsOrdinary :=
  ⟨fun r hr => h.replies r (List.mem_of_mem_tail hr), h.closing⟩

namespace Serves

variable {env env' : Environment τ} {id : LinkId} {link : Link τ}

theorem of_eq (h : Serves id env) (links : env'.links = env.links)
    (openings : env'.openings ⊆ env.openings) (refusal : env'.refusal = env.refusal) :
    Serves id env' where
  links := links ▸ h.links
  openings o ho := h.openings o (openings ho)
  refusal := refusal ▸ h.refusal
  present := links ▸ h.present

theorem note (h : Serves id env) (e : Event τ) : Serves id (env.note e) :=
  h.of_eq rfl (List.Subset.refl _) rfl

theorem logged (h : Serves id env) (hlogged : env.Logged env') : Serves id env' := by
  obtain ⟨_, _, _, rfl⟩ := hlogged
  exact h.of_eq rfl (List.Subset.refl _) rfl

theorem elapse [Timeline τ] (h : Serves id env) (span : Option τ) : Serves id (env.elapse span) := by
  cases span with
  | none => exact h
  | some t => exact h.of_eq rfl (List.Subset.refl _) rfl

/-- A link may change as long as its session stays ordinary. -/
theorem changeLink (h : Serves id env) (id' : LinkId) {f : Link τ → Link τ}
    (hf : ∀ link, env.links[id']? = some link → (f link).managed = link.managed ∧
      (link.session.IsOrdinary → (f link).session.IsOrdinary)) :
    Serves id (env.changeLink id' f) where
  links link' hlink' hm := by
    obtain ⟨i, hi⟩ := List.mem_iff_getElem?.mp hlink'
    rw [Environment.getElem?_changeLink] at hi
    split at hi
    · next hid =>
      obtain ⟨link, hlink, rfl⟩ := Option.map_eq_some_iff.mp hi
      obtain ⟨hmanaged, hsession⟩ := hf link (hid ▸ hlink)
      exact hsession (h.links link (List.mem_of_getElem? hlink) (hmanaged ▸ hm))
    · exact h.links link' (List.mem_of_getElem? hi) hm
  openings := h.openings
  refusal := h.refusal
  present := by
    obtain ⟨link, hlink, hm⟩ := h.present
    rw [Environment.getElem?_changeLink]
    split
    · next hid => exact ⟨f link, by rw [hlink]; rfl, (hf link (hid ▸ hlink)).1.trans hm⟩
    · exact ⟨link, hlink, hm⟩

/-- The session of the link is ordinary. -/
theorem session (h : Serves id env) (hlink : env.links[id]? = some link) :
    link.managed = true ∧ link.session.IsOrdinary := by
  obtain ⟨_, hpresent, hm⟩ := h.present
  obtain rfl := Option.some.inj (hlink.symm.trans hpresent)
  exact ⟨hm, h.links link (List.mem_of_getElem? hlink) hm⟩

variable [Timeline τ]

theorem send (h : Serves id env) (q : Statement) : Serves id ((send id q).runFrom env).2 := by
  obtain ⟨link, hlink, hm⟩ := h.present
  have hordinary := (h.session hlink).2
  cases hr : link.released with
  | true =>
    rw [runFrom_send_of_spent hlink (Link.isSpent_of_released hm hr)]
    exact h
  | false =>
    have hanswered := (h.note (.sent id q)).changeLink id
      (f := fun l => { l with session := link.session.answered })
      fun _ _ => ⟨rfl, fun _ => hordinary.answered⟩
    rw [runFrom_send_of_open hlink hm hr, runFrom_transmit hlink]
    exact hanswered.elapse _

/-- What a statement over the link can raise beside errors of the driver: that an open session has
been misused. -/
theorem foreign_of_send_iff (h : Serves id env) (hlink : env.links[id]? = some link) {q : Statement}
    {e : ForeignError} :
    ((ClusterConnect.send id q).runFrom env).1 = .error (.foreign e) ↔
      link.released = false ∧ link.session.answer q = .error (.foreign e) ∧ e.kind = .misuse := by
  obtain ⟨hm, hordinary⟩ := h.session hlink
  cases hr : link.released with
  | true =>
    rw [runFrom_send_of_spent hlink (Link.isSpent_of_released hm hr)]
    simp
  | false =>
    rw [runFrom_send_of_open hlink hm hr, mapError_eq_error_iff]
    constructor
    · rintro ⟨f, hanswer, hraised⟩
      obtain ⟨e', rfl, hsession⟩ := hordinary.answer hanswer
      rcases statementFailure_cases hsession q.query with ⟨hmisuse, hkept⟩ | ⟨-, d, hreport, -⟩
      · obtain rfl := Failure.foreign.inj (hkept.symm.trans hraised)
        exact ⟨rfl, hanswer, hmisuse⟩
      · cases hreport.symm.trans hraised
    · rintro ⟨-, hanswer, hmisuse⟩
      have hsession : e.kind.ofSession = true := by rw [hmisuse]; rfl
      rcases statementFailure_cases hsession q.query with ⟨-, hkept⟩ | ⟨hother, -⟩
      · exact ⟨.foreign e, hanswer, hkept⟩
      · exact absurd hmisuse hother

/-- The link can be closed, whether its session resists or not. -/
theorem closeLink (h : Serves id env) :
    ∃ env', (closeLink id).runFrom env = (.ok (), env') ∧ Serves id env' := by
  obtain ⟨link, hlink, hm⟩ := h.present
  cases hr : link.released with
  | true =>
    rw [runFrom_closeLink_of_spent hlink (Link.isSpent_of_released hm hr)]
    exact ⟨env, rfl, h⟩
  | false =>
    have hreleased := ((h.changeLink id (f := ({ · with released := true }))
      fun _ _ => ⟨rfl, fun hs => hs⟩).note (.closed id)).elapse link.session.closing.delay
    rw [runFrom_closeLink_managed hlink hm hr]
    cases hfailure : link.session.closing.failure with
    | none =>
      exact ⟨_, rfl, hreleased.changeLink id (f := ({ · with ended := true }))
        fun _ _ => ⟨rfl, fun hs => hs⟩⟩
    | some f =>
      simp only [(h.session hlink).2.closing f hfailure, Bool.false_eq_true, if_false]
      exact ⟨_, rfl, hreleased.note _⟩

/-! ### Replacements -/

omit [Timeline τ] in
/-- A new link with an ordinary session can take the place of the old one. -/
theorem addLink (h : Serves id env) {session : Session τ} (hsession : session.IsOrdinary) :
    Serves env.links.length (env.addLink { session, managed := true }) where
  links link hlink hm := by
    rcases List.mem_append.mp hlink with hlink | hlink
    · exact h.links link hlink hm
    · rw [List.mem_singleton.mp hlink]
      exact hsession
  openings := h.openings
  refusal := h.refusal
  present := ⟨_, List.getElem?_concat_length, rfl⟩

/-- The outside gives another link, or a failure that does not end the program. -/
theorem granted (h : Serves id env) :
    (∃ id' env', (nextOpening >>= enlist true).runFrom env = (.ok (some id'), env') ∧
        Serves id' env') ∨
      ∃ f env', (nextOpening >>= enlist true).runFrom env = (.error f, env') ∧
        f.endsProgram = false ∧ Serves id env' := by
  cases hopenings : env.openings with
  | nil =>
    rw [Act.runFrom_bind_of_error (runFrom_nextOpening_nil hopenings)]
    exact .inr ⟨_, _, rfl, h.refusal, h⟩
  | cons o rest =>
    have hordinary := h.openings o (by simp [hopenings])
    have hrest : rest ⊆ env.openings := by simp [hopenings]
    have hnext : Serves id { env with openings := rest, late := env.late || o.overdue } :=
      h.of_eq rfl hrest rfl
    rw [Act.runFrom_bind_of_ok (runFrom_nextOpening_cons hopenings)]
    cases hresult : o.result with
    | opened session =>
      rw [hresult] at hordinary
      exact .inl ⟨_, _, rfl, ((hnext.elapse o.delay).addLink hordinary).note _⟩
    | failed f =>
      rw [hresult] at hordinary
      exact .inr ⟨f, _, rfl, hordinary, hnext.elapse o.delay⟩
    | nothing =>
      rw [hresult] at hordinary
      exact hordinary.elim

/-- A manager with the built-in connector gets another link, or learns that the connection has
failed. -/
theorem connect (h : Serves id env) {m : Manager τ} (hm : m.connector = .builtin) :
    (∃ id' env', m.connect.runFrom env = (.ok (some id'), env') ∧ Serves id' env') ∨
      ∃ d env', m.connect.runFrom env = (.error (.driver d), env') ∧ d.kind = .connectionFailed ∧
        Serves id env' := by
  have hdial : m.connect = dial m.request := by
    unfold Manager.connect
    rw [hm]
    rfl
  obtain ⟨mid, hlogged, hrun⟩ := runFrom_dial m.request env
  rw [hdial, hrun]
  dsimp only
  rcases ((h.logged hlogged).note _).granted with ⟨id', env', hgranted, hnew⟩ |
    ⟨f, env', hgranted, hf, hold⟩
  · exact .inl ⟨id', env', by rw [hgranted]; rfl, hnew⟩
  · obtain ⟨d, hd, hkind⟩ := dialFailure_leavingLoop m.request.endpoints hf
    exact .inr ⟨d, env', by rw [hgranted, ← hd]; rfl, hkind, hold⟩

/-- What a replacement leads to: another link is in use, or the application gets an error of the
driver and the old link is still there. -/
def Regained (id : LinkId) : Except Failure (Option LinkId) → Environment τ → Prop
  | .ok link, env => ∃ id', link = some id' ∧ Serves id' env
  | .error f, env => (∃ d, f = .driver d) ∧ Serves id env

theorem sleep (h : Serves id env) (span : τ) :
    Serves id ((ClusterConnect.sleep span).runFrom env).2 :=
  (h.note (.slept span)).elapse (some span)

/-- An attempt after which another one follows does no harm. -/
theorem beforeAttempt (h : Serves id env) {m : Manager τ} (hm : m.connector = .builtin)
    {deadline : τ} {n : Nat} (hbefore : ∀ k < n, m.Retries deadline (m.beforeAttempt env k)) :
    Serves id (m.beforeAttempt env n) := by
  induction n with
  | zero => exact h
  | succ n ih =>
    have hn := ih fun k hk => hbefore k (Nat.lt_succ_of_lt hk)
    obtain ⟨f, t, hretry, -, -⟩ := hbefore n (Nat.lt_succ_self n)
    have hold : Serves id (m.connect.runFrom (m.beforeAttempt env n)).2 := by
      rcases hn.connect hm with ⟨id', t', hconnect, -⟩ | ⟨d, t', hconnect, -, hold⟩
      · cases hretry.symm.trans hconnect
      · rw [hconnect]
        exact hold
    exact hold.sleep m.retryInterval

theorem retry (h : Serves id env) {m : Manager τ} (hm : m.connector = .builtin) (deadline : τ)
    (limit : Nat) :
    Regained id ((m.retry deadline limit).runFrom env).1 ((m.retry deadline limit).runFrom env).2 := by
  obtain ⟨n, hbefore, hlast⟩ := m.retry_course deadline limit env
  have hn := h.beforeAttempt hm hbefore
  have hconnect := hn.connect hm
  generalize (m.retry deadline limit).runFrom env = p at hlast
  -- the built-in connector fails only as a failed connection, so no attempt ends in another way
  rcases hlast with hconcluded | ⟨-, f, -, rfl⟩
  · cases hconcluded with
    | linked hrun =>
      rw [hrun] at hconnect
      rcases hconnect with ⟨id', t, heq, hnew⟩ | ⟨d, t, heq, -, -⟩ <;> cases heq
      exact ⟨id', rfl, hnew⟩
    | failed hrun hother =>
      rw [hrun] at hconnect
      rcases hconnect with ⟨id', t, heq, -⟩ | ⟨d, t, heq, hkind, -⟩ <;> cases heq
      exact absurd (hother.symm.trans (decide_eq_true hkind)) Bool.false_ne_true
    | gaveUp hrun _ _ =>
      rw [hrun] at hconnect
      rcases hconnect with ⟨id', t, heq, -⟩ | ⟨d, t, heq, -, hold⟩ <;> cases heq
      exact ⟨⟨_, rfl⟩, hold⟩
  · exact ⟨⟨_, rfl⟩, hn⟩

/-- However a replacement ends, nothing but errors of the driver comes of it. -/
theorem replace (h : Serves id env) {m : Manager τ} (hm : m.connector = .builtin) (cause : Failure) :
    Regained id ((m.replace (some id) cause).runFrom env).1
      ((m.replace (some id) cause).runFrom env).2 := by
  obtain ⟨warned, closing, hlogged, hclosing, -, hgo⟩ := m.runFrom_replace (some id) cause env
  obtain ⟨closed, hclose, hclosed⟩ := (h.logged hlogged).closeLink
  obtain rfl : (.ok (), closed) = closing := hclose.symm.trans hclosing
  obtain ⟨start, hstart, hrun⟩ := hgo nofun
  rw [hrun]
  exact (hclosed.logged hstart).retry hm _ _

end Serves

/-! ## Handles -/

/-- The link that a statement on a handle is sent over: the one in use, unless the handle or that link
has been closed. -/
def FailoverHandle.inUse (h : FailoverHandle τ) (env : Environment τ) : Option (Link τ) :=
  if h.closed then none else (h.current.bind (env.links[·]?)).filter (!·.released)

/-- A handle over a link of the built-in connector, whose manager replaces it by others of them. -/
structure Serving (s : FailoverHandle τ × Environment τ) : Prop where
  supervised : ∃ m, s.1.supervisor = .manager m ∧ m.connector = .builtin
  current : ∃ id, s.1.current = some id ∧ Serves id s.2

namespace FailoverHandle

variable [Timeline τ] {s : FailoverHandle τ × Environment τ}

/-- A failover leaves a link in use, and nothing but errors of the driver comes of it. -/
theorem serving_failover (h : Serving s) (cause : Failure) :
    Serving ((failover cause).runFrom s).2 ∧
      ∀ f, ((failover cause).runFrom s).1 = .error f → ∃ d, f = .driver d := by
  obtain ⟨handle, env⟩ := s
  obtain ⟨⟨m, hsupervisor, hm⟩, id, hcurrent, hserves⟩ := h
  have hreplaced := hserves.replace hm cause
  rw [runFrom_failover hsupervisor, show handle.current = some id from hcurrent]
  generalize (m.replace (some id) cause).runFrom env = answer at hreplaced ⊢
  rcases answer with ⟨f | link, env'⟩
  · refine ⟨⟨⟨m, hsupervisor, hm⟩, id, hcurrent, hreplaced.2⟩, fun f' hf' => ?_⟩
    obtain rfl := Except.error.inj hf'
    exact hreplaced.1
  · exact ⟨⟨⟨m, hsupervisor, hm⟩, hreplaced⟩, nofun⟩

theorem serving_call (h : Serving s) (q : Statement) : Serving ((call q).runFrom s).2 := by
  cases hclosed : s.1.closed with
  | true =>
    rw [runFrom_call_of_closed hclosed]
    exact h
  | false =>
    obtain ⟨hsupervised, id, hcurrent, hserves⟩ := h
    have hsent : Serves id ((sendOver (some id) q).runFrom s.2).2 := hserves.send q
    rw [runFrom_call_of_open hclosed, hcurrent]
    generalize (sendOver (some id) q).runFrom s.2 = answer at hsent ⊢
    have hserving : Serving (s.1, answer.2) := ⟨hsupervised, id, hcurrent, hsent⟩
    rcases answer with ⟨f | v, env⟩
    · dsimp only
      split
      · exact (serving_failover hserving f).1
      · exact hserving
    · exact hserving

/-- A handle adds nothing but errors of the driver to what the link in use raises. A lost link and its
replacement are reported by such errors. -/
theorem foreign_of_call_of_open (h : Serving s) (hopen : s.1.closed = false) {q : Statement}
    {e : ForeignError} :
    ((call q).runFrom s).1 = .error (.foreign e) ↔
      ((sendOver s.1.current q).runFrom s.2).1 = .error (.foreign e) := by
  obtain ⟨hsupervised, id, hcurrent, hserves⟩ := h
  have hsent : Serves id ((sendOver (some id) q).runFrom s.2).2 := hserves.send q
  rw [runFrom_call_of_open hopen, hcurrent]
  generalize (sendOver (some id) q).runFrom s.2 = answer at hsent ⊢
  have hserving : Serving (s.1, answer.2) := ⟨hsupervised, id, hcurrent, hsent⟩
  rcases answer with ⟨f | v, env⟩
  · dsimp only
    split
    · -- a lost link: the application learns that it was replaced, or why it could not be
      next hlost =>
      obtain ⟨-, hfailed⟩ := serving_failover hserving f
      generalize (failover f).runFrom (s.1, env) = replacement at hfailed ⊢
      cases f with
      | foreign e' => cases (Bool.and_eq_true_iff.mp hlost).1
      | driver d =>
        rcases replacement with ⟨g | u, t⟩
        · obtain ⟨d', rfl⟩ := hfailed g rfl
          simp [Except.bind]
        · simp [Except.bind, failoverSucceeded]
    · rfl
  · simp

/-- What a statement on a handle can raise beside errors of the driver: that an open session has been
misused. -/
theorem foreign_of_call_iff (h : Serving s) {q : Statement} {e : ForeignError} :
    ((call q).runFrom s).1 = .error (.foreign e) ↔
      ∃ link, s.1.inUse s.2 = some link ∧ link.session.answer q = .error (.foreign e) ∧
        e.kind = .misuse := by
  unfold inUse
  cases hclosed : s.1.closed with
  | true =>
    rw [runFrom_call_of_closed hclosed]
    simp
  | false =>
    rw [foreign_of_call_of_open h hclosed]
    obtain ⟨-, id, hcurrent, hserves⟩ := h
    obtain ⟨link, hlink, -⟩ := hserves.present
    have hover : ((sendOver (some id) q).runFrom s.2).1 = .error (.foreign e) ↔
        link.released = false ∧ link.session.answer q = .error (.foreign e) ∧ e.kind = .misuse :=
      hserves.foreign_of_send_iff hlink
    rw [hcurrent, hover, Option.bind_some, hlink]
    cases hr : link.released <;> simp [Option.filter_some, hr]

/-- Closing a handle succeeds, whatever comes of the session. -/
theorem serving_close (h : Serving s) :
    (close.runFrom s).1 = .ok () ∧ Serving (close.runFrom s).2 := by
  cases hclosed : s.1.closed with
  | true =>
    rw [runFrom_close_of_closed hclosed]
    exact ⟨rfl, h⟩
  | false =>
    obtain ⟨hsupervised, id, hcurrent, hserves⟩ := h
    obtain ⟨env, hclose, hend⟩ := hserves.closeLink
    have hover : (closeCurrent (some id)).runFrom s.2 = (.ok (), env) := hclose
    rw [runFrom_close_of_open hclosed, hcurrent, hover]
    exact ⟨rfl, hsupervised, id, hcurrent, hend⟩

omit [Timeline τ] in
theorem runFrom_isClosed_serving (h : Serving s) : ∃ b, isClosed.runFrom s = (.ok b, s) := by
  cases hclosed : s.1.closed with
  | true => exact ⟨true, runFrom_isClosed_of_closed hclosed⟩
  | false =>
    obtain ⟨-, id, hcurrent, hserves⟩ := h
    obtain ⟨link, hlink, -⟩ := hserves.present
    have hover : (isCurrentClosed s.1.current).runFrom s.2 =
        (.ok (link.ended || link.managed && link.released), s.2) := by
      rw [hcurrent]
      exact runFrom_isLinkClosed hlink
    unfold isClosed
    rw [Act.runFrom_bind_of_ok (Act.runFrom_get s)]
    simp only [hclosed, Bool.false_eq_true, if_false]
    rw [Act.runFrom_onSecond, hover]
    exact ⟨_, rfl⟩

/-- An operation leaves the handle with a link in use. -/
theorem serving_perform (h : Serving s) (op : Operation) : Serving (op.perform.runFrom s).2 := by
  cases op with
  | call q =>
    rw [Operation.perform, Act.runFrom_map]
    exact serving_call h q
  | close | leave => exact (serving_close h).2
  | isClosed =>
    obtain ⟨b, hrun⟩ := runFrom_isClosed_serving h
    rw [Operation.perform, Act.runFrom_map, hrun]
    exact h

theorem serving_play (h : Serving s) (ops : List Operation) : Serving (play ops s) := by
  induction ops generalizing s with
  | nil => exact h
  | cons op ops ih => exact ih (serving_perform h op)

end FailoverHandle

/-! ## The report -/

section

variable [Timeline τ] {env : Environment τ} {id : LinkId} {link : Link τ}

/-- **Failures under a statement are reported, but for misuse of the session.** Take an open link of
the built-in connector in an ordinary environment.

* Whenever its session fails under a statement, whatever the statement, the application gets an error
  of the driver that reports the failure exactly if it is not the refusal of the session's library to
  be used that way. That one it gets as it is.
* Over any run of operations on a failover handle over the link, with any properties of the manager and
  any replacements of the link: a statement raises something else than an error of the driver exactly
  if the session in use answers it with such a refusal. Closing the handle and asking whether it is
  closed raise nothing. -/
theorem failures_reported_iff (hordinary : env.Ordinary) (hlink : env.links[id]? = some link)
    (hmanaged : link.managed = true) (hopen : link.released = false) {m : Manager τ}
    (hm : m.connector = .builtin) :
    (∀ q f, link.session.answer q = .error f →
      ∃ e, f = .foreign e ∧
        ((∃ d, ((send id q).runFrom env).1 = .error (.driver d) ∧ d.Reports q.query e) ↔
          e.kind ≠ .misuse) ∧
        (e.kind = .misuse → ((send id q).runFrom env).1 = .error f)) ∧
    ∀ ops, let s := FailoverHandle.play ops (⟨.manager m, some id, false⟩, env)
      (∀ q e, ((FailoverHandle.call q).runFrom s).1 = .error (.foreign e) ↔
        ∃ used, s.1.inUse s.2 = some used ∧ used.session.answer q = .error (.foreign e) ∧
          e.kind = .misuse) ∧
      (FailoverHandle.close.runFrom s).1 = .ok () ∧
      ∃ closed, (FailoverHandle.isClosed.runFrom s).1 = .ok closed := by
  have hserves : Serves id env := ⟨hordinary, link, hlink, hmanaged⟩
  constructor
  · intro q f hanswer
    obtain ⟨e, rfl, hsession⟩ := (hserves.session hlink).2.answer hanswer
    have hsent : ((send id q).runFrom env).1 =
        .error (statementFailure q.query (leavingLoop (.foreign e))) := by
      rw [runFrom_send_of_open hlink hmanaged hopen, hanswer]
      rfl
    refine ⟨e, rfl, ?_⟩
    rw [hsent]
    rcases statementFailure_cases hsession q.query with ⟨hmisuse, hkept⟩ | ⟨hother, d, hreport, hd⟩
    · rw [hkept]
      exact ⟨⟨fun ⟨d, heq, _⟩ => (nomatch heq), fun hother => absurd hmisuse hother⟩, fun _ => rfl⟩
    · rw [hreport]
      exact ⟨⟨fun _ => hother, fun _ => ⟨d, rfl, hd⟩⟩, fun hmisuse => absurd hmisuse hother⟩
  · intro ops s
    have hserving : Serving s :=
      FailoverHandle.serving_play ⟨⟨m, rfl, hm⟩, id, rfl, hserves⟩ ops
    obtain ⟨closed, hclosed⟩ := FailoverHandle.runFrom_isClosed_serving hserving
    exact ⟨fun _ _ => FailoverHandle.foreign_of_call_iff hserving,
      (FailoverHandle.serving_close hserving).1, closed, by rw [hclosed]⟩

/-- A link is lost under a statement and replaced. The session of the new link is misused, and that
reaches the application. -/
theorem failures_reported_replaced :
    let reset : Failure := .ofForeign (.system .connectionReset) "reset"
    let busy : ForeignError := ⟨.misuse, "another operation is in progress"⟩
    let first : Session Int := { replies := [{ response := .failed reset }] }
    let second : Session Int := { replies := [{ response := .failed (.foreign busy) }] }
    let env : Environment Int :=
      { now := 0, links := [{ session := first, managed := true }],
        openings := [{ result := .opened second }] }
    let m : Manager Int := ⟨⟨"db", 5432, none⟩, .empty, "postgresql:aws://db/", .builtin, 100⟩
    let q : Statement := ⟨.fetch, .text "SELECT 1", [], .null⟩
    let s := FailoverHandle.play [.call q] (⟨.manager m, some 0, false⟩, env)
    (∃ d, ((send 0 q).runFrom env).1 = .error (.driver d) ∧ d.kind = .connectionFailed ∧
      d.cause = some reset) ∧
    ((FailoverHandle.call q).runFrom s).1 = .error (.foreign busy) := by
  intro reset busy first second env m q s
  have hfirst : first.IsOrdinary := by
    refine ⟨fun r hr f hf => ?_, nofun⟩
    obtain rfl := List.mem_singleton.mp hr
    cases hf
    rfl
  have hsecond : second.IsOrdinary := by
    refine ⟨fun r hr f hf => ?_, nofun⟩
    obtain rfl := List.mem_singleton.mp hr
    cases hf
    rfl
  have hordinary : env.Ordinary :=
    ⟨fun link hlink _ => by rw [List.mem_singleton.mp hlink]; exact hfirst,
      fun o ho => by rw [List.mem_singleton.mp ho]; exact hsecond, rfl⟩
  obtain ⟨hlinks, hruns⟩ := @failures_reported_iff Int _ env 0 _ hordinary rfl rfl rfl m rfl
  obtain ⟨e, he, ⟨-, hreported⟩, -⟩ := hlinks q reset rfl
  obtain rfl := Failure.foreign.inj he
  obtain ⟨d, hsent, hd⟩ := hreported nofun
  have hused : (s.1.inUse s.2).any (fun link => link.session.answer q = .error (.foreign busy)) =
      true := by decide +kernel
  obtain ⟨used, hinUse, hanswer⟩ := (Option.any_eq_true ..).mp hused
  refine ⟨⟨d, hsent, hd.lost rfl, hd.chained⟩, ((hruns [.call q]).1 q busy).mpr ?_⟩
  exact ⟨used, hinUse, of_decide_eq_true hanswer, rfl⟩

/-- The refusal of a session to be used while it is busy is raised as it is, by the link and by a
handle over it. It is no error of the driver. -/
theorem misuse_is_not_reported :
    let busy : Failure :=
      .ofForeign .misuse "cannot perform operation: another operation is in progress"
    let session : Session Int := { replies := [{ response := .failed busy }] }
    let before : Environment Int := { now := 0, openings := [{ result := .opened session }] }
    let m : Manager Int :=
      ⟨⟨"db", 5432, none⟩, .empty, "postgresql:aws://db/app", .builtin, Timeline.second⟩
    let q : Statement := ⟨.fetch, .text "SELECT 1", [], .null⟩
    ∃ h env, (FailoverHandle.connect (.manager m)).runFrom before = (.ok h, env) ∧
      h.current = some 0 ∧ ((send 0 q).runFrom env).1 = .error busy ∧
      ((FailoverHandle.call q).runFrom (h, env)).1 = .error busy ∧
      ¬ ∃ d, ((send 0 q).runFrom env).1 = .error (.driver d) := by
  intro busy session before m q
  have hsent : ∀ env : Environment Int, env.links = [{ session, managed := true }] →
      ((send 0 q).runFrom env).1 = .error busy := by
    intro env hlinks
    have hlink : env.links[0]? = some { session, managed := true } := by rw [hlinks]; rfl
    rw [runFrom_send_of_open hlink rfl rfl]
    rfl
  refine ⟨_, _, rfl, rfl, hsent _ rfl, rfl, ?_⟩
  rintro ⟨d, hd⟩
  have hdriver : busy = .driver d := Except.error.inj ((hsent _ rfl).symm.trans hd)
  simp [busy, Failure.ofForeign] at hdriver

end

end ClusterConnect
