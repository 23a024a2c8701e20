import ClusterConnect.Proofs.Link.Extension
import ClusterConnect.Proofs.Link.Life

/-!
# What reaches the sessions

A statement on a failover handle is sent over the link in use. The trace shows which statements have
been sent over which links, and this file says what one statement adds to that.

* `sentStatements`: the statements of a trace, each with its link.
* `Environment.takes`: whether there is such a link, and it has not been closed. `sent_sendOver`: over
  such a link a statement is sent once, and over no other it is sent at all.
* `Unsent`: nothing is sent. Closing a link is one thing that sends nothing, and asking for another
  one is another (`unsent_closeLink`, `unsent_connect`); so a whole replacement does not
  (`unsent_replace`).
* `FailoverHandle.sent_call`: a statement on a handle is sent once or not at all, whatever comes of it.
  `FailoverHandle.unsent_perform`: nothing else that is done with a handle sends anything.
-/

namespace ClusterConnect

variable {τ : Type}

open Act Environment

/-! ## Traces -/

/-- The statement that is sent, with the link. -/
def Event.sent? : Event τ → Option (Option LinkId × Statement)
  | .sent id q => some (some id, q)
  | _ => none

/-- The statements sent, in their order, each with its link. -/
def sentStatements (es : List (Event τ)) : List (Option LinkId × Statement) :=
  es.filterMap Event.sent?

theorem sentStatements_append (es es' : List (Event τ)) :
    sentStatements (es ++ es') = sentStatements es ++ sentStatements es' := List.filterMap_append

/-- Whether a statement gets to the session of a link: there is one, and it is not one of the built-in
connector that has been closed. -/
def Environment.takes (env : Environment τ) (link : Option LinkId) : Bool :=
  link.any fun id => env.links[id]?.any (!·.isSpent)

/-- Nothing has been sent. -/
def Unsent (env env' : Environment τ) : Prop :=
  sentStatements env'.events = sentStatements env.events

instance : IsPreorder (Environment τ) Unsent where
  refl _ := rfl
  trans _ _ _ h h' := h'.trans h

section

variable {env env' : Environment τ} {new : List (Event τ)}

theorem Unsent.of_append (h : env'.events = env.events ++ new) (hnew : sentStatements new = []) :
    Unsent env env' := by
  unfold Unsent
  rw [h, sentStatements_append, hnew, List.append_nil]

theorem Unsent.of_eq (h : env'.events = env.events) : Unsent env env' :=
  congrArg sentStatements h

theorem unsent_record {e : Event τ} (h : e.sent? = none) : Within Unsent (record e) :=
  fun _ => .of_append rfl (by simp [sentStatements, h])

theorem IsQuiet.unsent {α : Type} {a : Doing τ α} (h : IsQuiet a) : Within Unsent a :=
  fun env => .of_eq (h env).events

end

/-! ## What sends nothing -/

section

variable [Timeline τ]

theorem unsent_closeLink (id : LinkId) : Within (Unsent (τ := τ)) (closeLink id) :=
  within_closeLink (fun _ _ _ => .of_eq rfl) (fun span => (quiet_pass span).unsent)
    (fun _ => unsent_record rfl) (fun _ => unsent_record rfl) id

theorem unsent_closeCurrent (link : Option LinkId) :
    Within (Unsent (τ := τ)) (closeCurrent link) := by
  cases link with
  | some id => exact unsent_closeLink id
  | none => exact within_throw _

theorem unsent_sleep (span : τ) : Within Unsent (sleep span) :=
  (unsent_record rfl).bind fun _ => (quiet_pass (some span)).unsent

/-- Whatever the outside gives in answer to a request, nothing is sent with it. -/
theorem unsent_granted (managed : Bool) :
    Within (Unsent (τ := τ)) (nextOpening >>= enlist managed) := by
  have hnext : Within (Unsent (τ := τ)) nextOpening := by
    intro env
    cases hopenings : env.openings with
    | nil =>
      rw [runFrom_nextOpening_nil hopenings]
      exact .of_eq rfl
    | cons o rest =>
      rw [runFrom_nextOpening_cons hopenings]
      exact .of_eq (events_elapse _ _)
  refine hnext.bind fun r => ?_
  cases r with
  | opened session =>
    exact fun env => @Unsent.of_append τ env _ [.opened env.links.length] rfl rfl
  | failed f => exact within_throw f
  | nothing => exact within_pure none

/-- Neither with the request of a manager. -/
theorem unsent_connect (m : Manager τ) : Within Unsent m.connect := by
  intro env
  refine .of_append (m.events_connect env) ?_
  have hask : (m.ask env.side).sent? = none := by
    unfold Manager.ask
    cases m.connector <;> rfl
  unfold sentStatements
  rw [List.filterMap_cons_none hask]
  match (m.connect.runFrom env).1 with
  | .ok (some id) => rfl
  | .ok none => rfl
  | .error f => rfl

/-- **Replacing a link sends nothing**, however often another one is asked for. -/
theorem unsent_replace (s : Supervisor τ) (stale : Option LinkId) (cause : Failure) :
    Within Unsent (s.replace stale cause) := by
  cases s with
  | manager m =>
    exact m.within_replace (fun part message => (quiet_warn part message).unsent) unsent_closeLink
      (unsent_connect m) unsent_sleep stale cause
  | external enabled => exact (unsent_record rfl).bind fun _ => unsent_granted false

/-! ## What one statement sends -/

/-- Over a link that takes it, a statement is sent. -/
theorem state_send_of_not_spent {env : Environment τ} {id : LinkId} {link : Link τ}
    (h : env.links[id]? = some link) (hs : link.isSpent = false) (q : Statement) :
    ((send id q).runFrom env).2 = ((transmit id q).runFrom env).2 := by
  cases hm : link.managed with
  | true =>
    have hopen : link.released = false := by simpa [Link.isSpent, hm] using hs
    rw [runFrom_send_of_open h hm hopen]
  | false =>
    unfold send
    rw [runFrom_bind_of_ok (runFrom_linkAt h)]
    simp only [hm, Bool.false_eq_true, if_false]

/-- **A statement is sent once** over a link that takes statements, and not at all over any other. -/
theorem sent_sendOver (link : Option LinkId) (q : Statement) (env : Environment τ) :
    sentStatements ((sendOver link q).runFrom env).2.events =
      sentStatements env.events ++ [(link, q)].filter fun p => env.takes p.1 := by
  rw [List.filter_cons, List.filter_nil]
  dsimp only
  cases link with
  | none => exact (List.append_nil _).symm
  | some id =>
    show sentStatements ((send id q).runFrom env).2.events = _
    cases h : env.links[id]? with
    | none =>
      have htakes : env.takes (some id) = false := by simp [takes, h]
      unfold send
      rw [htakes, runFrom_bind_of_error (runFrom_linkAt_of_none h)]
      exact (List.append_nil _).symm
    | some l =>
      have htakes : env.takes (some id) = !l.isSpent := by simp [takes, h]
      cases hs : l.isSpent with
      | true =>
        rw [htakes, hs, runFrom_send_of_spent h hs]
        exact (List.append_nil _).symm
      | false =>
        rw [htakes, hs, state_send_of_not_spent h hs, runFrom_transmit h, events_elapse,
          events_changeLink, events_note, sentStatements_append]
        rfl

namespace FailoverHandle

variable (s : FailoverHandle τ × Environment τ)

/-- A statement on an open handle is sent over the link in use, if that takes it. It is not sent again,
not even if the link turns out to be lost. A closed handle sends nothing. -/
theorem sent_call (q : Statement) :
    sentStatements ((call q).runFrom s).2.2.events =
      sentStatements s.2.events ++
        (if s.1.closed then [] else [(s.1.current, q)]).filter fun p => s.2.takes p.1 := by
  cases hclosed : s.1.closed with
  | true =>
    rw [runFrom_call_of_closed hclosed, if_pos rfl, List.filter_nil, List.append_nil]
  | false =>
    rw [if_neg Bool.false_ne_true, ← sent_sendOver s.1.current q s.2, runFrom_call_of_open hclosed]
    rcases (sendOver s.1.current q).runFrom s.2 with ⟨f | v, env⟩
    · dsimp only
      split
      · exact (within_failover (s := (s.1, env)) (unsent_replace s.1.supervisor) f).2
      · rfl
    · rfl

theorem unsent_close : Unsent s.2 (close.runFrom s).2.2 := (within_close unsent_closeCurrent).2

omit [Timeline τ] in
theorem unsent_isClosed : Unsent s.2 (isClosed.runFrom s).2.2 := by
  have hlook : Within (Unsent (τ := τ)) (isCurrentClosed s.1.current) := by
    cases s.1.current with
    | some id => exact (within_linkAt id).bind fun _ => within_pure _
    | none => exact within_throw _
  unfold isClosed
  rw [runFrom_bind_of_ok (runFrom_get s)]
  dsimp only
  cases s.1.closed with
  | true => exact Unsent.of_eq rfl
  | false => exact hlook s.2

/-- No operation but a statement sends anything. -/
theorem unsent_perform {op : Operation} (hop : ∀ q, op ≠ .call q) :
    Unsent s.2 (op.perform.runFrom s).2.2 := by
  cases op with
  | call q => exact absurd rfl (hop q)
  | close | leave => exact unsent_close s
  | isClosed =>
    rw [Operation.perform, Act.runFrom_map]
    exact unsent_isClosed s

end FailoverHandle

end

end ClusterConnect
