import ClusterConnect.Proofs.Failover.Handle

/-!
# The account of the links

A link of the built-in connector is closed when the driver lets go of it, and never again, and it is
dropped if closing it failed. So the marks that the links carry and the trace of events tell the same
story, and no action of the driver makes them differ.

* `droppedLinks`: the links that a trace drops. `Session.resists`: closing the session fails.
* `Accounted`: every link was handed over, and the trace closes and drops it as often as its marks
  say (`Link.closings`, `Link.droppings`).
* `accounted_closeLink`, `accounted_openLink`: the two actions that touch both the marks and the
  trace. Everything else that is done with a link keeps the account because they do.
* `Manager.within_replace`, `FailoverHandle.within_call`, `FailoverHandle.within_close`: where whole
  replacements and the use of handles lead, going by what they are made of.
-/

namespace ClusterConnect

variable {τ : Type}

open Act Environment

/-! ## Marks and traces -/

/-- The link that is dropped. -/
def Event.drops? : Event τ → Option LinkId
  | .terminated id => some id
  | _ => none

/-- The links that are dropped, in their order, each as often as it is dropped. -/
def droppedLinks (es : List (Event τ)) : List LinkId := es.filterMap Event.drops?

theorem droppedLinks_append (es es' : List (Event τ)) :
    droppedLinks (es ++ es') = droppedLinks es ++ droppedLinks es' := List.filterMap_append

/-- Closing a session fails, and the program goes on. -/
def Session.resists (s : Session τ) : Bool := s.closing.failure.any fun f => !f.endsProgram

/-- How often a link has been closed, going by its mark. -/
def Link.closings (link : Link τ) : Nat := if link.released then 1 else 0

/-- How often a link has been dropped, going by its mark. -/
def Link.droppings (link : Link τ) : Nat :=
  if link.released && link.session.resists then 1 else 0

/-- The links of the built-in connector are those handed over, in their order, and each was closed
and dropped as often as its mark says. -/
structure Accounted (env : Environment τ) : Prop where
  opened : opened env.events = List.range env.links.length
  managed : ∀ (id : LinkId) (link : Link τ), env.links[id]? = some link → link.managed = true
  closed : ∀ id, (closedLinks env.events).count id = env.links[id]?.elim 0 Link.closings
  dropped : ∀ id, (droppedLinks env.events).count id = env.links[id]?.elim 0 Link.droppings

namespace Accounted

variable {env env' : Environment τ} {new : List (Event τ)}

/-- Nothing has happened yet. -/
theorem of_empty (hevents : env.events = []) (hlinks : env.links = []) : Accounted env := by
  constructor <;> simp [hevents, hlinks, ClusterConnect.opened, closedLinks, droppedLinks]

theorem of_eq (h : Accounted env) (hevents : env'.events = env.events)
    (hlinks : env'.links = env.links) : Accounted env' where
  opened := by rw [hevents, hlinks, h.opened]
  managed := by rw [hlinks]; exact h.managed
  closed := by rw [hevents, hlinks]; exact h.closed
  dropped := by rw [hevents, hlinks]; exact h.dropped

/-- What happens to links that are there already is accounted for one by one. -/
theorem extend (h : Accounted env) (hevents : env'.events = env.events ++ new)
    (hopened : ClusterConnect.opened new = []) (hlength : env'.links.length = env.links.length)
    (hmanaged : ∀ (id : LinkId) (link : Link τ),
      env'.links[id]? = some link → link.managed = true)
    (hclosed : ∀ id, env.links[id]?.elim 0 Link.closings + (closedLinks new).count id =
      env'.links[id]?.elim 0 Link.closings)
    (hdropped : ∀ id, env.links[id]?.elim 0 Link.droppings + (droppedLinks new).count id =
      env'.links[id]?.elim 0 Link.droppings) : Accounted env' where
  opened := by rw [hevents, opened_append, hopened, List.append_nil, h.opened, hlength]
  managed := hmanaged
  closed id := by rw [hevents, closedLinks_append, List.count_append, h.closed, hclosed]
  dropped id := by rw [hevents, droppedLinks_append, List.count_append, h.dropped, hdropped]

/-- Events that open, close and drop nothing need no account. -/
theorem note {e : Event τ} (h : Accounted env) (hopens : e.opens? = none)
    (hcloses : e.closes? = none) (hdrops : e.drops? = none) : Accounted (env.note e) := by
  have hevents : (env.note e).events = env.events ++ [e] := rfl
  refine h.extend hevents ?_ rfl h.managed ?_ ?_
  · simp [ClusterConnect.opened, hopens]
  · simp [closedLinks, hcloses]
  · simp [droppedLinks, hdrops]

/-- A link may change as long as its marks and the end of its session stay. -/
theorem changeLink {id : LinkId} {f : Link τ → Link τ} (h : Accounted env)
    (hf : ∀ link, env.links[id]? = some link → (f link).managed = link.managed ∧
      (f link).released = link.released ∧ (f link).session.closing = link.session.closing) :
    Accounted (env.changeLink id f) := by
  have hat : ∀ id' : LinkId, (env.changeLink id f).links[id']? = env.links[id']? ∨
      ∃ link, env.links[id']? = some link ∧ env.links[id]? = some link ∧
        (env.changeLink id f).links[id']? = some (f link) := by
    intro id'
    rw [getElem?_changeLink]
    split
    · next hid =>
      rw [← hid]
      cases hlink : env.links[id]? with
      | none => exact .inl rfl
      | some link => exact .inr ⟨link, rfl, rfl, rfl⟩
    · exact .inl rfl
  have hevents : (env.changeLink id f).events = env.events ++ [] := by simp
  refine h.extend hevents rfl (List.length_modify ..) ?_ ?_ ?_
  · intro id' link' hlink'
    rcases hat id' with heq | ⟨link, hlink, hid, heq⟩
    · exact h.managed id' link' (heq ▸ hlink')
    · obtain rfl : f link = link' := Option.some.inj (heq ▸ hlink')
      rw [(hf link hid).1]
      exact h.managed id' link hlink
  · intro id'
    rcases hat id' with heq | ⟨link, hlink, hid, heq⟩
    · rw [heq]
      rfl
    · rw [heq, hlink, Option.elim_some, Option.elim_some, Link.closings, Link.closings,
        (hf link hid).2.1]
      rfl
  · intro id'
    rcases hat id' with heq | ⟨link, hlink, hid, heq⟩
    · rw [heq]
      rfl
    · rw [heq, hlink, Option.elim_some, Option.elim_some, Link.droppings, Link.droppings,
        Session.resists, Session.resists, (hf link hid).2.1, (hf link hid).2.2]
      rfl

/-- A link is released, which is seen, and it is dropped if its session resists. -/
theorem release {id : LinkId} {link : Link τ} (h : Accounted env)
    (hlink : env.links[id]? = some link) (hreleased : link.released = false)
    (hlinks : env'.links = (env.changeLink id ({ · with released := true })).links)
    (hevents : env'.events =
      env.events ++ [.closed id] ++ if link.session.resists then [.terminated id] else []) :
    Accounted env' := by
  have hat : ∀ id', env'.links[id']? =
      if id = id' then some { link with released := true } else env.links[id']? := by
    intro id'
    rw [hlinks, getElem?_changeLink]
    split
    · next hid => rw [← hid, hlink, Option.map_some]
    · rfl
  have hbefore : link.closings = 0 ∧ link.droppings = 0 := by
    simp [Link.closings, Link.droppings, hreleased]
  rw [List.append_assoc] at hevents
  refine h.extend hevents ?_ ?_ ?_ ?_ ?_
  · cases link.session.resists <;> rfl
  · rw [hlinks]
    exact List.length_modify ..
  · intro id' link' hlink'
    rw [hat] at hlink'
    split at hlink'
    · obtain rfl := Option.some.inj hlink'
      exact h.managed id link hlink
    · exact h.managed id' link' hlink'
  · intro id'
    have hclosed : closedLinks ([.closed id] ++
        if link.session.resists then [.terminated id] else [] : List (Event τ)) = [id] := by
      cases link.session.resists <;> rfl
    rw [hat, hclosed]
    by_cases hid : id = id'
    · rw [if_pos hid, ← hid, hlink, Option.elim_some, Option.elim_some, hbefore.1, Link.closings]
      simp
    · rw [if_neg hid]
      simp [hid]
  · intro id'
    have hdropped : droppedLinks ([.closed id] ++
        if link.session.resists then [.terminated id] else [] : List (Event τ)) =
          if link.session.resists then [id] else [] := by
      cases link.session.resists <;> rfl
    rw [hat, hdropped]
    by_cases hid : id = id'
    · rw [if_pos hid, ← hid, hlink, Option.elim_some, Option.elim_some, hbefore.2, Link.droppings]
      cases link.session.resists <;> simp
    · rw [if_neg hid]
      cases link.session.resists <;> simp [hid]

/-- A new link of the built-in connector is neither closed nor dropped. -/
theorem grant (h : Accounted env) (session : Session τ) :
    Accounted ((env.addLink { session, managed := true }).note (.opened env.links.length)) := by
  have hat : ∀ id, (env.links ++ [Link.mk session true false false])[id]? =
      if id = env.links.length then some ⟨session, true, false, false⟩ else env.links[id]? := by
    intro id
    rw [List.getElem?_append]
    grind
  have hnew : env.links[env.links.length]? = none := List.getElem?_eq_none (Nat.le_refl _)
  constructor
  case opened =>
    rw [events_note, events_addLink, opened_concat, h.opened, links_note, links_addLink,
      List.length_append, List.length_singleton, List.range_succ]
    rfl
  case managed =>
    intro id link hlink
    rw [links_note, links_addLink, hat] at hlink
    split at hlink
    · rw [← Option.some.inj hlink]
    · exact h.managed id link hlink
  case closed =>
    intro id
    rw [events_note, events_addLink, closedLinks_append, List.count_append, h.closed, links_note,
      links_addLink, hat]
    split
    · next hid =>
      rw [hid, hnew]
      rfl
    · rfl
  case dropped =>
    intro id
    rw [events_note, events_addLink, droppedLinks_append, List.count_append, h.dropped, links_note,
      links_addLink, hat]
    split
    · next hid =>
      rw [hid, hnew]
      rfl
    · rfl

end Accounted

/-! ## Actions that keep the account -/

section

variable {α : Type}

/-- What leaves the links alone keeps their account. -/
theorem IsQuiet.accounted {a : Doing τ α} (h : IsQuiet a) : Keeps Accounted a :=
  fun env henv => henv.of_eq (h env).events (h env).links

theorem accounted_record {e : Event τ} (hopens : e.opens? = none) (hcloses : e.closes? = none)
    (hdrops : e.drops? = none) : Keeps Accounted (record e) :=
  fun _ henv => henv.note hopens hcloses hdrops

variable [Timeline τ]

theorem quiet_pass (span : Option τ) : IsQuiet (pass span) :=
  within_modify fun env => by cases span <;> exact ⟨rfl, rfl, rfl, rfl⟩

theorem accounted_sleep (span : τ) : Keeps Accounted (sleep span : Doing τ Unit) :=
  (accounted_record rfl rfl rfl).bind fun _ => (quiet_pass (some span)).accounted

theorem accounted_closeLink (id : LinkId) : Keeps Accounted (closeLink id : Doing τ Unit) := by
  intro env henv
  cases hlink : env.links[id]? with
  | none =>
    unfold closeLink
    rw [runFrom_bind_of_error (runFrom_linkAt_of_none hlink)]
    exact henv
  | some link =>
    have hmanaged := henv.managed id link hlink
    cases hreleased : link.released with
    | true =>
      have hspent := Link.isSpent_of_released hmanaged hreleased
      rw [runFrom_closeLink_of_spent hlink hspent]
      exact henv
    | false =>
      -- the session answers after a delay; then it is dropped, or nothing more is seen of it
      let released := (env.changeLink id ({ · with released := true })).note (.closed id)
      have hseen : ∀ (span : Option τ) (more : List (Event τ)),
          more = (if link.session.resists then [.terminated id] else []) →
          ∀ env' : Environment τ, env'.links = (released.elapse span).links →
            env'.events = (released.elapse span).events ++ more → Accounted env' := by
        intro span more hmore env' hlinks hevents
        refine henv.release hlink hreleased ?_ ?_
        · rw [hlinks, links_elapse, links_note]
        · rw [hevents, events_elapse, events_note, events_changeLink, hmore]
      rw [runFrom_closeLink_managed hlink hmanaged hreleased]
      unfold Session.resists at hseen
      cases hfailure : link.session.closing.failure with
      | none =>
        rw [hfailure] at hseen
        have hclosed := hseen link.session.closing.delay [] rfl _ rfl (List.append_nil _).symm
        exact hclosed.changeLink fun _ _ => ⟨rfl, rfl, rfl⟩
      | some f =>
        rw [hfailure, Option.any_some] at hseen
        cases hf : f.endsProgram with
        | true =>
          simp only [hf, if_true]
          exact hseen _ [] (by rw [hf]; rfl) _ rfl (List.append_nil _).symm
        | false =>
          simp only [hf, Bool.false_eq_true, if_false]
          exact hseen _ [.terminated id] (by rw [hf]; rfl) _ rfl rfl

/-- A statement uses up a reply of the session, which has nothing to do with its end. -/
theorem accounted_transmit (id : LinkId) (s : Statement) :
    Keeps Accounted (transmit id s : Doing τ Value) := by
  intro env henv
  have hsent : Accounted (env.note (.sent id s)) := henv.note rfl rfl rfl
  unfold transmit
  rw [runFrom_bind_of_ok (runFrom_record _ env)]
  cases hlink : (env.note (.sent id s)).links[id]? with
  | none =>
    rw [runFrom_bind_of_error (runFrom_linkAt_of_none hlink)]
    exact hsent
  | some link =>
    rw [runFrom_bind_of_ok (runFrom_linkAt hlink)]
    dsimp only
    rw [runFrom_bind_of_ok (runFrom_changeLink _ _ _)]
    have hused : Accounted ((env.note (.sent id s)).changeLink id fun link' => { link' with
        session := { link.session with replies := link.session.replies.tail } }) := by
      refine hsent.changeLink fun link' hlink' => ?_
      obtain rfl := Option.some.inj (hlink ▸ hlink')
      exact ⟨rfl, rfl, rfl⟩
    refine Within.bind (R := Carries Accounted) (quiet_pass _).accounted (fun _ => ?_) _ hused
    cases (link.session.replies.headD {}).response with
    | standard => exact within_pure _
    | value v => exact within_pure v
    | failed f => exact within_throw f

theorem accounted_send (id : LinkId) (s : Statement) :
    Keeps Accounted (send id s : Doing τ Value) := within_send (accounted_transmit id s)

/-! ### Opening a link -/

theorem accounted_nextOpening : Keeps Accounted (nextOpening : Doing τ (OpenResult τ)) := by
  intro env henv
  cases hopenings : env.openings with
  | nil =>
    rw [runFrom_nextOpening_nil hopenings]
    exact henv
  | cons o rest =>
    rw [runFrom_nextOpening_cons hopenings]
    exact henv.of_eq (events_elapse _ _) (links_elapse _ _)

omit [Timeline τ] in
theorem accounted_enlist (r : OpenResult τ) : Keeps Accounted (enlist true r) := by
  cases r with
  | opened session => exact fun _ henv => henv.grant session
  | failed f => exact within_throw f
  | nothing => exact within_pure none

theorem accounted_openLink (r : OpenRequest) :
    Keeps Accounted (openLink .builtin r : Doing τ (Option LinkId)) := by
  show Keeps Accounted (dial r)
  unfold dial
  refine (quiet_warnUnreadable _ _ _).accounted.bind fun _ => ?_
  refine (accounted_record rfl rfl rfl).bind fun _ => ?_
  refine (accounted_nextOpening.bind accounted_enlist).outcome.bind fun answer => ?_
  cases answer with
  | ok link => exact within_pure link
  | error f => exact within_throw _

/-! ### Replacing a link -/

namespace Manager

variable {m : Manager τ}

section

variable {R : Environment τ → Environment τ → Prop} [IsPreorder (Environment τ) R]

theorem within_tryOnce (hconnect : Within R m.connect) (hsleep : ∀ span, Within R (sleep span))
    (deadline : τ) : Within R (m.tryOnce deadline) := by
  unfold tryOnce
  refine hconnect.outcome.bind fun answer => ?_
  cases answer with
  | ok link => exact within_pure _
  | error f =>
    dsimp only
    split
    · exact within_throw f
    · refine within_get.bind fun env => ?_
      split
      · exact within_throw _
      · exact (hsleep m.retryInterval).bind fun _ => within_pure _

theorem within_retry (hconnect : Within R m.connect) (hsleep : ∀ span, Within R (sleep span))
    (deadline : τ) (limit : Nat) : Within R (m.retry deadline limit) := by
  have hone := within_tryOnce hconnect hsleep deadline
  induction limit with
  | zero =>
    refine hone.bind fun answer => ?_
    cases answer with
    | ok link => exact within_pure link
    | error f => exact within_throw (unfollowed f)
  | succ limit ih =>
    refine hone.bind fun answer => ?_
    cases answer with
    | ok link => exact within_pure link
    | error f => exact ih

theorem within_discard (hclose : ∀ id, Within R (closeLink id)) (link : Option LinkId) :
    Within R (discard link) := by
  cases link with
  | none => exact within_pure _
  | some id =>
    refine (hclose id).outcome.bind fun answer => ?_
    cases answer with
    | ok _ => exact within_pure _
    | error f =>
      dsimp only
      split
      · exact within_throw f
      · exact within_pure _

/-- A replacement leads nowhere but where warnings, the closing of links, requests for links and
pauses lead. -/
theorem within_replace (hwarn : ∀ part message, Within R (warn part message))
    (hclose : ∀ id, Within R (closeLink id)) (hconnect : Within R m.connect)
    (hsleep : ∀ span, Within R (sleep span)) (stale : Option LinkId) (cause : Failure) :
    Within R (m.replace stale cause) := by
  have htime : Within R m.replacementTime := by
    refine Within.bind ?_ fun _ => within_pure _
    unfold warnUnreadable
    split
    · exact hwarn _ _
    · exact within_pure _
  unfold replace
  refine (hwarn _ _).bind fun _ => (within_discard hclose stale).bind fun _ => ?_
  refine within_get.bind fun env => htime.bind fun time => within_get.bind fun env' => ?_
  exact within_retry hconnect hsleep _ _

end

theorem accounted_connect (hm : m.connector = .builtin) : Keeps Accounted m.connect := by
  unfold connect
  rw [hm]
  exact accounted_openLink _

theorem accounted_replace (hm : m.connector = .builtin) (stale : Option LinkId) (cause : Failure) :
    Keeps Accounted (m.replace stale cause) :=
  within_replace (fun part message => (quiet_warn part message).accounted) accounted_closeLink
    (accounted_connect hm) accounted_sleep stale cause

end Manager

/-! ### The use of a handle -/

theorem accounted_sendOver (link : Option LinkId) (s : Statement) :
    Keeps Accounted (sendOver (τ := τ) link s) := by
  cases link with
  | some id => exact accounted_send id s
  | none => exact within_throw _

theorem accounted_closeCurrent (link : Option LinkId) :
    Keeps Accounted (closeCurrent (τ := τ) link) := by
  cases link with
  | some id => exact accounted_closeLink id
  | none => exact within_throw _

namespace FailoverHandle

section

variable {R : Environment τ → Environment τ → Prop} [IsPreorder (Environment τ) R]
variable {s : FailoverHandle τ × Environment τ}

omit [IsPreorder (Environment τ) R] in
theorem within_failover
    (hreplace : ∀ stale cause, Within R (s.1.supervisor.replace stale cause)) (cause : Failure) :
    ((failover cause).runFrom s).2.1.supervisor = s.1.supervisor ∧
      R s.2 ((failover cause).runFrom s).2.2 := by
  have hend := hreplace s.1.current cause s.2
  unfold failover
  rw [runFrom_bind_of_ok (runFrom_get _), runFrom_bind, runFrom_onSecond]
  generalize (s.1.supervisor.replace s.1.current cause).runFrom s.2 = answer at hend ⊢
  rcases answer with ⟨f | link, env⟩ <;> exact ⟨rfl, hend⟩

/-- A statement on a handle leads nowhere but where sending it and replacing the link lead, and the
supervisor stays. -/
theorem within_call (hsend : ∀ link q, Within R (sendOver link q))
    (hreplace : ∀ stale cause, Within R (s.1.supervisor.replace stale cause)) (q : Statement) :
    ((call q).runFrom s).2.1.supervisor = s.1.supervisor ∧ R s.2 ((call q).runFrom s).2.2 := by
  cases hclosed : s.1.closed with
  | true =>
    rw [runFrom_call_of_closed hclosed]
    exact ⟨rfl, Std.Refl.refl s.2⟩
  | false =>
    have hsent := hsend s.1.current q s.2
    rw [runFrom_call_of_open hclosed]
    generalize (sendOver s.1.current q).runFrom s.2 = answer at hsent ⊢
    rcases answer with ⟨f | v, env⟩
    · dsimp only
      split
      · obtain ⟨hsup, hend⟩ := within_failover (s := (s.1, env)) hreplace f
        exact ⟨hsup, IsTrans.trans _ _ _ hsent hend⟩
      · exact ⟨rfl, hsent⟩
    · exact ⟨rfl, hsent⟩

theorem within_close (hclose : ∀ link, Within R (closeCurrent link)) :
    (close.runFrom s).2.1.supervisor = s.1.supervisor ∧ R s.2 (close.runFrom s).2.2 := by
  cases hclosed : s.1.closed with
  | true =>
    rw [runFrom_close_of_closed hclosed]
    exact ⟨rfl, Std.Refl.refl s.2⟩
  | false =>
    rw [runFrom_close_of_open hclosed]
    exact ⟨rfl, hclose s.1.current s.2⟩

end

omit [Timeline τ] in
/-- The handle belongs to a manager that opens links of the built-in connector, and the links are
accounted for. -/
def HasAccount (s : FailoverHandle τ × Environment τ) : Prop :=
  (∃ m, s.1.supervisor = .manager m ∧ m.connector = .builtin) ∧ Accounted s.2

theorem accounted_connect {m : Manager τ} (hm : m.connector = .builtin) :
    Keeps Accounted (FailoverHandle.connect (.manager m)) :=
  (Manager.accounted_connect hm).bind fun _ => within_pure _

theorem accounted_call (q : Statement) : Keeps HasAccount (call (τ := τ) q) := by
  rintro s ⟨⟨m, hm, hbuiltin⟩, henv⟩
  have hreplace : ∀ stale cause, Keeps Accounted (s.1.supervisor.replace stale cause) := by
    rw [hm]
    exact Manager.accounted_replace hbuiltin
  obtain ⟨hsup, hend⟩ := within_call accounted_sendOver hreplace q
  exact ⟨⟨m, hsup.trans hm, hbuiltin⟩, hend henv⟩

theorem accounted_close : Keeps HasAccount (close (τ := τ)) := by
  rintro s ⟨⟨m, hm, hbuiltin⟩, henv⟩
  obtain ⟨hsup, hend⟩ := within_close (s := s) accounted_closeCurrent
  exact ⟨⟨m, hsup.trans hm, hbuiltin⟩, hend henv⟩

end FailoverHandle

end

end ClusterConnect
