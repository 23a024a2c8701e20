import ClusterConnect.Proofs.Environment.Actions

/-!
# What happens to links

An action on links shows in three places: in the events, in the links opened so far, and in the
plan for the coming attempts. This file says for every action which of these it touches.

* `opened`, `held`: what a trace of events says about links: which were handed over, and which of
  those have not been closed since (`mem_held_iff`). `closedLinks`: the links that a trace closes.
* `Calm`: nothing was asked for or handed over, and a link of the built-in connector that has become
  closed was closed in sight. Every action but `openLink` is calm.
* `openLink_answered`: `openLink` asks once, and then its answer is one of three.
* `runFrom_closeLink_managed` and its neighbours: the whole course of closing a link.
-/

namespace ClusterConnect

variable {τ : Type}

/-! ## Traces -/

namespace Event

/-- Whether a connector is asked for a link. -/
def asks : Event τ → Bool
  | .requested _ _ | .dialed _ => true
  | _ => false

/-- The link that is handed over. -/
def opens? : Event τ → Option LinkId
  | .opened id => some id
  | _ => none

/-- The links that the driver has to look after once an event has happened. -/
def account (held : List LinkId) : Event τ → List LinkId
  | .opened id => held ++ [id]
  | .closed id => held.filter (· != id)
  | _ => held

/-- Whether no link is asked for and none handed over. -/
def isCalm (e : Event τ) : Bool := !e.asks && e.opens?.isNone

theorem not_asks_of_isCalm {e : Event τ} (h : e.isCalm = true) : e.asks = false := by
  cases e <;> first | rfl | exact absurd h Bool.false_ne_true

theorem opens?_of_isCalm {e : Event τ} (h : e.isCalm = true) : e.opens? = none := by
  cases e <;> first | rfl | exact absurd h Bool.false_ne_true

/-- Asking is not handing over. -/
theorem opens?_of_asks {e : Event τ} (h : e.asks = true) : e.opens? = none := by
  cases e <;> first | rfl | exact absurd h Bool.false_ne_true

theorem account_of_asks {e : Event τ} (h : e.asks = true) (ids : List LinkId) :
    e.account ids = ids := by
  cases e <;> first | rfl | exact absurd h Bool.false_ne_true

end Event

/-- The links handed over, in their order. -/
def opened (es : List (Event τ)) : List LinkId := es.filterMap Event.opens?

/-- The links handed over and not closed since. -/
def held (es : List (Event τ)) : List LinkId := es.foldl Event.account []

theorem opened_append (es es' : List (Event τ)) : opened (es ++ es') = opened es ++ opened es' :=
  List.filterMap_append

theorem opened_concat (es : List (Event τ)) (e : Event τ) :
    opened (es ++ [e]) = opened es ++ e.opens?.toList := by
  rw [opened_append]
  cases h : e.opens? <;> simp [opened, h]

theorem opened_of_calm {es : List (Event τ)} (h : ∀ e ∈ es, e.isCalm = true) : opened es = [] := by
  unfold opened
  rw [List.filterMap_eq_nil_iff]
  intro e he
  exact Event.opens?_of_isCalm (h e he)

theorem held_concat (es : List (Event τ)) (e : Event τ) :
    held (es ++ [e]) = e.account (held es) := by
  unfold held
  rw [List.foldl_append, List.foldl_cons, List.foldl_nil]

theorem mem_account_iff {ids : List LinkId} {e : Event τ} {id : LinkId} :
    id ∈ e.account ids ↔ e = .opened id ∨ (id ∈ ids ∧ e ≠ .closed id) := by
  cases e <;> simp [Event.account, or_comm, @eq_comm LinkId id]

theorem mem_foldl_account_iff {es : List (Event τ)} {ids : List LinkId} {id : LinkId} :
    id ∈ es.foldl Event.account ids ↔
      (∃ front back, es = front ++ .opened id :: back ∧ .closed id ∉ back) ∨
        (id ∈ ids ∧ .closed id ∉ es) := by
  induction es generalizing ids with
  | nil => simp
  | cons e es ih =>
    rw [List.foldl_cons, ih, mem_account_iff]
    constructor
    · rintro (⟨front, back, rfl, hback⟩ | ⟨rfl | ⟨hid, he⟩, hes⟩)
      · exact .inl ⟨e :: front, back, rfl, hback⟩
      · exact .inl ⟨[], es, rfl, hes⟩
      · refine .inr ⟨hid, ?_⟩
        rw [List.mem_cons, not_or]
        exact ⟨Ne.symm he, hes⟩
    · rintro (⟨front, back, hes, hback⟩ | ⟨hid, hes⟩)
      · cases front with
        | nil =>
          obtain ⟨rfl, rfl⟩ := List.cons.inj hes
          exact .inr ⟨.inl rfl, hback⟩
        | cons e' front =>
          obtain ⟨rfl, rfl⟩ := List.cons.inj hes
          exact .inl ⟨front, back, rfl, hback⟩
      · rw [List.mem_cons, not_or] at hes
        exact .inr ⟨.inr ⟨hid, Ne.symm hes.1⟩, hes.2⟩

/-- A link is held exactly if it was handed over and not closed after that. -/
theorem mem_held_iff {es : List (Event τ)} {id : LinkId} :
    id ∈ held es ↔ ∃ front back, es = front ++ .opened id :: back ∧ .closed id ∉ back := by
  unfold held
  rw [mem_foldl_account_iff]
  simp

/-- Where no link is handed over, a link stays held unless it is closed. -/
theorem mem_held_append_iff {es new : List (Event τ)} {id : LinkId}
    (h : ∀ e ∈ new, e.isCalm = true) :
    id ∈ held (es ++ new) ↔ id ∈ held es ∧ .closed id ∉ new := by
  unfold held
  rw [List.foldl_append, mem_foldl_account_iff]
  constructor
  · rintro (⟨front, back, rfl, -⟩ | hid)
    · have hcalm := h (.opened id) (by simp)
      exact absurd (Event.opens?_of_isCalm hcalm) (by simp [Event.opens?])
    · exact hid
  · exact .inr

/-- The link that is closed. -/
def Event.closes? : Event τ → Option LinkId
  | .closed id => some id
  | _ => none

/-- The links that are closed, in their order, each as often as it is closed. -/
def closedLinks (es : List (Event τ)) : List LinkId := es.filterMap Event.closes?

theorem closedLinks_append (es es' : List (Event τ)) :
    closedLinks (es ++ es') = closedLinks es ++ closedLinks es' := List.filterMap_append

theorem closes?_of_asks {e : Event τ} (h : e.asks = true) : e.closes? = none := by
  cases e <;> first | rfl | exact absurd h Bool.false_ne_true

/-- A link that was handed over and never closed is held. -/
theorem mem_held_of_not_closed {es : List (Event τ)} {id : LinkId} (hopened : id ∈ opened es)
    (hclosed : id ∉ closedLinks es) : id ∈ held es := by
  obtain ⟨e, he, hid⟩ := List.mem_filterMap.mp hopened
  obtain rfl : e = .opened id := by
    cases e <;> cases hid
    rfl
  obtain ⟨front, back, rfl⟩ := List.append_of_mem he
  refine mem_held_iff.mpr ⟨front, back, rfl, ?_⟩
  intro hback
  refine hclosed (List.mem_filterMap.mpr ⟨.closed id, ?_, rfl⟩)
  exact List.mem_append_right front (List.mem_cons_of_mem _ hback)

/-- What has been seen since an earlier state. -/
def Environment.since (start env : Environment τ) : List (Event τ) :=
  env.events.drop start.events.length

theorem Environment.since_eq {env env' : Environment τ} {new : List (Event τ)}
    (h : env'.events = env.events ++ new) : env.since env' = new := by
  unfold since
  rw [h, List.drop_left]

theorem Environment.since_of_append {start env env' : Environment τ} {new : List (Event τ)}
    (hbegun : start.events <+: env.events) (h : env'.events = env.events ++ new) :
    start.since env' = start.since env ++ new := by
  unfold since
  rw [h, List.drop_append_of_le_length hbegun.length_le]

/-! ## Calm actions -/

/-- Whether a link of the built-in connector has been closed. Such a link cannot be closed again. -/
def Link.isSpent (link : Link τ) : Bool := link.managed && link.released

theorem Link.isSpent_of_released {link : Link τ} (hm : link.managed = true)
    (hr : link.released = true) : link.isSpent = true := Bool.and_eq_true_iff.mpr ⟨hm, hr⟩

/-- The events `new` happened. No link was asked for or handed over, and a link of the built-in
connector is closed only if it was so before or `new` shows it. -/
structure Calm (new : List (Event τ)) (env env' : Environment τ) : Prop where
  events : env'.events = env.events ++ new
  calm : ∀ e ∈ new, e.isCalm = true
  openings : env'.openings = env.openings
  length_links : env'.links.length = env.links.length
  spent : ∀ id link', env'.links[id]? = some link' → link'.isSpent = true →
    .closed id ∈ new ∨ ∃ link, env.links[id]? = some link ∧ link.isSpent = true

namespace Calm

variable {env env' env'' : Environment τ} {new new' : List (Event τ)}

/-- Fields that have nothing to do with links may change at will. -/
theorem of_eq (hevents : env'.events = env.events) (hopenings : env'.openings = env.openings)
    (hlinks : env'.links = env.links) : Calm [] env env' where
  events := by rw [hevents, List.append_nil]
  calm := by simp
  openings := hopenings
  length_links := by rw [hlinks]
  spent id link' hl hs := by
    rw [hlinks] at hl
    exact .inr ⟨link', hl, hs⟩

/-- Whatever leaves the links alone is calm. -/
theorem of_quiet (h : env.Quiet env') : Calm [] env env' := .of_eq h.events h.openings h.links

theorem trans (h : Calm new env env') (h' : Calm new' env' env'') :
    Calm (new ++ new') env env'' where
  events := by rw [h'.events, h.events, List.append_assoc]
  calm e he := by
    rcases List.mem_append.mp he with he | he
    · exact h.calm e he
    · exact h'.calm e he
  openings := by rw [h'.openings, h.openings]
  length_links := by rw [h'.length_links, h.length_links]
  spent id link'' hl hs := by
    rcases h'.spent id link'' hl hs with hc | ⟨link', hl', hs'⟩
    · exact .inl (List.mem_append_right new hc)
    · rcases h.spent id link' hl' hs' with hc | hl
      · exact .inl (List.mem_append_left new' hc)
      · exact .inr hl

theorem note {e : Event τ} (h : e.isCalm = true) : Calm [e] env (env.note e) where
  events := rfl
  calm e' he' := by rwa [List.mem_singleton.mp he']
  openings := rfl
  length_links := rfl
  spent _ link' hl hs := .inr ⟨link', hl, hs⟩

theorem elapse [Timeline τ] (env : Environment τ) (span : Option τ) :
    Calm [] env (env.elapse span) :=
  .of_eq (by simp) (by simp) (by simp)

/-- A link may change as long as it does not become closed. -/
theorem changeLink (env : Environment τ) (id : LinkId) {f : Link τ → Link τ}
    (h : ∀ link, (f link).isSpent = true → link.isSpent = true) :
    Calm [] env (env.changeLink id f) where
  events := by simp
  calm := by simp
  openings := rfl
  length_links := List.length_modify ..
  spent id' link' hl hs := by
    rw [Environment.getElem?_changeLink] at hl
    split at hl
    · obtain ⟨link, hlink, rfl⟩ := Option.map_eq_some_iff.mp hl
      exact .inr ⟨link, hlink, h link hs⟩
    · exact .inr ⟨link', hl, hs⟩

/-- A link may become closed if that is seen. -/
theorem changeLink_note (env : Environment τ) (id : LinkId) (f : Link τ → Link τ) :
    Calm [.closed id] env ((env.changeLink id f).note (.closed id)) where
  events := by simp
  calm e he := by rw [List.mem_singleton.mp he]; rfl
  openings := rfl
  length_links := List.length_modify ..
  spent id' link' hl hs := by
    rw [Environment.links_note, Environment.getElem?_changeLink] at hl
    split at hl
    · next hid => exact .inl (by rw [hid, List.mem_singleton])
    · exact .inr ⟨link', hl, hs⟩

end Calm

/-- Something happened, all of it calm. -/
def Calmly (env env' : Environment τ) : Prop := ∃ new, Calm new env env'

instance : IsPreorder (Environment τ) Calmly where
  refl _ := ⟨[], .of_eq rfl rfl rfl⟩
  trans := by
    rintro _ _ _ ⟨new, h⟩ ⟨new', h'⟩
    exact ⟨new ++ new', h.trans h'⟩

/-- Whatever an action does is calm. -/
abbrev IsCalm {α : Type} (a : Doing τ α) : Prop := Act.Within Calmly a

section

open Act

theorem calm_record {e : Event τ} (h : e.isCalm = true) : IsCalm (record e) :=
  within_modify fun _ => ⟨[e], .note h⟩

section

variable {R : Environment τ → Environment τ → Prop} [IsPreorder (Environment τ) R]

/-- Looking a link up leads nowhere. -/
theorem within_linkAt (id : LinkId) : Within R (linkAt id) := by
  unfold linkAt
  refine within_get.bind fun env => ?_
  cases env.links[id]? with
  | some link => exact within_pure link
  | none => exact within_throw _

/-- A statement leads nowhere but where sending it over an open link leads. -/
theorem within_send [Timeline τ] {id : LinkId} {q : Statement} (h : Within R (transmit id q)) :
    Within R (send id q) := by
  unfold send
  refine (within_linkAt id).bind fun link => ?_
  cases link.managed with
  | false => exact h
  | true =>
    cases link.released with
    | true => exact within_throw _
    | false =>
      refine h.outcome.bind fun r => ?_
      cases r with
      | ok v => exact within_pure v
      | error f => exact within_throw _

end

theorem calm_isLinkClosed (id : LinkId) : IsCalm (τ := τ) (isLinkClosed id) :=
  (within_linkAt id).bind fun _ => within_pure _

variable [Timeline τ]

theorem calm_pass (span : Option τ) : IsCalm (pass span) :=
  within_modify fun env => ⟨[], .elapse env span⟩

theorem calm_sleep (span : τ) : IsCalm (sleep span : Doing τ Unit) := by
  have hslept : IsCalm (record (.slept span)) := calm_record rfl
  exact hslept.bind fun _ => calm_pass (some span)

omit [Timeline τ] in
/-- A warning is calm, and nothing can go wrong with it. -/
theorem runFrom_warn (part message : String) (env : Environment τ) :
    ∃ env', (warn part message).runFrom env = (.ok (), env') ∧ Calm [] env env' :=
  ⟨_, rfl, .of_quiet (quiet_warn part message env)⟩

omit [Timeline τ] in
theorem runFrom_warnUnreadable (part : String) (p : Property) (text : Option String)
    (env : Environment τ) :
    ∃ env', (warnUnreadable part p text).runFrom env = (.ok (), env') ∧ Calm [] env env' := by
  cases text with
  | some s => exact runFrom_warn _ _ env
  | none => exact ⟨env, rfl, .of_eq rfl rfl rfl⟩

/-- Sending a statement uses up a reply, and that is all the link notices. -/
theorem calm_transmit (id : LinkId) (s : Statement) :
    IsCalm (τ := τ) (transmit id s) := by
  unfold transmit
  refine (calm_record rfl).bind fun _ => (within_linkAt id).bind fun link => ?_
  refine (within_modify fun env => ⟨[], .changeLink env id fun _ h => h⟩).bind fun _ => ?_
  refine (calm_pass _).bind fun _ => ?_
  cases (link.session.replies.headD {}).response with
  | standard => exact within_pure _
  | value v => exact within_pure v
  | failed f => exact within_throw f

theorem calm_send (id : LinkId) (s : Statement) : IsCalm (τ := τ) (send id s) :=
  within_send (calm_transmit id s)

end

/-! ## Closing a link -/

section

variable [Timeline τ] {env : Environment τ} {id : LinkId} {link : Link τ}

omit [Timeline τ] in
theorem runFrom_linkAt (h : env.links[id]? = some link) :
    (linkAt id).runFrom env = (.ok link, env) := by
  unfold linkAt
  rw [Act.runFrom_bind_of_ok (Act.runFrom_get env), h]
  rfl

omit [Timeline τ] in
theorem runFrom_linkAt_of_none (h : env.links[id]? = none) :
    (linkAt id).runFrom env = (.error (.ofForeign .missingMember "no such link"), env) := by
  unfold linkAt
  rw [Act.runFrom_bind_of_ok (Act.runFrom_get env), h]
  rfl

/-- What comes of the end of a session. -/
def Closing.outcome (c : Closing τ) : Except Failure Unit :=
  match c.failure with
  | some f => .error f
  | none => .ok ()

/-- The end of a session is seen before anything can fail. -/
theorem runFrom_endSession (h : env.links[id]? = some link) :
    (endSession id).runFrom env =
      (link.session.closing.outcome,
        (env.note (.closed id)).elapse link.session.closing.delay) := by
  have hlink : (linkAt id).runFrom (env.note (.closed id)) = (.ok link, env.note (.closed id)) :=
    runFrom_linkAt h
  unfold endSession Closing.outcome
  simp only [Act.runFrom_bind, runFrom_record, hlink, runFrom_pass]
  cases link.session.closing.failure <;> rfl

/-- A link of the built-in connector is closed only once. -/
theorem runFrom_closeLink_of_spent (h : env.links[id]? = some link) (hs : link.isSpent = true) :
    (closeLink id).runFrom env = (.ok (), env) := by
  unfold closeLink
  rw [Act.runFrom_bind_of_ok (runFrom_linkAt h)]
  obtain ⟨hm, hr⟩ := Bool.and_eq_true_iff.mp hs
  simp only [hm, hr, if_true]
  rfl

/-- The first time a link of the built-in connector is closed. A failure of the session is ignored,
unless it ends the program, and the link dropped. -/
theorem runFrom_closeLink_managed (h : env.links[id]? = some link) (hm : link.managed = true)
    (hr : link.released = false) :
    (closeLink id).runFrom env =
      let env' := ((env.changeLink id ({ · with released := true })).note (.closed id)).elapse
        link.session.closing.delay
      match link.session.closing.failure with
      | none => (.ok (), env'.changeLink id ({ · with ended := true }))
      | some f =>
        if f.endsProgram then (.error f, env') else (.ok (), env'.note (.terminated id)) := by
  have hlink := Environment.getElem?_changeLink_self h ({ · with released := true })
  unfold closeLink
  rw [Act.runFrom_bind_of_ok (runFrom_linkAt h)]
  simp only [hm, hr, if_true, Bool.false_eq_true, if_false]
  simp only [Act.runFrom_bind, runFrom_changeLink, Act.runFrom_outcome, runFrom_endSession hlink]
  unfold Closing.outcome
  cases link.session.closing.failure with
  | none => rfl
  | some f => cases hf : f.endsProgram <;> simp only [hf] <;> rfl

/-- A link of an application's connector is closed each time it is asked for. -/
theorem runFrom_closeLink_custom (h : env.links[id]? = some link) (hm : link.managed = false) :
    (closeLink id).runFrom env =
      (link.session.closing.outcome,
        ((env.changeLink id ({ · with released := true, ended := true })).note
          (.closed id)).elapse link.session.closing.delay) := by
  have hlink := Environment.getElem?_changeLink_self h ({ · with released := true, ended := true })
  unfold closeLink
  rw [Act.runFrom_bind_of_ok (runFrom_linkAt h)]
  simp only [hm, Bool.false_eq_true, if_false]
  simp only [Act.runFrom_bind, runFrom_changeLink, runFrom_endSession hlink]

/-- Closing a link is calm, and it is seen unless the link was closed before. -/
theorem closeLink_calm (h : env.links[id]? = some link) :
    ∃ new, Calm new env ((closeLink id).runFrom env).2 ∧
      (link.isSpent = true ∨ .closed id ∈ new) := by
  cases hm : link.managed with
  | false =>
    rw [runFrom_closeLink_custom h hm]
    exact ⟨_, (Calm.changeLink_note env id _).trans (.elapse _ _), .inr (by simp)⟩
  | true =>
    cases hr : link.released with
    | true =>
      have hs := Link.isSpent_of_released hm hr
      rw [runFrom_closeLink_of_spent h hs]
      exact ⟨[], .of_eq rfl rfl rfl, .inl hs⟩
    | false =>
      have hclose := (Calm.changeLink_note env id ({ · with released := true })).trans
        (.elapse _ link.session.closing.delay)
      rw [runFrom_closeLink_managed h hm hr]
      cases link.session.closing.failure with
      | none => exact ⟨_, hclose.trans (.changeLink _ id fun _ hs => hs), .inr (by simp)⟩
      | some f =>
        cases hf : f.endsProgram with
        | true =>
          simp only [hf, if_true]
          exact ⟨_, hclose, .inr (by simp)⟩
        | false =>
          simp only [hf, Bool.false_eq_true, if_false]
          exact ⟨_, hclose.trans (.note rfl), .inr (by simp)⟩

theorem calm_closeLink (id : LinkId) : IsCalm (τ := τ) (closeLink id) := by
  intro env
  cases h : env.links[id]? with
  | some link =>
    obtain ⟨new, hcalm, -⟩ := closeLink_calm h
    exact ⟨new, hcalm⟩
  | none =>
    unfold closeLink
    rw [Act.runFrom_bind_of_error (runFrom_linkAt_of_none h)]
    exact ⟨[], .of_eq rfl rfl rfl⟩

end

/-! ## Opening a link -/

section

variable [Timeline τ] {env : Environment τ}

/-- How a connector is asked for a link. -/
def Connector.ask (c : Connector) (r : OpenRequest) (side : Side) : Event τ :=
  match c with
  | .builtin => .dialed (dialArguments r.endpoints r.user r.database r.properties)
  | .custom => .requested r side

theorem Connector.asks_ask (c : Connector) (r : OpenRequest) (side : Side) :
    (c.ask r side : Event τ).asks = true := by
  cases c <;> rfl

omit [Timeline τ] in
/-- What the three answers to an attempt to open a link do. The new link is numbered by the links
before it. -/
inductive Answered (managed : Bool) (env : Environment τ) :
    Except Failure (Option LinkId) → Environment τ → Prop
  | opened {env' : Environment τ} (session : Session τ) (id : LinkId)
      (numbered : id = env.links.length)
      (events : env'.events = env.events ++ [.opened id])
      (links : env'.links = env.links ++ [Link.mk session managed false false])
      (openings : env'.openings <:+ env.openings) :
      Answered managed env (.ok (some id)) env'
  | declined {env' : Environment τ}
      (events : env'.events = env.events) (links : env'.links = env.links)
      (openings : env'.openings <:+ env.openings)
      (offered : ∃ o ∈ env.openings, o.result = .nothing) :
      Answered managed env (.ok none) env'
  | failed {env' : Environment τ} (f : Failure)
      (events : env'.events = env.events) (links : env'.links = env.links)
      (openings : env'.openings <:+ env.openings) :
      Answered managed env (.error f) env'

theorem runFrom_nextOpening_nil (h : env.openings = []) :
    nextOpening.runFrom env = (.error env.refusal, env) := by
  unfold nextOpening
  rw [Act.runFrom_bind_of_ok (Act.runFrom_get env), h]
  rfl

theorem runFrom_nextOpening_cons {o : Opening τ} {rest : List (Opening τ)}
    (h : env.openings = o :: rest) :
    nextOpening.runFrom env =
      (.ok o.result,
        Environment.elapse { env with openings := rest, late := env.late || o.overdue } o.delay) := by
  unfold nextOpening
  rw [Act.runFrom_bind_of_ok (Act.runFrom_get env), h]
  rfl

omit [Timeline τ] in
theorem runFrom_enlist_opened (managed : Bool) (session : Session τ) (env : Environment τ) :
    (enlist managed (.opened session)).runFrom env =
      (.ok (some env.links.length),
        (env.addLink { session, managed }).note (.opened env.links.length)) := rfl

omit [Timeline τ] in
theorem answered_enlist (managed : Bool) {env mid : Environment τ} {r : OpenResult τ}
    (hevents : mid.events = env.events) (hlinks : mid.links = env.links)
    (hopenings : mid.openings <:+ env.openings)
    (hr : r = .nothing → ∃ o ∈ env.openings, o.result = .nothing) :
    Answered managed env ((enlist managed r).runFrom mid).1 ((enlist managed r).runFrom mid).2 := by
  cases r with
  | opened session =>
    rw [runFrom_enlist_opened]
    refine .opened session mid.links.length (by rw [hlinks]) ?_ ?_ hopenings
    · rw [Environment.events_note, Environment.events_addLink, hevents]
    · rw [Environment.links_note, Environment.links_addLink, hlinks]
  | failed f => exact .failed f hevents hlinks hopenings
  | nothing => exact .declined hevents hlinks hopenings (hr rfl)

theorem answered_nextOpening (managed : Bool) (env : Environment τ) :
    Answered managed env ((nextOpening >>= enlist managed).runFrom env).1
      ((nextOpening >>= enlist managed).runFrom env).2 := by
  cases h : env.openings with
  | nil =>
    rw [Act.runFrom_bind_of_error (runFrom_nextOpening_nil h)]
    exact .failed _ rfl rfl (List.suffix_refl _)
  | cons o rest =>
    rw [Act.runFrom_bind_of_ok (runFrom_nextOpening_cons h)]
    apply answered_enlist
    · rw [Environment.events_elapse]
    · rw [Environment.links_elapse]
    · rw [Environment.openings_elapse, h]
      exact List.suffix_cons o rest
    · intro hr
      exact ⟨o, by rw [h]; exact List.mem_cons_self, hr⟩

omit [Timeline τ] in
/-- Turning a failure into another one changes nothing about what happened. -/
theorem Answered.mapError {managed : Bool} {env' : Environment τ}
    {r : Except Failure (Option LinkId)} (h : Answered managed env r env') (g : Failure → Failure) :
    Answered managed env (r.mapError g) env' := by
  cases h with
  | opened session id numbered events links openings =>
    exact .opened session id numbered events links openings
  | declined events links openings offered => exact .declined events links openings offered
  | failed f events links openings => exact .failed (g f) events links openings

/-- Whether the links of a connector get the driver's own rules. -/
def Connector.manages : Connector → Bool
  | .builtin => true
  | .custom => false

/-- **One request, one answer.** An attempt to open a link asks for it exactly once, after calm
preparations that nobody sees, and then gets one of the three answers. -/
theorem openLink_answered (c : Connector) (r : OpenRequest) (env : Environment τ) :
    ∃ mid, Calm [] env mid ∧
      Answered c.manages (mid.note (c.ask r env.side)) ((openLink c r).runFrom env).1
        ((openLink c r).runFrom env).2 := by
  cases c with
  | custom => exact ⟨env, .of_eq rfl rfl rfl, answered_nextOpening false _⟩
  | builtin =>
    obtain ⟨mid, hwarn, hcalm⟩ := runFrom_warnUnreadable "connection" .connectTimeout
      (Property.connectTimeout.timeOrDefault (τ := τ) r.properties).2 env
    let asked := mid.note (.dialed (dialArguments r.endpoints r.user r.database r.properties))
    have hrun : (dial r).runFrom env =
        (((nextOpening >>= enlist true).runFrom asked).1.mapError
            (dialFailure r.endpoints ∘ leavingLoop),
          ((nextOpening >>= enlist true).runFrom asked).2) := by
      unfold dial
      rw [Act.runFrom_bind_of_ok hwarn, Act.runFrom_bind_of_ok (runFrom_record _ mid),
        Act.runFrom_bind_of_ok (Act.runFrom_outcome _ _)]
      dsimp only [asked]
      generalize (nextOpening (τ := τ) >>= enlist true).runFrom _ = answer
      cases answer.1 <;> rfl
    refine ⟨mid, hcalm, ?_⟩
    show Answered true asked ((dial r).runFrom env).1 ((dial r).runFrom env).2
    rw [hrun]
    exact (answered_nextOpening true asked).mapError _

end

end ClusterConnect
