import ClusterConnect.Proofs.Link.Account

/-!
# The life of a link

A link of the built-in connector is used by the application until it is closed for the first time.
Its session may fail at any statement and at the end, and it may end by itself. This file follows one
link through any such life.

* `Occurrence`: what happens to a link. `Link.after`, `Link.shown`: what becomes of the link, and what
  the outside sees of it; `live_perform`: the two together, for one occurrence.
* `Session.answer`: what a session answers to a statement; `runFrom_send_of_open`: the whole course of
  a statement over an open link.
* `live_run`: the same for a run, by induction over it; `Session.course`: what is seen of a run.
* `used_until_closed`: the life of a link that has been opened.
-/

namespace ClusterConnect

variable {τ : Type}

open Act Environment

/-! ## What happens to a link -/

/-- What happens to a link: something that the application does with it, or its session ends by
itself. -/
inductive Occurrence where
  | operation (op : Operation)
  | sessionEnds

namespace Occurrence

/-- Whether the application closes the link. -/
def closes : Occurrence → Bool
  | .operation op => op.closes
  | .sessionEnds => false

/-- Whether the session ends by itself. -/
def endsSession : Occurrence → Bool
  | .operation _ => false
  | .sessionEnds => true

/-- The statement that the application has executed. -/
def statement? : Occurrence → Option Statement
  | .operation (.call q) => some q
  | _ => none

end Occurrence

/-- What a session answers to the next statement. -/
def Session.answer (s : Session τ) (q : Statement) : Except Failure Value :=
  match (s.replies.headD {}).response with
  | .standard => .ok (s.standard q)
  | .value v => .ok v
  | .failed f => .error f

/-- A session that has answered a statement. -/
def Session.answered (s : Session τ) : Session τ := { s with replies := s.replies.tail }

/-- A link that has been closed. It has ended with its session, unless that fails to close. -/
def Link.parted (link : Link τ) : Link τ :=
  { link with released := true, ended := link.ended || link.session.closing.failure.isNone }

/-- The link after an occurrence. A closed link does not change any more, but its session may still
end. -/
def Link.after (link : Link τ) : Occurrence → Link τ
  | .sessionEnds => { link with ended := true }
  | .operation op =>
    if link.released then link
    else
      match op with
      | .call _ => { link with session := link.session.answered }
      | .close | .leave => link.parted
      | .isClosed => link

/-- What is seen when a link is closed for the first time. It is dropped if its session resists. -/
def Session.parting (s : Session τ) (id : LinkId) : List (Event τ) :=
  .closed id :: if s.resists then [.terminated id] else []

/-- What the outside sees of an occurrence. -/
def Link.shown (link : Link τ) (id : LinkId) (o : Occurrence) : List (Event τ) :=
  if link.released then []
  else if o.closes then link.session.parting id
  else (o.statement?.map (.sent id)).toList

/-! ## Statements -/

section

variable [Timeline τ] {env : Environment τ} {id : LinkId} {link : Link τ}

/-- A statement is seen, uses up a reply and takes its time. -/
theorem runFrom_transmit (h : env.links[id]? = some link) (q : Statement) :
    (transmit id q).runFrom env =
      (link.session.answer q,
        ((env.note (.sent id q)).changeLink id fun l =>
          { l with session := link.session.answered }).elapse (link.session.replies.headD {}).delay) := by
  have hlink : (linkAt id).runFrom (env.note (.sent id q)) = (.ok link, env.note (.sent id q)) :=
    runFrom_linkAt h
  unfold transmit Session.answer Session.answered
  simp only [runFrom_bind, runFrom_record, hlink, runFrom_changeLink, runFrom_pass]
  cases (link.session.replies.headD {}).response <;> rfl

/-- The whole course of a statement over an open link of the built-in connector. -/
theorem runFrom_send_of_open (h : env.links[id]? = some link) (hm : link.managed = true)
    (hopen : link.released = false) (q : Statement) :
    (send id q).runFrom env =
      ((link.session.answer q).mapError (statementFailure q.query ∘ leavingLoop),
        ((transmit id q).runFrom env).2) := by
  unfold send
  rw [runFrom_bind_of_ok (runFrom_linkAt h)]
  simp only [hm, hopen, if_true, Bool.false_eq_true, if_false]
  rw [runFrom_bind_of_ok (runFrom_outcome _ env), runFrom_transmit h]
  cases link.session.answer q <;> rfl

/-- A closed link of the built-in connector refuses every statement. -/
theorem runFrom_send_of_spent (h : env.links[id]? = some link) (hs : link.isSpent = true)
    (q : Statement) :
    (send id q).runFrom env = (.error (.driver (.connectionClosed q.query)), env) := by
  obtain ⟨hm, hr⟩ := Bool.and_eq_true_iff.mp hs
  unfold send
  rw [runFrom_bind_of_ok (runFrom_linkAt h)]
  simp only [hm, hr, if_true]
  rfl

/-- Closing an open link of the built-in connector succeeds, unless its session ends the program. -/
theorem closeLink_swallows (h : env.links[id]? = some link) (hm : link.managed = true)
    (hopen : link.released = false) :
    ((closeLink id).runFrom env).1 =
      (link.session.closing.failure.filter Failure.endsProgram).elim (.ok ()) .error := by
  rw [runFrom_closeLink_managed h hm hopen]
  cases link.session.closing.failure with
  | none => rfl
  | some f => cases hf : f.endsProgram <;> simp [Option.filter_some, hf]

omit [Timeline τ] in
theorem runFrom_isLinkClosed (h : env.links[id]? = some link) :
    (isLinkClosed id).runFrom env = (.ok (link.ended || link.managed && link.released), env) := by
  unfold isLinkClosed
  rw [runFrom_bind_of_ok (runFrom_linkAt h)]
  rfl

/-! ## One occurrence -/

/-- An operation on a link. The application may go on whatever comes of it. -/
def Operation.onLink (id : LinkId) : Operation → Doing τ Unit
  | .call q => (fun _ => ()) <$> send id q
  | .close | .leave => closeLink id
  | .isClosed => (fun _ => ()) <$> isLinkClosed id

/-- An occurrence as an action. -/
def Occurrence.perform (id : LinkId) : Occurrence → Doing τ Unit
  | .operation op => op.onLink id
  | .sessionEnds => loseSession id

omit [Timeline τ] in
/-- A link of the built-in connector in an environment, with all that has been seen there. -/
structure Lives (id : LinkId) (link : Link τ) (seen : List (Event τ)) (env : Environment τ) :
    Prop where
  present : env.links[id]? = some link
  managed : link.managed = true
  events : env.events = seen

/-- A link is closed once. -/
theorem live_close (h : env.links[id]? = some link) (hm : link.managed = true) :
    Lives id (if link.released then link else link.parted)
      (env.events ++ if link.released then [] else link.session.parting id)
      ((closeLink id).runFrom env).2 := by
  cases hr : link.released with
  | true =>
    have hs := Link.isSpent_of_released hm hr
    rw [runFrom_closeLink_of_spent h hs]
    exact ⟨h, hm, (List.append_nil _).symm⟩
  | false =>
    have hreleased := getElem?_changeLink_self h ({ · with released := true })
    rw [runFrom_closeLink_managed h hm hr]
    unfold Link.parted Session.parting Session.resists
    cases hfailure : link.session.closing.failure with
    | none =>
      refine ⟨?_, hm, ?_⟩
      · exact (getElem?_changeLink_self (by simpa using hreleased) _).trans (by simp)
      · simp
    | some f =>
      cases hf : f.endsProgram with
      | true =>
        refine ⟨?_, hm, ?_⟩ <;> simp [hf, hreleased]
      | false =>
        refine ⟨?_, hm, ?_⟩ <;> simp [hf, hreleased]

/-- A statement over a link. -/
theorem live_call (h : env.links[id]? = some link) (hm : link.managed = true) (q : Statement) :
    Lives id (if link.released then link else { link with session := link.session.answered })
      (env.events ++ if link.released then [] else [.sent id q])
      ((send id q).runFrom env).2 := by
  cases hr : link.released with
  | true =>
    have hs := Link.isSpent_of_released hm hr
    rw [runFrom_send_of_spent h hs]
    exact ⟨h, hm, (List.append_nil _).symm⟩
  | false =>
    have hlink : (env.note (.sent id q)).links[id]? = some link := h
    rw [runFrom_send_of_open h hm hr, runFrom_transmit h]
    refine ⟨?_, hm, ?_⟩
    · rw [links_elapse]
      exact (getElem?_changeLink_self hlink _).trans (by simp [hr])
    · simp

/-- One occurrence. -/
theorem live_perform (h : env.links[id]? = some link) (hm : link.managed = true) (o : Occurrence) :
    Lives id (link.after o) (env.events ++ link.shown id o) ((o.perform id).runFrom env).2 := by
  cases o with
  | sessionEnds =>
    have hnothing : link.shown id .sessionEnds = [] := by
      unfold Link.shown
      split <;> rfl
    rw [hnothing, List.append_nil]
    exact ⟨getElem?_changeLink_self h _, hm, rfl⟩
  | operation op =>
    cases op with
    | call q =>
      show Lives id _ _ (((fun _ => ()) <$> send id q).runFrom env).2
      rw [runFrom_map]
      exact live_call h hm q
    | close => exact live_close h hm
    | leave => exact live_close h hm
    | isClosed =>
      have hnothing : link.shown id (.operation .isClosed) = [] := by
        unfold Link.shown
        split <;> rfl
      have hsame : link.after (.operation .isClosed) = link := ite_self link
      show Lives id _ _ (((fun _ => ()) <$> isLinkClosed id).runFrom env).2
      rw [runFrom_map, runFrom_isLinkClosed h, hnothing, List.append_nil, hsame]
      exact ⟨h, hm, rfl⟩

/-! ## Runs -/

/-- The state after a run of occurrences. -/
def live (id : LinkId) (run : List Occurrence) (env : Environment τ) : Environment τ :=
  run.foldl (fun env o => ((o.perform id).runFrom env).2) env

/-- What is seen of a run: the statements before the link is closed for the first time, and then its
end. -/
def Session.course (s : Session τ) (id : LinkId) (run : List Occurrence) : List (Event τ) :=
  ((run.takeWhile (!·.closes)).filterMap Occurrence.statement?).map (.sent id) ++
    if run.any Occurrence.closes then s.parting id else []

omit [Timeline τ] in
theorem released_after (link : Link τ) (o : Occurrence) :
    (link.after o).released = (link.released || o.closes) := by
  cases o with
  | sessionEnds => exact (Bool.or_false _).symm
  | operation op =>
    unfold Link.after
    cases hr : link.released with
    | true => simp [hr]
    | false => cases op <;> simp [hr, Link.parted, Occurrence.closes, Operation.closes]

omit [Timeline τ] in
theorem closing_after (link : Link τ) (o : Occurrence) :
    (link.after o).session.closing = link.session.closing := by
  cases o with
  | sessionEnds => rfl
  | operation op =>
    unfold Link.after
    dsimp only
    split
    · rfl
    · cases op <;> rfl

omit [Timeline τ] in
/-- How a session is seen to end depends on its plan for that only. -/
theorem course_congr {s s' : Session τ} (h : s.closing = s'.closing) (id : LinkId)
    (run : List Occurrence) : s.course id run = s'.course id run := by
  unfold Session.course Session.parting Session.resists
  rw [h]

omit [Timeline τ] in
/-- What is seen first is what is seen of the first occurrence. -/
theorem shown_append_course (link : Link τ) (id : LinkId) (o : Occurrence) (run : List Occurrence) :
    (link.shown id o ++ if (link.after o).released then [] else (link.after o).session.course id run) =
      if link.released then [] else link.session.course id (o :: run) := by
  rw [released_after, course_congr (closing_after link o)]
  unfold Link.shown
  cases hr : link.released with
  | true => rfl
  | false =>
    unfold Session.course
    cases hcloses : o.closes with
    | true => simp [hcloses]
    | false =>
      rw [List.takeWhile_cons_of_pos (by simp [hcloses]), List.filterMap_cons]
      cases o.statement? <;> simp [hcloses]

/-- What holds of one occurrence holds of a run. -/
theorem live_run (h : env.links[id]? = some link) (hm : link.managed = true)
    (run : List Occurrence) :
    Lives id (run.foldl Link.after link)
      (env.events ++ if link.released then [] else link.session.course id run)
      (live id run env) := by
  induction run generalizing env link with
  | nil =>
    have hnothing : link.session.course id [] = [] := rfl
    rw [hnothing, ite_self, List.append_nil]
    exact ⟨h, hm, rfl⟩
  | cons o run ih =>
    have hfirst := live_perform h hm o
    have hrest := ih hfirst.present hfirst.managed
    rw [hfirst.events, List.append_assoc, shown_append_course] at hrest
    exact hrest

omit [Timeline τ] in
theorem released_foldl (link : Link τ) (run : List Occurrence) :
    (run.foldl Link.after link).released = (link.released || run.any Occurrence.closes) := by
  induction run generalizing link with
  | nil => exact (Bool.or_false _).symm
  | cons o run ih => rw [List.foldl_cons, ih, released_after, List.any_cons, Bool.or_assoc]

/-- A session that has answered some statements. -/
def Session.past (s : Session τ) (answers : Nat) : Session τ :=
  { s with replies := s.replies.drop answers }

omit [Timeline τ] in
theorem past_past (s : Session τ) (m n : Nat) : (s.past m).past n = s.past (m + n) := by
  unfold Session.past
  rw [List.drop_drop]

omit [Timeline τ] in
/-- An occurrence that does not close an open link leaves it open, whatever the session answers. -/
theorem after_of_open {o : Occurrence} (hopen : link.released = false) (ho : o.closes = false) :
    link.after o =
      { link with
        session := link.session.past o.statement?.toList.length
        ended := link.ended || o.endsSession } := by
  have hsame : link.session.past 0 = link.session := rfl
  have hanswered : link.session.past 1 = link.session.answered := by
    rw [Session.past, List.drop_one]
    rfl
  cases o with
  | sessionEnds => exact congrArg (Link.mk _ _ _) (Bool.or_true _).symm
  | operation op =>
    unfold Link.after
    dsimp only
    rw [if_neg (by simp [hopen])]
    cases op with
    | call q => simp [Occurrence.statement?, Occurrence.endsSession, hanswered]
    | isClosed => simp [Occurrence.statement?, Occurrence.endsSession, hsame]
    | close | leave => exact absurd ho.symm Bool.false_ne_true

omit [Timeline τ] in
/-- As long as a link is not closed, its session goes through its replies, one for each statement. -/
theorem foldl_of_open {run : List Occurrence} (hopen : link.released = false)
    (hrun : run.any Occurrence.closes = false) :
    run.foldl Link.after link =
      { link with
        session := link.session.past (run.filterMap Occurrence.statement?).length
        ended := link.ended || run.any Occurrence.endsSession } := by
  induction run generalizing link with
  | nil => simp [Session.past]
  | cons o run ih =>
    rw [List.any_cons, Bool.or_eq_false_iff] at hrun
    have hlength : ((o :: run).filterMap Occurrence.statement?).length =
        o.statement?.toList.length + (run.filterMap Occurrence.statement?).length := by
      rw [List.filterMap_cons]
      cases o.statement? <;> simp [Nat.add_comm]
    have hafter : (link.after o).released = false := by rw [released_after, hopen, hrun.1]; rfl
    rw [List.foldl_cons, ih hafter hrun.2, after_of_open hopen hrun.1, hlength]
    simp [past_past, Bool.or_assoc]

/-! ## Links of the built-in connector -/

/-- A link that has been opened by the built-in connector is open. -/
theorem open_of_openLink {r : OpenRequest} {before : Environment τ}
    (hopened : (openLink .builtin r).runFrom before = (.ok (some id), env))
    (hlink : env.links[id]? = some link) :
    link.managed = true ∧ link.released = false ∧ link.ended = false := by
  obtain ⟨mid, -, hanswered⟩ := openLink_answered .builtin r before
  rw [hopened] at hanswered
  cases hanswered with
  | opened session _ numbered _ links _ =>
    rw [links, numbered, List.getElem?_concat_length] at hlink
    obtain rfl := Option.some.inj hlink
    exact ⟨rfl, rfl, rfl⟩

/-- **A link is used until it is closed, and closed once.** A link has been opened by the built-in
connector. After any run of operations on it, in which any statements and its end may fail and its
session may end by itself at any time:

* all that has been seen of the run are the statements before the application first closed the link,
  each of them once and as it was given, whether they failed or not; then the session being closed,
  once; and the link being dropped exactly if that failed;
* once the link has been closed it says so, closing it again does nothing, and it refuses every
  statement, with nothing to be seen;
* until then a statement is answered by the next reply of the session, and closing the link succeeds,
  whatever comes of the session, unless that ends the program. -/
theorem used_until_closed {r : OpenRequest} {before : Environment τ}
    (hopened : (openLink .builtin r).runFrom before = (.ok (some id), env))
    (hlink : env.links[id]? = some link) (run : List Occurrence) :
    let s := live id run env
    s.events = env.events ++
      ((run.takeWhile (!·.closes)).filterMap Occurrence.statement?).map (.sent id) ++
      (if run.any Occurrence.closes then
        .closed id :: if link.session.resists then [.terminated id] else [] else []) ∧
    (run.any Occurrence.closes = true →
      (isLinkClosed id).runFrom s = (.ok true, s) ∧ (closeLink id).runFrom s = (.ok (), s) ∧
      ∀ q, (send id q).runFrom s = (.error (.driver (.connectionClosed q.query)), s)) ∧
    (run.any Occurrence.closes = false →
      (isLinkClosed id).runFrom s = (.ok (run.any Occurrence.endsSession), s) ∧
      ((closeLink id).runFrom s).1 =
        (link.session.closing.failure.filter Failure.endsProgram).elim (.ok ()) .error ∧
      ∀ q, ((send id q).runFrom s).1 =
        ((link.session.past (run.filterMap Occurrence.statement?).length).answer q).mapError
          (statementFailure q.query ∘ leavingLoop)) := by
  intro s
  obtain ⟨hm, hopen, hended⟩ := open_of_openLink hopened hlink
  have hlive := live_run hlink hm run
  refine ⟨?_, ?_, ?_⟩
  · rw [hlive.events, hopen]
    exact (List.append_assoc ..).symm
  · intro hclosed
    have hspent : (run.foldl Link.after link).isSpent = true := by
      rw [Link.isSpent, hlive.managed, released_foldl, hclosed, Bool.or_true]
      rfl
    refine ⟨?_, runFrom_closeLink_of_spent hlive.present hspent,
      runFrom_send_of_spent hlive.present hspent⟩
    rw [runFrom_isLinkClosed hlive.present, ← Link.isSpent, hspent, Bool.or_true]
  · intro hunclosed
    have hpresent := hlive.present
    rw [foldl_of_open hopen hunclosed] at hpresent
    refine ⟨?_, ?_, fun q => ?_⟩
    · rw [runFrom_isLinkClosed hpresent, hopen, hended, Bool.and_false, Bool.or_false,
        Bool.false_or]
    · have hclosing := closeLink_swallows hpresent hm hopen
      exact hclosing
    · rw [runFrom_send_of_open hpresent hm hopen]

/-- A link over which the first statement fails and which cannot be closed in good order. -/
theorem used_until_closed_resisting :
    let broken : Failure := .ofForeign (.system .brokenPipe) "broken pipe"
    let session : Session Int :=
      { replies := [{ response := .failed broken }], closing := { failure := some broken } }
    let before : Environment Int := { now := 0, openings := [{ result := .opened session }] }
    let r : OpenRequest := ⟨[⟨"db", 5432, none⟩], "u", "app", .empty, "postgresql://db/app"⟩
    let write : Statement := ⟨.execute, .text "UPDATE t SET n = n + 1", [], .null⟩
    let read : Statement := ⟨.fetchval 0, .text "SELECT n FROM t", [], .null⟩
    let run : List Occurrence := [.operation (.call write), .sessionEnds, .operation (.call read),
      .operation .leave, .operation (.call write), .operation .close]
    ∃ env link, (openLink .builtin r).runFrom before = (.ok (some 0), env) ∧
      env.links[0]? = some link ∧
      (live 0 run env).events =
        env.events ++ [.sent 0 write, .sent 0 read] ++ [.closed 0, .terminated 0] ∧
      (isLinkClosed 0).runFrom (live 0 run env) = (.ok true, live 0 run env) ∧
      (send 0 read).runFrom (live 0 run env) =
        (.error (.driver (.connectionClosed read.query)), live 0 run env) := by
  intro broken session before r write read run
  obtain ⟨hevents, hclosed, -⟩ := @used_until_closed Int _ _ 0 _ r before rfl rfl run
  obtain ⟨htold, -, hrefuses⟩ := hclosed rfl
  exact ⟨_, _, rfl, rfl, hevents, htold, hrefuses read⟩

end

end ClusterConnect
