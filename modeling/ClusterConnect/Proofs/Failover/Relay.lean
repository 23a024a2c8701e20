import ClusterConnect.Proofs.Failover.Sending

/-!
# What a failover handle passes on

A failover handle passes the statements of an application on to the connection in use, and asks for
a replacement when that connection turns out to be lost. This file says what it asks for over any
run of operations, whoever stands behind the handle and whatever they do between two operations.

* `Backing`: those behind a handle. Nothing is known of them but what they can be asked for.
* `Dealing`, `Relay`: what is asked of them, and a handle that keeps a journal of it.
* `Relayed`: what becomes of one statement, rule by rule; `relayed_call`.
* `statements_play`: which statements are passed on in a whole run, by induction over it.
* `FailoverHandle.backing`, `FailoverHandle.runFrom_call_eq`, `FailoverHandle.play_eq`: the handles
  that programs use are handles of this kind.
* `FailoverHandle.sent_relayed`, `FailoverHandle.sentAsForwarded_play`: the journal of such a handle and
  the trace of its environment. The sessions see what is passed on, less what a closed link refuses.
* `statements_relayed`: all of it for one run.

The limit: what others behind a handle do when they are asked is their own affair. A journal shows what
the handle has asked for and not what a replacement took.
-/

namespace ClusterConnect

variable {σ κ τ : Type}

/-! ## Those behind a handle -/

/-- Those behind a failover handle, as it sees them: a state of any kind, connections of any kind,
and what can be asked for. -/
structure Backing (σ κ : Type) where
  /-- The connection in use. There always is one. -/
  current : σ → κ × σ
  /-- Whether a lost connection is to be replaced. -/
  isEnabled : σ → Bool × σ
  /-- Hands a statement over to a connection. -/
  send : κ → Statement → Act σ Value
  /-- Puts another connection in the place of a lost one. -/
  replace : Failure → Act σ κ
  close : κ → Act σ Unit
  isClosed : κ → Act σ Bool

/-- Something that is asked of those behind a handle, with their answer. -/
inductive Dealing (κ : Type) where
  /-- A connection is handed a statement. -/
  | forwarded (c : κ) (q : Statement) (answer : Except Failure Value)
  /-- A replacement is asked for. -/
  | asked (cause : Failure) (answer : Except Failure κ)

/-- The statement that a connection is handed. -/
def Dealing.statement? : Dealing κ → Option Statement
  | .forwarded _ q _ => some q
  | .asked _ _ => none

/-- The same with the connection that is handed it. -/
def Dealing.forwarded? : Dealing κ → Option (κ × Statement)
  | .forwarded c q _ => some (c, q)
  | .asked _ _ => none

/-- The statements in a journal, in their order. -/
def statements (journal : List (Dealing κ)) : List Statement := journal.filterMap Dealing.statement?

/-- The same with the connections. -/
def forwardings (journal : List (Dealing κ)) : List (κ × Statement) :=
  journal.filterMap Dealing.forwarded?

theorem statements_eq (journal : List (Dealing κ)) :
    statements journal = (forwardings journal).map Prod.snd := by
  unfold statements forwardings
  rw [List.map_filterMap]
  congr 1
  funext d
  cases d <;> rfl

theorem forwardings_append (journal new : List (Dealing κ)) :
    forwardings (journal ++ new) = forwardings journal ++ forwardings new := List.filterMap_append

/-- A handle: its own mark, the state of those behind it, and what has been asked of them. -/
structure Relay (σ κ : Type) where
  closed : Bool := false
  behind : σ
  journal : List (Dealing κ) := []

namespace Relay

/-- Does something with those behind the handle that the journal does not show. -/
def inBack {α : Type} (a : Act σ α) : Act (Relay σ κ) α :=
  .ofFunction fun s =>
    let r := a.runFrom s.behind
    (r.1, { s with behind := r.2 })

/-- Looks something up with those behind the handle. -/
def lookUp {α : Type} (f : σ → α × σ) : Act (Relay σ κ) α :=
  inBack (.ofFunction fun x => (.ok (f x).1, (f x).2))

end Relay

namespace Backing

variable (b : Backing σ κ)

/-- Passes a statement on to the connection in use. -/
def forward (q : Statement) : Act (Relay σ κ) Value := do
  let c ← Relay.lookUp b.current
  let r ← (Relay.inBack (b.send c q)).outcome
  modify fun s => { s with journal := s.journal ++ [.forwarded c q r] }
  Act.give r

/-- Asks for a replacement. -/
def ask (cause : Failure) : Act (Relay σ κ) Unit := do
  let r ← (Relay.inBack (b.replace cause)).outcome
  modify fun s => { s with journal := s.journal ++ [.asked cause r] }
  Act.give (r.map fun _ => ())

/-- A statement of the application. -/
def call (q : Statement) : Act (Relay σ κ) Value := do
  if (← get).closed then throw (.driver (.connectionClosed q.query))
  match ← (b.forward q).outcome with
  | .ok v => return v
  | .error f =>
    if f.isKind .connectionFailed then
      if ← Relay.lookUp b.isEnabled then
        b.ask f
        throw (failoverSucceeded f)
      else throw f
    else throw f

/-- Closes the handle and the connection in use. Only the first time counts. -/
def shut : Act (Relay σ κ) Unit := do
  if (← get).closed then return
  modify fun s => { s with closed := true }
  let c ← Relay.lookUp b.current
  Relay.inBack (b.close c)

/-- Whether the handle or the connection in use is closed. -/
def isShut : Act (Relay σ κ) Bool := do
  if (← get).closed then return true
  let c ← Relay.lookUp b.current
  Relay.inBack (b.isClosed c)

/-- A replacement is in use from the moment in which it is given. -/
def UsesReplacements : Prop :=
  ∀ f x c y, (b.replace f).runFrom x = (.ok c, y) → (b.current y).1 = c

end Backing

/-! ## One statement -/

/-- What the application learns of a lost connection for which a replacement has been asked: that
there is one, or why there is none. -/
def replacementFailure (cause : Failure) (r : Except Failure κ) : Failure :=
  match r with
  | .ok _ => failoverSucceeded cause
  | .error f => f

/-- **What becomes of one statement**: the answer of the application and what is left behind. In each
case the connection in use is handed the statement once and nothing else is sent. -/
inductive Relayed (b : Backing σ κ) (q : Statement) (s : Relay σ κ) :
    Except Failure Value → Relay σ κ → Prop
  /-- A closed handle asks for nothing. -/
  | refused (closed : s.closed = true) :
      Relayed b q s (.error (.driver (.connectionClosed q.query))) s
  /-- A value is passed on as it is. -/
  | answered {v : Value} {x : σ} (isOpen : s.closed = false)
      (sent : (b.send (b.current s.behind).1 q).runFrom (b.current s.behind).2 = (.ok v, x)) :
      Relayed b q s (.ok v)
        { s with behind := x, journal := s.journal ++ [.forwarded (b.current s.behind).1 q (.ok v)] }
  /-- So is a failure that is no lost connection. -/
  | failed {f : Failure} {x : σ} (isOpen : s.closed = false)
      (sent : (b.send (b.current s.behind).1 q).runFrom (b.current s.behind).2 = (.error f, x))
      (other : f.isKind .connectionFailed = false) :
      Relayed b q s (.error f)
        { s with behind := x, journal := s.journal ++ [.forwarded (b.current s.behind).1 q (.error f)] }
  /-- So is a lost connection while failover is off. -/
  | lost {f : Failure} {x y : σ} (isOpen : s.closed = false)
      (sent : (b.send (b.current s.behind).1 q).runFrom (b.current s.behind).2 = (.error f, x))
      (loss : f.isKind .connectionFailed = true) (disabled : b.isEnabled x = (false, y)) :
      Relayed b q s (.error f)
        { s with behind := y, journal := s.journal ++ [.forwarded (b.current s.behind).1 q (.error f)] }
  /-- While it is on, one replacement is asked for on account of the loss, and what comes of that is
  what the application learns. -/
  | replaced {f : Failure} {x y z : σ} {r : Except Failure κ} (isOpen : s.closed = false)
      (sent : (b.send (b.current s.behind).1 q).runFrom (b.current s.behind).2 = (.error f, x))
      (loss : f.isKind .connectionFailed = true) (enabled : b.isEnabled x = (true, y))
      (replacement : (b.replace f).runFrom y = (r, z)) :
      Relayed b q s (.error (replacementFailure f r))
        { s with
          behind := z
          journal := s.journal ++ [.forwarded (b.current s.behind).1 q (.error f), .asked f r] }

section

variable {b : Backing σ κ} {q : Statement} {s s' : Relay σ κ} {o : Except Failure Value}

theorem Backing.runFrom_forward (b : Backing σ κ) (q : Statement) (s : Relay σ κ) :
    (b.forward q).runFrom s =
      let r := (b.send (b.current s.behind).1 q).runFrom (b.current s.behind).2
      (r.1, { s with
        behind := r.2
        journal := s.journal ++ [.forwarded (b.current s.behind).1 q r.1] }) := rfl

theorem Backing.runFrom_ask (b : Backing σ κ) (cause : Failure) (s : Relay σ κ) :
    (b.ask cause).runFrom s =
      let r := (b.replace cause).runFrom s.behind
      (r.1.map fun _ => (), { s with
        behind := r.2
        journal := s.journal ++ [.asked cause r.1] }) := rfl

theorem Relay.runFrom_lookUp {α : Type} (f : σ → α × σ) (s : Relay σ κ) :
    (Relay.lookUp f).runFrom s = (.ok (f s.behind).1, { s with behind := (f s.behind).2 }) := rfl

/-- Every statement goes by the rules. -/
theorem relayed_call (b : Backing σ κ) (q : Statement) (s : Relay σ κ) :
    Relayed b q s ((b.call q).runFrom s).1 ((b.call q).runFrom s).2 := by
  unfold Backing.call
  rw [Act.runFrom_bind_of_ok (Act.runFrom_get s)]
  cases hclosed : s.closed with
  | true =>
    simp only [if_true]
    exact .refused hclosed
  | false =>
    simp only [Bool.false_eq_true, if_false]
    rw [Act.runFrom_bind_of_ok (Act.runFrom_outcome _ s), Backing.runFrom_forward]
    rcases hsent : (b.send (b.current s.behind).1 q).runFrom (b.current s.behind).2 with ⟨f | v, x⟩
    · dsimp only
      cases hloss : f.isKind .connectionFailed with
      | false =>
        simp only [Bool.false_eq_true, if_false]
        exact .failed hclosed hsent hloss
      | true =>
        simp only [if_true]
        rw [Act.runFrom_bind_of_ok (Relay.runFrom_lookUp b.isEnabled _)]
        rcases henabled : b.isEnabled x with ⟨_ | _, y⟩
        · simp only [Bool.false_eq_true, if_false]
          exact .lost hclosed hsent hloss henabled
        · simp only [if_true]
          rw [Act.runFrom_bind, Backing.runFrom_ask]
          rcases hreplaced : (b.replace f).runFrom y with ⟨g | c, z⟩ <;>
          · simp only [Except.map, List.append_assoc, List.singleton_append]
            exact .replaced hclosed hsent hloss henabled hreplaced
    · exact .answered hclosed hsent

end

/-! ## Runs -/

/-- What happens to a handle: an operation of the application, or anything at all behind it. -/
inductive Happening (σ : Type) where
  | operation (op : Operation)
  | behind (change : σ → σ)

namespace Happening

/-- Whether the handle is closed by it. -/
def closes : Happening σ → Bool
  | .operation op => op.closes
  | .behind _ => false

/-- The statement that the application has executed. -/
def statement? : Happening σ → Option Statement
  | .operation (.call q) => some q
  | _ => none

end Happening

namespace Backing

variable (b : Backing σ κ)

/-- An operation of the application, whatever comes of it. -/
def operate : Operation → Act (Relay σ κ) Unit
  | .call q => (fun _ => ()) <$> b.call q
  | .close | .leave => b.shut
  | .isClosed => (fun _ => ()) <$> b.isShut

/-- The state after something has happened. -/
def undergo (s : Relay σ κ) : Happening σ → Relay σ κ
  | .operation op => ((b.operate op).runFrom s).2
  | .behind change => { s with behind := change s.behind }

/-- The state after a run. -/
def play (run : List (Happening σ)) (s : Relay σ κ) : Relay σ κ := run.foldl b.undergo s

theorem play_append (run more : List (Happening σ)) (s : Relay σ κ) :
    b.play (run ++ more) s = b.play more (b.play run s) := List.foldl_append ..

end Backing

section

variable {b : Backing σ κ} {q : Statement} {s s' : Relay σ κ} {o : Except Failure Value}

/-- A statement leaves the mark of the handle as it is. -/
theorem Relayed.closed_eq (h : Relayed b q s o s') : s'.closed = s.closed := by
  cases h <;> rfl

/-- On an open handle a statement is passed on once, to the connection in use; on a closed one it is
not. -/
theorem Relayed.forwardings_eq (h : Relayed b q s o s') :
    forwardings s'.journal =
      forwardings s.journal ++ if s.closed then [] else [((b.current s.behind).1, q)] := by
  cases h with
  | refused closed => rw [closed, if_pos rfl, List.append_nil]
  | answered isOpen => rw [isOpen, forwardings_append]; rfl
  | failed isOpen => rw [isOpen, forwardings_append]; rfl
  | lost isOpen => rw [isOpen, forwardings_append]; rfl
  | replaced isOpen => rw [isOpen, forwardings_append]; rfl

theorem Relayed.statements_eq (h : Relayed b q s o s') :
    statements s'.journal = statements s.journal ++ if s.closed then [] else [q] := by
  rw [ClusterConnect.statements_eq, ClusterConnect.statements_eq, h.forwardings_eq, List.map_append]
  cases s.closed <;> rfl

namespace Backing

/-- Closing leaves the mark, and asks for nothing that the journal shows. -/
theorem runFrom_shut (b : Backing σ κ) (s : Relay σ κ) :
    ((b.shut).runFrom s).2.closed = true ∧ ((b.shut).runFrom s).2.journal = s.journal := by
  unfold shut
  rw [Act.runFrom_bind_of_ok (Act.runFrom_get s)]
  cases hclosed : s.closed with
  | true => exact ⟨hclosed, rfl⟩
  | false => exact ⟨rfl, rfl⟩

theorem runFrom_isShut (b : Backing σ κ) (s : Relay σ κ) :
    ((b.isShut).runFrom s).2.closed = s.closed ∧ ((b.isShut).runFrom s).2.journal = s.journal := by
  unfold isShut
  rw [Act.runFrom_bind_of_ok (Act.runFrom_get s)]
  cases hclosed : s.closed with
  | true => exact ⟨hclosed, rfl⟩
  | false => exact ⟨hclosed, rfl⟩

/-- A handle is closed by the operations that close it and by nothing else. -/
theorem closed_undergo (b : Backing σ κ) (s : Relay σ κ) (h : Happening σ) :
    (b.undergo s h).closed = (s.closed || h.closes) := by
  cases h with
  | behind change => exact (Bool.or_false s.closed).symm
  | operation op =>
    cases op with
    | call q =>
      show (((fun _ => ()) <$> b.call q).runFrom s).2.closed = (s.closed || false)
      rw [Act.runFrom_map, (relayed_call b q s).closed_eq, Bool.or_false]
    | close => exact (b.runFrom_shut s).1.trans (Bool.or_true s.closed).symm
    | leave => exact (b.runFrom_shut s).1.trans (Bool.or_true s.closed).symm
    | isClosed =>
      show (((fun _ => ()) <$> b.isShut).runFrom s).2.closed = (s.closed || false)
      rw [Act.runFrom_map, (b.runFrom_isShut s).1, Bool.or_false]

/-- Whatever is no statement of the application leaves the journal as it is. -/
theorem journal_undergo (b : Backing σ κ) (s : Relay σ κ) {h : Happening σ}
    (hnone : h.statement? = none) : (b.undergo s h).journal = s.journal := by
  cases h with
  | behind change => rfl
  | operation op =>
    cases op with
    | call q => exact absurd hnone (by simp [Happening.statement?])
    | close => exact (b.runFrom_shut s).2
    | leave => exact (b.runFrom_shut s).2
    | isClosed =>
      show (((fun _ => ()) <$> b.isShut).runFrom s).2.journal = s.journal
      rw [Act.runFrom_map, (b.runFrom_isShut s).2]

/-- What is passed on in a step of a run. -/
theorem statements_undergo (b : Backing σ κ) (s : Relay σ κ) (h : Happening σ) :
    statements (b.undergo s h).journal =
      statements s.journal ++ if s.closed then [] else h.statement?.toList := by
  cases hq : h.statement? with
  | none => rw [b.journal_undergo s hq, Option.toList_none, ite_self, List.append_nil]
  | some q =>
    obtain rfl : h = .operation (.call q) := by
      rcases h with (_ | _ | _ | _) | _ <;> cases hq
      rfl
    show statements (((fun _ => ()) <$> b.call q).runFrom s).2.journal = _
    rw [Act.runFrom_map]
    exact (relayed_call b q s).statements_eq

theorem closed_play (b : Backing σ κ) (run : List (Happening σ)) (s : Relay σ κ) :
    (b.play run s).closed = (s.closed || run.any Happening.closes) := by
  induction run generalizing s with
  | nil => exact (Bool.or_false s.closed).symm
  | cons h run ih =>
    show (b.play run (b.undergo s h)).closed = _
    rw [ih, closed_undergo, List.any_cons, Bool.or_assoc]

/-- **Each statement once.** The statements passed on in a run are those that the application has had
executed before it first closed the handle, each of them once and in their order. -/
theorem statements_play (b : Backing σ κ) (run : List (Happening σ)) (s : Relay σ κ) :
    statements (b.play run s).journal =
      statements s.journal ++ if s.closed then []
        else (run.takeWhile (!·.closes)).filterMap Happening.statement? := by
  induction run generalizing s with
  | nil => rw [List.takeWhile_nil, List.filterMap_nil, ite_self, List.append_nil]; rfl
  | cons h run ih =>
    show statements (b.play run (b.undergo s h)).journal = _
    rw [ih, closed_undergo, statements_undergo, List.append_assoc]
    cases hclosed : s.closed with
    | true => rfl
    | false =>
      -- the first happening either closes the handle or is one of those that count
      cases hcloses : h.closes with
      | true =>
        have hnone : h.statement? = none := by
          cases h with
          | behind change => rfl
          | operation op =>
            cases op with
            | call q => exact absurd hcloses Bool.false_ne_true
            | close | leave | isClosed => rfl
        rw [hnone, List.takeWhile_cons_of_neg (by simp [hcloses])]
        rfl
      | false =>
        rw [List.takeWhile_cons_of_pos (by simp [hcloses]), List.filterMap_cons]
        cases h.statement? <;> rfl

end Backing

end

/-! ## The handles that programs use -/

namespace FailoverHandle

variable [Timeline τ]

/-- Those behind a handle of the driver: its supervisor, the link in use and the environment. -/
def backing : Backing (FailoverHandle τ × Environment τ) (Option LinkId) where
  current s := (s.1.current, s)
  isEnabled s := (s.1.supervisor.isEnabled, s)
  send link q := Act.onSecond (sendOver link q)
  replace cause := do
    failover cause
    return (← get).1.current
  close link := Act.onSecond (closeCurrent link)
  isClosed link := Act.onSecond (isCurrentClosed link)

/-- A handle of the driver, which keeps its mark among the rest. -/
def ofRelay (s : Relay (FailoverHandle τ × Environment τ) (Option LinkId)) :
    FailoverHandle τ × Environment τ :=
  ({ s.behind.1 with closed := s.closed }, s.behind.2)

/-- A replacement has nothing to do with the mark of the handle. -/
theorem runFrom_failover_closed (cause : Failure) (h : FailoverHandle τ) (env : Environment τ)
    (closed : Bool) :
    (failover cause).runFrom ({ h with closed := closed }, env) =
      let r := (failover cause).runFrom (h, env)
      (r.1, ({ r.2.1 with closed := closed }, r.2.2)) := by
  unfold failover
  rw [Act.runFrom_bind_of_ok (Act.runFrom_get _), Act.runFrom_bind_of_ok (Act.runFrom_get _),
    Act.runFrom_bind, Act.runFrom_bind, Act.runFrom_onSecond, Act.runFrom_onSecond]
  rcases (h.supervisor.replace h.current cause).runFrom env with ⟨f | link, env'⟩ <;> rfl

/-- A replacement for a handle of the driver gives the link that is in use from then on. -/
theorem runFrom_replace (cause : Failure) (x : FailoverHandle τ × Environment τ) :
    (backing.replace cause).runFrom x =
      (((failover cause).runFrom x).1.map fun _ => ((failover cause).runFrom x).2.1.current,
        ((failover cause).runFrom x).2) := by
  show (failover cause >>= fun _ => get >>= fun s => pure s.1.current : Handling τ _).runFrom x = _
  rw [Act.runFrom_bind]
  rcases (failover cause).runFrom x with ⟨f | u, y⟩ <;> rfl

theorem usesReplacements_backing : (backing (τ := τ)).UsesReplacements := by
  intro f x link y hrun
  rw [runFrom_replace] at hrun
  obtain ⟨hlink, rfl⟩ := Prod.mk.inj hrun
  rcases hfail : (failover f).runFrom x with ⟨g | u, z⟩ <;> rw [hfail] at hlink
  · exact absurd hlink (by simp [Except.map])
  · exact Except.ok.inj hlink

/-- What a statement that is sent comes to does not depend on the mark of the handle. -/
theorem runFrom_sendOver_of_sent {q : Statement} {o : Except Failure Value}
    {s : Relay (FailoverHandle τ × Environment τ) (Option LinkId)}
    {x : FailoverHandle τ × Environment τ}
    (sent : (backing.send (backing.current s.behind).1 q).runFrom (backing.current s.behind).2 =
      (o, x)) :
    (sendOver (ofRelay s).1.current q).runFrom (ofRelay s).2 = (o, x.2) ∧ x.1 = s.behind.1 := by
  have hsent : (((sendOver s.behind.1.current q).runFrom s.behind.2).1,
      (s.behind.1, ((sendOver s.behind.1.current q).runFrom s.behind.2).2)) = (o, x) := sent
  obtain ⟨rfl, rfl⟩ := Prod.mk.inj hsent
  exact ⟨rfl, rfl⟩

/-- A statement on a handle of the driver goes by the rules, too. -/
theorem runFrom_call_eq (q : Statement)
    (s : Relay (FailoverHandle τ × Environment τ) (Option LinkId)) :
    (call q).runFrom (ofRelay s) =
      (((backing.call q).runFrom s).1, ofRelay ((backing.call q).runFrom s).2) := by
  have hrules := relayed_call backing q s
  generalize (backing.call q).runFrom s = r at hrules ⊢
  obtain ⟨o, s'⟩ := r
  -- one way for each rule; the handle's own mark is the only thing that the two sides keep apart
  cases hrules with
  | refused closed => exact runFrom_call_of_closed closed q
  | @answered v x isOpen sent =>
    obtain ⟨hsend, hhandle⟩ := runFrom_sendOver_of_sent sent
    rw [runFrom_call_of_open isOpen, hsend]
    simp only [ofRelay, hhandle]
  | @failed f x isOpen sent other =>
    obtain ⟨hsend, hhandle⟩ := runFrom_sendOver_of_sent sent
    rw [runFrom_call_of_open isOpen, hsend]
    simp only [ofRelay, hhandle, other, Bool.false_and, Bool.false_eq_true, if_false]
  | @lost f x y isOpen sent loss disabled =>
    obtain ⟨hsend, hhandle⟩ := runFrom_sendOver_of_sent sent
    obtain ⟨hdisabled, rfl⟩ := Prod.mk.inj disabled
    have hoff : (ofRelay s).1.supervisor.isEnabled = false := by
      rw [← hdisabled, hhandle]
      rfl
    rw [runFrom_call_of_open isOpen, hsend]
    simp only [loss, hoff, Bool.and_false, Bool.false_eq_true, if_false]
    simp only [ofRelay, hhandle]
  | @replaced f x y z r isOpen sent loss enabled replacement =>
    obtain ⟨hsend, hhandle⟩ := runFrom_sendOver_of_sent sent
    obtain ⟨henabled, rfl⟩ := Prod.mk.inj enabled
    have hon : (ofRelay s).1.supervisor.isEnabled = true := by
      rw [← henabled, hhandle]
      rfl
    have hfail := runFrom_failover_closed f x.1 x.2 s.closed
    rw [runFrom_replace] at replacement
    obtain ⟨rfl, rfl⟩ := Prod.mk.inj replacement
    have hx : (ofRelay s).1 = { x.1 with closed := s.closed } := by
      rw [hhandle]
      rfl
    rw [runFrom_call_of_open isOpen, hsend]
    simp only [loss, hon, Bool.and_self, if_true]
    rw [hx, hfail]
    rcases (failover f).runFrom x with ⟨g | u, t⟩ <;> rfl

theorem runFrom_shut_eq (s : Relay (FailoverHandle τ × Environment τ) (Option LinkId)) :
    (close.runFrom (ofRelay s)).2 = ofRelay ((backing.shut).runFrom s).2 := by
  unfold Backing.shut
  rw [Act.runFrom_bind_of_ok (Act.runFrom_get s)]
  cases hclosed : s.closed with
  | true =>
    rw [runFrom_close_of_closed hclosed]
    rfl
  | false =>
    rw [runFrom_close_of_open hclosed]
    rfl

theorem runFrom_isShut_eq (s : Relay (FailoverHandle τ × Environment τ) (Option LinkId)) :
    (isClosed.runFrom (ofRelay s)).2 = ofRelay ((backing.isShut).runFrom s).2 := by
  unfold Backing.isShut
  rw [Act.runFrom_bind_of_ok (Act.runFrom_get s)]
  cases hclosed : s.closed with
  | true =>
    rw [runFrom_isClosed_of_closed hclosed]
    rfl
  | false =>
    have hopen : (ofRelay s).1.closed = false := hclosed
    unfold isClosed
    rw [Act.runFrom_bind_of_ok (Act.runFrom_get _)]
    simp only [hopen, Bool.false_eq_true, if_false]
    rfl

/-- So does every operation. -/
theorem runFrom_operate_eq (op : Operation)
    (s : Relay (FailoverHandle τ × Environment τ) (Option LinkId)) :
    (op.perform.runFrom (ofRelay s)).2 = ofRelay ((backing.operate op).runFrom s).2 := by
  cases op with
  | call q =>
    show (((fun _ => ()) <$> call q).runFrom (ofRelay s)).2 =
      ofRelay (((fun _ => ()) <$> backing.call q).runFrom s).2
    rw [Act.runFrom_map, Act.runFrom_map, runFrom_call_eq]
  | close => exact runFrom_shut_eq s
  | leave => exact runFrom_shut_eq s
  | isClosed =>
    show (((fun _ => ()) <$> isClosed).runFrom (ofRelay s)).2 =
      ofRelay (((fun _ => ()) <$> backing.isShut).runFrom s).2
    rw [Act.runFrom_map, Act.runFrom_map, runFrom_isShut_eq]

/-- So does a whole run of operations. -/
theorem play_eq (ops : List Operation)
    (s : Relay (FailoverHandle τ × Environment τ) (Option LinkId)) :
    play ops (ofRelay s) = ofRelay (backing.play (ops.map .operation) s) := by
  induction ops generalizing s with
  | nil => rfl
  | cons op ops ih =>
    show play ops (op.perform.runFrom (ofRelay s)).2 = _
    rw [runFrom_operate_eq, ih]
    rfl

/-! ### The journal and the trace -/

omit [Timeline τ] in
/-- Between two states, whatever has been sent has been passed on: over the link that it was passed on
to, once each time, and in the same order. -/
def SentAsForwarded (s s' : Relay (FailoverHandle τ × Environment τ) (Option LinkId)) : Prop :=
  ∃ new sent, forwardings s'.journal = forwardings s.journal ++ new ∧
    sentStatements s'.behind.2.events = sentStatements s.behind.2.events ++ sent ∧
    sent.Sublist new

omit [Timeline τ] in
theorem SentAsForwarded.trans {s s' s'' : Relay (FailoverHandle τ × Environment τ) (Option LinkId)}
    (h : SentAsForwarded s s') (h' : SentAsForwarded s' s'') : SentAsForwarded s s'' := by
  obtain ⟨new, sent, hnew, hsent, hsub⟩ := h
  obtain ⟨new', sent', hnew', hsent', hsub'⟩ := h'
  refine ⟨new ++ new', sent ++ sent', ?_, ?_, hsub.append hsub'⟩
  · rw [hnew', hnew, List.append_assoc]
  · rw [hsent', hsent, List.append_assoc]

/-- A statement is sent as it is passed on, unless the link in use does not take it any more. -/
theorem sent_relayed (q : Statement)
    (s : Relay (FailoverHandle τ × Environment τ) (Option LinkId)) :
    let s' := ((backing.call q).runFrom s).2
    ∃ new, forwardings s'.journal = forwardings s.journal ++ new ∧
      sentStatements s'.behind.2.events =
        sentStatements s.behind.2.events ++ new.filter fun p => s.behind.2.takes p.1 := by
  intro s'
  refine ⟨_, (relayed_call backing q s).forwardings_eq, ?_⟩
  have hsent := sent_call (ofRelay s) q
  rw [runFrom_call_eq] at hsent
  exact hsent

theorem sentAsForwarded_operate (op : Operation)
    (s : Relay (FailoverHandle τ × Environment τ) (Option LinkId)) :
    SentAsForwarded s ((backing.operate op).runFrom s).2 := by
  by_cases hcall : ∃ q, op = .call q
  · obtain ⟨q, rfl⟩ := hcall
    obtain ⟨new, hnew, hsent⟩ := sent_relayed q s
    show SentAsForwarded s (((fun _ => ()) <$> backing.call q).runFrom s).2
    rw [Act.runFrom_map]
    exact ⟨new, _, hnew, hsent, List.filter_sublist⟩
  · have hunsent := unsent_perform (ofRelay s) fun q hop => hcall ⟨q, hop⟩
    rw [runFrom_operate_eq] at hunsent
    have hjournal : (backing.undergo s (.operation op)).journal = s.journal := by
      refine backing.journal_undergo s ?_
      cases op with
      | call q => exact absurd ⟨q, rfl⟩ hcall
      | close | leave | isClosed => rfl
    refine ⟨[], [], ?_, ?_, .refl []⟩
    · rw [List.append_nil]
      exact congrArg forwardings hjournal
    · rw [List.append_nil]
      exact hunsent

/-- **What is sent is passed on**, over a whole run: no session sees a statement that the journal does
not show, or one more often than the journal does. -/
theorem sentAsForwarded_play (ops : List Operation)
    (s : Relay (FailoverHandle τ × Environment τ) (Option LinkId)) :
    SentAsForwarded s (backing.play (ops.map .operation) s) := by
  induction ops generalizing s with
  | nil => exact ⟨[], [], (List.append_nil _).symm, (List.append_nil _).symm, .refl []⟩
  | cons op ops ih => exact (sentAsForwarded_operate op s).trans (ih _)

end FailoverHandle

/-! ## Any run -/

/-- A replacement that has been asked for and given is in use afterwards. -/
theorem Relayed.current_of_asked {b : Backing σ κ} {q : Statement} {s s' : Relay σ κ}
    {o : Except Failure Value} {f : Failure} {c : κ} (h : Relayed b q s o s')
    (huses : b.UsesReplacements) (hasked : .asked f (.ok c) ∈ s'.journal.drop s.journal.length) :
    (b.current s'.behind).1 = c ∧ s'.closed = false := by
  cases h with
  | refused closed => simp at hasked
  | answered isOpen => simp at hasked
  | failed isOpen => simp at hasked
  | lost isOpen => simp at hasked
  | @replaced g x y z r isOpen sent loss enabled replacement =>
    simp only [List.drop_left, List.mem_cons, List.not_mem_nil, or_false, reduceCtorEq,
      false_or, Dealing.asked.injEq] at hasked
    obtain ⟨rfl, rfl⟩ := hasked
    exact ⟨huses f y c z replacement, isOpen⟩

/-- The first thing that an open handle does with a statement is to hand it to the connection in
use. -/
theorem Relayed.forwarded_first {b : Backing σ κ} {q : Statement} {s s' : Relay σ κ}
    {o : Except Failure Value} (h : Relayed b q s o s') (hopen : s.closed = false) :
    ∃ a more, s'.journal = s.journal ++ .forwarded (b.current s.behind).1 q a :: more := by
  cases h with
  | refused closed => exact absurd (hopen.symm.trans closed) Bool.false_ne_true
  | @answered v => exact ⟨.ok v, [], rfl⟩
  | @failed f => exact ⟨.error f, [], rfl⟩
  | @lost f => exact ⟨.error f, [], rfl⟩
  | @replaced f x y z r => exact ⟨.error f, [.asked f r], rfl⟩

/-- **No statement is sent twice.** Whoever stands behind a handle and whatever happens to them
between two operations: the statements passed on in a run are those that the application has had
executed before it first closed the handle, each of them once and in their order, and nothing else
that happens asks for anything. Each statement goes by the rules (`Relayed`): a closed handle asks
for nothing; an open one hands the statement to the connection in use at that moment, gives back
what comes of it, and only for a lost connection with failover on asks for one replacement. A
replacement that is given gets the next statement.

The handles that programs use are such handles. What is passed on by them is what is sent: a statement
shows in the trace exactly if the link in use takes it, and over a run nothing shows that has not been
passed on, or more often, or in another order. -/
theorem statements_relayed (τ : Type) [Timeline τ] (b : Backing σ κ) (run : List (Happening σ))
    (x : σ) :
    let start : Relay σ κ := { behind := x }
    statements (b.play run start).journal =
      (run.takeWhile (!·.closes)).filterMap Happening.statement? ∧
    (∀ front h back, run = front ++ h :: back → h.statement? = none →
      (b.undergo (b.play front start) h).journal = (b.play front start).journal) ∧
    (∀ front q back, run = front ++ .operation (.call q) :: back →
      let s := b.play front start
      let r := (b.call q).runFrom s
      s.closed = front.any Happening.closes ∧ Relayed b q s r.1 r.2 ∧
        b.play (front ++ [.operation (.call q)]) start = r.2) ∧
    (b.UsesReplacements → ∀ front q q' back,
      run = front ++ .operation (.call q) :: .operation (.call q') :: back →
      let s := b.play front start
      let s' := ((b.call q).runFrom s).2
      ∀ f c, .asked f (.ok c) ∈ s'.journal.drop s.journal.length →
        ∃ a more, ((b.call q').runFrom s').2.journal = s'.journal ++ .forwarded c q' a :: more) ∧
    ∀ s : Relay (FailoverHandle τ × Environment τ) (Option LinkId),
      (∀ q, (FailoverHandle.call q).runFrom (FailoverHandle.ofRelay s) =
        (((FailoverHandle.backing.call q).runFrom s).1,
          FailoverHandle.ofRelay ((FailoverHandle.backing.call q).runFrom s).2)) ∧
      (∀ ops, FailoverHandle.play ops (FailoverHandle.ofRelay s) =
        FailoverHandle.ofRelay (FailoverHandle.backing.play (ops.map .operation) s)) ∧
      (∀ q, let s' := ((FailoverHandle.backing.call q).runFrom s).2
        ∃ new, forwardings s'.journal = forwardings s.journal ++ new ∧
          sentStatements s'.behind.2.events =
            sentStatements s.behind.2.events ++ new.filter fun p => s.behind.2.takes p.1) ∧
      ∀ ops : List Operation, FailoverHandle.SentAsForwarded s
        (FailoverHandle.backing.play (ops.map .operation) s) := by
  intro start
  refine ⟨b.statements_play run start, ?_, ?_, ?_, ?_⟩
  · intro front h back _ hnone
    exact b.journal_undergo _ hnone
  · intro front q back _ s r
    refine ⟨b.closed_play front start, relayed_call b q s, ?_⟩
    rw [b.play_append]
    show (((fun _ => ()) <$> b.call q).runFrom s).2 = r.2
    rw [Act.runFrom_map]
  · intro huses front q q' back _ s s' f c hasked
    obtain ⟨hcurrent, hopen⟩ := (relayed_call b q s).current_of_asked huses hasked
    have hnext := (relayed_call b q' s').forwarded_first hopen
    rw [hcurrent] at hnext
    exact hnext
  · intro s
    exact ⟨fun q => FailoverHandle.runFrom_call_eq q s, fun ops => FailoverHandle.play_eq ops s,
      fun q => FailoverHandle.sent_relayed q s, fun ops => FailoverHandle.sentAsForwarded_play ops s⟩

/-- A write meets a lost link. It is not written again, and the next statement goes to the new
link. -/
theorem statements_relayed_lost :
    let lost : Failure := .driver (.ofKind .connectionFailed "gone")
    let write : Statement := ⟨.execute, .text "UPDATE t SET n = n + 1", [], .null⟩
    let read : Statement := ⟨.fetchval 0, .text "SELECT n FROM t", [], .null⟩
    let session : Session Int := { replies := [{ response := .failed lost }] }
    let env : Environment Int := { now := 0, openings := [{ result := .opened {} }] }
    let h : FailoverHandle Int := { supervisor := .external true, current := some 0 }
    let run := [Happening.operation (.call write), .operation (.call read), .operation .leave,
      .operation (.call write)]
    let start : Relay _ (Option LinkId) := { behind := (h, env.addLink ⟨session, false, false, false⟩) }
    statements (FailoverHandle.backing.play run start).journal = [write, read] ∧
      ∃ a more, (FailoverHandle.backing.play (run.take 2) start).journal =
        [.forwarded (some 0) write (.error lost), .asked lost (.ok (some 1))] ++
          .forwarded (some 1) read a :: more := by
  intro lost write read session env h run start
  obtain ⟨hstatements, -, -, hnext, -⟩ :=
    statements_relayed Int FailoverHandle.backing run start.behind
  refine ⟨hstatements, ?_⟩
  exact hnext FailoverHandle.usesReplacements_backing [] write read _ rfl lost (some 1)
    (List.mem_cons_of_mem _ List.mem_cons_self)

end ClusterConnect
