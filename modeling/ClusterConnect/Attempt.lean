import ClusterConnect.Environment

/-!
# Bounded connection attempts

A worker makes a connection while a caller waits for it, for a limited time. The caller may leave
before the worker is done; then nobody is left to take the connection, and the worker closes it.

* `Attempt`: what the two of them share. `publish`, `abandon` and `cancel` change it.
* `Attempt.check`: what the caller does at one look at the attempt; `Attempt.fate`: what becomes of
  an outcome of the worker.
* `BoundedWait`: an attempt together with what happens during the caller's waits. `finish` is the
  worker's part and `result` the caller's.
-/

namespace ClusterConnect

/-- How far an attempt has come. -/
inductive AttemptState where
  | pending
  | succeeded
  | failed
  | timedOut
  | cancelled
deriving Repr, DecidableEq

/-- The name of a state. -/
def AttemptState.name : AttemptState → String
  | .pending => "pending"
  | .succeeded => "succeeded"
  | .failed => "failed"
  | .timedOut => "timed-out"
  | .cancelled => "cancelled"

/-- What a caller and a worker share. -/
structure Attempt (α : Type) where
  /-- What the worker has stored for the caller. -/
  stored : Option (Except Failure α) := none
  /-- Whether a caller has left. -/
  abandoned : Bool := false
  /-- Whether the caller has been asked to leave. -/
  cancelRequested : Bool := false
  state : AttemptState := .pending

/-- What the caller does after a look at the attempt. -/
inductive Verdict (τ α : Type) where
  /-- Takes what is stored. -/
  | take (r : Except Failure α)
  /-- Leaves, in the given state. -/
  | leave (state : AttemptState)
  /-- Waits for at most the given time, `none` for as long as it takes. -/
  | wait (limit : Option τ)

/-- What becomes of an outcome of the worker. -/
inductive Fate where
  /-- It is stored for a caller. -/
  | stored
  /-- It is dropped, and its connection closed, since a caller has left. -/
  | discarded
  /-- It ends the worker. -/
  | fatal
deriving Repr, DecidableEq

/-- Whether a worker has come to an end without an outcome. -/
def isLost {α : Type} : Except Failure α → Bool
  | .ok _ => false
  | .error f => f.endsProgram

namespace Attempt

variable {τ α : Type}

/-- Stores what the worker has come to. -/
def publish (a : Attempt α) (r : Except Failure α) : Attempt α :=
  { a with
    stored := some r
    state :=
      match r with
      | .ok _ => .succeeded
      | .error _ => .failed }

/-- The caller leaves. -/
def abandon (a : Attempt α) (state : AttemptState) : Attempt α :=
  { a with abandoned := true, state := state }

/-- Asks the caller to leave. -/
def cancel (a : Attempt α) : Attempt α := { a with cancelRequested := true }

/-- What becomes of an outcome: a caller that has left does not get it any more. -/
def fate (a : Attempt α) (r : Except Failure α) : Fate :=
  if isLost r then .fatal else if a.abandoned then .discarded else .stored

/-- The worker comes to an outcome. -/
def settle (a : Attempt α) (r : Except Failure α) : Attempt α :=
  if a.fate r = .stored then a.publish r else a

/-- What a caller does that has `left` seconds to its deadline. A stored outcome counts before a
request to leave, and that before the deadline. A wait that is too long to be limited is not. -/
def check [Timeline τ] (a : Attempt α) (left : τ) : Verdict τ α :=
  match a.stored with
  | some r => .take r
  | none =>
    if a.cancelRequested then .leave .cancelled
    else if Timeline.atMost left Timeline.zero then .leave .timedOut
    else .wait (if Timeline.before left Timeline.longestWait then some left else none)

/-! ### What the changes leave as it is -/

theorem fate_eq_stored_iff {a : Attempt α} {r : Except Failure α} :
    a.fate r = .stored ↔ isLost r = false ∧ a.abandoned = false := by
  unfold fate
  cases isLost r <;> cases a.abandoned <;> simp

theorem fate_eq_discarded_iff {a : Attempt α} {r : Except Failure α} :
    a.fate r = .discarded ↔ isLost r = false ∧ a.abandoned = true := by
  unfold fate
  cases isLost r <;> cases a.abandoned <;> simp

theorem fate_eq_fatal_iff {a : Attempt α} {r : Except Failure α} :
    a.fate r = .fatal ↔ isLost r = true := by
  unfold fate
  cases isLost r <;> cases a.abandoned <;> simp

theorem settle_of_stored {a : Attempt α} {r : Except Failure α} (h : a.fate r = .stored) :
    a.settle r = a.publish r := if_pos h

theorem settle_of_not_stored {a : Attempt α} {r : Except Failure α} (h : a.fate r ≠ .stored) :
    a.settle r = a := if_neg h

/-- The caller takes exactly what is stored. -/
theorem check_eq_take_iff [Timeline τ] {a : Attempt α} {left : τ} {r : Except Failure α} :
    a.check left = .take r ↔ a.stored = some r := by
  unfold check
  cases a.stored with
  | some r' => simp
  | none => cases a.cancelRequested <;> cases Timeline.atMost left Timeline.zero <;> simp

/-- A caller that leaves has been asked to, or its time is over; in either case nothing is stored. -/
theorem check_eq_leave_iff [Timeline τ] {a : Attempt α} {left : τ} {state : AttemptState} :
    a.check left = .leave state ↔
      a.stored = none ∧
        (a.cancelRequested = true ∧ state = .cancelled ∨
          a.cancelRequested = false ∧ Timeline.atMost left Timeline.zero = true ∧
            state = .timedOut) := by
  unfold check
  cases a.stored with
  | some r' => simp
  | none =>
    cases a.cancelRequested <;> cases Timeline.atMost left Timeline.zero <;>
      simp [@eq_comm _ state]

/-- A caller waits as long as nothing tells it to end. -/
theorem check_eq_wait_iff [Timeline τ] {a : Attempt α} {left : τ} {limit : Option τ} :
    a.check left = .wait limit ↔
      a.stored = none ∧ a.cancelRequested = false ∧
        Timeline.atMost left Timeline.zero = false ∧
        limit = if Timeline.before left Timeline.longestWait then some left else none := by
  unfold check
  cases a.stored with
  | some r' => simp
  | none =>
    cases a.cancelRequested <;> cases Timeline.atMost left Timeline.zero <;>
      simp [@eq_comm _ limit]

/-- The worker takes no decision for the caller. -/
@[simp] theorem abandoned_settle (a : Attempt α) (r : Except Failure α) :
    (a.settle r).abandoned = a.abandoned := by
  unfold settle
  split <;> rfl

@[simp] theorem cancelRequested_settle (a : Attempt α) (r : Except Failure α) :
    (a.settle r).cancelRequested = a.cancelRequested := by
  unfold settle
  split <;> rfl

end Attempt

/-- The error of a caller that leaves in the given state. -/
def leavingFailure (state : AttemptState) : Failure :=
  .driver
    (if state = .cancelled then
      .ofKind .connectionCancelled "Interrupted while attempting to connect."
    else .ofKind .connectionTimeout "Connection attempt timed out.")

/-- A stored outcome as the caller gets it. -/
def delivered {α : Type} (r : Except Failure α) : Except Failure α := r.mapError Failure.reported

@[simp] theorem delivered_ok {α : Type} (x : α) : delivered (.ok x) = .ok x := rfl

@[simp] theorem delivered_error {α : Type} (f : Failure) :
    delivered (.error f : Except Failure α) = .error f.reported := rfl

/-- What can happen while a caller waits. -/
inductive Incident (τ : Type) where
  /-- The worker's thread runs to its end. A failure that ends the worker ends that thread alone. -/
  | thread
  /-- The worker's part is done on the waiting thread itself, as in a rehearsal that starts no thread.
  A failure that ends the worker comes out of the wait then. -/
  | worker
  | cancel
  | advance (span : τ)
  /-- The wait itself is broken off. -/
  | interrupt (failure : Failure)

/-- An attempt in progress. -/
structure BoundedWait (τ κ : Type) where
  attempt : Attempt (Option κ) := {}
  /-- What the runs of the worker have come to and what has become of it, earliest first. -/
  worked : List (Except Failure (Option κ) × Fate) := []
  /-- What happens during each of the coming waits. A wait beyond those lasts its whole limit. -/
  schedule : List (List (Incident τ)) := []
  /-- The failure of a wait without limit beyond the schedule. -/
  endless : Failure := .ofForeign .wrongState "Nothing ends the wait."

/-- How a connection is made, and how one is closed that nobody takes. -/
structure Job (τ κ : Type) where
  connect : Doing τ (Option κ)
  close : κ → Doing τ Unit

namespace Job

variable {τ κ : Type}

/-- Closes a connection that nobody takes. Failures are ignored, unless they end the program. -/
def discard (j : Job τ κ) (r : Except Failure (Option κ)) : Doing τ Unit := do
  match r with
  | .ok (some c) =>
    match ← (j.close c).outcome with
    | .ok () => pure ()
    | .error f => if f.endsProgram then throw f
  | _ => pure ()

end Job

namespace BoundedWait

variable {τ κ : Type} [Timeline τ]

/-- An action on an attempt in progress. -/
abbrev Waiting (τ κ α : Type) := Act (BoundedWait τ κ × Environment τ) α

omit [Timeline τ] in
/-- The worker comes to an outcome. -/
def settle (w : BoundedWait τ κ) (r : Except Failure (Option κ)) : BoundedWait τ κ :=
  { w with
    attempt := w.attempt.settle r
    worked := w.worked ++ [(r, w.attempt.fate r)] }

/-- Changes the attempt. -/
def change (f : Attempt (Option κ) → Attempt (Option κ)) : Waiting τ κ Unit :=
  modify fun s => ({ s.1 with attempt := f s.1.attempt }, s.2)

/-- The worker's part: it makes the connection, and stores the outcome if the caller still waits. A
failure that ends the worker comes out of this part; `undergo` says who gets to see it. -/
def finish (j : Job τ κ) : Waiting τ κ Unit := do
  let r ← Act.onSecond j.connect.outcome
  let fate := (← get).1.attempt.fate r
  modify fun s => (s.1.settle r, s.2)
  match fate with
  | .stored => pure ()
  | .discarded => Act.onSecond (j.discard r)
  | .fatal => Act.give (r.map fun _ => ())

/-- One incident. -/
def undergo (j : Job τ κ) : Incident τ → Waiting τ κ Unit
  | .thread => discard (finish j).outcome
  | .worker => finish j
  | .cancel => change Attempt.cancel
  | .advance span => Act.onSecond (pass (some span))
  | .interrupt f => throw f

/-- One wait: what the schedule says for it, else the whole limit. -/
def wait (j : Job τ κ) (limit : Option τ) : Waiting τ κ Unit := do
  Act.onSecond (record (.waited limit))
  let s ← get
  match s.1.schedule with
  | incidents :: rest =>
    set ({ s.1 with schedule := rest }, s.2)
    incidents.forM (undergo j)
  | [] =>
    match limit with
    | some t => Act.onSecond (pass (some t))
    | none => throw s.1.endless

/-- One look at the attempt and, if need be, a wait: `none` if the caller has to look again. A wait
that is broken off counts as leaving on request. -/
def look (j : Job τ κ) (deadline : τ) : Waiting τ κ (Option (Option κ)) := do
  let s ← get
  match s.1.attempt.check (Timeline.sub deadline s.2.now) with
  | .take r => some <$> Act.give (delivered r)
  | .leave state =>
    change (·.abandon state)
    throw (leavingFailure state)
  | .wait limit =>
    match ← (wait j limit).outcome with
    | .ok () => return none
    | .error f =>
      change (·.abandon .cancelled)
      throw f

/-- The caller's part, followed for a number of looks: `none` if the caller still waits then. -/
def await (j : Job τ κ) (deadline : τ) : (looks : Nat) → Waiting τ κ (Option (Option κ))
  | 0 => return none
  | looks + 1 => do
    match ← look j deadline with
    | some c => return some c
    | none => await j deadline looks

/-- The caller's part, with a time limit in milliseconds. -/
def result (j : Job τ κ) (timeLimit : τ) (looks : Nat) : Waiting τ κ (Option (Option κ)) := do
  let s ← get
  await j (Timeline.add s.2.now (Timeline.ofMilliseconds timeLimit)) looks

end BoundedWait

end ClusterConnect
