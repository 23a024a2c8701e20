import ClusterConnect.Proofs.Attempt.Delivery
import ClusterConnect.Proofs.Environment.Actions

/-!
# The checks of a call for the outcome

A caller looks at the attempt on entry and after each wait. This module says at which of these
checks its call ends, and with what.

* `Ends`: what ends a call at a check; `Passes`: nothing does, and the caller comes back from the wait
  that follows.
* `Ended`: the five ways in which a call ends at a check, by priority.
* `checkpoint`: the state at each check of a call; `ended_await`: a call that is followed for more looks
  than checks pass has ended at the next one.
* `Blind`, `absorb`: leaving a wake-up out of a schedule, for jobs that do not read the notes of the
  waits.
* `ends_at_first_check`: the whole course of a call, after any earlier history of the attempt.
-/

namespace ClusterConnect.BoundedWait

variable {τ κ : Type} [Timeline τ]

/-! ## One check -/

/-- The time that is left to a deadline. -/
def timeLeft (deadline : τ) (s : BoundedWait τ κ × Environment τ) : τ :=
  Timeline.sub deadline s.2.now

/-- What ends a call at a check: something is stored, the caller has been asked to leave, or its time
is over. -/
def Ends (deadline : τ) (s : BoundedWait τ κ × Environment τ) : Prop :=
  s.1.attempt.stored.isSome ∨ s.1.attempt.cancelRequested = true ∨
    Timeline.atMost (timeLeft deadline s) Timeline.zero = true

instance (deadline : τ) (s : BoundedWait τ κ × Environment τ) : Decidable (Ends deadline s) :=
  inferInstanceAs (Decidable (_ ∨ _ ∨ _))

/-- How long a caller waits whose call does not end: exactly for the time that is left, or for as long
as it takes where that is too long for a limit. -/
def waitLimit (deadline : τ) (s : BoundedWait τ κ × Environment τ) : Option τ :=
  if Timeline.before (timeLeft deadline s) Timeline.longestWait then some (timeLeft deadline s)
  else none

/-- The wait that follows a check. -/
def nextWait (j : Job τ κ) (deadline : τ) (s : BoundedWait τ κ × Environment τ) :
    Except Failure Unit × (BoundedWait τ κ × Environment τ) :=
  (wait j (waitLimit deadline s)).runFrom s

/-- A check that does not end the call, followed by a wait that no exception breaks off. -/
structure Passes (j : Job τ κ) (deadline : τ) (s : BoundedWait τ κ × Environment τ) : Prop where
  not_ends : ¬ Ends deadline s
  returns : (nextWait j deadline s).1 = .ok ()

instance (j : Job τ κ) (deadline : τ) (s : BoundedWait τ κ × Environment τ) :
    Decidable (Passes j deadline s) :=
  decidable_of_iff (¬ Ends deadline s ∧ (nextWait j deadline s).1.isOk = true) <| by
    constructor
    · rintro ⟨hnot, hok⟩
      refine ⟨hnot, ?_⟩
      cases h : (nextWait j deadline s).1 with
      | ok u => rfl
      | error f => exact absurd hok (by simp [h, Except.isOk, Except.toBool])
    · rintro ⟨hnot, hret⟩
      exact ⟨hnot, by rw [hret]; rfl⟩

/-- **How a call ends at a check.** Whatever is stored comes first, then a request to leave, then the
deadline. -/
inductive Ended (deadline : τ) (s : BoundedWait τ κ × Environment τ) :
    Except Failure (Option (Option κ)) × (BoundedWait τ κ × Environment τ) → Prop where
  /-- The connection is given, or none if the worker has come to none. -/
  | given {c : Option κ} (h : s.1.attempt.stored = some (.ok c)) :
      Ended deadline s (.ok (some c), s)
  /-- An error of the driver is raised as it is. -/
  | raised {e : DriverError} (h : s.1.attempt.stored = some (.error (.driver e))) :
      Ended deadline s (.error (.driver e), s)
  /-- Any other failure is raised as the cause of an unexpected error. -/
  | wrapped {e : ForeignError} (h : s.1.attempt.stored = some (.error (.foreign e))) :
      Ended deadline s
        (.error (.driver ((DriverError.unexpected "").causedBy (.foreign e))), s)
  /-- The caller leaves on request. -/
  | cancelled (hs : s.1.attempt.stored = none) (hc : s.1.attempt.cancelRequested = true) :
      Ended deadline s
        (.error (.driver
          (.ofKind .connectionCancelled "Interrupted while attempting to connect.")),
          ({ s.1 with attempt := s.1.attempt.abandon .cancelled }, s.2))
  /-- The caller leaves since its time is over. -/
  | timedOut (hs : s.1.attempt.stored = none) (hc : s.1.attempt.cancelRequested = false)
      (hd : Timeline.atMost (timeLeft deadline s) Timeline.zero = true) :
      Ended deadline s
        (.error (.driver (.ofKind .connectionTimeout "Connection attempt timed out.")),
          ({ s.1 with attempt := s.1.attempt.abandon .timedOut }, s.2))

variable {j : Job τ κ} {deadline : τ} {s t : BoundedWait τ κ × Environment τ}

theorem check_of_not_ends (h : ¬ Ends deadline s) :
    s.1.attempt.check (Timeline.sub deadline s.2.now) = .wait (waitLimit deadline s) := by
  rw [Ends, not_or, not_or] at h
  obtain ⟨hs, hc, hd⟩ := h
  refine Attempt.check_eq_wait_iff.mpr ⟨?_, ?_, ?_, rfl⟩
  · simpa using hs
  · simpa using hc
  · simpa [timeLeft] using hd

/-- A look that does not end the call is the wait that follows it. -/
theorem runFrom_look_of_not_ends (h : ¬ Ends deadline s) :
    (look j deadline).runFrom s =
      match nextWait j deadline s with
      | (.ok (), t) => (.ok none, t)
      | (.error f, t) => (.error f, ({ t.1 with attempt := t.1.attempt.abandon .cancelled }, t.2)) := by
  have hl := looked j deadline s
  have hwait := check_of_not_ends h
  generalize (look j deadline).runFrom s = p at hl
  cases hl with
  | take hc => exact absurd (hc.symm.trans hwait) (by simp)
  | leave hc => exact absurd (hc.symm.trans hwait) (by simp)
  | again hc hw =>
    obtain rfl := Verdict.wait.inj (hc.symm.trans hwait)
    rw [nextWait, hw]
  | brokenOff hc hw =>
    obtain rfl := Verdict.wait.inj (hc.symm.trans hwait)
    rw [nextWait, hw]

theorem runFrom_look_of_passes (h : Passes j deadline s) :
    (look j deadline).runFrom s = (.ok none, (nextWait j deadline s).2) := by
  rw [runFrom_look_of_not_ends h.not_ends]
  rcases hw : nextWait j deadline s with ⟨f | u, t⟩
  · exact absurd h.returns (by simp [hw])
  · rfl

/-- A call that ends does so in one of the five ways, if the worker has not stored a failure that
ends the program. -/
theorem ended_look (h : Ends deadline s)
    (hlost : ∀ r, s.1.attempt.stored = some r → isLost r = false) :
    Ended deadline s ((look j deadline).runFrom s) := by
  have hl := looked j deadline s
  generalize (look j deadline).runFrom s = p at hl ⊢
  have hends : ∀ limit, s.1.attempt.check (Timeline.sub deadline s.2.now) ≠ .wait limit := by
    intro limit hc
    obtain ⟨hs, hc, hd, -⟩ := Attempt.check_eq_wait_iff.mp hc
    rcases h with h | h | h
    · simp [hs] at h
    · simp [hc] at h
    · exact absurd (hd.symm.trans h) (by simp)
  cases hl with
  | @take r hc =>
    have hstored := Attempt.check_eq_take_iff.mp hc
    match r with
    | .ok c => exact .given hstored
    | .error (.driver e) => exact .raised hstored
    | .error (.foreign e) =>
      have he : e.kind.endsProgram = false := hlost _ hstored
      have hr : (Failure.foreign e).reported =
          .driver ((DriverError.unexpected "").causedBy (.foreign e)) := by
        simp [Failure.reported, he]
      rw [delivered_error, hr]
      exact .wrapped hstored
  | leave hc =>
    obtain ⟨hs, ⟨hrequest, rfl⟩ | ⟨hrequest, hd, rfl⟩⟩ := Attempt.check_eq_leave_iff.mp hc
    · exact .cancelled hs hrequest
    · exact .timedOut hs hrequest hd
  | again hc hw => exact absurd hc (hends _)
  | brokenOff hc hw => exact absurd hc (hends _)

/-- A call that ends at a check does not look again. -/
theorem runFrom_await_of_ends (h : Ends deadline s)
    (hlost : ∀ r, s.1.attempt.stored = some r → isLost r = false) (looks : Nat) :
    (await j deadline (looks + 1)).runFrom s = (look j deadline).runFrom s := by
  have hl := ended_look (j := j) h hlost
  rw [await, Act.runFrom_bind]
  generalize (look j deadline).runFrom s = p at hl ⊢
  cases hl <;> rfl

/-- A failure that ends the program is never stored, whatever is done to an attempt. -/
theorem Step.stored_not_lost (hs : Step j s t)
    (h : ∀ r, s.1.attempt.stored = some r → isLost r = false) :
    ∀ r, t.1.attempt.stored = some r → isLost r = false := by
  cases hs with
  | worker =>
    rw [finish_settles]
    intro r hr
    by_cases hf : s.1.attempt.fate (j.connect.runFrom s.2).1 = .stored
    · simp only [settle, Attempt.settle_of_stored hf, Attempt.publish, Option.some.injEq] at hr
      rw [← hr]
      exact (Attempt.fate_eq_stored_iff.mp hf).1
    · rw [settle, Attempt.settle_of_not_stored hf] at hr
      exact h r hr
  | cancel => exact h
  | leave hl => exact h
  | wait limit => exact h
  | plan waits => exact h
  | elapse span => exact h

theorem Steps.stored_not_lost (hs : Steps j s t)
    (h : ∀ r, s.1.attempt.stored = some r → isLost r = false) :
    ∀ r, t.1.attempt.stored = some r → isLost r = false := by
  induction hs with
  | refl => exact h
  | tail _ hs ih => exact hs.stored_not_lost ih

/-! ## One check after the other -/

/-- The state at each check of a call that does not end before. -/
def checkpoint (j : Job τ κ) (deadline : τ) (s : BoundedWait τ κ × Environment τ) :
    Nat → BoundedWait τ κ × Environment τ
  | 0 => s
  | n + 1 => (nextWait j deadline (checkpoint j deadline s n)).2

/-- The checks after the first one are the checks of a call that begins at the second one. -/
theorem checkpoint_succ (j : Job τ κ) (deadline : τ) (s : BoundedWait τ κ × Environment τ)
    (n : Nat) :
    checkpoint j deadline s (n + 1) = checkpoint j deadline (nextWait j deadline s).2 n := by
  induction n with
  | zero => rfl
  | succ n ih => exact congrArg (fun t => (nextWait j deadline t).2) ih

theorem checkpoint_steps (j : Job τ κ) (deadline : τ) (s : BoundedWait τ κ × Environment τ)
    (n : Nat) :
    Steps j s (checkpoint j deadline s n) := by
  induction n with
  | zero => exact .refl
  | succ n ih => exact ih.trans (wait_steps j _ _)

/-- As long as its checks pass, a call goes on from one to the next. -/
theorem runFrom_await_of_passes {n : Nat}
    (h : ∀ k < n, Passes j deadline (checkpoint j deadline s k)) (looks : Nat) :
    (await j deadline (looks + n)).runFrom s =
      (await j deadline looks).runFrom (checkpoint j deadline s n) := by
  induction n generalizing looks with
  | zero => rfl
  | succ n ih =>
    have hlast := runFrom_look_of_passes (h n (Nat.lt_succ_self n))
    calc (await j deadline (looks + (n + 1))).runFrom s
        = (await j deadline (looks + 1 + n)).runFrom s := by rw [Nat.add_right_comm, Nat.add_assoc]
      _ = (await j deadline (looks + 1)).runFrom (checkpoint j deadline s n) :=
          ih (fun k hk => h k (Nat.lt_succ_of_lt hk)) _
      _ = (await j deadline looks).runFrom (checkpoint j deadline s (n + 1)) := by
          rw [await, Act.runFrom_bind_of_ok hlast]
          rfl

/-- **A call ends at the first check that finds something**, if it is followed for long enough. -/
theorem ended_await {n looks : Nat} (passed : ∀ k < n, Passes j deadline (checkpoint j deadline s k))
    (hends : Ends deadline (checkpoint j deadline s n))
    (hlost : ∀ r, s.1.attempt.stored = some r → isLost r = false) (hlooks : n < looks) :
    Ended deadline (checkpoint j deadline s n) ((await j deadline looks).runFrom s) := by
  -- what is stored at that check is no failure that ends the program either
  have hlost' := (checkpoint_steps j deadline s n).stored_not_lost hlost
  obtain ⟨more, rfl⟩ := Nat.exists_eq_add_of_lt hlooks
  rw [Nat.add_assoc, Nat.add_comm, runFrom_await_of_passes passed,
    runFrom_await_of_ends hends hlost']
  exact ended_look hends hlost'

/-! ## States that agree but for waits -/

section

omit [Timeline τ]

/-- A state without the notes of the waits. -/
def unwaited (env : Environment τ) : Environment τ :=
  { env with
    events := env.events.filter fun e =>
      match e with
      | .waited _ => false
      | _ => true }

/-- States that agree but for the notes of the waits. -/
def Unwaited (env env' : Environment τ) : Prop := unwaited env = unwaited env'

/-- A job that does not read the notes of the waits. -/
structure Blind (j : Job τ κ) : Prop where
  connect : Act.Respects Unwaited j.connect
  close : ∀ c, Act.Respects Unwaited (j.close c)

/-- An attempt without the waits that are to come. -/
def unplanned (w : BoundedWait τ κ) : BoundedWait τ κ := { w with schedule := [] }

/-- Attempts that agree but for the waits that are to come, in states that agree but for the notes of
the waits. -/
def Alike (s t : BoundedWait τ κ × Environment τ) : Prop :=
  unplanned s.1 = unplanned t.1 ∧ Unwaited s.2 t.2

/-- The same attempt, in states that agree but for the notes of the waits. -/
def Agree (s t : BoundedWait τ κ × Environment τ) : Prop := s.1 = t.1 ∧ Unwaited s.2 t.2

theorem unwaited_note (env : Environment τ) (limit : Option τ) :
    unwaited (env.note (.waited limit)) = unwaited env := by
  simp [unwaited, Environment.note]

theorem Unwaited.now {env env' : Environment τ} (h : Unwaited env env') : env.now = env'.now :=
  (congrArg Environment.now h : (unwaited env).now = (unwaited env').now)

theorem Unwaited.note {env env' : Environment τ} (h : Unwaited env env')
    (limit limit' : Option τ) :
    Unwaited (env.note (.waited limit)) (env'.note (.waited limit')) := by
  rw [Unwaited, unwaited_note, unwaited_note]
  exact h

theorem Alike.attempt (h : Alike s t) : s.1.attempt = t.1.attempt :=
  (congrArg BoundedWait.attempt h.1 : (unplanned s.1).attempt = (unplanned t.1).attempt)

theorem Alike.endless (h : Alike s t) : s.1.endless = t.1.endless :=
  (congrArg BoundedWait.endless h.1 : (unplanned s.1).endless = (unplanned t.1).endless)

theorem Agree.alike (h : Agree s t) : Alike s t := ⟨congrArg unplanned h.1, h.2⟩

/-- Attempts that agree but for the waits that are to come do agree if they have the same to come. -/
theorem Alike.agree (h : Alike s t) (hs : s.1.schedule = t.1.schedule) : Agree s t := by
  have hw : { unplanned s.1 with schedule := s.1.schedule } =
      { unplanned t.1 with schedule := t.1.schedule } := by rw [h.1, hs]
  exact ⟨hw, h.2⟩

theorem respects_onSecond {α : Type} {a : Doing τ α} (h : Act.Respects Unwaited a) :
    Act.Respects Alike (Act.onSecond a : Waiting τ κ α) :=
  Act.Respects.onSecond (P := fun w w' => unplanned w = unplanned w') h

theorem Blind.respects_discard (h : Blind j) (r : Except Failure (Option κ)) :
    Act.Respects Unwaited (j.discard r) := by
  match r with
  | .ok (some c) =>
    refine (h.close c).outcome.bind fun o => ?_
    cases o with
    | ok u => exact Act.respects_pure ()
    | error f =>
      dsimp only
      split
      · exact Act.respects_throw f
      · exact Act.respects_pure ()
  | .ok none => exact Act.respects_pure ()
  | .error f => exact Act.respects_pure ()

theorem Blind.respects_finish (h : Blind j) : Act.Respects Alike (finish j) := by
  refine (respects_onSecond h.connect.outcome).bind fun r => ?_
  refine Act.Respects.get_bind ?_ fun s => ?_
  · intro s t hst
    rw [hst.attempt]
  · refine (Act.respects_modify ?_).bind fun _ => ?_
    · intro s t hst
      exact ⟨congrArg (fun w : BoundedWait τ κ => w.settle r) hst.1, hst.2⟩
    · cases s.1.attempt.fate r with
      | stored => exact Act.respects_pure ()
      | discarded => exact respects_onSecond (h.respects_discard r)
      | fatal => exact fun s t hst => ⟨rfl, hst⟩

end

theorem Alike.ends_iff (h : Alike s t) : Ends deadline s ↔ Ends deadline t := by
  rw [Ends, Ends, timeLeft, timeLeft, h.attempt, h.2.now]

theorem Blind.respects_undergo (h : Blind j) (i : Incident τ) :
    Act.Respects Alike (undergo j i) := by
  cases i with
  | thread => exact h.respects_finish.outcome.bind fun _ => Act.respects_pure ()
  | worker => exact h.respects_finish
  | cancel =>
    refine Act.respects_modify fun s t hst => ⟨?_, hst.2⟩
    exact congrArg (fun w : BoundedWait τ κ => { w with attempt := w.attempt.cancel }) hst.1
  | advance span =>
    refine respects_onSecond (Act.respects_modify fun env env' henv => ?_)
    exact congrArg (fun e : Environment τ => e.elapse (some span))
      (henv : unwaited env = unwaited env')
  | interrupt f => exact Act.respects_throw f

/-- The incidents of a wait have the same effect, whatever is to come after them. -/
theorem Blind.respects_forM (h : Blind j) (is : List (Incident τ)) :
    Act.Respects Alike (is.forM (undergo j)) := Act.Respects.forM fun i _ => h.respects_undergo i

/-! ## Calls in states that agree -/

/-- The next scheduled wait comes to the same, whatever waits are to come after it. -/
theorem Blind.wait_cons (h : Blind j) (hst : Alike s t) {is : List (Incident τ)}
    {back back' : List (List (Incident τ))} (hs : s.1.schedule = is :: back)
    (ht : t.1.schedule = is :: back') (limit limit' : Option τ) :
    ((wait j limit).runFrom s).1 = ((wait j limit').runFrom t).1 ∧
      Alike ((wait j limit).runFrom s).2 ((wait j limit').runFrom t).2 ∧
      ((wait j limit).runFrom s).2.1.schedule = back ∧
      ((wait j limit').runFrom t).2.1.schedule = back' := by
  rw [runFrom_wait_cons hs, runFrom_wait_cons ht]
  have hbegun : Alike ({ s.1 with schedule := back }, s.2.note (.waited limit))
      ({ t.1 with schedule := back' }, t.2.note (.waited limit')) := ⟨hst.1, hst.2.note _ _⟩
  obtain ⟨ho, ha⟩ := h.respects_forM is _ _ hbegun
  exact ⟨ho, ha, (forM_undergo_keeps j is _).2, (forM_undergo_keeps j is _).2⟩

theorem Blind.respects_wait (h : Blind j) (limit : Option τ) :
    Act.Respects Agree (wait j limit) := by
  intro s t hst
  have hschedule : s.1.schedule = t.1.schedule := congrArg schedule hst.1
  cases ht : t.1.schedule with
  | nil =>
    rw [runFrom_wait_nil (hschedule.trans ht), runFrom_wait_nil ht]
    have hnote := hst.2.note limit limit
    cases limit with
    | none => exact ⟨congrArg Except.error hst.alike.endless, hst.1, hnote⟩
    | some span =>
      have hpass : Unwaited ((s.2.note (.waited (some span))).elapse (some span))
          ((t.2.note (.waited (some span))).elapse (some span)) :=
        congrArg (fun e : Environment τ => e.elapse (some span))
          (hnote : unwaited _ = unwaited _)
      exact ⟨rfl, hst.1, hpass⟩
  | cons is rest =>
    obtain ⟨ho, ha, hs, ht⟩ := h.wait_cons hst.alike (hschedule.trans ht) ht limit limit
    exact ⟨ho, ha.agree (hs.trans ht.symm)⟩

omit [Timeline τ] in
/-- Leaving makes no difference to what agrees. -/
theorem respects_leave {α : Type} (state : AttemptState) (f : Failure) :
    Act.Respects Agree (do change (·.abandon state); throw f : Waiting τ κ α) := by
  refine (Act.respects_modify fun s t hst => ⟨?_, hst.2⟩).bind fun _ => Act.respects_throw f
  rw [hst.1]

theorem Blind.respects_look (h : Blind j) (deadline : τ) :
    Act.Respects Agree (look j deadline) := by
  refine Act.Respects.get_bind ?_ fun s => ?_
  · intro s t hst
    rw [hst.1, hst.2.now]
  · cases s.1.attempt.check (Timeline.sub deadline s.2.now) with
    | take r =>
      intro s t hst
      dsimp only
      rw [Act.runFrom_map, Act.runFrom_map]
      exact ⟨rfl, hst⟩
    | leave state => exact respects_leave state _
    | wait limit =>
      refine (h.respects_wait limit).outcome.bind fun o => ?_
      cases o with
      | ok u => exact Act.respects_pure none
      | error f => exact respects_leave .cancelled f

theorem Blind.respects_await (h : Blind j) (deadline : τ) (looks : Nat) :
    Act.Respects Agree (await j deadline looks) := by
  induction looks with
  | zero => exact Act.respects_pure none
  | succ looks ih =>
    refine (h.respects_look deadline).bind fun o => ?_
    cases o with
    | some c => exact Act.respects_pure (some c)
    | none => exact ih

/-- Looks that do not end their calls come to the same if the waits that follow do. -/
theorem look_of_nextWait (hs : ¬ Ends deadline s) (ht : ¬ Ends deadline t)
    (ho : (nextWait j deadline s).1 = (nextWait j deadline t).1)
    (hst : Agree (nextWait j deadline s).2 (nextWait j deadline t).2) :
    ((look j deadline).runFrom s).1 = ((look j deadline).runFrom t).1 ∧
      Agree ((look j deadline).runFrom s).2 ((look j deadline).runFrom t).2 := by
  rw [runFrom_look_of_not_ends hs, runFrom_look_of_not_ends ht]
  generalize nextWait j deadline s = p at ho hst ⊢
  generalize nextWait j deadline t = q at ho hst ⊢
  obtain ⟨o, s'⟩ := p
  obtain ⟨o', t'⟩ := q
  obtain rfl : o = o' := ho
  cases o with
  | ok u => exact ⟨rfl, hst⟩
  | error f =>
    refine ⟨rfl, ?_, hst.2⟩
    exact congrArg (fun w : BoundedWait τ κ =>
      { w with attempt := w.attempt.abandon .cancelled }) hst.1

/-- Calls that come to the same with their first look come to the same with all. -/
theorem Blind.await_of_look (h : Blind j)
    (hlook : ((look j deadline).runFrom s).1 = ((look j deadline).runFrom t).1)
    (hst : Agree ((look j deadline).runFrom s).2 ((look j deadline).runFrom t).2) (looks : Nat) :
    ((await j deadline (looks + 1)).runFrom s).1 = ((await j deadline (looks + 1)).runFrom t).1 ∧
      Agree ((await j deadline (looks + 1)).runFrom s).2
        ((await j deadline (looks + 1)).runFrom t).2 := by
  rw [await, Act.runFrom_bind, Act.runFrom_bind]
  generalize (look j deadline).runFrom s = p at hlook hst ⊢
  generalize (look j deadline).runFrom t = q at hlook hst ⊢
  obtain ⟨o, s'⟩ := p
  obtain ⟨o', t'⟩ := q
  obtain rfl : o = o' := hlook
  cases o with
  | error f => exact ⟨rfl, hst⟩
  | ok answer =>
    cases answer with
    | some c => exact ⟨rfl, hst⟩
    | none => exact h.respects_await deadline looks s' t' hst

/-! ## Wake-ups that change nothing -/

omit [Timeline τ] in
/-- Leaves out the wake-up after a wait: what happens before it happens in the next wait then. -/
def absorb (is : List (Incident τ)) : List (List (Incident τ)) → List (List (Incident τ))
  | [] => []
  | next :: rest => (is ++ next) :: rest

/-- Without the wake-up between them, two scheduled waits come to the same. -/
theorem Blind.nextWait_absorb (h : Blind j) {is next : List (Incident τ)}
    {rest : List (List (Incident τ))} (hst : Alike s t) (hs : s.1.schedule = is :: next :: rest)
    (ht : t.1.schedule = (is ++ next) :: rest) (hret : (nextWait j deadline s).1 = .ok ()) :
    (nextWait j deadline (nextWait j deadline s).2).1 = (nextWait j deadline t).1 ∧
      Agree (nextWait j deadline (nextWait j deadline s).2).2 (nextWait j deadline t).2 := by
  -- The first wait leads from alike states to alike states.
  have hbegun : Alike
      ({ s.1 with schedule := next :: rest }, s.2.note (.waited (waitLimit deadline s)))
      ({ t.1 with schedule := rest }, t.2.note (.waited (waitLimit deadline t))) :=
    ⟨hst.1, hst.2.note _ _⟩
  obtain ⟨ho, ha⟩ := h.respects_forM is _ _ hbegun
  have hwait : nextWait j deadline s = _ := runFrom_wait_cons hs
  rw [← hwait, hret] at ho
  rw [← hwait] at ha
  have hk := (forM_undergo_keeps j is
    ({ t.1 with schedule := rest }, t.2.note (.waited (waitLimit deadline t)))).2
  rcases hu : (is.forM (undergo j)).runFrom
    ({ t.1 with schedule := rest }, t.2.note (.waited (waitLimit deadline t))) with ⟨o, u⟩
  rw [hu] at ho ha hk
  obtain rfl : Except.ok () = o := ho
  -- So does the second one, which begins where the first one has led.
  have hs' : (nextWait j deadline s).2.1.schedule = next :: rest := by
    rw [hwait]
    exact (forM_undergo_keeps j is _).2
  have hwait' : nextWait j deadline (nextWait j deadline s).2 = _ := runFrom_wait_cons hs'
  have ht' : nextWait j deadline t = (next.forM (undergo j)).runFrom u := by
    rw [nextWait, runFrom_wait_cons ht, Act.runFrom_forM_append_of_ok hu]
  obtain ⟨ho', ha'⟩ := h.respects_forM next
    ({ (nextWait j deadline s).2.1 with schedule := rest }, _) u
    ⟨ha.1, (unwaited_note _ (waitLimit deadline (nextWait j deadline s).2)).trans ha.2⟩
  rw [hwait', ht']
  exact ⟨ho', ha'.agree
    ((forM_undergo_keeps j next _).2.trans ((forM_undergo_keeps j next u).2.trans hk).symm)⟩

/-- A call that finds nothing at its second check comes to the same without the wake-up before it. -/
theorem Blind.await_absorb_first (h : Blind j) {is : List (Incident τ)}
    {back : List (List (Incident τ))} (hback : back = [] → is = []) (hst : Alike s t)
    (hs : s.1.schedule = is :: back) (ht : t.1.schedule = absorb is back)
    (hpass : Passes j deadline s) (hnot : ¬ Ends deadline (nextWait j deadline s).2) (looks : Nat) :
    ((await j deadline (looks + 2)).runFrom s).1 = ((await j deadline (looks + 1)).runFrom t).1 ∧
      Agree ((await j deadline (looks + 2)).runFrom s).2
        ((await j deadline (looks + 1)).runFrom t).2 := by
  have hgo : (await j deadline (looks + 2)).runFrom s =
      (await j deadline (looks + 1)).runFrom (nextWait j deadline s).2 :=
    Act.runFrom_bind_of_ok (runFrom_look_of_passes hpass) _
  rw [hgo]
  cases back with
  | nil =>
    obtain rfl := hback rfl
    have hwait : nextWait j deadline s = _ := runFrom_wait_cons hs
    refine h.respects_await deadline _ _ t ?_
    rw [hwait]
    exact Alike.agree ⟨hst.1, (unwaited_note _ _).trans hst.2⟩ ht.symm
  | cons next rest =>
    obtain ⟨ho, ha⟩ := h.nextWait_absorb hst hs ht hpass.returns
    obtain ⟨ho', ha'⟩ := look_of_nextWait hnot (mt hst.ends_iff.mpr hpass.not_ends) ho ha
    exact h.await_of_look ho' ha' looks

/-- A call that finds nothing after one of its waits comes to the same without the wake-up there. -/
theorem Blind.await_absorb (h : Blind j) {front back : List (List (Incident τ))}
    {is : List (Incident τ)} (hback : back = [] → is = []) (hst : Alike s t)
    (hs : s.1.schedule = front ++ is :: back) (ht : t.1.schedule = front ++ absorb is back)
    (hpass : ∀ k ≤ front.length, Passes j deadline (checkpoint j deadline s k))
    (hnot : ¬ Ends deadline (checkpoint j deadline s (front.length + 1))) (looks : Nat) :
    ((await j deadline (front.length + looks + 2)).runFrom s).1 =
        ((await j deadline (front.length + looks + 1)).runFrom t).1 ∧
      Agree ((await j deadline (front.length + looks + 2)).runFrom s).2
        ((await j deadline (front.length + looks + 1)).runFrom t).2 := by
  induction front generalizing s t with
  | nil =>
    rw [List.length_nil, Nat.zero_add]
    exact h.await_absorb_first hback hst hs ht (hpass 0 (Nat.zero_le _)) hnot looks
  | cons first front ih =>
    have hfirst : Passes j deadline s := hpass 0 (Nat.zero_le _)
    obtain ⟨ho, ha, hs', ht'⟩ := h.wait_cons hst hs ht (waitLimit deadline s) (waitLimit deadline t)
    have hfirst' : Passes j deadline t :=
      ⟨mt hst.ends_iff.mpr hfirst.not_ends, ho.symm.trans hfirst.returns⟩
    have hrest := ih ha hs' ht'
      (fun k hk => by
        have hk' := hpass (k + 1) (Nat.succ_le_succ hk)
        rwa [checkpoint_succ] at hk')
      (by rwa [List.length_cons, checkpoint_succ] at hnot)
    rw [List.length_cons, Nat.add_right_comm front.length 1 looks]
    rw [await, await, Act.runFrom_bind_of_ok (runFrom_look_of_passes hfirst),
      Act.runFrom_bind_of_ok (runFrom_look_of_passes hfirst')]
    exact hrest

/-! ## The whole call -/

/-- **A call ends at its first check that finds something to end it.** Take any earlier history of an
attempt, any time limit and any schedule, and let the first `n` checks pass: none of them finds an
outcome, a request or a deadline that is over, and no exception comes out of the waits in between.

* The call is still waiting after each of the `n` looks.
* In between it waits exactly for the time that is left to the deadline fixed on entry, or without
  limit where that time is too long for one.
* If the next check finds something, the call ends there, by priority: with what is stored, on
  request, at its deadline.
* If that check finds nothing, the wake-up before it might as well not have been: without it, any
  longer call comes to the same outcome and leaves the same attempt. -/
theorem ends_at_first_check {j : Job τ κ} {endless : Failure} {env : Environment τ}
    {history : List (Move τ)} {past : BoundedWait τ κ × Environment τ}
    {waits : List (List (Incident τ))} {timeLimit : τ} {n : Nat}
    (earlier : (play j history ({ endless }, env)).2 = past)
    (entry : s = ({ past.1 with schedule := waits }, past.2))
    (fixed : deadline = Timeline.add past.2.now (Timeline.ofMilliseconds timeLimit))
    (passed : ∀ k < n, Passes j deadline (checkpoint j deadline s k)) :
    (∀ looks ≤ n,
      (result j timeLimit looks).runFrom s = (.ok none, checkpoint j deadline s looks)) ∧
    (∀ k < n, ∀ left, left = Timeline.sub deadline (checkpoint j deadline s k).2.now →
      (wait j (if Timeline.before left Timeline.longestWait then some left else none)).runFrom
        (checkpoint j deadline s k) = (.ok (), checkpoint j deadline s (k + 1))) ∧
    (Ends deadline (checkpoint j deadline s n) → ∀ looks > n,
      Ended deadline (checkpoint j deadline s n) ((result j timeLimit looks).runFrom s)) ∧
    (¬ Ends deadline (checkpoint j deadline s n) → Blind j →
      ∀ front is back, waits = front ++ is :: back → front.length + 1 = n →
        (back = [] → is = []) → ∀ looks ≥ n, ∀ without,
          without = ({ past.1 with schedule := front ++ absorb is back }, past.2) →
          ((result j timeLimit (looks + 1)).runFrom s).1 =
              ((result j timeLimit looks).runFrom without).1 ∧
            Agree ((result j timeLimit (looks + 1)).runFrom s).2
              ((result j timeLimit looks).runFrom without).2) := by
  have hcall : ∀ looks u, u.2.now = past.2.now →
      (result j timeLimit looks).runFrom u = (await j deadline looks).runFrom u := by
    intro looks u hu
    rw [runFrom_result, hu, fixed]
  have hnow : s.2.now = past.2.now := by rw [entry]
  refine ⟨fun looks hlooks => ?_, fun k hk left hleft => ?_, fun hends looks hlooks => ?_, ?_⟩
  · have hawait := runFrom_await_of_passes (fun k hk => passed k (Nat.lt_of_lt_of_le hk hlooks)) 0
    rw [Nat.zero_add] at hawait
    rw [hcall looks s hnow, hawait]
    rfl
  · subst hleft
    exact Prod.ext (passed k hk).returns rfl
  · -- Nothing stored in the past is a failure that ends the program: no such failure ever is.
    have hsteps : Steps j ({ endless }, env) s := by
      refine (play_steps j history _).trans ?_
      rw [earlier, entry]
      exact (Step.plan past waits).steps
    rw [hcall _ s hnow]
    exact ended_await passed hends (hsteps.stored_not_lost (by simp)) hlooks
  · rintro hnot hblind front is back rfl rfl hback looks hlooks without rfl
    obtain ⟨more, rfl⟩ := Nat.exists_eq_add_of_le hlooks
    rw [hcall _ s hnow, hcall _ ({ past.1 with schedule := front ++ absorb is back }, past.2) rfl,
      Nat.add_right_comm front.length 1 more]
    refine hblind.await_absorb hback ?_ (by rw [entry]) rfl
      (fun k hk => passed k (Nat.lt_succ_of_le hk)) hnot more
    rw [entry]
    exact ⟨rfl, rfl⟩

omit [Timeline τ] in
theorem blind_promptJob : Blind promptJob where
  connect := Act.respects_pure _
  close c := Act.respects_modify fun env env' h => by
    have hnote : ∀ e : Environment Int, unwaited (e.note (.closed c)) =
        (unwaited e).note (.closed c) := fun e => by simp [unwaited, Environment.note]
    rw [Unwaited, hnote, hnote, show unwaited env = unwaited env' from h]

/-- The worker's thread stores its connection, then the caller is asked to leave and its time passes,
all in one wait: the caller gets the connection. The idle wake-up before makes no difference. -/
theorem stored_before_request_and_deadline :
    let s : BoundedWait Int LinkId × Environment Int :=
      ({ schedule := [[], [.thread, .cancel, .advance 500]], endless := interruption }, { now := 0 })
    let without : BoundedWait Int LinkId × Environment Int :=
      ({ schedule := [[.thread, .cancel, .advance 500]], endless := interruption }, { now := 0 })
    (∀ looks ≤ 2, ((result promptJob 100 looks).runFrom s).1 = .ok none) ∧
      (∀ looks > 2, Ended 100 (checkpoint promptJob 100 s 2)
        ((result promptJob 100 looks).runFrom s)) ∧
      (∀ looks ≥ 1, ((result promptJob 100 (looks + 1)).runFrom s).1 =
        ((result promptJob 100 looks).runFrom without).1) ∧
      ((result promptJob 100 2).runFrom without).1 = .ok (some (some 7)) := by
  intro s without
  have hpast : (play promptJob [] ({ endless := interruption }, { now := 0 })).2 =
      ({ endless := interruption }, { now := 0 }) := rfl
  have hfixed : (100 : Int) = Timeline.add 0 (Timeline.ofMilliseconds 100) := rfl
  have hsecond : Passes promptJob 100 (checkpoint promptJob 100 s 1) := by decide
  have hone := ends_at_first_check (s := s) (n := 1) hpast rfl hfixed (by decide)
  have htwo := ends_at_first_check (s := s) (n := 2) hpast rfl hfixed (by decide)
  refine ⟨fun looks hlooks => by rw [htwo.1 looks hlooks], htwo.2.2.1 (by decide), ?_, rfl⟩
  intro looks hlooks
  exact (hone.2.2.2 hsecond.not_ends blind_promptJob [] [] _ rfl rfl (by simp) looks hlooks
    without rfl).1

end ClusterConnect.BoundedWait
