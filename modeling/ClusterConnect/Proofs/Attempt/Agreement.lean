import ClusterConnect.Proofs.Attempt.Checks
import ClusterConnect.Proofs.Driver.Oblivious

/-!
# A worker does what its caller would have done

The job of an attempt is done once, at some point of the attempt. If the job cannot tell at which
point, it comes to what the caller would have come to by doing it at once.

* `Traced`: how far the attempt is from the state that the job leads to when done at once;
  `Steps.traced`: every run of the attempt keeps to it.
* `runsInAll`: the runs of the worker, those to come included; a call for the outcome loses none.
* `Plan`: what happens in an attempt that only its caller and its worker have a hand in; `Plan.call`
  and `Plan.final`: the call for the outcome, and the state when the worker has run too.
* `Plan.checked`, `Plan.answered`: the state at each check of the call, and the check that ends it.
* `Plan.taken`, `Plan.timedOut`: the two ends of an attempt, compared with the job done at once.
-/

namespace ClusterConnect.BoundedWait

variable {τ κ : Type} [Timeline τ]

/-! ## Doing the job at some point -/

/-- A job that cannot tell at which point of an attempt it is done. -/
structure ObliviousJob (j : Job τ κ) : Prop where
  connect : Oblivious j.connect
  close : ∀ c, Oblivious (j.close c)

section

variable {j : Job τ κ} {start : Environment τ} {s t : BoundedWait τ κ × Environment τ}

theorem ObliviousJob.discard (h : ObliviousJob j) (r : Except Failure (Option κ)) :
    Oblivious (j.discard r) := by
  intro env env' hsame
  rcases r with f | _ | c
  · exact ⟨rfl, hsame⟩
  · exact ⟨rfl, hsame⟩
  · obtain ⟨hout, hclosed⟩ := h.close c env env' hsame
    rw [runFrom_discard, runFrom_discard, hout]
    exact ⟨rfl, hclosed⟩

/-- The state that the job leads to when it is done at once, with what becomes of its outcome. -/
def afterJob (j : Job τ κ) (start : Environment τ) : Fate → Environment τ
  | .discarded => ((j.discard (j.connect.runFrom start).1).runFrom (j.connect.runFrom start).2).2
  | _ => (j.connect.runFrom start).2

/-- The worker has not run, or it has run once and has come to what the job comes to when it is done
at once. Nothing else has happened around the attempt. -/
inductive Traced (j : Job τ κ) (start : Environment τ) (s : BoundedWait τ κ × Environment τ) :
    Prop where
  | idle (hworked : s.1.worked = []) (h : Same start s.2) : Traced j start s
  | done (fate : Fate) (hworked : s.1.worked = [((j.connect.runFrom start).1, fate)])
      (h : Same (afterJob j start fate) s.2) : Traced j start s

/-- What happens around an attempt without a hand in the worker's part. -/
theorem Traced.of_same (h : Traced j start s) (hworked : t.1.worked = s.1.worked)
    (hsame : Same s.2 t.2) : Traced j start t := by
  cases h with
  | idle hw h => exact .idle (hworked.trans hw) (h.trans hsame)
  | done fate hw h => exact .done fate (hworked.trans hw) (h.trans hsame)

/-- The first run of the worker. -/
theorem traced_finish (hj : ObliviousJob j) (hworked : s.1.worked = []) (h : Same start s.2) :
    Traced j start ((finish j).runFrom s).2 := by
  obtain ⟨houtcome, hmade⟩ := hj.connect start s.2 h
  have hsettled : ((finish j).runFrom s).2.1.worked =
      [((j.connect.runFrom start).1, s.1.attempt.fate (j.connect.runFrom s.2).1)] := by
    rw [finish_settles, settle, hworked, ← houtcome]
    rfl
  refine .done _ hsettled ?_
  rw [runFrom_finish]
  cases s.1.attempt.fate (j.connect.runFrom s.2).1 with
  | stored => exact hmade
  | discarded =>
    rw [← houtcome]
    exact (hj.discard _ _ _ hmade).2
  | fatal => exact hmade

theorem Step.traced (hj : ObliviousJob j) (hs : Step j s t) (h : Traced j start s)
    (once : t.1.worked.length ≤ 1) : Traced j start t := by
  cases hs with
  | worker =>
    cases h with
    | idle hworked h => exact traced_finish hj hworked h
    | done fate hworked h =>
      -- a second run is one too many
      rw [finish_settles, settle, hworked] at once
      exact absurd once (by simp)
  | cancel => exact h.of_same rfl (.refl _)
  | leave hl => exact h.of_same rfl (.refl _)
  | wait limit => exact h.of_same rfl (.note_waited _ limit)
  | plan waits => exact h.of_same rfl (.refl _)
  | elapse span => exact h.of_same rfl (.elapse _ span)

/-- Whatever happens in an attempt, the job is done as it would have been done at once. -/
theorem Steps.traced (hj : ObliviousJob j) (hs : Steps j s t) (h : Traced j start s)
    (once : t.1.worked.length ≤ 1) : Traced j start t := by
  induction hs with
  | refl => exact h
  | tail _ hstep ih =>
    exact hstep.traced hj (ih (Nat.le_trans hstep.grows.worked.length_le once)) once

end

/-- A caller that has left since its time was over has learnt so. -/
theorem answer_of_timedOut {deadline : τ} {waits : List (List (Incident τ))} {looks : Nat}
    {o : Except Failure (Option κ)} (hs : Sound s.1) (ha : s.1.attempt.abandoned = false)
    (h : move j (.call deadline waits looks) s = (some o, t))
    (hstate : t.1.attempt.state = .timedOut) : o = .error (leavingFailure .timedOut) := by
  obtain ⟨ho, ht⟩ := Prod.mk.inj h
  obtain ⟨u, hu, hlast⟩ := await_ended ho
  have hua : u.1.attempt.abandoned = false := hu.keeps.1.trans ha
  have hus := Sound.steps (s := s) hs ((Step.plan s waits).steps.trans hu.steps)
  have hul := looked j deadline u
  rw [← hlast] at ho ht
  generalize (look j deadline).runFrom u = p at ho ht hul
  subst ht
  cases hul with
  | @take r hc =>
    -- the caller has taken an outcome, so it has not left
    have hleft : u.1.attempt.abandoned = true := hus.abandoned_iff.mpr (.inl hstate)
    exact absurd (hua.symm.trans hleft) Bool.false_ne_true
  | @leave state hc =>
    obtain rfl : state = .timedOut := hstate
    exact (Option.some.inj ho).symm
  | again hc hw => exact absurd ho (by simp [answer?])
  | brokenOff hc hw => exact absurd hstate (by simp [Attempt.abandon])

/-! ## How often the worker runs -/

/-- The runs of the worker: those that have been, and those that are to come in scheduled waits. -/
def runsInAll (w : BoundedWait τ κ) : Nat := w.worked.length + runs w.schedule.flatten

section

variable {j : Job τ κ} {deadline : τ} {limit : Option τ} {s t : BoundedWait τ κ × Environment τ}

/-- No run is lost in a wait that ends as it should. -/
theorem runsInAll_wait (h : (wait j limit).runFrom s = (.ok (), t)) :
    runsInAll t.1 = runsInAll s.1 := by
  cases hs : s.1.schedule with
  | nil =>
    rw [runFrom_wait_nil hs] at h
    cases limit with
    | none => exact absurd (congrArg Prod.fst h) (by simp)
    | some span => rw [← (Prod.mk.inj h).2]
  | cons is rest =>
    rw [runFrom_wait_cons hs] at h
    have hkeep := forM_undergo_keeps j is ({ s.1 with schedule := rest }, s.2.note (.waited limit))
    rw [h] at hkeep
    unfold runsInAll
    rw [length_worked_of_ok h, hkeep.2, hs, List.flatten_cons, runs_append, Nat.add_assoc]

theorem runsInAll_wait_le (j : Job τ κ) (limit : Option τ) (s : BoundedWait τ κ × Environment τ) :
    runsInAll ((wait j limit).runFrom s).2.1 ≤ runsInAll s.1 := by
  cases hs : s.1.schedule with
  | nil =>
    rw [runFrom_wait_nil hs]
    cases limit <;> exact Nat.le_refl _
  | cons is rest =>
    rw [runFrom_wait_cons hs]
    have hle := length_worked_le j is ({ s.1 with schedule := rest }, s.2.note (.waited limit))
    have hkeep := forM_undergo_keeps j is ({ s.1 with schedule := rest }, s.2.note (.waited limit))
    unfold runsInAll
    rw [hkeep.2, hs, List.flatten_cons, runs_append]
    dsimp only at hle ⊢
    omega

theorem Lasting.runsInAll (h : Lasting j deadline s t) :
    BoundedWait.runsInAll t.1 = BoundedWait.runsInAll s.1 := by
  induction h with
  | refl s => rfl
  | again hw _ ih => exact ih.trans (runsInAll_wait hw)

theorem runsInAll_look_le (j : Job τ κ) (deadline : τ) (s : BoundedWait τ κ × Environment τ) :
    runsInAll ((look j deadline).runFrom s).2.1 ≤ runsInAll s.1 := by
  have hl := looked j deadline s
  generalize (look j deadline).runFrom s = p at hl ⊢
  cases hl with
  | take h => exact Nat.le_refl _
  | leave h => exact Nat.le_refl _
  | @again limit t h hw => exact Nat.le_of_eq (runsInAll_wait hw)
  | @brokenOff limit f t h hw =>
    have hle := runsInAll_wait_le j limit s
    rw [hw] at hle
    exact hle

theorem runsInAll_await_le (j : Job τ κ) (deadline : τ) (looks : Nat)
    (s : BoundedWait τ κ × Environment τ) :
    runsInAll ((await j deadline looks).runFrom s).2.1 ≤ runsInAll s.1 := by
  induction looks generalizing s with
  | zero => exact Nat.le_refl _
  | succ looks ih =>
    have hl := runsInAll_look_le j deadline s
    rw [await, Act.runFrom_bind]
    rcases h : (look j deadline).runFrom s with ⟨f | c, t⟩
    · rw [h] at hl
      exact hl
    · rw [h] at hl
      cases c with
      | some c => exact hl
      | none => exact Nat.le_trans (ih t) hl

theorem length_worked_play (j : Job τ κ) (is : List (Incident τ))
    (s : BoundedWait τ κ × Environment τ) :
    (play j (is.map .incident) s).2.1.worked.length = s.1.worked.length + runs is := by
  induction is generalizing s with
  | nil => rfl
  | cons i is ih =>
    have hi := length_worked_undergo j i s
    rw [runs_cons, ← Nat.add_assoc, ← hi]
    exact ih _

/-- A caller that has got an answer has lost no run of the worker, unless its wait was broken off or
the worker has come to no outcome. -/
theorem runsInAll_call {waits : List (List (Incident τ))} {looks : Nat}
    {o : Except Failure (Option κ)} (hs : Sound s.1) (ha : s.1.attempt.abandoned = false)
    (h : move j (.call deadline waits looks) s = (some o, t))
    (hl : ∀ p ∈ t.1.worked, isLost p.1 = false) (hi : ∀ is ∈ waits, ∀ f, .interrupt f ∉ is) :
    runsInAll t.1 = s.1.worked.length + runs waits.flatten := by
  obtain ⟨ho, ht⟩ := Prod.mk.inj h
  obtain ⟨u, hu, hlast⟩ := await_ended ho
  have hua : u.1.attempt.abandoned = false := hu.keeps.1.trans ha
  have hus := Sound.steps (s := s) hs ((Step.plan s waits).steps.trans hu.steps)
  have hul := looked j deadline u
  have hall : runsInAll u.1 = s.1.worked.length + runs waits.flatten := hu.runsInAll
  rw [← hlast] at ho ht
  generalize (look j deadline).runFrom u = p at ho ht hul
  subst ht
  cases hul with
  | take hc => exact hall
  | leave hc => exact hall
  | again hc hw => exact absurd ho (by simp [answer?])
  | @brokenOff limit f v hc hw =>
    rcases wait_error hw hus hua hl with ⟨-, hv⟩ | ⟨before, after, hsch, -⟩
    · -- the wait has no end, but everything planned has happened before
      rw [← hall, ← hv]
      rfl
    · obtain ⟨passed, hwaits, -⟩ := hu.keeps.2
      have hwait : before ++ .interrupt f :: after ∈ waits := by
        rw [show waits = _ from hwaits, hsch]
        exact List.mem_append_right passed List.mem_cons_self
      exact absurd (List.mem_append_right before List.mem_cons_self) (hi _ hwait f)

end

/-! ## Attempts without a third party -/

/-- Nobody asks the caller to leave: nobody has so far, and nobody does in a wait that is to come. -/
structure Undisturbed (w : BoundedWait τ κ) : Prop where
  request : w.attempt.cancelRequested = false
  coming : ∀ is ∈ w.schedule, .cancel ∉ is

section

variable {j : Job τ κ} {deadline : τ} {s : BoundedWait τ κ × Environment τ}

/-- Nothing but a request to leave asks the caller to leave. -/
theorem undergo_cancelRequested (j : Job τ κ) {i : Incident τ} (h : i ≠ .cancel)
    (s : BoundedWait τ κ × Environment τ) :
    ((undergo j i).runFrom s).2.1.attempt.cancelRequested = s.1.attempt.cancelRequested := by
  cases i with
  | thread | worker =>
    rw [undergo_run rfl, finish_settles]
    exact Attempt.cancelRequested_settle _ _
  | cancel => exact absurd rfl h
  | advance span => rfl
  | interrupt f => rfl

theorem Undisturbed.wait (h : Undisturbed s.1) (j : Job τ κ) (limit : Option τ) :
    Undisturbed ((wait j limit).runFrom s).2.1 := by
  cases hs : s.1.schedule with
  | nil =>
    rw [runFrom_wait_nil hs]
    cases limit <;> exact h
  | cons is rest =>
    rw [runFrom_wait_cons hs]
    have hcoming : ∀ is' ∈ is :: rest, .cancel ∉ is' := hs ▸ h.coming
    have hrequest := forM_undergo_rel (j := j)
      (R := fun s t => t.1.attempt.cancelRequested = s.1.attempt.cancelRequested)
      (fun _ => rfl) (fun _ _ _ h h' => h'.trans h)
      (fun i (hi : i ∈ is) s => undergo_cancelRequested j
        (fun hc => hcoming is List.mem_cons_self (hc ▸ hi)) s)
      ({ s.1 with schedule := rest }, s.2.note (.waited limit))
    refine ⟨hrequest.trans h.request, ?_⟩
    rw [(forM_undergo_keeps j is _).2]
    exact fun is' hi => hcoming is' (List.mem_cons_of_mem is hi)

theorem Undisturbed.checkpoint (h : Undisturbed s.1) (n : Nat) :
    Undisturbed (checkpoint j deadline s n).1 := by
  induction n with
  | zero => exact h
  | succ n ih => exact ih.wait j _

theorem cancelRequested_play (j : Job τ κ) {is : List (Incident τ)} (h : .cancel ∉ is)
    (s : BoundedWait τ κ × Environment τ) :
    (play j (is.map .incident) s).2.1.attempt.cancelRequested = s.1.attempt.cancelRequested := by
  induction is generalizing s with
  | nil => rfl
  | cons i is ih =>
    rw [List.mem_cons, not_or] at h
    exact (ih h.2 _).trans (undergo_cancelRequested j (Ne.symm h.1) s)

/-- A call that ends without a request to leave has an answer: the caller has taken what is stored,
or it has left at its deadline. -/
theorem Ended.answered {p : Except Failure (Option (Option κ)) × (BoundedWait τ κ × Environment τ)}
    (h : Ended deadline s p) (hs : s.1.attempt.cancelRequested = false) :
    ∃ o, answer? p.1 = some o ∧
      (p.2.1.attempt.stored.isSome ∨ p.2.1.attempt.state = .timedOut) := by
  cases h with
  | given h => exact ⟨_, rfl, .inl (by simp [h])⟩
  | raised h => exact ⟨_, rfl, .inl (by simp [h])⟩
  | wrapped h => exact ⟨_, rfl, .inl (by simp [h])⟩
  | cancelled _ hc => exact absurd (hs.symm.trans hc) Bool.false_ne_true
  | timedOut _ _ _ => exact ⟨_, rfl, .inr rfl⟩

end

/-- What happens in an attempt that only its caller and its worker have a hand in. -/
inductive Turn (τ : Type) where
  /-- The worker runs to its end, on its own thread. -/
  | worker
  | time (span : τ)

/-- A turn as what happens around a caller. -/
def Turn.incident : Turn τ → Incident τ
  | .worker => .thread
  | .time span => .advance span

/-- The course of an attempt: what happens before the caller asks for the outcome, during each of its
waits, and after its call, which is followed for a number of looks. A wait may be without any
turn. -/
structure Plan (τ : Type) where
  before : List (Turn τ) := []
  waits : List (List (Turn τ)) := []
  looks : Nat
  after : List (Turn τ) := []
  /-- The worker runs once. -/
  once : runs ((before ++ waits.flatten ++ after).map Turn.incident) = 1

namespace Plan

/-- The failure of a wait that nothing ends. -/
def endless : Failure := .ofForeign .wrongState "Nothing ends the wait."

/-- The state in which the caller asks for the outcome. -/
def asked (p : Plan τ) (j : Job τ κ) (start : Environment τ) : BoundedWait τ κ × Environment τ :=
  (play j ((p.before.map Turn.incident).map .incident) ({ endless }, start)).2

/-- The deadline of the call, from a time limit in milliseconds that counts from its beginning. -/
def deadline (p : Plan τ) (j : Job τ κ) (timeLimit : τ) (start : Environment τ) : τ :=
  Timeline.add (p.asked j start).2.now (Timeline.ofMilliseconds timeLimit)

/-- The state in which the call begins: the waits are to come. -/
def entered (p : Plan τ) (j : Job τ κ) (start : Environment τ) :
    BoundedWait τ κ × Environment τ :=
  ({ (p.asked j start).1 with schedule := p.waits.map (·.map Turn.incident) },
    (p.asked j start).2)

/-- The state at each check of the call that does not end before. -/
def checked (p : Plan τ) (j : Job τ κ) (timeLimit : τ) (start : Environment τ) (n : Nat) :
    BoundedWait τ κ × Environment τ :=
  checkpoint j (p.deadline j timeLimit start) (p.entered j start) n

/-- The call for the outcome: its answer if it has ended, and the state after it. -/
def call (p : Plan τ) (j : Job τ κ) (timeLimit : τ) (start : Environment τ) :
    Option (Except Failure (Option κ)) × (BoundedWait τ κ × Environment τ) :=
  move j (.call (p.deadline j timeLimit start) (p.waits.map (·.map Turn.incident)) p.looks)
    (p.asked j start)

/-- The state at the end of the attempt. What is planned for waits that the caller does not come to
happens after its call. -/
def final (p : Plan τ) (j : Job τ κ) (timeLimit : τ) (start : Environment τ) :
    BoundedWait τ κ × Environment τ :=
  let called := (p.call j timeLimit start).2
  (play j ((called.1.schedule.flatten ++ p.after.map Turn.incident).map .incident) called).2

section

variable {p : Plan τ} {j : Job τ κ} {timeLimit : τ} {env start : Environment τ}
variable {o : Except Failure (Option κ)}

omit [Timeline τ] in
/-- No wait of a plan is broken off. -/
theorem interrupt_not_mem (waits : List (List (Turn τ))) :
    ∀ is ∈ waits.map (·.map Turn.incident), ∀ f, .interrupt f ∉ is := by
  intro is his f hf
  obtain ⟨turns, -, rfl⟩ := List.mem_map.mp his
  obtain ⟨turn, -, hturn⟩ := List.mem_map.mp hf
  cases turn <;> exact absurd hturn (by simp [Turn.incident])

omit [Timeline τ] in
theorem not_brokenOffLate (waits : List (List (Turn τ))) (rest : List (List (Incident τ)))
    (f : Failure) : ¬ BrokenOffLate (waits.map (·.map Turn.incident)) rest f := by
  rintro ⟨passed, before, after, hwaits, -, -⟩
  refine interrupt_not_mem waits (before ++ .interrupt f :: after) ?_ f ?_
  · rw [hwaits]
    exact List.mem_append_right passed List.mem_cons_self
  · exact List.mem_append_right before List.mem_cons_self

theorem final_steps (p : Plan τ) (j : Job τ κ) (timeLimit : τ) (start : Environment τ) :
    Steps j (p.call j timeLimit start).2 (p.final j timeLimit start) :=
  play_steps j _ _

omit [Timeline τ] in
/-- No turn is a request to leave. -/
theorem cancel_not_mem (turns : List (Turn τ)) : .cancel ∉ turns.map Turn.incident := by
  intro h
  obtain ⟨turn, -, hturn⟩ := List.mem_map.mp h
  cases turn <;> exact absurd hturn (by simp [Turn.incident])

theorem entered_undisturbed (p : Plan τ) (j : Job τ κ) (start : Environment τ) :
    Undisturbed (p.entered j start).1 := by
  refine ⟨(cancelRequested_play j (cancel_not_mem p.before) ({ endless }, start)), ?_⟩
  intro is his
  obtain ⟨turns, -, rfl⟩ := List.mem_map.mp his
  exact cancel_not_mem turns

/-- **Enough looks bring an answer.** A call that is followed for more looks than checks pass ends at
the next check, with what is stored or at its deadline. -/
theorem answered {n : Nat}
    (passed : ∀ k < n, Passes j (p.deadline j timeLimit start) (p.checked j timeLimit start k))
    (hends : Ends (p.deadline j timeLimit start) (p.checked j timeLimit start n))
    (hlooks : n < p.looks) :
    ∃ o, (p.call j timeLimit start).1 = some o ∧
      ((p.call j timeLimit start).2.1.attempt.stored.isSome ∨
        (p.call j timeLimit start).2.1.attempt.state = .timedOut) := by
  have hsteps : Steps j ({ endless }, start) (p.entered j start) :=
    (play_steps j _ _).trans (Step.plan _ _).steps
  have hended := ended_await passed hends (hsteps.stored_not_lost (by simp)) hlooks
  exact hended.answered ((p.entered_undisturbed j start).checkpoint n).request

/-! ### The worker runs once -/

omit [Timeline τ] in
theorem runs_parts (p : Plan τ) :
    runs (p.before.map Turn.incident) + runs (p.waits.map (·.map Turn.incident)).flatten +
      runs (p.after.map Turn.incident) = 1 := by
  rw [← List.map_flatten, ← runs_append, ← runs_append, ← List.map_append, ← List.map_append]
  exact p.once

theorem length_worked_final (p : Plan τ) (j : Job τ κ) (timeLimit : τ) (start : Environment τ) :
    (p.final j timeLimit start).1.worked.length =
      runsInAll (p.call j timeLimit start).2.1 + runs (p.after.map Turn.incident) := by
  unfold final runsInAll
  rw [length_worked_play, runs_append, Nat.add_assoc]

theorem asked_spec (p : Plan τ) (j : Job τ κ) (start : Environment τ) :
    Sound (p.asked j start).1 ∧ (p.asked j start).1.attempt.abandoned = false ∧
      (p.asked j start).1.worked.length = runs (p.before.map Turn.incident) :=
  ⟨Sound.steps (s := ({ endless }, start)) (sound_new [] endless) (play_steps j _ _),
    (play_incidents j _ _).2, (length_worked_play j _ _).trans (Nat.zero_add _)⟩

/-- There is one run in the plan, so there is at most one in the attempt. -/
theorem length_worked_final_le (p : Plan τ) (j : Job τ κ) (timeLimit : τ) (start : Environment τ) :
    (p.final j timeLimit start).1.worked.length ≤ 1 := by
  obtain ⟨-, -, hbefore⟩ := p.asked_spec j start
  have hle := runsInAll_await_le j (p.deadline j timeLimit start) p.looks
    ({ (p.asked j start).1 with schedule := p.waits.map (·.map Turn.incident) },
      (p.asked j start).2)
  have hcall : runsInAll (p.call j timeLimit start).2.1 ≤
      runs (p.before.map Turn.incident) + runs (p.waits.map (·.map Turn.incident)).flatten := by
    rw [← hbefore]
    exact hle
  rw [length_worked_final, ← p.runs_parts]
  exact Nat.add_le_add_right hcall _

/-- What the worker has come to by the end of the call is what the job comes to when done at once. -/
theorem traced_call (hj : ObliviousJob j) (hsame : Same env start) :
    Traced j env (p.call j timeLimit start).2 := by
  have hle := (p.final_steps j timeLimit start).grows.worked.length_le
  have hsteps : Steps j ({ endless }, start) (p.call j timeLimit start).2 :=
    (play_steps j _ _).trans (move_steps j _ _)
  exact hsteps.traced hj (.idle rfl hsame)
    (Nat.le_trans hle (p.length_worked_final_le j timeLimit start))

theorem not_lost_call (hj : ObliviousJob j) (hsame : Same env start)
    (hlost : isLost (j.connect.runFrom env).1 = false) :
    ∀ r ∈ (p.call j timeLimit start).2.1.worked, isLost r.1 = false := by
  intro r hr
  -- whatever the worker has come to, the job comes to it when it is done at once
  cases traced_call hj hsame with
  | idle hworked =>
    rw [hworked] at hr
    exact absurd hr List.not_mem_nil
  | done fate hworked h =>
    rw [hworked, List.mem_singleton] at hr
    rw [hr]
    exact hlost

/-- Once the caller has its answer and the worker has come to its end, the worker has run. -/
theorem length_worked_final_of_answer (hj : ObliviousJob j) (hsame : Same env start)
    (hlost : isLost (j.connect.runFrom env).1 = false)
    (hcall : (p.call j timeLimit start).1 = some o) :
    (p.final j timeLimit start).1.worked.length = 1 := by
  have hl : ∀ r ∈ (p.call j timeLimit start).2.1.worked, isLost r.1 = false :=
    not_lost_call hj hsame hlost
  obtain ⟨hs, ha, hbefore⟩ := p.asked_spec j start
  have hall := runsInAll_call hs ha (Prod.ext hcall rfl) hl (interrupt_not_mem p.waits)
  rw [hbefore] at hall
  rw [length_worked_final, ← p.runs_parts]
  exact congrArg (· + runs (p.after.map Turn.incident)) hall

/-- So in the end the worker has done the job, with the outcome that it has when done at once. -/
theorem traced_final (hj : ObliviousJob j) (hsame : Same env start)
    (hlost : isLost (j.connect.runFrom env).1 = false)
    (hcall : (p.call j timeLimit start).1 = some o) :
    ∃ fate, (p.final j timeLimit start).1.worked = [((j.connect.runFrom env).1, fate)] ∧
      Same (afterJob j env fate) (p.final j timeLimit start).2 := by
  have hfinal := (p.final_steps j timeLimit start).traced hj (traced_call hj hsame)
    (p.length_worked_final_le j timeLimit start)
  cases hfinal with
  | idle hworked =>
    have honce := length_worked_final_of_answer hj hsame hlost hcall
    rw [hworked] at honce
    exact absurd honce (by simp)
  | done fate hworked h => exact ⟨fate, hworked, h⟩

/-! ### The two ends -/

theorem ending (hj : ObliviousJob j) (hsame : Same env start)
    (hlost : isLost (j.connect.runFrom env).1 = false)
    (hcall : (p.call j timeLimit start).1 = some o) :
    Sound (p.call j timeLimit start).2.1 ∧
      Ending (p.waits.map (·.map Turn.incident)) o (p.call j timeLimit start).2 := by
  obtain ⟨hs, ha, -⟩ := p.asked_spec j start
  exact ⟨hs.steps (move_steps j _ _),
    call_ending hs ha (Prod.ext hcall rfl) (not_lost_call hj hsame hlost)⟩

/-- **The outcome is stored in time.** Then the caller gets what it would have come to by doing the
job at once, and so does everybody else. -/
theorem taken (hj : ObliviousJob j) (hsame : Same env start)
    (hlost : isLost (j.connect.runFrom env).1 = false)
    (hcall : (p.call j timeLimit start).1 = some o)
    (hstored : (p.call j timeLimit start).2.1.attempt.stored.isSome) :
    o = delivered (j.connect.runFrom env).1 ∧
      (p.final j timeLimit start).1.worked = [((j.connect.runFrom env).1, .stored)] ∧
      Same (j.connect.runFrom env).2 (p.final j timeLimit start).2 := by
  obtain ⟨fate, hworked, hfinal⟩ := traced_final hj hsame hlost hcall
  have hsub := (p.final_steps j timeLimit start).grows.worked.subset
  obtain ⟨hsound, hend⟩ := ending hj hsame hlost hcall
  cases hend with
  | @taken _ r hs ha hb =>
    have hmem := hsub (hsound.mem_worked r hs)
    rw [hworked, List.mem_singleton] at hmem
    obtain ⟨rfl, rfl⟩ := Prod.mk.inj hmem
    exact ⟨rfl, hworked, hfinal⟩
  | left hw ha hb =>
    obtain ⟨r, hr⟩ := Option.isSome_iff_exists.mp hstored
    have hmem := hsound.mem_worked r hr
    rw [hw] at hmem
    exact absurd hmem List.not_mem_nil
  | missed hs ha hb => exact absurd hb (not_brokenOffLate _ _ _)

/-- **The deadline is seen first.** Then the caller learns that its time is over. The worker has yet
to run; it does the job as the caller would have done it at once, and discards the outcome. -/
theorem timedOut (hj : ObliviousJob j) (hsame : Same env start)
    (hlost : isLost (j.connect.runFrom env).1 = false)
    (hcall : (p.call j timeLimit start).1 = some o)
    (hstate : (p.call j timeLimit start).2.1.attempt.state = .timedOut) :
    o = .error (leavingFailure .timedOut) ∧
      (p.final j timeLimit start).1.worked = [((j.connect.runFrom env).1, .discarded)] ∧
      Same (afterJob j env .discarded) (p.final j timeLimit start).2 := by
  obtain ⟨fate, hworked, hfinal⟩ := traced_final hj hsame hlost hcall
  obtain ⟨hsound, hend⟩ := ending hj hsame hlost hcall
  have hleft : (p.call j timeLimit start).2.1.attempt.abandoned = true :=
    hsound.abandoned_iff.mpr (.inl hstate)
  obtain ⟨hs, ha, -⟩ := p.asked_spec j start
  refine ⟨answer_of_timedOut hs ha (Prod.ext hcall rfl) hstate, ?_⟩
  -- had the worker run before, its outcome would be stored, and the caller would have taken it
  have hnone : (p.call j timeLimit start).2.1.worked = [] := by
    cases hend with
    | taken hs ha hb => exact absurd (ha.symm.trans hleft) Bool.false_ne_true
    | left hw ha hb => exact hw
    | missed hs ha hb => exact absurd hb (not_brokenOffLate _ _ _)
  have hmem : ((j.connect.runFrom env).1, fate) ∈ (p.final j timeLimit start).1.worked := by
    rw [hworked]
    exact List.mem_cons_self
  obtain rfl : fate = .discarded :=
    (p.final_steps j timeLimit start).discarded_of_left hsound hleft hnone hmem hlost
  exact ⟨hworked, hfinal⟩

end

end Plan

end ClusterConnect.BoundedWait
