import ClusterConnect.Attempt
import Mathlib.Logic.Relation

/-!
# What the parties to a bounded attempt do to it

A worker, a caller and whoever cancels share one attempt. Whatever they do, the attempt goes through
a few kinds of change. This module says once which ones they are, so that a law of the attempt is
shown for each change and then holds along every run.

* `Step`, `Steps`: one change, and any number of them.
* `runs`: how often the worker runs among given incidents, on its own thread or in a rehearsal.
* `Looked`: the four things that a look of the caller can come to.
* `undergo_steps`, `wait_steps`, `look_steps`, `await_steps`: the parties make no other change.
-/

namespace ClusterConnect.BoundedWait

variable {τ κ : Type} [Timeline τ]

/-! ## Changes -/

/-- One change of an attempt in progress and of what is around it. -/
inductive Step (j : Job τ κ) :
    BoundedWait τ κ × Environment τ → BoundedWait τ κ × Environment τ → Prop where
  /-- The worker runs. -/
  | worker (s : BoundedWait τ κ × Environment τ) : Step j s ((finish j).runFrom s).2
  /-- The caller is asked to leave. -/
  | cancel (s : BoundedWait τ κ × Environment τ) :
      Step j s ({ s.1 with attempt := s.1.attempt.cancel }, s.2)
  /-- The caller leaves. -/
  | leave (s : BoundedWait τ κ × Environment τ) {state : AttemptState}
      (h : state = .timedOut ∨ state = .cancelled) :
      Step j s ({ s.1 with attempt := s.1.attempt.abandon state }, s.2)
  /-- A wait begins. -/
  | wait (s : BoundedWait τ κ × Environment τ) (limit : Option τ) :
      Step j s (s.1, s.2.note (.waited limit))
  /-- Other waits are to come. -/
  | plan (s : BoundedWait τ κ × Environment τ) (waits : List (List (Incident τ))) :
      Step j s ({ s.1 with schedule := waits }, s.2)
  /-- Time passes. -/
  | elapse (s : BoundedWait τ κ × Environment τ) (span : Option τ) :
      Step j s (s.1, s.2.elapse span)

/-- Any number of changes. -/
abbrev Steps (j : Job τ κ) :
    BoundedWait τ κ × Environment τ → BoundedWait τ κ × Environment τ → Prop :=
  Relation.ReflTransGen (Step j)

variable {j : Job τ κ} {deadline : τ} {limit : Option τ}
variable {s t : BoundedWait τ κ × Environment τ}

theorem Step.steps (h : Step j s t) : Steps j s t := .single h

/-! ## The worker -/

omit [Timeline τ] in
/-- To discard a connection is to close it. A failure to do so gets no further, unless it ends the
program. -/
theorem runFrom_discard (j : Job τ κ) (c : κ) (env : Environment τ) :
    (j.discard (.ok (some c))).runFrom env =
      (match ((j.close c).runFrom env).1 with
        | .ok () => .ok ()
        | .error f => if f.endsProgram then .error f else .ok (),
        ((j.close c).runFrom env).2) := by
  unfold Job.discard
  dsimp only
  rw [Act.runFrom_bind_of_ok (Act.runFrom_outcome _ env)]
  cases ((j.close c).runFrom env).1 with
  | ok u => rfl
  | error f =>
    dsimp only
    split <;> rfl

omit [Timeline τ] in
/-- **The worker's part**, for each of the three things that can become of its outcome. -/
theorem runFrom_finish (j : Job τ κ) (s : BoundedWait τ κ × Environment τ) :
    (finish j).runFrom s =
      match s.1.attempt.fate (j.connect.runFrom s.2).1 with
      | .stored => (.ok (), (s.1.settle (j.connect.runFrom s.2).1, (j.connect.runFrom s.2).2))
      | .discarded =>
        (((j.discard (j.connect.runFrom s.2).1).runFrom (j.connect.runFrom s.2).2).1,
          (s.1.settle (j.connect.runFrom s.2).1,
            ((j.discard (j.connect.runFrom s.2).1).runFrom (j.connect.runFrom s.2).2).2))
      | .fatal =>
        ((j.connect.runFrom s.2).1.map fun _ => (),
          (s.1.settle (j.connect.runFrom s.2).1, (j.connect.runFrom s.2).2)) := by
  simp only [finish, Act.runFrom_bind, Act.runFrom_onSecond, Act.runFrom_outcome, Act.runFrom_get,
    Act.runFrom_modify]
  cases s.1.attempt.fate (j.connect.runFrom s.2).1 <;> rfl

omit [Timeline τ] in
theorem finish_settles (j : Job τ κ) (s : BoundedWait τ κ × Environment τ) :
    ((finish j).runFrom s).2.1 = s.1.settle (j.connect.runFrom s.2).1 := by
  rw [runFrom_finish]
  cases s.1.attempt.fate (j.connect.runFrom s.2).1 <;> rfl

/-- **A worker on its own thread.** Whatever becomes of the worker, the caller's wait goes on. -/
theorem runFrom_thread (j : Job τ κ) (s : BoundedWait τ κ × Environment τ) :
    (undergo j .thread).runFrom s = (.ok (), ((finish j).runFrom s).2) := by
  show ((fun _ => ()) <$> (finish j).outcome).runFrom s = _
  rw [Act.runFrom_map, Act.runFrom_outcome]
  rfl

/-! ## The caller -/

omit [Timeline τ] in
/-- Whether the worker runs, on its own thread or in a rehearsal. -/
def isRun : Incident τ → Bool
  | .thread | .worker => true
  | _ => false

/-- How often the worker runs. -/
def runs (is : List (Incident τ)) : Nat := is.countP isRun

omit [Timeline τ] in
theorem runs_append (is is' : List (Incident τ)) : runs (is ++ is') = runs is + runs is' :=
  List.countP_append

omit [Timeline τ] in
theorem runs_cons (i : Incident τ) (is : List (Incident τ)) : runs (i :: is) = runs [i] + runs is :=
  runs_append [i] is

omit [Timeline τ] in
theorem runs_eq_zero_iff {is : List (Incident τ)} : runs is = 0 ↔ ∀ i ∈ is, isRun i = false := by
  simp [runs, List.countP_eq_zero]

/-- The worker does the same on whichever thread it runs. -/
theorem undergo_run {i : Incident τ} (h : isRun i = true) (s : BoundedWait τ κ × Environment τ) :
    ((undergo j i).runFrom s).2 = ((finish j).runFrom s).2 := by
  cases i with
  | thread => rw [runFrom_thread]
  | worker => rfl
  | cancel | advance | interrupt => exact absurd h (by simp [isRun])

theorem undergo_steps (j : Job τ κ) (i : Incident τ) (s : BoundedWait τ κ × Environment τ) :
    Steps j s ((undergo j i).runFrom s).2 := by
  cases i with
  | thread | worker =>
    rw [undergo_run rfl]
    exact (Step.worker s).steps
  | cancel => exact (Step.cancel s).steps
  | advance span => exact (Step.elapse s (some span)).steps
  | interrupt f => exact .refl

/-- What holds between the states around each incident holds between those around all of them. -/
theorem forM_undergo_rel {R : BoundedWait τ κ × Environment τ → BoundedWait τ κ × Environment τ → Prop}
    (refl : ∀ s, R s s) (trans : ∀ s t u, R s t → R t u → R s u) {is : List (Incident τ)}
    (h : ∀ i ∈ is, ∀ s, R s ((undergo j i).runFrom s).2) (s : BoundedWait τ κ × Environment τ) :
    R s ((is.forM (undergo j)).runFrom s).2 := by
  induction is generalizing s with
  | nil => exact refl s
  | cons i is ih =>
    have hi := h i List.mem_cons_self s
    rcases hu : (undergo j i).runFrom s with ⟨_ | u, t⟩
    · rw [Act.runFrom_forM_cons_of_error hu]
      rw [hu] at hi
      exact hi
    · rw [Act.runFrom_forM_cons_of_ok hu]
      rw [hu] at hi
      exact trans s t _ hi (ih (fun i hi s => h i (List.mem_cons_of_mem _ hi) s) t)

theorem forM_undergo_steps (j : Job τ κ) (is : List (Incident τ))
    (s : BoundedWait τ κ × Environment τ) : Steps j s ((is.forM (undergo j)).runFrom s).2 :=
  forM_undergo_rel (fun _ => .refl) (fun _ _ _ => .trans) (fun i _ s => undergo_steps j i s) s

/-- Nothing that happens around a caller makes it leave, or changes which waits are to come. -/
theorem undergo_keeps (j : Job τ κ) (i : Incident τ) (s : BoundedWait τ κ × Environment τ) :
    ((undergo j i).runFrom s).2.1.attempt.abandoned = s.1.attempt.abandoned ∧
      ((undergo j i).runFrom s).2.1.schedule = s.1.schedule := by
  cases i with
  | thread | worker =>
    rw [undergo_run rfl, finish_settles]
    exact ⟨Attempt.abandoned_settle _ _, rfl⟩
  | cancel => exact ⟨rfl, rfl⟩
  | advance span => exact ⟨rfl, rfl⟩
  | interrupt f => exact ⟨rfl, rfl⟩

theorem forM_undergo_keeps (j : Job τ κ) (is : List (Incident τ))
    (s : BoundedWait τ κ × Environment τ) :
    ((is.forM (undergo j)).runFrom s).2.1.attempt.abandoned = s.1.attempt.abandoned ∧
      ((is.forM (undergo j)).runFrom s).2.1.schedule = s.1.schedule :=
  forM_undergo_rel
    (R := fun s t => t.1.attempt.abandoned = s.1.attempt.abandoned ∧ t.1.schedule = s.1.schedule)
    (fun _ => ⟨rfl, rfl⟩) (fun _ _ _ h h' => ⟨h'.1.trans h.1, h'.2.trans h.2⟩)
    (fun i _ s => undergo_keeps j i s) s

/-- Only the worker stores outcomes. -/
theorem forM_undergo_stored {is : List (Incident τ)} (h : runs is = 0)
    (s : BoundedWait τ κ × Environment τ) :
    ((is.forM (undergo j)).runFrom s).2.1.attempt.stored = s.1.attempt.stored := by
  refine forM_undergo_rel (R := fun s t => t.1.attempt.stored = s.1.attempt.stored) (fun _ => rfl)
    (fun _ _ _ h h' => h'.trans h) (fun i hi s => ?_) s
  have hrun := runs_eq_zero_iff.mp h i hi
  cases i with
  | thread | worker => exact absurd hrun (by simp [isRun])
  | cancel => rfl
  | advance span => rfl
  | interrupt f => rfl

/-- What breaks off a wait is an interruption, or a rehearsed worker that has nothing to store. -/
theorem undergo_error {i : Incident τ} {f : Failure}
    (h : (undergo j i).runFrom s = (.error f, t)) :
    i = .interrupt f ∧ t = s ∨
      i = .worker ∧ s.1.attempt.fate (j.connect.runFrom s.2).1 ≠ .stored := by
  cases i with
  | thread =>
    rw [runFrom_thread] at h
    exact absurd (congrArg Prod.fst h) (by simp)
  | worker =>
    refine .inr ⟨rfl, fun hf => ?_⟩
    have hr : (undergo j .worker).runFrom s = _ := runFrom_finish j s
    rw [hr, hf] at h
    exact absurd (congrArg Prod.fst h) (by simp)
  | cancel => exact absurd (congrArg Prod.fst h) (by simp [undergo, change])
  | advance span => exact absurd (congrArg Prod.fst h) (by simp [undergo, pass])
  | interrupt g =>
    obtain ⟨hg, rfl⟩ := Prod.mk.inj h
    exact .inl ⟨by rw [Except.error.inj hg], rfl⟩

/-- The incident that breaks off a wait comes after others that do not. -/
theorem forM_undergo_error {is : List (Incident τ)} {f : Failure}
    (h : (is.forM (undergo j)).runFrom s = (.error f, t)) :
    ∃ before i after u, is = before ++ i :: after ∧
      (before.forM (undergo j)).runFrom s = (.ok (), u) ∧
      (undergo j i).runFrom u = (.error f, t) := by
  induction is generalizing s with
  | nil => exact absurd (congrArg Prod.fst h) (by simp)
  | cons i is ih =>
    rcases hu : (undergo j i).runFrom s with ⟨g | ⟨⟩, v⟩
    · rw [Act.runFrom_forM_cons_of_error hu] at h
      exact ⟨[], i, is, s, rfl, rfl, hu.trans h⟩
    · rw [Act.runFrom_forM_cons_of_ok hu] at h
      obtain ⟨before, i', after, u, rfl, hb, hi⟩ := ih h
      exact ⟨i :: before, i', after, u, rfl, (Act.runFrom_forM_cons_of_ok hu before).trans hb, hi⟩

/-- A wait that is not broken off holds no interruption. -/
theorem interrupt_not_mem {is : List (Incident τ)}
    (h : (is.forM (undergo j)).runFrom s = (.ok (), t)) (f : Failure) : .interrupt f ∉ is := by
  induction is generalizing s with
  | nil => exact List.not_mem_nil
  | cons i is ih =>
    rcases hu : (undergo j i).runFrom s with ⟨g | ⟨⟩, v⟩
    · rw [Act.runFrom_forM_cons_of_error hu] at h
      exact absurd (congrArg Prod.fst h) (by simp)
    · rw [Act.runFrom_forM_cons_of_ok hu] at h
      rw [List.mem_cons, not_or]
      refine ⟨fun hi => ?_, ih h⟩
      subst hi
      exact absurd (congrArg Prod.fst hu) (by simp [undergo])

/-- A scheduled wait is what the schedule says. -/
theorem runFrom_wait_cons {is : List (Incident τ)} {rest : List (List (Incident τ))}
    (h : s.1.schedule = is :: rest) :
    (wait j limit).runFrom s =
      (is.forM (undergo j)).runFrom
        ({ s.1 with schedule := rest }, s.2.note (.waited limit)) := by
  obtain ⟨w, env⟩ := s
  simp only at h
  simp only [wait, record, Act.runFrom_bind, Act.runFrom_onSecond, Act.runFrom_modify,
    Act.runFrom_get, h, Act.runFrom_set]

/-- Beyond the schedule only time passes during a wait. -/
theorem runFrom_wait_nil (h : s.1.schedule = []) :
    (wait j limit).runFrom s =
      match limit with
      | some t => (.ok (), (s.1, (s.2.note (.waited limit)).elapse (some t)))
      | none => (.error s.1.endless, (s.1, s.2.note (.waited limit))) := by
  obtain ⟨w, env⟩ := s
  simp only at h
  simp only [wait, record, Act.runFrom_bind, Act.runFrom_onSecond, Act.runFrom_modify,
    Act.runFrom_get, h]
  cases limit <;> rfl

theorem wait_steps (j : Job τ κ) (limit : Option τ) (s : BoundedWait τ κ × Environment τ) :
    Steps j s ((wait j limit).runFrom s).2 := by
  have hw := (Step.wait (j := j) s limit).steps
  cases h : s.1.schedule with
  | nil =>
    rw [runFrom_wait_nil h]
    cases limit with
    | none => exact hw
    | some t => exact hw.tail (.elapse _ (some t))
  | cons is rest =>
    rw [runFrom_wait_cons h]
    exact (hw.tail (.plan _ rest)).trans (forM_undergo_steps j is _)

/-- What a look of the caller comes to. -/
inductive Looked (j : Job τ κ) (deadline : τ) (s : BoundedWait τ κ × Environment τ) :
    Except Failure (Option (Option κ)) × (BoundedWait τ κ × Environment τ) → Prop where
  /-- The caller takes what is stored. -/
  | take {r : Except Failure (Option κ)}
      (h : s.1.attempt.check (Timeline.sub deadline s.2.now) = .take r) :
      Looked j deadline s ((delivered r).map some, s)
  /-- The caller leaves. -/
  | leave {state : AttemptState}
      (h : s.1.attempt.check (Timeline.sub deadline s.2.now) = .leave state) :
      Looked j deadline s (.error (leavingFailure state),
        ({ s.1 with attempt := s.1.attempt.abandon state }, s.2))
  /-- The caller has waited and will look again. -/
  | again {limit : Option τ} {t : BoundedWait τ κ × Environment τ}
      (h : s.1.attempt.check (Timeline.sub deadline s.2.now) = .wait limit)
      (hw : (wait j limit).runFrom s = (.ok (), t)) : Looked j deadline s (.ok none, t)
  /-- The wait is broken off. -/
  | brokenOff {limit : Option τ} {f : Failure} {t : BoundedWait τ κ × Environment τ}
      (h : s.1.attempt.check (Timeline.sub deadline s.2.now) = .wait limit)
      (hw : (wait j limit).runFrom s = (.error f, t)) :
      Looked j deadline s (.error f, ({ t.1 with attempt := t.1.attempt.abandon .cancelled }, t.2))

/-- Every look comes to one of the four. -/
theorem looked (j : Job τ κ) (deadline : τ) (s : BoundedWait τ κ × Environment τ) :
    Looked j deadline s ((look j deadline).runFrom s) := by
  cases h : s.1.attempt.check (Timeline.sub deadline s.2.now) with
  | take r =>
    have hl : (look j deadline).runFrom s = ((delivered r).map some, s) := by
      simp only [look, Act.runFrom_bind, Act.runFrom_get, h, Act.runFrom_map, Act.runFrom_give]
    rw [hl]
    exact .take h
  | leave state =>
    have hl : (look j deadline).runFrom s = (.error (leavingFailure state),
        ({ s.1 with attempt := s.1.attempt.abandon state }, s.2)) := by
      simp only [look, change, Act.runFrom_bind, Act.runFrom_get, h, Act.runFrom_modify,
        Act.runFrom_throw]
    rw [hl]
    exact .leave h
  | wait limit =>
    rcases hw : (wait j limit).runFrom s with ⟨f | u, t⟩
    · have hl : (look j deadline).runFrom s = (.error f,
          ({ t.1 with attempt := t.1.attempt.abandon .cancelled }, t.2)) := by
        simp only [look, change, Act.runFrom_bind, Act.runFrom_get, h, Act.runFrom_outcome, hw,
          Act.runFrom_modify, Act.runFrom_throw]
      rw [hl]
      exact .brokenOff h hw
    · have hl : (look j deadline).runFrom s = (.ok none, t) := by
        simp only [look, Act.runFrom_bind, Act.runFrom_get, h, Act.runFrom_outcome, hw,
          Act.runFrom_pure]
      rw [hl]
      exact .again h hw

/-- A caller that looks again has waited. -/
theorem look_again (h : (look j deadline).runFrom s = (.ok none, t)) :
    ∃ limit, (wait j limit).runFrom s = (.ok (), t) := by
  have hl := looked j deadline s
  generalize (look j deadline).runFrom s = p at h hl
  cases hl with
  | @take r hc =>
    cases hr : delivered r <;> exact absurd (congrArg Prod.fst h) (by simp [hr, Except.map])
  | leave hc => exact absurd (congrArg Prod.fst h) (by simp)
  | @again limit u hc hw =>
    rw [← (Prod.mk.inj h).2]
    exact ⟨limit, hw⟩
  | brokenOff hc hw => exact absurd (congrArg Prod.fst h) (by simp)

theorem look_steps (j : Job τ κ) (deadline : τ) (s : BoundedWait τ κ × Environment τ) :
    Steps j s ((look j deadline).runFrom s).2 := by
  have hl := looked j deadline s
  generalize (look j deadline).runFrom s = p at hl ⊢
  cases hl with
  | take h => exact .refl
  | leave h =>
    obtain ⟨-, ⟨-, hs⟩ | ⟨-, -, hs⟩⟩ := Attempt.check_eq_leave_iff.mp h
    · exact (Step.leave s (.inr hs)).steps
    · exact (Step.leave s (.inl hs)).steps
  | @again limit t h hw =>
    have hs := wait_steps j limit s
    rw [hw] at hs
    exact hs
  | @brokenOff limit f t h hw =>
    have hs := wait_steps j limit s
    rw [hw] at hs
    exact hs.tail (.leave t (.inr rfl))

theorem await_steps (j : Job τ κ) (deadline : τ) (looks : Nat)
    (s : BoundedWait τ κ × Environment τ) :
    Steps j s ((await j deadline looks).runFrom s).2 := by
  induction looks generalizing s with
  | zero => exact .refl
  | succ looks ih =>
    have hl := look_steps j deadline s
    rw [await, Act.runFrom_bind]
    rcases h : (look j deadline).runFrom s with ⟨f | c, t⟩
    · rw [h] at hl
      exact hl
    · rw [h] at hl
      cases c with
      | some c => exact hl
      | none => exact hl.trans (ih t)

end ClusterConnect.BoundedWait
