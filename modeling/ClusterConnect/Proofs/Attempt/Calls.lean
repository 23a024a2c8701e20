import ClusterConnect.Proofs.Attempt.Laws

/-!
# Runs of an attempt

A run of an attempt is any sequence of calls for its outcome and of things that happen between and
during these calls. A call is followed for a number of looks, and what happens during a wait may end
at any point, so whatever state an attempt passes through is the last state of some run. Calls that
overlap are followed one look at a time, in any order.

* `Move`, `play`: the moves of a run, and the run itself with the answers of its calls.
* `closings`: the connections that the worker closes; `Steps.counts`: whoever counts the closing of
  connections counts these.
* `Lasting`: the waits that a caller goes through; `await_ended`: the look that ends a call.
* `Ending`: the three ways in which a call ends; `call_ending`: there is no other.
-/

namespace ClusterConnect.BoundedWait

variable {τ κ : Type}

/-- The answer of a call for the outcome, `none` if the caller still waits. -/
def answer? {α : Type} : Except Failure (Option α) → Option (Except Failure α)
  | .ok none => none
  | .ok (some c) => some (.ok c)
  | .error f => some (.error f)

/-- One move of a run. -/
inductive Move (τ : Type) where
  /-- Something happens while nobody waits. -/
  | incident (i : Incident τ)
  /-- A caller with the given deadline asks for the outcome (`runFrom_result` says how a time limit
  sets the deadline). `waits` says what happens during its waits; the call is followed for `looks`
  looks. -/
  | call (deadline : τ) (waits : List (List (Incident τ))) (looks : Nat)
  /-- The wait of one of several callers is broken off. -/
  | breakOff (f : Failure)

/-- The connection that the worker closes after one of its runs, if it closes one. -/
def closing? : Except Failure (Option κ) × Fate → Option κ
  | (.ok (some c), .discarded) => some c
  | _ => none

/-- The connections that the worker closes. -/
def closings (w : BoundedWait τ κ) : List κ := w.worked.filterMap closing?

theorem closing?_eq_some_iff {p : Except Failure (Option κ) × Fate} {c : κ} :
    closing? p = some c ↔ p = (.ok (some c), .discarded) := by
  unfold closing?
  split
  · simp
  · next h =>
    constructor
    · intro hc
      exact absurd hc (by simp)
    · intro hp
      exact absurd hp (h c)

theorem closing?_of_ne {r : Except Failure (Option κ)} {fate : Fate} (h : fate ≠ .discarded) :
    closing? (r, fate) = none := by
  apply Option.eq_none_iff_forall_ne_some.mpr
  intro c hc
  exact h (Prod.mk.inj (closing?_eq_some_iff.mp hc)).2

theorem mem_closings_iff {w : BoundedWait τ κ} {c : κ} :
    c ∈ closings w ↔ (.ok (some c), .discarded) ∈ w.worked := by
  simp [closings, List.mem_filterMap, closing?_eq_some_iff]

theorem closings_settle (w : BoundedWait τ κ) (r : Except Failure (Option κ)) :
    closings (w.settle r) = closings w ++ (closing? (r, w.attempt.fate r)).toList := by
  unfold closings BoundedWait.settle
  rw [List.filterMap_append]
  cases h : closing? (r, w.attempt.fate r) <;> simp [h]

theorem length_closings_le (w : BoundedWait τ κ) : (closings w).length ≤ w.worked.length :=
  List.length_filterMap_le _ _

variable [Timeline τ]

/-- Makes a move: the answer of a call that has ended, and the state after the move. -/
def move (j : Job τ κ) (m : Move τ) (s : BoundedWait τ κ × Environment τ) :
    Option (Except Failure (Option κ)) × (BoundedWait τ κ × Environment τ) :=
  match m with
  | .incident i => (none, ((undergo j i).runFrom s).2)
  | .call deadline waits looks =>
    let r := (await j deadline looks).runFrom ({ s.1 with schedule := waits }, s.2)
    (answer? r.1, r.2)
  | .breakOff f =>
    (some (.error f), ({ s.1 with attempt := s.1.attempt.abandon .cancelled }, s.2))

/-- Makes the moves of a run: the answers of the calls that have ended, and the state at the end. -/
def play (j : Job τ κ) :
    List (Move τ) → BoundedWait τ κ × Environment τ →
      List (Except Failure (Option κ)) × (BoundedWait τ κ × Environment τ)
  | [], s => ([], s)
  | m :: ms, s =>
    let rest := play j ms (move j m s).2
    ((move j m s).1.toList ++ rest.1, rest.2)

variable {j : Job τ κ} {deadline : τ} {s t : BoundedWait τ κ × Environment τ}

theorem play_append (j : Job τ κ) (ms ns : List (Move τ)) (s : BoundedWait τ κ × Environment τ) :
    play j (ms ++ ns) s =
      ((play j ms s).1 ++ (play j ns (play j ms s).2).1, (play j ns (play j ms s).2).2) := by
  induction ms generalizing s with
  | nil => rfl
  | cons m ms ih => simp only [List.cons_append, play, ih, List.append_assoc]

/-- What happens while nobody waits gives no answer and makes nobody leave. -/
theorem play_incidents (j : Job τ κ) (is : List (Incident τ))
    (s : BoundedWait τ κ × Environment τ) :
    (play j (is.map .incident) s).1 = [] ∧
      (play j (is.map .incident) s).2.1.attempt.abandoned = s.1.attempt.abandoned := by
  induction is generalizing s with
  | nil => exact ⟨rfl, rfl⟩
  | cons i is ih =>
    obtain ⟨ha, hk⟩ := ih ((undergo j i).runFrom s).2
    exact ⟨ha, hk.trans (undergo_keeps j i s).1⟩

theorem move_steps (j : Job τ κ) (m : Move τ) (s : BoundedWait τ κ × Environment τ) :
    Steps j s (move j m s).2 := by
  cases m with
  | incident i => exact undergo_steps j i s
  | call deadline waits looks =>
    have ha := await_steps j deadline looks ({ s.1 with schedule := waits }, s.2)
    exact (Step.plan s waits).steps.trans ha
  | breakOff f => exact (Step.leave s (.inr rfl)).steps

/-- A run is a sequence of changes. -/
theorem play_steps (j : Job τ κ) (ms : List (Move τ)) (s : BoundedWait τ κ × Environment τ) :
    Steps j s (play j ms s).2 := by
  induction ms generalizing s with
  | nil => exact .refl
  | cons m ms ih => exact (move_steps j m s).trans (ih _)

/-! ## Whoever counts closings -/

/-- A count of the times that a job has closed a connection. -/
structure CountsClosing (j : Job τ κ) (n : Environment τ → Nat) : Prop where
  connect : ∀ env, n (j.connect.runFrom env).2 = n env
  close : ∀ c env, n ((j.close c).runFrom env).2 = n env + 1
  note : ∀ env limit, n (env.note (.waited limit)) = n env
  elapse : ∀ env span, n (env.elapse span) = n env

/-- To discard an outcome is to close its connection, once. -/
theorem CountsClosing.discard {n : Environment τ → Nat} (h : CountsClosing j n)
    (r : Except Failure (Option κ)) (env : Environment τ) :
    n ((j.discard r).runFrom env).2 = n env + (closing? (r, .discarded)).toList.length := by
  match r with
  | .ok (some c) =>
    rw [runFrom_discard, h.close]
    rfl
  | .ok none => rfl
  | .error f => rfl

theorem Step.counts {n : Environment τ → Nat} (h : CountsClosing j n) (hs : Step j s t) :
    n t.2 + (closings s.1).length = n s.2 + (closings t.1).length := by
  cases hs with
  | worker =>
    rw [finish_settles, closings_settle, List.length_append, runFrom_finish]
    cases s.1.attempt.fate (j.connect.runFrom s.2).1 with
    | stored => simp [h.connect, closing?_of_ne]
    | discarded =>
      simp only [h.discard, h.connect]
      omega
    | fatal => simp [h.connect, closing?_of_ne]
  | cancel => rfl
  | leave hl => rfl
  | wait limit => rw [h.note]
  | plan waits => rfl
  | elapse span => rw [h.elapse]

/-- **The closings are all there are.** However the closing of connections is counted, a run adds to
the count what it adds to the closings. -/
theorem Steps.counts {n : Environment τ → Nat} (h : CountsClosing j n) (hs : Steps j s t) :
    n t.2 + (closings s.1).length = n s.2 + (closings t.1).length := by
  induction hs with
  | refl => rfl
  | tail _ hs ih =>
    have := hs.counts h
    omega

/-! ## The look that ends a call -/

/-- The caller looks, waits and looks again, any number of times. -/
inductive Lasting (j : Job τ κ) (deadline : τ) :
    BoundedWait τ κ × Environment τ → BoundedWait τ κ × Environment τ → Prop where
  | refl (s : BoundedWait τ κ × Environment τ) : Lasting j deadline s s
  | again {s t u : BoundedWait τ κ × Environment τ} {limit : Option τ}
      (h : (wait j limit).runFrom s = (.ok (), t)) (ht : Lasting j deadline t u) :
      Lasting j deadline s u

theorem Lasting.steps (h : Lasting j deadline s t) : Steps j s t := by
  induction h with
  | refl s => exact .refl
  | @again s t u limit h ht ih =>
    have hs := wait_steps j limit s
    rw [h] at hs
    exact hs.trans ih

/-- A caller that waits on has not left, and no wait that it has gone through holds an
interruption. -/
theorem Lasting.keeps (h : Lasting j deadline s t) :
    t.1.attempt.abandoned = s.1.attempt.abandoned ∧
      ∃ passed, s.1.schedule = passed ++ t.1.schedule ∧ ∀ is ∈ passed, ∀ f, .interrupt f ∉ is := by
  induction h with
  | refl s => exact ⟨rfl, [], rfl, fun is hi => absurd hi List.not_mem_nil⟩
  | @again s t u limit h ht ih =>
    have ha := wait_keeps j limit s
    rw [h] at ha
    obtain ⟨passed, hp, hn⟩ := wait_ok h
    obtain ⟨ha', passed', hp', hn'⟩ := ih
    refine ⟨ha'.trans ha, passed ++ passed', by rw [hp, hp', List.append_assoc], ?_⟩
    intro is hi
    rcases List.mem_append.mp hi with hi | hi
    · exact hn is hi
    · exact hn' is hi

/-- A call that has ended has ended with its last look. -/
theorem await_ended {looks : Nat} {o : Except Failure (Option κ)}
    (h : answer? ((await j deadline looks).runFrom s).1 = some o) :
    ∃ t, Lasting j deadline s t ∧
      (look j deadline).runFrom t = (await j deadline looks).runFrom s := by
  induction looks generalizing s with
  | zero => exact absurd h (by simp [await, answer?])
  | succ looks ih =>
    rw [await] at h ⊢
    rcases hl : (look j deadline).runFrom s with ⟨f | c, u⟩
    · rw [Act.runFrom_bind_of_error hl]
      exact ⟨s, .refl s, hl⟩
    · rw [Act.runFrom_bind_of_ok hl] at h ⊢
      cases c with
      | some c => exact ⟨s, .refl s, hl⟩
      | none =>
        obtain ⟨limit, hw⟩ := look_again hl
        obtain ⟨t, ht, hlast⟩ := ih h
        exact ⟨t, .again hw ht, hlast⟩

/-- A time limit sets the deadline of a call at its beginning. -/
theorem runFrom_result (j : Job τ κ) (timeLimit : τ) (looks : Nat)
    (s : BoundedWait τ κ × Environment τ) :
    (result j timeLimit looks).runFrom s =
      (await j (Timeline.add s.2.now (Timeline.ofMilliseconds timeLimit)) looks).runFrom s := rfl

/-- What a call gives has been stored by the worker. -/
theorem mem_worked_of_move {m : Move τ} {c : Option κ} (hs : Sound s.1)
    (h : (move j m s).1 = some (.ok c)) : (.ok c, .stored) ∈ (move j m s).2.1.worked := by
  cases m with
  | incident i => exact absurd h (by simp [move])
  | breakOff f => exact absurd h (by simp [move])
  | call deadline waits looks =>
    obtain ⟨u, hu, hlast⟩ := await_ended h
    have hus := Sound.steps (s := s) hs ((Step.plan s waits).steps.trans hu.steps)
    have hul := looked j deadline u
    simp only [move] at h ⊢
    rw [← hlast] at h ⊢
    generalize (look j deadline).runFrom u = p at h hul ⊢
    cases hul with
    | @take r hc =>
      cases r with
      | error f => exact absurd h (by simp [Except.map, answer?])
      | ok c' =>
        obtain rfl : c' = c := by simpa [Except.map, answer?] using h
        exact hus.mem_worked _ (Attempt.check_eq_take_iff.mp hc)
    | leave hc => exact absurd h (by simp [answer?])
    | again hc hw => exact absurd h (by simp [answer?])
    | brokenOff hc hw => exact absurd h (by simp [answer?])

theorem mem_worked_of_play {ms : List (Move τ)} {c : Option κ} (hs : Sound s.1)
    (h : .ok c ∈ (play j ms s).1) : (.ok c, .stored) ∈ (play j ms s).2.1.worked := by
  induction ms generalizing s with
  | nil => exact absurd h List.not_mem_nil
  | cons m ms ih =>
    rcases List.mem_append.mp h with h | h
    · have hm := mem_worked_of_move hs (Option.mem_toList.mp h)
      exact (play_steps j ms _).grows.worked.subset hm
    · exact ih (hs.steps (move_steps j m s)) h

/-! ## How a call ends -/

omit [Timeline τ] in
/-- **A wait that is broken off too late**: among the waits of a call, of which `rest` are left, there
is one in which the worker runs and then an interruption comes. -/
def BrokenOffLate (waits rest : List (List (Incident τ))) (f : Failure) : Prop :=
  ∃ passed before after, waits = passed ++ (before ++ .interrupt f :: after) :: rest ∧
    0 < runs before ∧ ∀ g, .interrupt g ∉ before

omit [Timeline τ] in
theorem not_brokenOffLate {passed rest : List (List (Incident τ))}
    (h : ∀ is ∈ passed, ∀ f, .interrupt f ∉ is) (f : Failure) :
    ¬ BrokenOffLate (passed ++ rest) rest f := by
  rintro ⟨passed', before, after, hw, -, -⟩
  rw [List.append_cons] at hw
  -- The broken wait would be the last of those that have passed.
  have hp := List.append_cancel_right hw
  exact h (before ++ .interrupt f :: after) (by simp [hp]) f (by simp)

omit [Timeline τ] in
/-- A wait is broken off at its first interruption. -/
theorem runs_pos_of_brokenOffLate {passed rest : List (List (Incident τ))}
    {before after : List (Incident τ)} {f g : Failure}
    (hb : BrokenOffLate (passed ++ (before ++ .interrupt f :: after) :: rest) rest g) :
    0 < runs before := by
  obtain ⟨passed', before', after', hw, hm, hn⟩ := hb
  rw [List.append_cons, List.append_cons passed'] at hw
  obtain ⟨-, hl⟩ := List.append_inj' (List.append_cancel_right hw) rfl
  -- The two ways to cut the wait at an interruption: one beginning continues the other.
  rcases List.append_eq_append_iff.mp (List.cons.inj hl).1 with ⟨is, rfl, hi⟩ | ⟨is, rfl, -⟩
  · cases is with
    | nil => rwa [List.append_nil] at hm
    | cons i is =>
      rw [List.cons_append, List.cons.injEq] at hi
      exact absurd (List.mem_append_right _ (by simp [hi.1])) (hn f)
  · rw [runs_append]
    exact Nat.add_pos_left hm _

/-- How a call for the outcome ends. -/
inductive Ending (waits : List (List (Incident τ))) :
    Except Failure (Option κ) → BoundedWait τ κ × Environment τ → Prop where
  /-- The caller takes what is stored. -/
  | taken {t : BoundedWait τ κ × Environment τ} {r : Except Failure (Option κ)}
      (hs : t.1.attempt.stored = some r) (ha : t.1.attempt.abandoned = false)
      (hb : ∀ f, ¬ BrokenOffLate waits t.1.schedule f) : Ending waits (delivered r) t
  /-- The caller leaves before the worker has run. -/
  | left {t : BoundedWait τ κ × Environment τ} {f : Failure}
      (hw : t.1.worked = []) (ha : t.1.attempt.abandoned = true)
      (hb : ∀ f, ¬ BrokenOffLate waits t.1.schedule f) : Ending waits (.error f) t
  /-- The caller leaves although the outcome is stored. -/
  | missed {t : BoundedWait τ κ × Environment τ} {f : Failure}
      (hs : t.1.attempt.stored.isSome) (ha : t.1.attempt.abandoned = true)
      (hb : BrokenOffLate waits t.1.schedule f) : Ending waits (.error f) t

/-- **Every call ends in one of three ways**, unless the worker is lost. -/
theorem call_ending {waits : List (List (Incident τ))} {looks : Nat}
    {o : Except Failure (Option κ)} (hs : Sound s.1) (ha : s.1.attempt.abandoned = false)
    (h : move j (.call deadline waits looks) s = (some o, t))
    (hl : ∀ p ∈ t.1.worked, isLost p.1 = false) : Ending waits o t := by
  obtain ⟨ho, ht⟩ := Prod.mk.inj h
  obtain ⟨u, hu, hlast⟩ := await_ended ho
  obtain ⟨hua, passed, hp, hn⟩ := hu.keeps
  replace hua : u.1.attempt.abandoned = false := hua.trans ha
  change waits = _ at hp
  have hus := Sound.steps (s := s) hs ((Step.plan s waits).steps.trans hu.steps)
  have hul := looked j deadline u
  rw [← hlast] at ho ht
  generalize (look j deadline).runFrom u = p at ho ht hul
  subst hp
  -- By what the last look has come to. `u` is the state before it.
  cases hul with
  | @take r hc =>
    obtain rfl : delivered r = o := by
      cases hr : delivered r <;> simpa [hr, Except.map, answer?] using ho
    exact ht ▸ .taken (Attempt.check_eq_take_iff.mp hc) hua (not_brokenOffLate hn)
  | leave hc =>
    obtain rfl : .error _ = o := by simpa [answer?] using ho
    subst ht
    exact .left (hus.worked_eq_nil hua hl (Attempt.check_eq_leave_iff.mp hc).1) rfl
      (not_brokenOffLate hn)
  | again hc hw => exact absurd ho (by simp [answer?])
  | @brokenOff limit f v hc hw =>
    obtain rfl : .error f = o := by simpa [answer?] using ho
    subst ht
    have hstored := (Attempt.check_eq_wait_iff.mp hc).1
    have hvs := hus.steps (wait_steps j limit u)
    have hva := wait_keeps j limit u
    rw [hw] at hvs hva
    replace hva : v.1.attempt.abandoned = false := hva.trans hua
    rcases wait_error hw hus hua hl with ⟨hnil, hv⟩ | ⟨before, after, hsch, hi, hm, hn'⟩
    · exact .left (hvs.worked_eq_nil hva hl (hv ▸ hstored)) rfl (hv ▸ not_brokenOffLate hn)
    · rw [hsch]
      rcases Nat.eq_zero_or_pos (runs before) with hw | hw
      · exact .left (hvs.worked_eq_nil hva hl ((hn' hw).trans hstored)) rfl
          fun g hb => absurd hw (Nat.pos_iff_ne_zero.mp (runs_pos_of_brokenOffLate hb))
      · exact .missed (hm hw) rfl ⟨passed, before, after, rfl, hw, hi⟩

end ClusterConnect.BoundedWait
