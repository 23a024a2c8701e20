import ClusterConnect.Proofs.Failover.Custody

/-!
# A failover handle loses no link

What an application can do with a failover handle, in any order and however often, and what holds
after it.

* `InCustody`: the link of a handle is in custody, and a closed handle holds nothing. The operations
  of a handle keep it (`inCustody_call`, `inCustody_close`, `inCustody_isClosed`).
* `Operation`, `play`: a run of operations.
* `links_of_run`: the account of the links after any run.
-/

namespace ClusterConnect

variable {τ : Type}

/-- A handle of the driver's own manager with its link in custody. Once it is closed it holds
nothing. -/
structure InCustody (start : Environment τ) (s : FailoverHandle τ × Environment τ) : Prop where
  supervised : ∃ m, s.1.supervisor = .manager m
  custody : Custody start s.1.current s.2
  closed : s.1.closed = true → held (start.since s.2) = []

section

variable [Timeline τ] {start env : Environment τ} {s : FailoverHandle τ × Environment τ}

theorem calm_sendOver (link : Option LinkId) (q : Statement) :
    IsCalm (τ := τ) (sendOver link q) := by
  cases link with
  | some id => exact calm_send id q
  | none => exact Act.within_throw _

omit [Timeline τ] in
theorem calm_isCurrentClosed (link : Option LinkId) :
    IsCalm (τ := τ) (isCurrentClosed link) := by
  cases link with
  | some id => exact calm_isLinkClosed id
  | none => exact Act.within_throw _

omit [Timeline τ] in
theorem InCustody.calmly (h : InCustody start s) (hopen : s.1.closed = false)
    (hcalm : Calmly s.2 env) : InCustody start (s.1, env) := by
  refine ⟨h.supervised, h.custody.calmly hcalm, ?_⟩
  intro hclosed
  exact absurd (hopen.symm.trans hclosed) Bool.false_ne_true

namespace FailoverHandle

/-- A new handle has its link in custody. If there is none to be had, nothing is held. -/
theorem inCustody_connect_of_vacant {before : Environment τ} {current : Option LinkId}
    (m : Manager τ) (hvacant : Vacant start current before) :
    match (FailoverHandle.connect (.manager m)).runFrom before with
    | (.ok h, env) =>
      InCustody start (h, env) ∧ h.closed = false ∧ h.supervisor = .manager m
    | (.error _, env) => Vacant start current env := by
  have hconnect := m.replaced_connect hvacant
  have hsup : (Supervisor.manager m).connect = m.connect := rfl
  unfold FailoverHandle.connect
  rw [Act.runFrom_bind, hsup]
  generalize m.connect.runFrom before = answer at hconnect ⊢
  rcases answer with ⟨f | link, env⟩
  · exact hconnect
  · refine ⟨⟨⟨m, rfl⟩, hconnect, ?_⟩, rfl, rfl⟩
    intro hclosed
    exact absurd hclosed Bool.false_ne_true

theorem inCustody_connect {m : Manager τ} {h : FailoverHandle τ}
    (hrun : (FailoverHandle.connect (.manager m)).runFrom start = (.ok h, env)) :
    InCustody start (h, env) ∧ h.closed = false := by
  have hnew := inCustody_connect_of_vacant m (vacant_start start)
  rw [hrun] at hnew
  exact ⟨hnew.1, hnew.2.1⟩

/-- A closed handle refuses every statement and leaves everything as it is. -/
theorem runFrom_call_of_closed (hclosed : s.1.closed = true) (q : Statement) :
    (call q).runFrom s = (.error (.driver (.connectionClosed q.query)), s) := by
  unfold call
  rw [Act.runFrom_bind_of_ok (Act.runFrom_get s)]
  simp only [hclosed, if_true]
  rfl

theorem runFrom_close_of_closed (hclosed : s.1.closed = true) :
    close.runFrom s = (.ok (), s) := by
  unfold close
  rw [Act.runFrom_bind_of_ok (Act.runFrom_get s)]
  simp only [hclosed, if_true]
  rfl

omit [Timeline τ] in
theorem runFrom_isClosed_of_closed (hclosed : s.1.closed = true) :
    isClosed.runFrom s = (.ok true, s) := by
  unfold isClosed
  rw [Act.runFrom_bind_of_ok (Act.runFrom_get s)]
  simp only [hclosed, if_true]
  rfl

/-- Closing an open handle marks it first, whatever comes of closing the link. -/
theorem runFrom_close_of_open (hopen : s.1.closed = false) :
    close.runFrom s =
      (((closeCurrent s.1.current).runFrom s.2).1,
        ({ s.1 with closed := true }, ((closeCurrent s.1.current).runFrom s.2).2)) := by
  unfold close
  rw [Act.runFrom_bind_of_ok (Act.runFrom_get s)]
  simp only [hopen, Bool.false_eq_true, if_false]
  rfl

/-- The whole course of a statement on an open handle. -/
theorem runFrom_call_of_open (hopen : s.1.closed = false) (q : Statement) :
    (call q).runFrom s =
      let r := (sendOver s.1.current q).runFrom s.2
      match r.1 with
      | .ok v => (.ok v, (s.1, r.2))
      | .error f =>
        if f.isKind .connectionFailed && s.1.supervisor.isEnabled then
          let t := (failover f).runFrom (s.1, r.2)
          (t.1.bind fun _ => .error (failoverSucceeded f), t.2)
        else (.error f, (s.1, r.2)) := by
  unfold call
  rw [Act.runFrom_bind_of_ok (Act.runFrom_get s)]
  simp only [hopen, Bool.false_eq_true, if_false]
  rw [Act.runFrom_bind_of_ok (Act.runFrom_outcome _ s), Act.runFrom_onSecond]
  rcases (sendOver s.1.current q).runFrom s.2 with ⟨f | v, env⟩
  · dsimp only
    split
    · rw [Act.runFrom_bind]
      rcases (failover f).runFrom (s.1, env) with ⟨g | u, t⟩ <;> rfl
    · rfl
  · rfl

theorem inCustody_close (h : InCustody start s) :
    InCustody start (close.runFrom s).2 ∧ (close.runFrom s).2.1.closed = true := by
  cases hclosed : s.1.closed with
  | true =>
    rw [runFrom_close_of_closed hclosed]
    exact ⟨h, hclosed⟩
  | false =>
    have hvacant := h.custody.closeCurrent
    rw [runFrom_close_of_open hclosed]
    exact ⟨⟨h.supervised, hvacant.toCustody, fun _ => hvacant.nothingHeld⟩, rfl⟩

/-- A replacement that fails leaves the old link in use, closed. -/
theorem inCustody_failover (h : InCustody start s) (hopen : s.1.closed = false) (cause : Failure) :
    InCustody start ((failover cause).runFrom s).2 ∧
      ((failover cause).runFrom s).2.1.closed = false := by
  obtain ⟨m, hm⟩ := h.supervised
  have hreplaced := m.replaced_replace cause h.custody
  have hsup : s.1.supervisor.replace s.1.current cause = m.replace s.1.current cause := by
    rw [hm]
    rfl
  unfold failover
  rw [Act.runFrom_bind_of_ok (Act.runFrom_get s), Act.runFrom_bind, Act.runFrom_onSecond, hsup]
  generalize (m.replace s.1.current cause).runFrom s.2 = answer at hreplaced ⊢
  have hnot : ∀ es : List (Event τ), s.1.closed = true → held es = [] := by
    intro es hclosed
    rw [hopen] at hclosed
    exact absurd hclosed Bool.false_ne_true
  rcases answer with ⟨f | link, env'⟩
  · exact ⟨⟨⟨m, hm⟩, hreplaced.toCustody, hnot _⟩, hopen⟩
  · exact ⟨⟨⟨m, hm⟩, hreplaced, hnot _⟩, hopen⟩

/-- The statement is sent, and if the link turns out to be lost, it is replaced. -/
theorem inCustody_call (h : InCustody start s) (q : Statement) :
    InCustody start ((call q).runFrom s).2 := by
  cases hclosed : s.1.closed with
  | true =>
    rw [runFrom_call_of_closed hclosed]
    exact h
  | false =>
    have hsent := h.calmly hclosed (calm_sendOver s.1.current q s.2)
    rw [runFrom_call_of_open hclosed]
    generalize (sendOver s.1.current q).runFrom s.2 = answer at hsent ⊢
    rcases answer with ⟨f | v, env'⟩
    · dsimp only
      split
      · exact (inCustody_failover hsent hclosed f).1
      · exact hsent
    · exact hsent

omit [Timeline τ] in
theorem inCustody_isClosed (h : InCustody start s) :
    InCustody start (isClosed.runFrom s).2 := by
  cases hclosed : s.1.closed with
  | true =>
    rw [runFrom_isClosed_of_closed hclosed]
    exact h
  | false =>
    unfold isClosed
    rw [Act.runFrom_bind_of_ok (Act.runFrom_get s)]
    simp only [hclosed, Bool.false_eq_true, if_false]
    exact h.calmly hclosed (calm_isCurrentClosed s.1.current s.2)

end FailoverHandle

/-! ## Runs -/

/-- What an application does with a handle. -/
inductive Operation where
  | call (s : Statement)
  | close
  | isClosed
  /-- The end of a with-block, whether what was done in it succeeded or not. -/
  | leave

namespace Operation

/-- Whether an operation closes the handle. -/
def closes : Operation → Bool
  | .close | .leave => true
  | _ => false

/-- An operation as an action. The application may go on whatever comes of it. -/
def perform : Operation → Handling τ Unit
  | .call s => (fun _ => ()) <$> FailoverHandle.call s
  | .close => FailoverHandle.close
  | .isClosed => (fun _ => ()) <$> FailoverHandle.isClosed
  | .leave => FailoverHandle.close

theorem inCustody_perform (op : Operation) (h : InCustody start s) :
    InCustody start (op.perform.runFrom s).2 := by
  cases op with
  | call q =>
    rw [perform, Act.runFrom_map]
    exact FailoverHandle.inCustody_call h q
  | close => exact (FailoverHandle.inCustody_close h).1
  | isClosed =>
    rw [perform, Act.runFrom_map]
    exact FailoverHandle.inCustody_isClosed h
  | leave => exact (FailoverHandle.inCustody_close h).1

/-- Nothing happens to a closed handle any more. -/
theorem perform_of_closed (op : Operation) (hclosed : s.1.closed = true) :
    (op.perform.runFrom s).2 = s := by
  cases op with
  | call q => rw [perform, Act.runFrom_map, FailoverHandle.runFrom_call_of_closed hclosed]
  | close => rw [perform, FailoverHandle.runFrom_close_of_closed hclosed]
  | isClosed => rw [perform, Act.runFrom_map, FailoverHandle.runFrom_isClosed_of_closed hclosed]
  | leave => rw [perform, FailoverHandle.runFrom_close_of_closed hclosed]

end Operation

namespace FailoverHandle

/-- A run of operations. -/
def play (ops : List Operation) (s : FailoverHandle τ × Environment τ) :
    FailoverHandle τ × Environment τ :=
  ops.foldl (fun s op => (op.perform.runFrom s).2) s

theorem inCustody_play (ops : List Operation) (h : InCustody start s) :
    InCustody start (play ops s) := by
  induction ops generalizing s with
  | nil => exact h
  | cons op ops ih => exact ih (op.inCustody_perform h)

theorem play_of_closed (ops : List Operation) (hclosed : s.1.closed = true) : play ops s = s := by
  induction ops with
  | nil => rfl
  | cons op ops ih =>
    show play ops (op.perform.runFrom s).2 = s
    rw [op.perform_of_closed hclosed]
    exact ih

/-- A handle that has been closed in the course of a run is closed at the end. -/
theorem closed_play {ops : List Operation} {op : Operation} (h : InCustody start s)
    (hmem : op ∈ ops) (hop : op.closes = true) : (play ops s).1.closed = true := by
  induction ops generalizing s with
  | nil => exact absurd hmem List.not_mem_nil
  | cons first ops ih =>
    show (play ops (first.perform.runFrom s).2).1.closed = true
    rcases List.mem_cons.mp hmem with rfl | hmem
    · have hclosed : (op.perform.runFrom s).2.1.closed = true := by
        cases op with
        | close | leave => exact (FailoverHandle.inCustody_close h).2
        | call q => exact absurd hop Bool.false_ne_true
        | isClosed => exact absurd hop Bool.false_ne_true
      rw [play_of_closed ops hclosed]
      exact hclosed
    · exact ih (first.inCustody_perform h) hmem

/-- **No link is lost.** After any run of operations on a handle the links handed over since its
beginning are all different, and the last of them is in use, unless a connector has declined to give
one. Each of them was asked for just before it came, and whenever one was asked for, all earlier
ones had been closed. If the run closes the handle, the last one has been closed as well; from then
on the handle says that it is closed, refuses every statement, and nothing happens any more. -/
theorem links_of_run {m : Manager τ} {h : FailoverHandle τ}
    (hconnect : (FailoverHandle.connect (.manager m)).runFrom start = (.ok h, env))
    (ops : List Operation) :
    let s := play ops (h, env)
    let trace := start.since s.2
    s.2.events = start.events ++ trace ∧
    (opened trace).Pairwise (· < ·) ∧
    (s.1.current = (opened trace).getLast? ∨
      s.1.current = none ∧ ∃ o ∈ start.openings, o.result = .nothing) ∧
    (∀ front ask back, trace = front ++ ask :: back → ask.asks = true → held front = []) ∧
    (∀ front id back, trace = front ++ .opened id :: back →
      ∃ before ask, front = before ++ [ask] ∧ ask.asks = true) ∧
    (∀ op ∈ ops, op.closes = true →
      held trace = [] ∧
      ∀ later, play later s = s ∧ isClosed.runFrom (play later s) = (.ok true, s) ∧
        ∀ q, (call q).runFrom (play later s) =
          (.error (.driver (.connectionClosed q.query)), s)) := by
  intro s trace
  have hin : InCustody start s := inCustody_play ops (inCustody_connect hconnect).1
  have hevents : s.2.events = start.events ++ trace :=
    (List.prefix_iff_eq_append.mp hin.custody.begun).symm
  refine ⟨hevents, hin.custody.orderly.ascending, hin.custody.latest, ?_, ?_, ?_⟩
  · intro front ask back htrace hask
    have hfront : front ++ [ask] <+: trace := ⟨back, by rw [htrace, List.append_assoc]; rfl⟩
    exact hin.custody.orderly.held_eq_nil hfront hask
  · intro front id back htrace
    have hfront : front ++ [.opened id] <+: trace :=
      ⟨back, by rw [htrace, List.append_assoc]; rfl⟩
    exact hin.custody.orderly.asked hfront
  · -- a closed handle stays as it is, so what holds of it now holds after whatever comes later
    intro op hmem hop
    have hclosed : s.1.closed = true := closed_play (inCustody_connect hconnect).1 hmem hop
    refine ⟨hin.closed hclosed, ?_⟩
    intro later
    rw [play_of_closed later hclosed]
    exact ⟨rfl, runFrom_isClosed_of_closed hclosed, runFrom_call_of_closed hclosed⟩

/-- A link is lost and resists closing. The endpoint refuses once and then gives another link, which the
next statement uses. Closing the handle closes that one, too. -/
theorem links_of_run_replaced :
    let lost : Failure := .driver (.ofKind .connectionFailed "gone")
    let m : Manager Int :=
      ⟨⟨"db", 5432, none⟩, .empty, "postgresql:aws://db/", .custom, Timeline.second⟩
    let resisting : Session Int :=
      { replies := [{ response := .failed lost }],
        closing := { failure := some (.ofForeign .wrongState "") } }
    let start : Environment Int :=
      { now := 0,
        openings := [{ result := .opened resisting }, { result := .failed lost },
          { result := .opened {} }] }
    let q : Statement := ⟨.execute, .null, [], .null⟩
    ∃ h env, (FailoverHandle.connect (.manager m)).runFrom start = (.ok h, env) ∧
      let s := play [.call q, .call q, .leave] (h, env)
      let trace := start.since s.2
      opened trace = [0, 1] ∧ s.1.current = some 1 ∧ held trace = [] ∧
        ∀ front ask back, trace = front ++ ask :: back → ask.asks = true → held front = [] := by
  intro lost m resisting start q
  -- Two links are counted by running this one; the theorem says what follows from that.
  have htwo : ∃ h env, (FailoverHandle.connect (.manager m)).runFrom start = (.ok h, env) ∧
      opened (start.since (play [.call q, .call q, .leave] (h, env)).2) = [0, 1] :=
    ⟨_, _, rfl, by decide +kernel⟩
  obtain ⟨h, env, hconnect, hopened⟩ := htwo
  obtain ⟨-, -, hcurrent, horderly, -, hclosed⟩ :=
    links_of_run hconnect [.call q, .call q, .leave]
  refine ⟨h, env, hconnect, hopened, ?_, (hclosed .leave (by simp) rfl).1, horderly⟩
  rcases hcurrent with hcurrent | ⟨-, o, ho, hnothing⟩
  · rw [hopened] at hcurrent
    exact hcurrent
  · -- each opening gives a session or fails, so no connector has declined
    simp only [start, List.mem_cons, List.not_mem_nil, or_false] at ho
    rcases ho with rfl | rfl | rfl <;> cases hnothing

end FailoverHandle

end

end ClusterConnect
