import ClusterConnect.Proofs.Attempt.Calls

/-!
# What becomes of a connection

Whoever makes an attempt wants its connection to end up in one place: with a caller that got it, or
closed by the worker because nobody is left to take it.

* `never_delivers_and_closes`: it never ends up in both, whatever the parties do in whatever order.
* `settled_iff_not_brokenOffLate`: with one call for the outcome it ends up in one of them unless the
  call is broken off in a wait in which the worker has already stored the connection. The caller
  does not look again then: the connection stays open, and nobody has it.
-/

namespace ClusterConnect.BoundedWait

variable {τ κ : Type} [Timeline τ]

/-! ## A job to follow -/

/-- A job that has the connection `7` at once and notes its closing. -/
def promptJob : Job Int LinkId where
  connect := pure (some 7)
  close c := record (.closed c)

/-- How often a link has been closed. -/
def closedCount (env : Environment Int) : Nat :=
  env.events.countP fun e => match e with
    | .closed _ => true
    | _ => false

theorem countsClosing_promptJob : CountsClosing promptJob closedCount where
  connect _ := rfl
  close c env := by simp [promptJob, record, Environment.note, closedCount]
  note env limit := by simp [Environment.note, closedCount]
  elapse env span := by cases span <;> rfl

/-- What nobody expects to end a wait. -/
def interruption : Failure := .ofForeign .userInterrupt ""

/-! ## Never in both places -/

/-- **An attempt does not both deliver and close.** Take any run of a new attempt in which the worker
runs at most once: calls with any deadlines, also several and overlapping ones, requests to leave,
passing time and interruptions, in any order. The worker closes at most one connection, at most
once. If it closes one then no call of the run gives one. The flags of the attempt agree with its
state at the end of the run, and no continuation of the run clears them. -/
theorem never_delivers_and_closes {j : Job τ κ} {env : Environment τ} {endless : Failure}
    {moves : List (Move τ)} {answers : List (Except Failure (Option κ))}
    {final : BoundedWait τ κ × Environment τ}
    (run : play j moves ({ endless }, env) = (answers, final))
    (once : final.1.worked.length ≤ 1) :
    (closings final.1).length ≤ 1 ∧
      (∀ n, CountsClosing j n → n final.2 = n env + (closings final.1).length) ∧
      (∀ c c', .ok (some c) ∈ answers → c' ∉ closings final.1) ∧
      (final.1.attempt.abandoned = true ↔
        final.1.attempt.state = .timedOut ∨ final.1.attempt.state = .cancelled) ∧
      (final.1.attempt.state = .pending ↔
        final.1.attempt.stored = none ∧ final.1.attempt.abandoned = false) ∧
      ∀ more,
        (final.1.attempt.stored.isSome → (play j more final).2.1.attempt.stored.isSome) ∧
        (final.1.attempt.abandoned = true → (play j more final).2.1.attempt.abandoned = true) := by
  have hnew : Sound ({ endless } : BoundedWait τ κ) := sound_new [] endless
  have hsteps := play_steps j moves ({ endless }, env)
  rw [run] at hsteps
  have hsound := Sound.steps (s := ({ endless }, env)) hnew hsteps
  refine ⟨Nat.le_trans (length_closings_le _) once, ?_, ?_, hsound.abandoned_iff,
    hsound.pending_iff, ?_⟩
  · intro n hn
    have hcount := hsteps.counts hn
    simpa [closings] using hcount
  · -- A connection that is given has been stored, one that is closed has been discarded; but the
    -- worker has run once, and its outcome has one fate only.
    intro c c' hc hc'
    have hc : .ok (some c) ∈ (play j moves ({ endless }, env)).1 := by
      rw [run]
      exact hc
    have hstored := mem_worked_of_play hnew hc
    rw [run] at hstored
    have hclosed := mem_closings_iff.mp hc'
    have hpos := List.length_pos_of_mem hclosed
    obtain ⟨p, hp⟩ := List.length_eq_one_iff.mp (Nat.le_antisymm once hpos)
    rw [hp, List.mem_singleton] at hstored hclosed
    exact absurd (Prod.mk.inj (hstored.trans hclosed.symm)).2 (by simp)
  · intro more
    have hmore := (play_steps j more final).grows
    exact ⟨hmore.stored, hmore.abandoned⟩

/-- The caller is asked to leave, the worker closes its connection, and a second call leaves too. -/
theorem closes_after_cancel :
    let moves := [.call 100 [[.cancel]] 5, .incident .thread, .call 200 [] 5]
    let run := play promptJob moves ({ endless := interruption }, { now := 0 })
    run.1 = [.error (leavingFailure .cancelled), .error (leavingFailure .cancelled)] ∧
      closings run.2.1 = [7] ∧ closedCount run.2.2 = 1 ∧ run.2.1.attempt.abandoned = true := by
  intro moves run
  have hrun : play promptJob moves ({ endless := interruption }, { now := 0 }) =
      (run.1, run.2) := rfl
  have h := never_delivers_and_closes hrun (by decide)
  exact ⟨rfl, rfl, h.2.1 closedCount countsClosing_promptJob, h.2.2.2.1.mpr (.inr rfl)⟩

/-! ## One call for the outcome -/

/-- **One call for the outcome of a new attempt**, after what happens before it. -/
def oneCall (j : Job τ κ) (endless : Failure) (env : Environment τ) (before : List (Incident τ))
    (deadline : τ) (waits : List (List (Incident τ))) (looks : Nat) :
    List (Except Failure (Option κ)) × (BoundedWait τ κ × Environment τ) :=
  play j (before.map .incident ++ [.call deadline waits looks]) ({ endless }, env)

/-- A call that has ended has done so in one of the three ways. -/
theorem oneCall_ending {j : Job τ κ} {endless : Failure} {env : Environment τ}
    {before : List (Incident τ)} {deadline : τ} {waits : List (List (Incident τ))} {looks : Nat}
    {o : Except Failure (Option κ)} {mid : BoundedWait τ κ × Environment τ}
    (call : oneCall j endless env before deadline waits looks = ([o], mid))
    (hl : ∀ p ∈ mid.1.worked, isLost p.1 = false) : Sound mid.1 ∧ Ending waits o mid := by
  obtain ⟨hnone, hkeep⟩ := play_incidents j before ({ endless }, env)
  have hu := Sound.steps (s := ({ endless }, env)) (sound_new [] endless)
    (play_steps j (before.map .incident) ({ endless }, env))
  rw [oneCall, play_append, hnone, List.nil_append] at call
  generalize (play j (before.map .incident) ({ endless }, env)).2 = u at call hu hkeep
  obtain ⟨ho, hm⟩ := Prod.mk.inj call
  have hmove : move j (.call deadline waits looks) u = (some o, mid) := by
    refine Prod.ext ?_ hm
    simp only [play, List.append_nil] at ho
    cases hr : (move j (.call deadline waits looks) u).1 with
    | none => exact absurd ho (by simp [hr])
    | some o' => simpa [hr] using ho
  refine ⟨?_, call_ending hu hkeep hmove hl⟩
  rw [← hm]
  exact hu.steps (move_steps j _ u)

/-- Whoever counts closings counts those of the whole run, from the new attempt on. -/
theorem counts_of_oneCall {j : Job τ κ} {endless : Failure} {env : Environment τ}
    {before after : List (Incident τ)} {deadline : τ} {waits : List (List (Incident τ))}
    {looks : Nat} {answers : List (Except Failure (Option κ))}
    {mid final : BoundedWait τ κ × Environment τ}
    (call : oneCall j endless env before deadline waits looks = (answers, mid))
    (rest : (play j (after.map .incident) mid).2 = final) {n : Environment τ → Nat}
    (hn : CountsClosing j n) : n final.2 = n env + (closings final.1).length := by
  have hbegun := play_steps j (before.map .incident ++ [.call deadline waits looks])
    ({ endless }, env)
  rw [← oneCall, call] at hbegun
  have hrest := play_steps j (after.map .incident) mid
  rw [rest] at hrest
  have hsteps : Steps j ({ endless }, env) final := hbegun.trans hrest
  simpa [closings] using hsteps.counts hn

/-- **Where the outcome of the worker goes.** There is one call for the outcome of an attempt; the
worker runs once, before, during or after the call, and comes to the outcome `r`. Then the outcome
is either stored and taken by the caller, or discarded after the caller has left, exactly if no wait
of the call is broken off after the worker has run in it. In particular a connection is either
given by the call or closed by the worker exactly then; closed means that one more closing is
counted, however closings are counted. An outcome is never stored after the caller has left. -/
theorem settled_iff_not_brokenOffLate {j : Job τ κ} {endless : Failure} {env : Environment τ}
    {before after : List (Incident τ)} {deadline : τ} {waits : List (List (Incident τ))}
    {looks : Nat} {o r : Except Failure (Option κ)} {fate : Fate}
    {mid final : BoundedWait τ κ × Environment τ}
    (call : oneCall j endless env before deadline waits looks = ([o], mid))
    (rest : (play j (after.map .incident) mid).2 = final)
    (once : final.1.worked = [(r, fate)]) (outcome : isLost r = false) :
    (fate = .stored ∧ mid.1.attempt.abandoned = false ∧ o = delivered r ∨
        fate = .discarded ∧ mid.1.worked = [] ∧ (∃ f, o = .error f) ↔
      ∀ f, ¬ BrokenOffLate waits mid.1.schedule f) ∧
    (∀ c, r = .ok (some c) → (o = .ok (some c) ∨ c ∈ closings final.1 ↔
      ∀ f, ¬ BrokenOffLate waits mid.1.schedule f)) ∧
    (∀ n, CountsClosing j n → n final.2 = n env + (closings final.1).length) ∧
    (mid.1.worked = [] → fate ≠ .stored) := by
  have hcount : ∀ n, CountsClosing j n → n final.2 = n env + (closings final.1).length :=
    fun n hn => counts_of_oneCall call rest hn
  have hsteps := play_steps j (after.map .incident) mid
  rw [rest] at hsteps
  have hsub : mid.1.worked ⊆ [(r, fate)] := by
    rw [← once]
    exact hsteps.grows.worked.subset
  have hl : ∀ p ∈ mid.1.worked, isLost p.1 = false := by
    intro p hp
    rw [List.mem_singleton.mp (hsub hp)]
    exact outcome
  have hclosings : ∀ c, c ∈ closings final.1 ↔ r = .ok (some c) ∧ fate = .discarded := by
    intro c
    rw [mem_closings_iff, once, List.mem_singleton, Prod.mk.injEq]
    exact and_congr eq_comm eq_comm
  obtain ⟨hs, he⟩ := oneCall_ending call hl
  cases he with
  | @taken _ r' hst ha hb =>
    have hm := hs.mem_worked r' hst
    obtain ⟨rfl, rfl⟩ := Prod.mk.inj (List.mem_singleton.mp (hsub hm))
    refine ⟨iff_of_true (.inl ⟨rfl, ha, rfl⟩) hb, ?_, hcount, ?_⟩
    · intro c hc
      refine iff_of_true (.inl ?_) hb
      rw [hc, delivered_ok]
    · intro hw
      exact absurd hm (by simp [hw])
  | @left _ f hw ha hb =>
    have hm : (r, fate) ∈ final.1.worked := by simp [once]
    have hd : fate = .discarded := hsteps.discarded_of_left hs ha hw hm outcome
    refine ⟨iff_of_true (.inr ⟨hd, hw, f, rfl⟩) hb, ?_, hcount, ?_⟩
    · intro c hc
      exact iff_of_true (.inr ((hclosings c).mpr ⟨hc, hd⟩)) hb
    · intro _
      simp [hd]
  | @missed _ f hst ha hb =>
    -- The outcome is stored, yet the call ends with the interruption.
    have hnot : ¬ ∀ f, ¬ BrokenOffLate waits mid.1.schedule f := fun h => h f hb
    obtain ⟨r', hr'⟩ := Option.isSome_iff_exists.mp hst
    have hm := hs.mem_worked r' hr'
    obtain ⟨rfl, rfl⟩ := Prod.mk.inj (List.mem_singleton.mp (hsub hm))
    refine ⟨iff_of_false ?_ hnot, ?_, hcount, ?_⟩
    · simp [ha]
    · intro c hc
      refine iff_of_false ?_ hnot
      simp [hclosings]
    · intro hw
      exact absurd hm (by simp [hw])

/-- A caller that is asked to leave leaves its connection to the worker, which closes it once. -/
theorem settled_after_cancel :
    let call := oneCall promptJob interruption { now := 0 } [] 100 [[.cancel]] 5
    let final := (play promptJob [.incident .thread] call.2).2
    call.1 = [.error (leavingFailure .cancelled)] ∧
      final.1.worked = [(.ok (some 7), .discarded)] ∧ 7 ∈ closings final.1 ∧
      closedCount final.2 = 1 := by
  intro call final
  have hcall : oneCall promptJob interruption { now := 0 } [] 100 [[.cancel]] 5 =
      ([.error (leavingFailure .cancelled)], call.2) := rfl
  have hrest : (play promptJob ([.thread].map .incident) call.2).2 = final := rfl
  have honce : final.1.worked = [(.ok (some 7), .discarded)] := rfl
  have hnot : ∀ f, ¬ BrokenOffLate (([[.cancel]] : List (List (Incident Int))) ++ []) [] f :=
    not_brokenOffLate (by simp)
  have h := settled_iff_not_brokenOffLate hcall hrest honce rfl
  have hclosed := (h.2.1 7 rfl).mpr hnot
  exact ⟨rfl, rfl, hclosed.resolve_left (by simp), h.2.2.1 closedCount countsClosing_promptJob⟩

/-- **A connection that nobody gets.** The worker's thread stores its connection in the very wait
that is then broken off: the call does not give the connection, and the worker has not closed it. -/
theorem late_interruption_loses_connection :
    let call := oneCall promptJob interruption { now := 0 } [] 100
      [[.thread, .interrupt interruption]] 5
    call.1 = [.error interruption] ∧ call.2.1.worked = [(.ok (some 7), .stored)] ∧
      call.2.1.attempt.abandoned = true ∧
      ¬ (.ok (some 7) ∈ call.1 ∨ 7 ∈ closings call.2.1) ∧ closedCount call.2.2 = 0 := by
  intro call
  refine ⟨rfl, rfl, rfl, ?_, rfl⟩
  rintro (h | h)
  · exact absurd (List.mem_singleton.mp h) (by simp)
  · exact absurd h List.not_mem_nil

end ClusterConnect.BoundedWait
