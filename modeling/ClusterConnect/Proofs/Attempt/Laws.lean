import ClusterConnect.Proofs.Attempt.Steps

/-!
# Laws of a bounded attempt

What every change of an attempt keeps.

* `Sound`: the invariant that ties the state of an attempt to its flags and to what the worker has
  come to.
* `Grows`: what is never taken back.
* `length_worked_undergo`, `length_worked_of_ok`: each run of the worker comes to an outcome.
* `wait_ok`, `wait_error`: what has happened during a wait that ends as it should, and during one
  that is broken off.
-/

namespace ClusterConnect.BoundedWait

variable {τ κ : Type} [Timeline τ]
variable {j : Job τ κ} {limit : Option τ} {s t : BoundedWait τ κ × Environment τ}

/-! ## The invariant -/

/-- **The invariant of an attempt.** Its state tells whether a caller has left and whether anything
is stored, and what is stored or discarded is what runs of the worker have come to. -/
structure Sound (w : BoundedWait τ κ) : Prop where
  abandoned_iff : w.attempt.abandoned = true ↔
    w.attempt.state = .timedOut ∨ w.attempt.state = .cancelled
  pending_iff : w.attempt.state = .pending ↔
    w.attempt.stored = none ∧ w.attempt.abandoned = false
  mem_worked : ∀ r, w.attempt.stored = some r → (r, .stored) ∈ w.worked
  isSome_stored : ∀ r, (r, .stored) ∈ w.worked → w.attempt.stored.isSome
  abandoned_of_discarded : ∀ r, (r, .discarded) ∈ w.worked → w.attempt.abandoned = true
  isLost_of_fatal : ∀ r, (r, .fatal) ∈ w.worked → isLost r = true

omit [Timeline τ] in
/-- A new attempt is sound, whatever waits are to come. -/
theorem sound_new (waits : List (List (Incident τ))) (endless : Failure) :
    Sound ({ schedule := waits, endless } : BoundedWait τ κ) where
  abandoned_iff := by simp
  pending_iff := by simp
  mem_worked r h := by simp at h
  isSome_stored r h := by simp at h
  abandoned_of_discarded r h := by simp at h
  isLost_of_fatal r h := by simp at h

omit [Timeline τ] in
theorem Sound.settle {w : BoundedWait τ κ} (h : Sound w) (r : Except Failure (Option κ)) :
    Sound (w.settle r) := by
  by_cases hf : w.attempt.fate r = .stored
  · -- The outcome is stored: no caller has left, so the state may tell of success or failure.
    have ha := (Attempt.fate_eq_stored_iff.mp hf).2
    have hw : w.settle r =
        { w with attempt := w.attempt.publish r, worked := w.worked ++ [(r, .stored)] } := by
      simp only [BoundedWait.settle, Attempt.settle_of_stored hf, hf]
    rw [hw]
    constructor
    · cases r <;> simp [Attempt.publish, ha]
    · cases r <;> simp [Attempt.publish]
    · intro r' hr
      simp only [Attempt.publish, Option.some.injEq] at hr
      simp [hr]
    · intro r' _
      rfl
    · intro r' hr
      exact h.abandoned_of_discarded r' (by simpa using hr)
    · intro r' hr
      exact h.isLost_of_fatal r' (by simpa using hr)
  · -- Nothing is stored: the attempt stays as it is.
    have hw : w.settle r = { w with worked := w.worked ++ [(r, w.attempt.fate r)] } := by
      simp only [BoundedWait.settle, Attempt.settle_of_not_stored hf]
    rw [hw]
    constructor
    · exact h.abandoned_iff
    · exact h.pending_iff
    · intro r' hr
      exact List.mem_append_left _ (h.mem_worked r' hr)
    · intro r' hr
      rcases List.mem_append.mp hr with hr | hr
      · exact h.isSome_stored r' hr
      · obtain ⟨-, hf'⟩ := Prod.mk.inj (List.mem_singleton.mp hr)
        exact absurd hf'.symm hf
    · intro r' hr
      rcases List.mem_append.mp hr with hr | hr
      · exact h.abandoned_of_discarded r' hr
      · obtain ⟨-, hf'⟩ := Prod.mk.inj (List.mem_singleton.mp hr)
        exact (Attempt.fate_eq_discarded_iff.mp hf'.symm).2
    · intro r' hr
      rcases List.mem_append.mp hr with hr | hr
      · exact h.isLost_of_fatal r' hr
      · obtain ⟨rfl, hf'⟩ := Prod.mk.inj (List.mem_singleton.mp hr)
        exact Attempt.fate_eq_fatal_iff.mp hf'.symm

omit [Timeline τ] in
/-- While no caller has left, whatever the worker has come to is stored. -/
theorem Sound.isSome_of_worked {w : BoundedWait τ κ} (h : Sound w)
    (ha : w.attempt.abandoned = false) (hl : ∀ p ∈ w.worked, isLost p.1 = false)
    {p : Except Failure (Option κ) × Fate} (hp : p ∈ w.worked) : w.attempt.stored.isSome := by
  obtain ⟨r, fate⟩ := p
  cases fate with
  | stored => exact h.isSome_stored r hp
  | discarded => exact absurd (h.abandoned_of_discarded r hp) (by simp [ha])
  | fatal => exact absurd (h.isLost_of_fatal r hp) (by simp [hl _ hp])

omit [Timeline τ] in
theorem Sound.worked_eq_nil {w : BoundedWait τ κ} (h : Sound w) (ha : w.attempt.abandoned = false)
    (hl : ∀ p ∈ w.worked, isLost p.1 = false) (hs : w.attempt.stored = none) : w.worked = [] :=
  List.eq_nil_iff_forall_not_mem.mpr (by
    intro p hp
    have hsome := h.isSome_of_worked ha hl hp
    simp [hs] at hsome)

theorem Sound.step (h : Sound s.1) (hs : Step j s t) : Sound t.1 := by
  cases hs with
  | worker =>
    rw [finish_settles]
    exact h.settle _
  | cancel => exact { h with }
  | leave hl =>
    refine ⟨?_, ?_, h.mem_worked, h.isSome_stored, fun _ _ => rfl, h.isLost_of_fatal⟩
    · simp [Attempt.abandon, hl]
    · rcases hl with rfl | rfl <;> simp [Attempt.abandon]
  | wait limit => exact h
  | plan waits => exact { h with }
  | elapse span => exact h

theorem Sound.steps (h : Sound s.1) (hs : Steps j s t) : Sound t.1 := by
  induction hs with
  | refl => exact h
  | tail _ hs ih => exact ih.step hs

/-! ## What is never taken back -/

/-- **What is never taken back**: the flags of an attempt, and what the worker has come to. Once a
caller has left, nothing more is stored. -/
structure Grows (w w' : BoundedWait τ κ) : Prop where
  stored : w.attempt.stored.isSome → w'.attempt.stored.isSome
  abandoned : w.attempt.abandoned = true → w'.attempt.abandoned = true
  worked : w.worked <+: w'.worked
  stored_of_abandoned : w.attempt.abandoned = true → w'.attempt.stored = w.attempt.stored

omit [Timeline τ] in
theorem Grows.refl (w : BoundedWait τ κ) : Grows w w :=
  ⟨id, id, List.prefix_refl _, fun _ => rfl⟩

omit [Timeline τ] in
theorem Grows.trans {w w' w'' : BoundedWait τ κ} (h : Grows w w') (h' : Grows w' w'') :
    Grows w w'' where
  stored := h'.stored ∘ h.stored
  abandoned := h'.abandoned ∘ h.abandoned
  worked := h.worked.trans h'.worked
  stored_of_abandoned ha :=
    (h'.stored_of_abandoned (h.abandoned ha)).trans (h.stored_of_abandoned ha)

omit [Timeline τ] in
theorem Grows.settle (w : BoundedWait τ κ) (r : Except Failure (Option κ)) :
    Grows w (w.settle r) := by
  constructor
  · intro hr
    by_cases hf : w.attempt.fate r = .stored
    · simp [BoundedWait.settle, Attempt.settle_of_stored hf, Attempt.publish]
    · simpa [BoundedWait.settle, Attempt.settle_of_not_stored hf] using hr
  · intro ha
    simpa [BoundedWait.settle] using ha
  · exact List.prefix_append _ _
  · intro ha
    have hf : w.attempt.fate r ≠ .stored := by
      rw [Ne, Attempt.fate_eq_stored_iff]
      simp [ha]
    simp only [BoundedWait.settle, Attempt.settle_of_not_stored hf]

theorem Step.grows (h : Step j s t) : Grows s.1 t.1 := by
  cases h with
  | worker =>
    rw [finish_settles]
    exact .settle s.1 _
  | cancel => exact ⟨id, id, List.prefix_refl _, fun _ => rfl⟩
  | leave hl => exact ⟨id, fun _ => rfl, List.prefix_refl _, fun _ => rfl⟩
  | wait limit => exact .refl s.1
  | plan waits => exact ⟨id, id, List.prefix_refl _, fun _ => rfl⟩
  | elapse span => exact .refl s.1

theorem Steps.grows (h : Steps j s t) : Grows s.1 t.1 := by
  induction h with
  | refl => exact .refl s.1
  | tail _ hs ih => exact ih.trans hs.grows

/-- A worker that runs after a caller has left cannot store its outcome any more. -/
theorem Steps.discarded_of_left (h : Steps j s t) (hs : Sound s.1)
    (ha : s.1.attempt.abandoned = true) (hw : s.1.worked = []) {r : Except Failure (Option κ)}
    {fate : Fate} (hm : (r, fate) ∈ t.1.worked) (hr : isLost r = false) : fate = .discarded := by
  have ht := hs.steps h
  cases fate with
  | stored =>
    -- What is stored in the end was stored before the caller left, by a run of the worker.
    have hsome := ht.isSome_stored r hm
    rw [h.grows.stored_of_abandoned ha, Option.isSome_iff_exists] at hsome
    obtain ⟨r', hr'⟩ := hsome
    have hm' := hs.mem_worked r' hr'
    rw [hw] at hm'
    exact absurd hm' List.not_mem_nil
  | discarded => rfl
  | fatal => exact absurd (ht.isLost_of_fatal r hm) (by simp [hr])

/-! ## What has happened during a wait -/

/-- Each run of the worker comes to an outcome. -/
theorem length_worked_undergo (j : Job τ κ) (i : Incident τ) (s : BoundedWait τ κ × Environment τ) :
    ((undergo j i).runFrom s).2.1.worked.length = s.1.worked.length + runs [i] := by
  cases i with
  | thread | worker =>
    rw [undergo_run rfl, finish_settles, settle, List.length_append]
    rfl
  | cancel => rfl
  | advance span => rfl
  | interrupt f => rfl

theorem length_worked_of_ok {is : List (Incident τ)}
    (h : (is.forM (undergo j)).runFrom s = (.ok (), t)) :
    t.1.worked.length = s.1.worked.length + runs is := by
  induction is generalizing s with
  | nil =>
    obtain ⟨-, rfl⟩ := Prod.mk.inj h
    rfl
  | cons i is ih =>
    have hi := length_worked_undergo j i s
    rcases hu : (undergo j i).runFrom s with ⟨f | ⟨⟩, u⟩
    · rw [Act.runFrom_forM_cons_of_error hu] at h
      exact absurd (congrArg Prod.fst h) (by simp)
    · rw [Act.runFrom_forM_cons_of_ok hu] at h
      rw [hu] at hi
      rw [ih h, hi, runs_cons i is, Nat.add_assoc]

/-- In a wait that is broken off, the worker may miss some of its runs. -/
theorem length_worked_le (j : Job τ κ) (is : List (Incident τ))
    (s : BoundedWait τ κ × Environment τ) :
    ((is.forM (undergo j)).runFrom s).2.1.worked.length ≤ s.1.worked.length + runs is := by
  rcases h : (is.forM (undergo j)).runFrom s with ⟨f | ⟨⟩, t⟩
  · obtain ⟨before, i, after, u, rfl, hb, hi⟩ := forM_undergo_error h
    have hlast := length_worked_undergo j i u
    rw [hi] at hlast
    rw [hlast, length_worked_of_ok hb, runs_append, runs_cons i after]
    omega
  · exact Nat.le_of_eq (length_worked_of_ok h)

/-- Nobody leaves during a wait. -/
theorem wait_keeps (j : Job τ κ) (limit : Option τ) (s : BoundedWait τ κ × Environment τ) :
    ((wait j limit).runFrom s).2.1.attempt.abandoned = s.1.attempt.abandoned := by
  cases hs : s.1.schedule with
  | nil =>
    rw [runFrom_wait_nil hs]
    cases limit <;> rfl
  | cons is rest =>
    rw [runFrom_wait_cons hs]
    exact (forM_undergo_keeps j is _).1

/-- A wait that ends as it should has used up waits of the schedule that hold no interruption. -/
theorem wait_ok (h : (wait j limit).runFrom s = (.ok (), t)) :
    ∃ passed, s.1.schedule = passed ++ t.1.schedule ∧ ∀ is ∈ passed, ∀ f, .interrupt f ∉ is := by
  cases hs : s.1.schedule with
  | nil =>
    rw [runFrom_wait_nil hs] at h
    cases limit with
    | none => exact absurd (congrArg Prod.fst h) (by simp)
    | some span =>
      obtain ⟨-, rfl⟩ := Prod.mk.inj h
      exact ⟨[], hs.symm, fun is hi => absurd hi List.not_mem_nil⟩
  | cons is rest =>
    rw [runFrom_wait_cons hs] at h
    have hk := forM_undergo_keeps j is ({ s.1 with schedule := rest }, s.2.note (.waited limit))
    rw [h] at hk
    refine ⟨[is], by rw [hk.2]; rfl, ?_⟩
    intro is' hi f
    rw [List.mem_singleton.mp hi]
    exact interrupt_not_mem h f

/-- A wait that is broken off, while no caller has left and the worker is not lost, lies beyond the
schedule or has an interruption in it. In the latter case something is stored if the worker has run
before the interruption. -/
theorem wait_error {f : Failure} (h : (wait j limit).runFrom s = (.error f, t)) (hs : Sound s.1)
    (ha : s.1.attempt.abandoned = false) (hl : ∀ p ∈ t.1.worked, isLost p.1 = false) :
    s.1.schedule = [] ∧ t.1 = s.1 ∨
      ∃ before after, s.1.schedule = (before ++ .interrupt f :: after) :: t.1.schedule ∧
        (∀ g, .interrupt g ∉ before) ∧ (0 < runs before → t.1.attempt.stored.isSome) ∧
        (runs before = 0 → t.1.attempt.stored = s.1.attempt.stored) := by
  cases hsch : s.1.schedule with
  | nil =>
    rw [runFrom_wait_nil hsch] at h
    cases limit with
    | none => exact .inl ⟨rfl, by rw [← (Prod.mk.inj h).2]⟩
    | some span => exact absurd (congrArg Prod.fst h) (by simp)
  | cons is rest =>
    rw [runFrom_wait_cons hsch] at h
    obtain ⟨before, i, after, v, rfl, hb, hi⟩ := forM_undergo_error h
    -- Up to the incident that breaks off the wait nobody leaves.
    have hbs := forM_undergo_steps j before ({ s.1 with schedule := rest }, s.2.note (.waited limit))
    have hbk := forM_undergo_keeps j before ({ s.1 with schedule := rest }, s.2.note (.waited limit))
    rw [hb] at hbs hbk
    have hvs : Sound v.1 := .steps (s := ({ s.1 with schedule := rest }, _)) { hs with } hbs
    have hva : v.1.attempt.abandoned = false := hbk.1.trans ha
    rcases undergo_error hi with ⟨rfl, rfl⟩ | ⟨rfl, hf⟩
    · refine .inr ⟨before, after, by rw [hbk.2], interrupt_not_mem hb, ?_, ?_⟩
      · intro hruns
        have hlength := length_worked_of_ok hb
        obtain ⟨p, hp⟩ := List.exists_mem_of_length_pos (l := t.1.worked) (by omega)
        exact hvs.isSome_of_worked hva hl hp
      · intro hm
        have hst := forM_undergo_stored (j := j) hm
          ({ s.1 with schedule := rest }, s.2.note (.waited limit))
        rw [hb] at hst
        exact hst
    · -- The worker has nothing to store although nobody has left: it is lost.
      have ht : t.1 = v.1.settle _ := (congrArg (·.2.1) hi).symm.trans (finish_settles j v)
      rw [ht] at hl
      have hr := hl _ (List.mem_append_right _ (List.mem_singleton.mpr rfl))
      exact absurd (Attempt.fate_eq_stored_iff.mpr ⟨hr, hva⟩) hf

end ClusterConnect.BoundedWait
