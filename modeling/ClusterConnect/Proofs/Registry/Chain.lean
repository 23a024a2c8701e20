import ClusterConnect.Proofs.Registry.Search

/-!
# The search for a connection

A registry offers a URL to its drivers in turn, and four things can come of each offer: the driver
declines, gives a connection, fails with an error of the driver's own kinds, or raises something
else. This file says what comes of the search as a whole, for any registry and whatever the drivers
do. They may do different things at different times, and what one of them does may depend on what
others have done before: all that they see and change is a state.

* `Stopped`, `Exhausted`: the answers of the drivers that have been asked, and what the search comes
  to; `firstConnecting_course`: every search is one or the other.
* `Overlooked`: a driver lets searches pass, and makes no difference to the other drivers.
* `firstConnecting_without`: a search finds the same connection without such a driver.
* `Registry.search_course`: both of them, for registries.

A driver that is asked and changes the state for those behind it can of course decide which
connection is found, even if it declines. This is why removal is about drivers that are overlooked.
-/

namespace ClusterConnect

variable {σ δ κ τ : Type}

/-! ## What the answers come to -/

/-- What drivers do with a URL and what the caller supplies. -/
abbrev Behaviour (σ δ κ : Type) :=
  δ → Option String → Overrides → StateM σ (Except Failure (Option κ))

/-- The last driver asked has ended the search, and those before it have let it pass. -/
inductive Stopped : List (Except Failure (Option κ)) → Except Failure κ → Prop
  | connected (passed : List (Except Failure (Option κ))) (c : κ)
    (h : ∀ a ∈ passed, LetsPass a) : Stopped (passed ++ [.ok (some c)]) (.ok c)
  | raised (passed : List (Except Failure (Option κ))) (e : ForeignError)
    (h : ∀ a ∈ passed, LetsPass a) :
    Stopped (passed ++ [.error (.foreign e)]) (.error (.foreign e))

/-- All drivers have let the search pass: it comes to the first error among their answers, or to
`noneConnects` if all have declined. -/
inductive Exhausted (noneConnects : Failure) :
    List (Except Failure (Option κ)) → Except Failure κ → Prop
  | failed (front : List (Except Failure (Option κ))) (e : DriverError)
    (back : List (Except Failure (Option κ))) (hfront : ∀ a ∈ front, a = .ok none)
    (hback : ∀ a ∈ back, LetsPass a) :
    Exhausted noneConnects (front ++ .error (.driver e) :: back) (.error (.driver e))
  | declined (answers : List (Except Failure (Option κ))) (h : ∀ a ∈ answers, a = .ok none) :
    Exhausted noneConnects answers (.error noneConnects)

section

variable {ask : δ → StateM σ (Except Failure (Option κ))} {d : δ} {ds : List δ} {s t u : σ}
variable {answers : List (Except Failure (Option κ))} {a : Except Failure (Option κ)}
variable {result : Except Failure κ}

theorem letsPass_cases (a : Except Failure (Option κ)) :
    (∃ c, a = .ok (some c)) ∨ (∃ e, a = .error (.foreign e)) ∨ LetsPass a := by
  rcases a with (e | e) | _ | c
  · exact .inr (.inr (.inr ⟨e, rfl⟩))
  · exact .inr (.inl ⟨e, rfl⟩)
  · exact .inr (.inr (.inl rfl))
  · exact .inl ⟨c, rfl⟩

theorem Stopped.cons (ha : LetsPass a) (h : Stopped answers result) :
    Stopped (a :: answers) result := by
  cases h with
  | connected passed c h => exact .connected (a :: passed) c (List.forall_mem_cons.mpr ⟨ha, h⟩)
  | raised passed e h => exact .raised (a :: passed) e (List.forall_mem_cons.mpr ⟨ha, h⟩)

theorem Exhausted.cons {f : Failure} (h : Exhausted f answers result) :
    Exhausted f (.ok none :: answers) result := by
  cases h with
  | failed front e back hfront hback =>
    exact .failed (.ok none :: front) e back (List.forall_mem_cons.mpr ⟨rfl, hfront⟩) hback
  | declined answers h => exact .declined _ (List.forall_mem_cons.mpr ⟨rfl, h⟩)

/-- An error that has been kept stays. -/
theorem foldl_keptError_some (f : Failure) (answers : List (Except Failure (Option κ))) :
    answers.foldl keptError (some f) = some f := by
  induction answers with
  | nil => rfl
  | cons a rest ih =>
    have hkept : keptError (some f) a = some f := by cases a <;> rfl
    rw [List.foldl_cons, hkept, ih]

/-- The error that a search has kept in the end is the first one, in the order of the answers. -/
theorem exhausted_of_passed (f : Failure) (h : ∀ a ∈ answers, LetsPass a) :
    Exhausted f answers (.error ((answers.foldl keptError none).getD f) : Except Failure κ) := by
  induction answers with
  | nil => exact .declined [] (by simp)
  | cons a rest ih =>
    obtain ⟨ha, hrest⟩ := List.forall_mem_cons.mp h
    rcases ha with rfl | ⟨e, rfl⟩
    · exact (ih hrest).cons
    · have hkept : ((.error (.driver e) :: rest).foldl keptError none) = some (.driver e) :=
        foldl_keptError_some (.driver e) rest
      rw [hkept]
      exact .failed [] e rest (by simp) hrest

/-! ## The course of a search -/

theorem run_mapM_nil (ask : δ → StateM σ (Except Failure (Option κ))) (s : σ) :
    (([] : List δ).mapM ask).run s = ([], s) := rfl

theorem run_mapM_cons (hd : (ask d).run s = (a, t)) (hds : (ds.mapM ask).run t = (answers, u)) :
    ((d :: ds).mapM ask).run s = (a :: answers, u) := by
  rw [List.mapM_cons, StateT.run_bind, hd]
  show ((ds.mapM ask >>= fun rest => pure (a :: rest)) : StateM σ _).run t = _
  rw [StateT.run_bind, hds]
  rfl

/-- A search asks drivers from the front on until one ends it, and then no more. If none does, it
comes to the error that it has kept. -/
theorem firstConnecting_course (ask : δ → StateM σ (Except Failure (Option κ))) (f : Failure)
    (earlier : Option Failure) (ds : List δ) (s : σ) :
    ∃ asked answers t result, asked <+: ds ∧ (asked.mapM ask).run s = (answers, t) ∧
      (firstConnecting ask f earlier ds).run s = (result, t) ∧
      (Stopped answers result ∨
        asked = ds ∧ (∀ a ∈ answers, LetsPass a) ∧
          result = .error ((answers.foldl keptError earlier).getD f)) := by
  induction ds generalizing earlier s with
  | nil =>
    exact ⟨[], [], s, _, List.prefix_rfl, rfl, rfl, .inr ⟨rfl, by simp, rfl⟩⟩
  | cons d ds ih =>
    rcases hd : (ask d).run s with ⟨a, t⟩
    rcases letsPass_cases a with ⟨c, rfl⟩ | ⟨e, rfl⟩ | hpass
    · refine ⟨[d], [.ok (some c)], t, .ok c, ⟨ds, rfl⟩, run_mapM_cons hd (run_mapM_nil ask t),
        firstConnecting_cons_of_some hd f earlier, .inl ?_⟩
      exact .connected [] c (by simp)
    · refine ⟨[d], [.error (.foreign e)], t, .error (.foreign e), ⟨ds, rfl⟩,
        run_mapM_cons hd (run_mapM_nil ask t), firstConnecting_cons_of_foreign hd f earlier,
        .inl ?_⟩
      exact .raised [] e (by simp)
    · -- the search goes on behind `d`, with the error that it keeps of its answer
      obtain ⟨asked, answers, u, result, hasked, hanswers, hsearch, hend⟩ :=
        ih (keptError earlier a) t
      refine ⟨d :: asked, a :: answers, u, result, List.cons_prefix_cons.mpr ⟨rfl, hasked⟩,
        run_mapM_cons hd hanswers, ?_, ?_⟩
      · rw [firstConnecting_cons_of_letsPass hd hpass, hsearch]
      · rcases hend with hstopped | ⟨rfl, hpassed, hresult⟩
        · exact .inl (hstopped.cons hpass)
        · exact .inr ⟨rfl, List.forall_mem_cons.mpr ⟨hpass, hpassed⟩, hresult⟩

/-! ## Searches without one of the drivers -/

/-- A driver lets searches pass and makes no difference to the other drivers. `Alike` says which
states are no different for them: alike states get the same answers and lead to alike states. -/
structure Overlooked (ask : δ → StateM σ (Except Failure (Option κ))) (this : δ)
    (Alike : σ → σ → Prop) : Prop where
  passes : ∀ s t, Alike s t → LetsPass ((ask this).run s).1 ∧ Alike ((ask this).run s).2 t
  others : ∀ d, d ≠ this → ∀ s t, Alike s t →
    ((ask d).run s).1 = ((ask d).run t).1 ∧ Alike ((ask d).run s).2 ((ask d).run t).2

/-- Where the answer of each driver is always the same, one that lets searches pass is overlooked. -/
theorem overlooked_of_constant {this : δ} (answer : δ → Except Failure (Option κ))
    (hanswer : ∀ d s, ((ask d).run s).1 = answer d) (hpass : LetsPass (answer this)) :
    Overlooked ask this fun _ _ => True where
  passes s _ _ := ⟨(hanswer this s).symm ▸ hpass, trivial⟩
  others d _ s t _ := ⟨(hanswer d s).trans (hanswer d t).symm, trivial⟩

/-- A search finds the same connection, or none, without a driver that is overlooked, whatever errors
have been kept in the one and in the other. -/
theorem firstConnecting_without [DecidableEq δ] {this : δ} {Alike : σ → σ → Prop}
    (h : Overlooked ask this Alike) (f : Failure) (kept kept' : Option Failure) (ds : List δ)
    (halike : Alike s t) (c : κ) :
    ((firstConnecting ask f kept' (ds.filter (· ≠ this))).run t).1 = .ok c ↔
      ((firstConnecting ask f kept ds).run s).1 = .ok c := by
  induction ds generalizing s t kept kept' with
  | nil => exact iff_of_false (by rintro ⟨⟩) (by rintro ⟨⟩)
  | cons d ds ih =>
    rcases hd : (ask d).run s with ⟨a, s'⟩
    by_cases hthis : d = this
    · subst hthis
      obtain ⟨hpass, halike'⟩ := h.passes s t halike
      rw [hd] at hpass halike'
      rw [List.filter_cons_of_neg (by simp), firstConnecting_cons_of_letsPass hd hpass]
      exact ih _ _ halike'
    · rcases hd' : (ask d).run t with ⟨a', t'⟩
      obtain ⟨hsame, halike'⟩ := h.others d hthis s t halike
      rw [hd, hd'] at hsame halike'
      obtain rfl : a = a' := hsame
      rw [List.filter_cons_of_pos (by simpa using hthis)]
      rcases letsPass_cases a with ⟨c', rfl⟩ | ⟨e, rfl⟩ | hpass
      · rw [firstConnecting_cons_of_some hd, firstConnecting_cons_of_some hd']
      · rw [firstConnecting_cons_of_foreign hd, firstConnecting_cons_of_foreign hd']
      · rw [firstConnecting_cons_of_letsPass hd hpass, firstConnecting_cons_of_letsPass hd' hpass]
        exact ih _ _ halike'

end

/-! ## Registries -/

namespace Registry

/-- **What a registry makes of its drivers.** Whatever drivers are registered, whatever they do, and
whatever the URL and what the caller supplies:

* the drivers are offered this URL with just this from the first one on, each of them once, and the
  search changes nothing but what these drivers change;
* it stops at the first one that gives a connection, which it returns, or that raises something other
  than an error of the driver's kinds, which it raises;
* if none does, all have been asked, and it raises the first error among their answers, or that no
  driver is suitable if all have declined.

A driver that lets searches pass can be removed, and the same connection is found: where each driver
always gives the same answer, and also where answers depend on a state in which the driver leaves no
trace that matters to the others. -/
theorem search_course [DecidableEq δ] (r : Registry δ τ) (behaviour : Behaviour σ δ κ)
    (url : Option String) (info : Overrides) (s : σ) :
    let ask := fun d => behaviour d url info
    (∃ asked answers t result, asked <+: r.drivers ∧ (r.drivers.Nodup → asked.Nodup) ∧
      (asked.mapM ask).run s = (answers, t) ∧ (r.connect ask url).run s = (result, t) ∧
      (Stopped answers result ∨
        asked = r.drivers ∧ Exhausted (noSuitableDriver url) answers result)) ∧
    (∀ (this : δ) (answer : δ → Except Failure (Option κ)),
      (∀ d s, ((ask d).run s).1 = answer d) → LetsPass (answer this) → ∀ c,
      (((r.deregister this).connect ask url).run s).1 = .ok c ↔
        ((r.connect ask url).run s).1 = .ok c) ∧
    (∀ this Alike, Overlooked ask this Alike → Alike s s → ∀ c,
      (((r.deregister this).connect ask url).run s).1 = .ok c ↔
        ((r.connect ask url).run s).1 = .ok c) := by
  intro ask
  refine ⟨?_, ?_, ?_⟩
  · obtain ⟨asked, answers, t, result, hasked, hanswers, hsearch, hend⟩ :=
      firstConnecting_course ask (noSuitableDriver url) none r.drivers s
    have honce : r.drivers.Nodup → asked.Nodup := fun hnodup => hnodup.sublist hasked.sublist
    refine ⟨asked, answers, t, result, hasked, honce, hanswers, hsearch, hend.imp id ?_⟩
    rintro ⟨hall, hpassed, rfl⟩
    exact ⟨hall, exhausted_of_passed _ hpassed⟩
  · intro this answer hanswer hpass c
    exact firstConnecting_without (overlooked_of_constant answer hanswer hpass) _ none none
      r.drivers trivial c
  · intro this Alike hoverlooked halike c
    exact firstConnecting_without hoverlooked _ none none r.drivers halike c

/-- One driver that declines, one that fails, one that gives a connection, and one that raises, each
of which leaves its mark. The last one is not asked, and without the second one the connection is
the same. -/
theorem search_course_without_failing :
    let failure : Failure := .driver (.ofKind .connectionFailed "refused")
    let answer : Nat → Except Failure (Option String) := fun d =>
      if d = 0 then .ok none else if d = 1 then .error failure
      else if d = 2 then .ok (some "link") else .error (.ofForeign .wrongState "gone")
    let behaviour : Behaviour (List Nat) Nat String := fun d _ _ marks =>
      (answer d, marks ++ [d])
    let ask := fun d => behaviour d (some "postgresql:sales") []
    let r : Registry Nat Int := { drivers := [0, 1, 2, 3], loginTimeout := 0 }
    (r.connect ask (some "postgresql:sales")).run [] = (.ok "link", [0, 1, 2]) ∧
      LetsPass (answer 1) ∧
      (((r.deregister 1).connect ask (some "postgresql:sales")).run []).1 = .ok "link" := by
  intro failure answer behaviour ask r
  have hsearch : (r.connect ask (some "postgresql:sales")).run [] = (.ok "link", [0, 1, 2]) := rfl
  have hpass : LetsPass (answer 1) := .inr ⟨_, rfl⟩
  obtain ⟨-, hremoved, -⟩ := search_course r behaviour (some "postgresql:sales") [] []
  refine ⟨hsearch, hpass, (hremoved 1 answer (fun _ _ => rfl) hpass "link").mpr ?_⟩
  rw [hsearch]

end Registry

end ClusterConnect
