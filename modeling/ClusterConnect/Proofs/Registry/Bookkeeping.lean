import ClusterConnect.Registry
import Mathlib.Data.List.Induction
import Mathlib.Data.List.Nodup

/-!
# Who is registered where

Registries are changed from outside, and by the one driver that registers itself. This file follows
any number of registries over any sequence of calls.

* `Move`: a driver joins or leaves a registry; `since?`: the move since which a driver is there.
* `InOrder`: a registry lists the drivers that are there, each once, in the order in which they came.
  `InOrder.join`, `InOrder.leave`: one move; `inOrder_moved`: any number of them.
* `RegistryCall`: a call; `RegistryCall.moves`: the moves that it consists of.
* `Registrations.listed_in_order`: all of it for any sequence of calls.

Drivers that are registered from outside and drivers that register themselves are told apart by their
types: the latter have no other way into a registry or out of it.
-/

namespace ClusterConnect

/-! ## Moves -/

/-- A driver joins a registry or leaves it. -/
inductive Move (ι μ : Type) where
  | join (place : ι) (d : μ)
  | leave (place : ι) (d : μ)
deriving DecidableEq

section

variable {ι μ τ : Type} [DecidableEq ι] [DecidableEq μ]

namespace Move

/-- The registries after a move. -/
def apply (r : ι → Registry μ τ) : Move ι μ → ι → Registry μ τ
  | join place d => fun p => if p = place then (r p).register d else r p
  | leave place d => fun p => if p = place then (r p).deregister d else r p

/-- Since when a driver is in a registry, after the move with number `n`. A driver that is there
already does not join anew. -/
def note (place : ι) (d : μ) (n : Nat) (earlier : Option Nat) (m : Move ι μ) : Option Nat :=
  if m = join place d then earlier.or (some n)
  else if m = leave place d then none
  else earlier

end Move

/-- The number of the move by which a driver has come into a registry, if it is still there. -/
def since? (place : ι) (d : μ) (moves : List (Move ι μ)) : Option Nat :=
  moves.zipIdx.foldl (fun earlier m => m.1.note place d m.2 earlier) none

/-- A registry lists the drivers that are there, each once, in the order in which they came. -/
structure InOrder (place : ι) (moves : List (Move ι μ)) (drivers : List μ) : Prop where
  nodup : drivers.Nodup
  mem_iff : ∀ d, d ∈ drivers ↔ (since? place d moves).isSome
  ordered : drivers.Pairwise fun a b =>
    ∀ s t, since? place a moves = some s → since? place b moves = some t → s < t

variable {place : ι} {moves : List (Move ι μ)} {drivers : List μ}

theorem since?_nil (place : ι) (d : μ) : since? place d ([] : List (Move ι μ)) = none := rfl

theorem since?_concat (place : ι) (d : μ) (moves : List (Move ι μ)) (m : Move ι μ) :
    since? place d (moves ++ [m]) = m.note place d moves.length (since? place d moves) := by
  unfold since?
  rw [List.zipIdx_append, List.foldl_append]
  simp

/-- The numbers are those of the moves so far. -/
theorem lt_length_of_since? {d : μ} {s : Nat} (h : since? place d moves = some s) :
    s < moves.length := by
  induction moves using List.reverseRecOn with
  | nil => exact absurd h (by simp [since?_nil])
  | append_singleton moves m ih =>
    rw [List.length_append, List.length_singleton]
    rw [since?_concat] at h
    unfold Move.note at h
    split at h
    · cases hearlier : since? place d moves with
      | none =>
        rw [hearlier] at h
        obtain rfl := Option.some.inj h
        exact Nat.lt_succ_self _
      | some t =>
        rw [hearlier] at h
        obtain rfl := Option.some.inj h
        exact Nat.lt_succ_of_lt (ih hearlier)
    · split at h
      · exact absurd h (by simp)
      · exact Nat.lt_succ_of_lt (ih h)

namespace InOrder

theorem nil (place : ι) : InOrder place ([] : List (Move ι μ)) [] :=
  ⟨List.nodup_nil, by simp [since?_nil], List.Pairwise.nil⟩

/-- A move that changes nothing for the drivers of a registry leaves it in order. -/
theorem of_since?_eq {more : List (Move ι μ)} (h : InOrder place moves drivers)
    (hsame : ∀ d, since? place d more = since? place d moves) : InOrder place more drivers := by
  refine ⟨h.nodup, fun d => ?_, ?_⟩
  · rw [hsame]
    exact h.mem_iff d
  · simp only [hsame]
    exact h.ordered

/-- A driver that was not there is listed behind the others. -/
theorem join_new {d : μ} (h : InOrder place moves drivers) (hd : d ∉ drivers) :
    InOrder place (moves ++ [.join place d]) (drivers ++ [d]) := by
  have hnone : since? place d moves = none := by
    rw [← Option.not_isSome_iff_eq_none, ← h.mem_iff]
    exact hd
  have hnew : since? place d (moves ++ [.join place d]) = some moves.length := by
    rw [since?_concat, Move.note, if_pos rfl, hnone, Option.none_or]
  have hother : ∀ e, e ≠ d →
      since? place e (moves ++ [.join place d]) = since? place e moves := by
    intro e he
    rw [since?_concat, Move.note, if_neg (by simp [Ne.symm he]), if_neg (by simp)]
  have hne : ∀ e ∈ drivers, e ≠ d := fun e he hed => hd (hed ▸ he)
  refine ⟨?_, ?_, ?_⟩
  · exact List.nodup_append.mpr ⟨h.nodup, List.pairwise_singleton _ d, by simpa using hne⟩
  · intro e
    rw [List.mem_append, List.mem_singleton]
    by_cases he : e = d
    · subst he
      simp [hnew]
    · rw [hother e he, ← h.mem_iff]
      simp [he]
  · refine List.pairwise_append.mpr ⟨?_, List.pairwise_singleton _ _, ?_⟩
    · refine h.ordered.imp_of_mem fun {a b} ha hb hab => ?_
      rw [hother a (hne a ha), hother b (hne b hb)]
      exact hab
    · intro a ha b hb s t hs ht
      obtain rfl := List.mem_singleton.mp hb
      rw [hother a (hne a ha)] at hs
      obtain rfl := Option.some.inj (hnew.symm.trans ht)
      exact lt_length_of_since? hs

theorem join {d : μ} (h : InOrder place moves drivers) :
    InOrder place (moves ++ [.join place d]) (if d ∈ drivers then drivers else drivers ++ [d]) := by
  split
  · next hd =>
    refine h.of_since?_eq fun e => ?_
    rw [since?_concat, Move.note]
    split
    · next heq =>
      -- a driver that is there keeps the number of the move by which it has come
      obtain ⟨-, rfl⟩ := Move.join.inj heq
      obtain ⟨s, hs⟩ := Option.isSome_iff_exists.mp ((h.mem_iff d).mp hd)
      rw [hs]
      rfl
    · rw [if_neg (by simp)]
  · next hd => exact h.join_new hd

/-- A driver that leaves makes no difference to the others. -/
theorem leave {d : μ} (h : InOrder place moves drivers) :
    InOrder place (moves ++ [.leave place d]) (drivers.filter (· ≠ d)) := by
  have hgone : since? place d (moves ++ [.leave place d]) = none := by
    rw [since?_concat, Move.note, if_neg (by simp), if_pos rfl]
  have hother : ∀ e, e ≠ d →
      since? place e (moves ++ [.leave place d]) = since? place e moves := by
    intro e he
    rw [since?_concat, Move.note, if_neg (by simp), if_neg (by simp [Ne.symm he])]
  refine ⟨h.nodup.filter _, ?_, ?_⟩
  · intro e
    rw [List.mem_filter, decide_eq_true_iff]
    by_cases he : e = d
    · subst he
      simp [hgone]
    · rw [hother e he, ← h.mem_iff]
      simp [he]
  · refine (h.ordered.filter _).imp_of_mem fun {a b} ha hb hab => ?_
    rw [hother a (by simpa using (List.mem_filter.mp ha).2),
      hother b (by simpa using (List.mem_filter.mp hb).2)]
    exact hab

/-- A move elsewhere makes no difference. -/
theorem elsewhere {m : Move ι μ} (h : InOrder place moves drivers)
    (hm : ∀ d, m ≠ .join place d ∧ m ≠ .leave place d) : InOrder place (moves ++ [m]) drivers := by
  refine h.of_since?_eq fun d => ?_
  rw [since?_concat, Move.note, if_neg (hm d).1, if_neg (hm d).2]

end InOrder

theorem drivers_register (r : Registry μ τ) (d : μ) :
    (r.register d).drivers = if d ∈ r.drivers then r.drivers else r.drivers ++ [d] := by
  unfold Registry.register
  split <;> rfl

/-- One move keeps a registry in order. -/
theorem inOrder_apply {r : ι → Registry μ τ} (h : InOrder place moves (r place).drivers)
    (m : Move ι μ) : InOrder place (moves ++ [m]) (m.apply r place).drivers := by
  cases m with
  | join q d =>
    unfold Move.apply
    dsimp only
    split
    · next hq =>
      subst hq
      rw [drivers_register]
      exact h.join
    · next hq => exact h.elsewhere fun e => ⟨by simp [Ne.symm hq], by simp⟩
  | leave q d =>
    unfold Move.apply
    dsimp only
    split
    · next hq =>
      subst hq
      exact h.leave
    · next hq => exact h.elsewhere fun e => ⟨by simp, by simp [Ne.symm hq]⟩

/-- Any moves keep a registry in order that was empty before them. -/
theorem inOrder_moved {r : ι → Registry μ τ} (hempty : (r place).drivers = [])
    (moves : List (Move ι μ)) : InOrder place moves (moves.foldl Move.apply r place).drivers := by
  induction moves using List.reverseRecOn with
  | nil =>
    show InOrder place [] (r place).drivers
    rw [hempty]
    exact .nil place
  | append_singleton moves m ih =>
    rw [List.foldl_append]
    exact inOrder_apply ih m

end

/-! ## Calls -/

/-- A call on registries: drivers of the type `δ` are registered and deregistered, and drivers of the
type `ω` register themselves. -/
inductive RegistryCall (ι δ ω : Type) where
  | register (place : ι) (d : δ)
  | registerMany (place : ι) (ds : List δ)
  | deregister (place : ι) (d : δ)
  /-- A driver registers itself. -/
  | enroll (place : ι) (d : ω)
  /-- The driver that has registered itself leaves its registry. -/
  | withdraw

variable {ι δ ω τ : Type} [DecidableEq ι] [DecidableEq δ] [DecidableEq ω]

/-- What comes of an operation that changes the registries, or fails and leaves them as they are. -/
def Registrations.after {μ : Type} (r : Registrations ι μ τ) :
    Except Failure (Registrations ι μ τ) → Except Failure Unit × Registrations ι μ τ
  | .ok r' => (.ok (), r')
  | .error f => (.error f, r)

namespace RegistryCall

/-- What a call answers, and the registries after it. -/
def perform (r : Registrations ι (δ ⊕ ω) τ) :
    RegistryCall ι δ ω → Except Failure Unit × Registrations ι (δ ⊕ ω) τ
  | register place d => (.ok (), r.change place (·.register (.inl d)))
  | registerMany place ds => (.ok (), r.change place (·.registerMany (ds.map .inl)))
  | deregister place d => (.ok (), r.change place (·.deregister (.inl d)))
  | enroll place d => r.after (r.enroll place (.inr d))
  | withdraw => r.after r.withdraw

/-- The registries after some calls. -/
def performAll (r : Registrations ι (δ ⊕ ω) τ) (calls : List (RegistryCall ι δ ω)) :
    Registrations ι (δ ⊕ ω) τ :=
  calls.foldl (fun r c => (c.perform r).2) r

/-- Who has registered itself, and where, after a call: a driver can do so when no other one has. -/
def enrolled (before : Option (ω × ι)) : RegistryCall ι δ ω → Option (ω × ι)
  | enroll place d => before.or (some (d, place))
  | withdraw => none
  | register .. | registerMany .. | deregister .. => before

/-- The moves that a call consists of. -/
def moves (before : Option (ω × ι)) : RegistryCall ι δ ω → List (Move ι (δ ⊕ ω))
  | register place d => [.join place (.inl d)]
  | registerMany place ds => ds.map fun d => .join place (.inl d)
  | deregister place d => [.leave place (.inl d)]
  | enroll place d => if before.isNone then [.join place (.inr d)] else []
  | withdraw => (before.map fun e => Move.leave e.2 (.inr e.1)).toList

/-- The moves that calls consist of, one after the other. -/
def history : Option (ω × ι) → List (RegistryCall ι δ ω) → List (Move ι (δ ⊕ ω))
  | _, [] => []
  | before, c :: calls => c.moves before ++ history (c.enrolled before) calls

end RegistryCall

section

variable {μ : Type} [DecidableEq μ] {d e : μ}

theorem mem_register {r : Registry μ τ} : e ∈ (r.register d).drivers ↔ e ∈ r.drivers ∨ e = d := by
  rw [drivers_register]
  split
  · next hd =>
    refine ⟨.inl, ?_⟩
    rintro (he | rfl)
    · exact he
    · exact hd
  · rw [List.mem_append, List.mem_singleton]

theorem mem_registerMany {r : Registry μ τ} {ds : List μ} :
    e ∈ (r.registerMany ds).drivers ↔ e ∈ r.drivers ∨ e ∈ ds := by
  unfold Registry.registerMany
  induction ds generalizing r with
  | nil => simp
  | cons d ds ih => rw [List.foldl_cons, ih, mem_register, List.mem_cons, or_assoc]

theorem mem_deregister {r : Registry μ τ} :
    e ∈ (r.deregister d).drivers ↔ e ∈ r.drivers ∧ e ≠ d := by
  unfold Registry.deregister
  rw [List.mem_filter, decide_eq_true_iff]

omit [DecidableEq μ] in
theorem mem_change {r : Registrations ι μ τ} {p q : ι} {f : Registry μ τ → Registry μ τ} :
    e ∈ ((r.change p f).registries q).drivers ↔
      if q = p then e ∈ (f (r.registries q)).drivers else e ∈ (r.registries q).drivers := by
  show e ∈ (if q = p then f (r.registries q) else r.registries q).drivers ↔ _
  split <;> rfl

/-- To register drivers one after the other is one move for each of them. -/
theorem foldl_join (place : ι) (ds : List μ) (r : ι → Registry μ τ) :
    (ds.map (Move.join place)).foldl Move.apply r =
      fun p => if p = place then (r p).registerMany ds else r p := by
  induction ds generalizing r with
  | nil =>
    funext p
    exact (ite_self (r p)).symm
  | cons d ds ih =>
    rw [List.map_cons, List.foldl_cons, ih]
    funext p
    by_cases hp : p = place
    · simp [Move.apply, Registry.registerMany, hp]
    · simp [Move.apply, hp]

end

/-- The driver that has registered itself, if there is one, is listed where it has done so, and no
other one is listed anywhere. -/
structure Tracks (who : Option (ω × ι)) (r : Registrations ι (δ ⊕ ω) τ) : Prop where
  registered : r.registered = who.map fun e => (.inr e.1, e.2)
  listed : ∀ p d, .inr d ∈ (r.registries p).drivers ↔ who = some (d, p)

variable {who : Option (ω × ι)} {r : Registrations ι (δ ⊕ ω) τ}

namespace Tracks

omit [DecidableEq δ] [DecidableEq ω] in
/-- Drivers that are registered and deregistered from outside have no part in it. -/
theorem change (h : Tracks who r) (place : ι) {f : Registry (δ ⊕ ω) τ → Registry (δ ⊕ ω) τ}
    (hf : ∀ (s : Registry (δ ⊕ ω) τ) d, .inr d ∈ (f s).drivers ↔ .inr d ∈ s.drivers) :
    Tracks who (r.change place f) := by
  refine ⟨h.registered, fun p d => ?_⟩
  rw [mem_change, hf, ite_self]
  exact h.listed p d

/-- A driver that registers itself while none is registered is listed from then on. -/
theorem enroll (h : Tracks none r) (place : ι) (d : ω) :
    Tracks (some (d, place))
      { r.change place (·.register (.inr d)) with registered := some (.inr d, place) } := by
  refine ⟨rfl, fun p e => ?_⟩
  have hnot : .inr e ∉ (r.registries p).drivers := fun he => nomatch (h.listed p e).mp he
  show .inr e ∈ ((r.change place (·.register (.inr d))).registries p).drivers ↔ _
  rw [mem_change]
  by_cases hp : p = place
  · subst hp
    simp [mem_register, hnot, eq_comm]
  · simp [hp, hnot, Ne.symm hp]

/-- The driver that has registered itself is listed no more once it has left. -/
theorem withdraw {place : ι} {d : ω} (h : Tracks (some (d, place)) r) :
    Tracks none { r.change place (·.deregister (.inr d)) with registered := none } := by
  refine ⟨rfl, fun p e => ?_⟩
  have hlisted := h.listed p e
  show .inr e ∈ ((r.change place (·.deregister (.inr d))).registries p).drivers ↔ _
  rw [mem_change]
  by_cases hp : p = place
  · subst hp
    rw [if_pos rfl, mem_deregister, hlisted]
    simp [eq_comm]
  · rw [if_neg hp, hlisted]
    simp [Ne.symm hp]

end Tracks

namespace RegistryCall

theorem perform_enroll_of_none (h : r.registered = none) (place : ι) (d : ω) :
    (enroll place d).perform r =
      (.ok (), { r.change place (·.register (.inr d)) with
        registered := some (.inr d, place) }) := by
  simp only [perform, Registrations.enroll, h, Registrations.after]

/-- A driver cannot register itself while one is registered. -/
theorem perform_enroll_of_some (h : r.registered.isSome) (place : ι) (d : ω) :
    ∃ message, (enroll place d).perform r = (.error (.ofForeign .wrongState message), r) := by
  obtain ⟨e, he⟩ := Option.isSome_iff_exists.mp h
  unfold perform Registrations.enroll
  rw [he]
  exact ⟨_, rfl⟩

/-- No driver can leave if none has registered itself. -/
theorem perform_withdraw_of_none (h : r.registered = none) :
    ∃ message, (.withdraw : RegistryCall ι δ ω).perform r =
      (.error (.ofForeign .wrongState message), r) := by
  unfold perform Registrations.withdraw
  rw [h]
  exact ⟨_, rfl⟩

theorem perform_withdraw_of_some {place : ι} {d : δ ⊕ ω} (h : r.registered = some (d, place)) :
    (.withdraw : RegistryCall ι δ ω).perform r =
      (.ok (), { r.change place (·.deregister d) with registered := none }) := by
  simp only [perform, Registrations.withdraw, h, Registrations.after]

end RegistryCall

namespace Tracks

/-- A call moves the drivers as it says, and what has been said of the one that has registered itself
holds again. -/
theorem perform (h : Tracks who r) (c : RegistryCall ι δ ω) :
    (c.perform r).2.registries = (c.moves who).foldl Move.apply r.registries ∧
      Tracks (c.enrolled who) (c.perform r).2 := by
  cases c with
  | register place d =>
    have hkept := h.change place (f := (·.register (.inl d)))
      fun s e => by simp [mem_register]
    exact ⟨rfl, hkept⟩
  | deregister place d =>
    have hkept := h.change place (f := (·.deregister (.inl d)))
      fun s e => by simp [mem_deregister]
    exact ⟨rfl, hkept⟩
  | registerMany place ds =>
    have hkept := h.change place (f := (·.registerMany (ds.map .inl)))
      fun s e => by simp [mem_registerMany]
    have hjoin := foldl_join place (ds.map (Sum.inl : δ → δ ⊕ ω)) r.registries
    rw [List.map_map] at hjoin
    exact ⟨hjoin.symm, hkept⟩
  | enroll place d =>
    cases who with
    | none =>
      rw [RegistryCall.perform_enroll_of_none h.registered]
      exact ⟨rfl, h.enroll place d⟩
    | some e =>
      have hsome : r.registered.isSome := by rw [h.registered]; rfl
      obtain ⟨message, hrefused⟩ := RegistryCall.perform_enroll_of_some hsome place d
      rw [hrefused]
      exact ⟨rfl, h⟩
  | withdraw =>
    cases who with
    | none =>
      obtain ⟨message, hrefused⟩ := RegistryCall.perform_withdraw_of_none (δ := δ) h.registered
      rw [hrefused]
      exact ⟨rfl, h⟩
    | some e =>
      rw [RegistryCall.perform_withdraw_of_some h.registered]
      exact ⟨rfl, h.withdraw⟩

theorem performAll (h : Tracks who r) (calls : List (RegistryCall ι δ ω)) :
    (RegistryCall.performAll r calls).registries =
        (RegistryCall.history who calls).foldl Move.apply r.registries ∧
      Tracks (calls.foldl RegistryCall.enrolled who) (RegistryCall.performAll r calls) := by
  induction calls generalizing who r with
  | nil => exact ⟨rfl, h⟩
  | cons c calls ih =>
    obtain ⟨hmoved, hnext⟩ := h.perform c
    obtain ⟨hrest, hlast⟩ := ih hnext
    rw [RegistryCall.history, List.foldl_append, ← hmoved]
    exact ⟨hrest, hlast⟩

end Tracks

/-! ## The registries after any calls -/

section

variable {μ : Type} {s : Registrations ι μ τ} {place : ι}

/-- What a change does at its place is all that it does. -/
theorem change_congr {f g : Registry μ τ → Registry μ τ}
    (h : f (s.registries place) = g (s.registries place)) : s.change place f = s.change place g := by
  have hregistries : (s.change place f).registries = (s.change place g).registries := by
    funext p
    show (if p = place then f (s.registries p) else _) = if p = place then g (s.registries p) else _
    by_cases hp : p = place
    · rw [if_pos hp, if_pos hp, hp, h]
    · rw [if_neg hp, if_neg hp]
  exact congrArg (Registrations.mk · s.registered) hregistries

theorem change_eq_self {f : Registry μ τ → Registry μ τ}
    (h : f (s.registries place) = s.registries place) : s.change place f = s := by
  rw [change_congr (g := id) h]
  have hregistries : (s.change place id).registries = s.registries := by
    funext p
    exact ite_self (s.registries p)
  exact congrArg (Registrations.mk · s.registered) hregistries

variable [DecidableEq μ] {r : Registry μ τ} {d : μ}

theorem register_of_mem (h : d ∈ r.drivers) : r.register d = r := if_pos h

theorem register_of_not_mem (h : d ∉ r.drivers) :
    r.register d = { r with drivers := r.drivers ++ [d] } := if_neg h

theorem deregister_of_not_mem (h : d ∉ r.drivers) : r.deregister d = r := by
  unfold Registry.deregister
  rw [List.filter_eq_self.mpr]
  intro e he
  exact decide_eq_true fun hed => h (hed ▸ he)

/-- A driver that is listed once is taken out from between the others. -/
theorem deregister_of_split {front back : List μ} (h : r.drivers = front ++ d :: back)
    (hnodup : r.drivers.Nodup) : r.deregister d = { r with drivers := front ++ back } := by
  unfold Registry.deregister
  rw [h, List.nodup_middle, List.nodup_cons, List.mem_append, not_or] at hnodup
  have hkept : ∀ l : List μ, d ∉ l → l.filter (· ≠ d) = l := by
    intro l hl
    refine List.filter_eq_self.mpr fun e he => ?_
    exact decide_eq_true fun hed => hl (hed ▸ he)
  rw [h, List.filter_append, List.filter_cons_of_neg (by simp), hkept front hnodup.1.1,
    hkept back hnodup.1.2]

end

/-- Registries without drivers. -/
def Registrations.vacant {μ : Type} (limit : ι → τ) : Registrations ι μ τ where
  registries place := { loginTimeout := limit place }

/-- **Registries list who is registered, in the order in which they came.** After any calls on any
number of registries that were empty at first:

* each registry lists the drivers that are there, each once, in the order of the moves by which they
  have come;
* registering a driver that is there already changes nothing, and any other one is put at the end;
* deregistering a driver takes it out of the list and leaves the others where they are, and
  deregistering one that is not there changes nothing;
* a driver has registered itself, going by the mark, exactly if one of these is listed; it is the one
  that has done so last, it is listed where it has done so, and no other one is listed anywhere;
* a driver that registers itself while one is registered, or is to leave while none is, gets an error,
  and nothing changes; otherwise it gets none. -/
theorem Registrations.listed_in_order (limit : ι → τ) (calls : List (RegistryCall ι δ ω)) :
    let r := RegistryCall.performAll (.vacant limit) calls
    (∀ place, InOrder place (RegistryCall.history none calls) (r.registries place).drivers) ∧
    (∀ place d,
      (.inl d ∈ (r.registries place).drivers →
        (RegistryCall.register place d).perform r = (.ok (), r)) ∧
      (.inl d ∉ (r.registries place).drivers →
        (RegistryCall.register place d).perform r =
          (.ok (), r.change place fun s => { s with drivers := s.drivers ++ [.inl d] }))) ∧
    (∀ place d,
      (∀ front back, (r.registries place).drivers = front ++ .inl d :: back →
        (RegistryCall.deregister place d).perform r =
          (.ok (), r.change place fun s => { s with drivers := front ++ back })) ∧
      (.inl d ∉ (r.registries place).drivers →
        (RegistryCall.deregister place d).perform r = (.ok (), r))) ∧
    (r.isRegistered = true ↔ ∃ place d, .inr d ∈ (r.registries place).drivers) ∧
    (∀ place d, .inr d ∈ (r.registries place).drivers ↔
      calls.foldl RegistryCall.enrolled none = some (d, place)) ∧
    (∀ place d, if r.isRegistered then
        ∃ message, (RegistryCall.enroll place d).perform r =
          (.error (.ofForeign .wrongState message), r)
      else ((RegistryCall.enroll place d).perform r).1 = .ok ()) ∧
    (if r.isRegistered then (RegistryCall.withdraw.perform r).1 = .ok ()
      else ∃ message, RegistryCall.withdraw.perform r =
        (.error (.ofForeign .wrongState message), r)) := by
  intro r
  have hstart : Tracks none (vacant limit : Registrations ι (δ ⊕ ω) τ) := ⟨rfl, by simp [vacant]⟩
  obtain ⟨hmoved, htracks⟩ := hstart.performAll calls
  have horder : ∀ place, InOrder place (RegistryCall.history none calls)
      (r.registries place).drivers := by
    intro place
    rw [hmoved]
    exact inOrder_moved rfl _
  have hmark : r.isRegistered = (calls.foldl RegistryCall.enrolled none).isSome := by
    show r.registered.isSome = _
    rw [htracks.registered, Option.isSome_map]
  refine ⟨horder, ?_, ?_, ?_, htracks.listed, ?_, ?_⟩
  · intro place d
    constructor
    · intro hd
      exact congrArg _ (change_eq_self (register_of_mem hd))
    · intro hd
      exact congrArg _ (change_congr (register_of_not_mem hd))
  · intro place d
    constructor
    · intro front back hsplit
      exact congrArg _ (change_congr (deregister_of_split hsplit (horder place).nodup))
    · intro hd
      exact congrArg _ (change_eq_self (deregister_of_not_mem hd))
  · rw [hmark, Option.isSome_iff_exists]
    constructor
    · rintro ⟨⟨d, place⟩, hwho⟩
      exact ⟨place, d, (htracks.listed place d).mpr hwho⟩
    · rintro ⟨place, d, hd⟩
      exact ⟨_, (htracks.listed place d).mp hd⟩
  · intro place d
    split
    · next hsome => exact RegistryCall.perform_enroll_of_some hsome place d
    · next hnone =>
      rw [RegistryCall.perform_enroll_of_none (Option.not_isSome_iff_eq_none.mp hnone)]
  · split
    · next hsome =>
      obtain ⟨⟨d, place⟩, he⟩ := Option.isSome_iff_exists.mp hsome
      rw [RegistryCall.perform_withdraw_of_some he]
    · next hnone =>
      exact RegistryCall.perform_withdraw_of_none (Option.not_isSome_iff_eq_none.mp hnone)

/-- A driver that is registered once more keeps its place, and goes to the end when it comes back. -/
example :
    let r : Registrations Bool (Nat ⊕ Nat) Nat := RegistryCall.performAll (.vacant fun _ => 0)
      [.registerMany true [1, 2, 1], .enroll true 7, .register true 1, .enroll false 8,
       .deregister true 1, .register true 1]
    (r.registries true).drivers = [.inl 2, .inr 7, .inl 1] ∧ (r.registries false).drivers = [] := by
  decide

end ClusterConnect
