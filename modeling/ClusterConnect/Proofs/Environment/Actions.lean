import ClusterConnect.Link
import Mathlib.Order.Defs.Unbundled

/-!
# Actions and what they do to a state

An action is put together from smaller ones, and so is what can be said about it. Some ways of
speaking about an action are carried along here, from the basic actions to whole procedures.

* `Act.failed_bind_iff`: where the failure of two actions comes from.
* `Act.Within`: the action leads only where a relation does. A relation that says "this part of the
  state stays" or "that part only grows" is kept by every action whose steps keep it.
* `Act.Respects`: from states that a relation does not tell apart, the action gives the same outcome
  and leads to states that the relation does not tell apart.
* `Act.Keeps`: the action does not lose what holds of the state that it starts from.
* `Environment.log_eq`: putting a record into the log leaves all but four fields as they are.
  `log_withFiles`: the files have no part in the others.
* `Environment.Quiet`: what has to do with links stays, and so does the mode. Whatever only prints
  or logs is quiet (`quiet_warn`, `quiet_say`, `quiet_configureLogging`).
-/

namespace ClusterConnect

namespace Act

variable {σ α β : Type} {R S T : σ → σ → Prop}

/-- Many actions after each other: the last of them start from where the first of them have led. -/
theorem runFrom_forM_append_of_ok {g : β → Act σ PUnit} {xs : List β} {s t : σ} {u : PUnit}
    (h : (xs.forM g).runFrom s = (.ok u, t)) (ys : List β) :
    ((xs ++ ys).forM g).runFrom s = (ys.forM g).runFrom t := by
  have happend : (xs ++ ys).forM g = xs.forM g >>= fun _ => ys.forM g := List.forM_append
  rw [happend, runFrom_bind_of_ok h]

/-! ## Where an action leads -/

/-- Wherever an action starts, `R` leads from there to where it ends, whether it fails or not. -/
def Within (R : σ → σ → Prop) (a : Act σ α) : Prop := ∀ s, R s (a.runFrom s).2

/-- Two actions after each other lead where `T` does, if that is where the first one leads when it
fails, and where both lead together. -/
theorem Within.seq {a : Act σ α} {k : α → Act σ β} (ha : Within R a) (hk : ∀ x, Within S (k x))
    (hfail : ∀ s t, R s t → T s t) (hgo : ∀ s t u, R s t → S t u → T s u) :
    Within T (a >>= k) := by
  intro s
  have hs := ha s
  rcases h : a.runFrom s with ⟨f | x, t⟩ <;> rw [h] at hs
  · rw [runFrom_bind_of_error h]
    exact hfail s t hs
  · rw [runFrom_bind_of_ok h]
    exact hgo s t _ hs (hk x t)

section

variable [IsPreorder σ R]

theorem Within.still {a : Act σ α} (h : ∀ s, (a.runFrom s).2 = s) : Within R a := fun s => by
  rw [h]
  exact Std.Refl.refl s

theorem within_pure (x : α) : Within R (pure x : Act σ α) := .still fun _ => rfl

theorem within_throw (f : Failure) : Within R (throw f : Act σ α) := .still fun _ => rfl

theorem within_get : Within R (get : Act σ σ) := .still fun _ => rfl

theorem Within.bind {a : Act σ α} {k : α → Act σ β} (ha : Within R a) (hk : ∀ x, Within R (k x)) :
    Within R (a >>= k) :=
  ha.seq hk (fun _ _ => id) fun _ _ _ => IsTrans.trans _ _ _

/-- An action that is preceded by another one on condition. -/
theorem Within.after {c : Prop} [Decidable c] {a : Act σ PUnit} {b : Act σ β} (ha : Within R a)
    (hb : Within R b) : Within R (if c then a >>= fun _ => b else b) := by
  split
  · exact ha.bind fun _ => hb
  · exact hb

end

theorem Within.outcome {a : Act σ α} (h : Within R a) : Within R a.outcome := h

theorem within_modify {f : σ → σ} (h : ∀ s, R s (f s)) : Within R (modify f : Act σ PUnit) := h

/-! ## What an action keeps -/

/-- If `P` holds of the first state, it holds of the second. -/
def Carries (P : σ → Prop) (s t : σ) : Prop := P s → P t

instance (P : σ → Prop) : IsPreorder σ (Carries P) where
  refl _ := id
  trans _ _ _ h h' := h' ∘ h

/-- An action does not lose `P`, whether it fails or not. -/
abbrev Keeps (P : σ → Prop) (a : Act σ α) : Prop := Within (Carries P) a

/-- An action on the second part keeps what holds of the two parts. -/
theorem Keeps.onSecond {ρ : Type} {P : σ → Prop} {Q : ρ → Prop} {a : Act ρ α} (h : Keeps Q a) :
    Keeps (fun s => P s.1 ∧ Q s.2) (onSecond a : Act (σ × ρ) α) :=
  fun s hs => ⟨hs.1, h s.2 hs.2⟩

/-- Where two actions lead of which the second one is done in any case. -/
theorem state_followedBy (a : Act σ α) (b : Act σ Unit) (s : σ) :
    ((a.followedBy b).runFrom s).2 = (b.runFrom (a.runFrom s).2).2 := by
  unfold followedBy
  rw [runFrom_bind_of_ok (runFrom_outcome a s), runFrom_bind]
  rcases b.runFrom (a.runFrom s).2 with ⟨f | u, t⟩ <;> rfl

/-! ## What an action can tell apart -/

/-- From states that `R` does not tell apart, an action gives the same outcome and leads to states
that `R` does not tell apart. -/
def Respects (R : σ → σ → Prop) (a : Act σ α) : Prop :=
  ∀ s t, R s t → (a.runFrom s).1 = (a.runFrom t).1 ∧ R (a.runFrom s).2 (a.runFrom t).2

theorem respects_pure (x : α) : Respects R (pure x : Act σ α) := fun _ _ h => ⟨rfl, h⟩

theorem respects_throw (f : Failure) : Respects R (throw f : Act σ α) := fun _ _ h => ⟨rfl, h⟩

theorem respects_modify {f : σ → σ} (h : ∀ s t, R s t → R (f s) (f t)) :
    Respects R (modify f : Act σ PUnit) := fun s t hst => ⟨rfl, h s t hst⟩

theorem Respects.bind {a : Act σ α} {k : α → Act σ β} (ha : Respects R a)
    (hk : ∀ x, Respects R (k x)) : Respects R (a >>= k) := by
  intro s t h
  obtain ⟨ho, hr⟩ := ha s t h
  rcases hs : a.runFrom s with ⟨f | x, s'⟩ <;> rcases ht : a.runFrom t with ⟨g | y, t'⟩ <;>
    rw [hs, ht] at ho hr
  · obtain rfl : f = g := Except.error.inj ho
    rw [runFrom_bind_of_error hs, runFrom_bind_of_error ht]
    exact ⟨rfl, hr⟩
  · exact absurd ho (by simp)
  · exact absurd ho (by simp)
  · obtain rfl : x = y := Except.ok.inj ho
    rw [runFrom_bind_of_ok hs, runFrom_bind_of_ok ht]
    exact hk x s' t' hr

/-- An action may look at its state if what it goes on with does not depend on more than `R` tells
apart. -/
theorem Respects.get_bind {k : σ → Act σ β} (h : ∀ s t, R s t → k s = k t)
    (hk : ∀ s, Respects R (k s)) : Respects R (get >>= k) := by
  intro s t hst
  rw [runFrom_bind_of_ok (runFrom_get s), runFrom_bind_of_ok (runFrom_get t), ← h s t hst]
  exact hk s s t hst

theorem Respects.outcome {a : Act σ α} (h : Respects R a) : Respects R a.outcome := by
  intro s t hst
  obtain ⟨ho, hr⟩ := h s t hst
  rw [runFrom_outcome, runFrom_outcome, ho]
  exact ⟨rfl, hr⟩

/-- An action on the second part can tell apart no more than the second parts differ. -/
theorem Respects.onSecond {ρ : Type} {P : σ → σ → Prop} {Q : ρ → ρ → Prop} {a : Act ρ α}
    (h : Respects Q a) :
    Respects (fun s t => P s.1 t.1 ∧ Q s.2 t.2) (onSecond a : Act (σ × ρ) α) := by
  intro s t hst
  obtain ⟨ho, hr⟩ := h s.2 t.2 hst.2
  exact ⟨ho, hst.1, hr⟩

theorem Respects.forM {g : β → Act σ PUnit} {xs : List β} (h : ∀ x ∈ xs, Respects R (g x)) :
    Respects R (xs.forM g) := by
  induction xs with
  | nil => exact respects_pure _
  | cons x xs ih =>
    exact (h x List.mem_cons_self).bind fun _ => ih fun y hy => h y (List.mem_cons_of_mem _ hy)

end Act

/-! ## The log -/

namespace Environment

variable {τ : Type}

theorem deliver_eq (env : Environment τ) (text : String) (h : LogHandler) :
    ∃ files errorOutput, env.deliver text h = { env with files, errorOutput } := by
  unfold deliver
  cases h.file with
  | none => exact ⟨env.files, _, rfl⟩
  | some location => exact ⟨_, env.errorOutput, rfl⟩

/-- What a record may change. -/
theorem log_eq (env : Environment τ) (level : Level) (name message : String) :
    ∃ logNames files errorOutput,
      env.log level name message = { env with logNames, files, errorOutput } := by
  have hall : ∀ (hs : List LogHandler) (text : String) (e : Environment τ), ∃ files errorOutput,
      hs.foldl (fun e h => e.deliver text h) e = { e with files, errorOutput } := by
    intro hs text
    induction hs with
    | nil => exact fun e => ⟨e.files, e.errorOutput, rfl⟩
    | cons h hs ih =>
      intro e
      obtain ⟨files, errorOutput, he⟩ := e.deliver_eq text h
      obtain ⟨files', errorOutput', hr⟩ := ih (e.deliver text h)
      exact ⟨files', errorOutput', by rw [List.foldl_cons, hr, he]⟩
  unfold log
  generalize (if Logging.covers env.logNames name then env.logging else {}) = logging
  obtain ⟨files, errorOutput, he⟩ := hall (logging.destinations level)
    (env.stamp ++ Logging.recordText level name message)
    { env with logNames := name :: env.logNames }
  dsimp only at he ⊢
  rw [he]
  cases logging.isShownBare level with
  | true => exact ⟨name :: env.logNames, files, _, rfl⟩
  | false => exact ⟨name :: env.logNames, files, errorOutput, rfl⟩

/-! ## Other files -/

/-- The environment with other files. -/
def withFiles (env : Environment τ) (files : FileTree) : Environment τ := { env with files }

theorem deliver_withFiles (env : Environment τ) (files : FileTree) (text : String) (h : LogHandler) :
    ∃ files', (env.withFiles files).deliver text h = (env.deliver text h).withFiles files' := by
  unfold deliver
  cases h.file with
  | none => exact ⟨files, rfl⟩
  | some location => exact ⟨_, rfl⟩

/-- What files there are makes no difference to a record in the log, except for these files. -/
theorem log_withFiles (env : Environment τ) (files : FileTree) (level : Level)
    (name message : String) :
    ∃ files', (env.withFiles files).log level name message =
      (env.log level name message).withFiles files' := by
  have hall : ∀ (hs : List LogHandler) (text : String) (e : Environment τ) (files : FileTree),
      ∃ files', hs.foldl (fun e h => e.deliver text h) (e.withFiles files) =
        (hs.foldl (fun e h => e.deliver text h) e).withFiles files' := by
    intro hs text
    induction hs with
    | nil => exact fun e files => ⟨files, rfl⟩
    | cons h hs ih =>
      intro e files
      obtain ⟨files', hdelivered⟩ := e.deliver_withFiles files text h
      obtain ⟨files'', hrest⟩ := ih (e.deliver text h) files'
      exact ⟨files'', by rw [List.foldl_cons, List.foldl_cons, hdelivered, hrest]⟩
  let logging : Logging := if Logging.covers env.logNames name then env.logging else {}
  let noted : Environment τ := { env with logNames := name :: env.logNames }
  let finish (e : Environment τ) := if logging.isShownBare level then e.complain message else e
  obtain ⟨files', hdelivered⟩ := hall (logging.destinations level)
    (env.stamp ++ Logging.recordText level name message) noted files
  have hfinished : (env.withFiles files).log level name message = finish _ :=
    congrArg finish hdelivered
  rw [hfinished]
  refine ⟨files', ?_⟩
  show finish _ = (finish _).withFiles files'
  dsimp only [finish]
  cases logging.isShownBare level <;> rfl

/-! ## What leaves the links alone -/

/-- Nothing that has to do with links has changed, nor has the mode. -/
structure Quiet (env env' : Environment τ) : Prop where
  events : env'.events = env.events
  links : env'.links = env.links
  openings : env'.openings = env.openings
  strict : env'.strict = env.strict

instance : IsPreorder (Environment τ) Quiet where
  refl _ := ⟨rfl, rfl, rfl, rfl⟩
  trans _ _ _ h h' := ⟨h'.events.trans h.events, h'.links.trans h.links,
    h'.openings.trans h.openings, h'.strict.trans h.strict⟩

end Environment

section

open Environment

variable {τ α : Type}

/-- An action has nothing to do with links. -/
abbrev IsQuiet (a : Doing τ α) : Prop := Act.Within Quiet a

theorem quiet_say (line : String) : IsQuiet (say line : Doing τ Unit) :=
  Act.within_modify fun _ => ⟨rfl, rfl, rfl, rfl⟩

theorem quiet_complain (line : String) : IsQuiet (complain line : Doing τ Unit) :=
  Act.within_modify fun _ => ⟨rfl, rfl, rfl, rfl⟩

theorem quiet_warn (part message : String) : IsQuiet (warn part message : Doing τ Unit) := by
  refine Act.within_modify fun env => ?_
  obtain ⟨logNames, files, errorOutput, h⟩ :=
    env.log_eq Level.warning (Logging.rootName ++ "." ++ part) message
  rw [h]
  exact ⟨rfl, rfl, rfl, rfl⟩

theorem quiet_warnUnreadable (part : String) (p : Property) (text : Option String) :
    IsQuiet (warnUnreadable part p text : Doing τ Unit) := by
  cases text with
  | some s => exact quiet_warn part _
  | none => exact Act.within_pure _

theorem quiet_configureLogging (props : Properties) :
    IsQuiet (configureLogging props : Doing τ Unit) := by
  intro env
  unfold configureLogging
  rw [Act.runFrom_bind_of_ok (Act.runFrom_get env)]
  dsimp only
  rw [Act.runFrom_bind_of_ok (Act.runFrom_set _ env)]
  split <;> split <;> exact ⟨rfl, rfl, rfl, rfl⟩

end

end ClusterConnect
