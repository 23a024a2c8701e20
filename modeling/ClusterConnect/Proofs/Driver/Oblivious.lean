import ClusterConnect.Proofs.Driver.Course

/-!
# Making a connection does not depend on who does it, or when

A worker that makes a connection in the middle of an attempt finds the clock elsewhere than its
caller would have, and acts on another side. Neither makes a difference to what it does.

* `dealings`, `Environment.timeless`: what is left of a trace and of a state if the clock, the sides
  and the waits of an attempt are left out of account; `Same`: states that agree in the rest.
* `Oblivious`: an action that cannot tell such states apart. `oblivious_openLink`,
  `oblivious_closeLink`, `oblivious_makeConnection`, `oblivious_dispose`.
-/

namespace ClusterConnect

variable {τ : Type}

/-! ## What is left out of account -/

/-- An event as it looks to someone who cannot tell the sides of an attempt apart and does not see
its waits. -/
def Event.dealing? : Event τ → Option (Event τ)
  | .requested r _ => some (.requested r .caller)
  | .waited _ => none
  | e => some e

/-- What the driver has done to the outside, whichever side has done it. -/
def dealings (es : List (Event τ)) : List (Event τ) := es.filterMap Event.dealing?

theorem dealings_concat (es : List (Event τ)) (e : Event τ) :
    dealings (es ++ [e]) = dealings es ++ e.dealing?.toList := by
  unfold dealings
  rw [List.filterMap_append]
  cases h : e.dealing? <;> simp [h]

section

variable [Timeline τ]

namespace Environment

/-- A state without what depends on who acts in an attempt, and when. -/
def timeless (env : Environment τ) : Environment τ :=
  { env with now := Timeline.zero, side := .caller, late := false, events := dealings env.events }

@[simp] theorem timeless_note (env : Environment τ) (e : Event τ) :
    (env.note e).timeless =
      { env.timeless with events := env.timeless.events ++ e.dealing?.toList } := by
  unfold timeless note
  simp only [dealings_concat]

@[simp] theorem timeless_elapse (env : Environment τ) (span : Option τ) :
    (env.elapse span).timeless = env.timeless := by
  cases span <;> rfl

@[simp] theorem timeless_changeLink (env : Environment τ) (id : LinkId) (f : Link τ → Link τ) :
    (env.changeLink id f).timeless = env.timeless.changeLink id f := rfl

@[simp] theorem timeless_addLink (env : Environment τ) (link : Link τ) :
    (env.addLink link).timeless = env.timeless.addLink link := rfl

theorem timeless_deliver (env : Environment τ) (text : String) (h : LogHandler) :
    (env.deliver text h).timeless = env.timeless.deliver text h := by
  unfold deliver
  cases h.file <;> rfl

@[simp] theorem timeless_log (env : Environment τ) (level : Level) (name message : String) :
    (env.log level name message).timeless = env.timeless.log level name message := by
  have hall : ∀ (hs : List LogHandler) (text : String) (e : Environment τ),
      (hs.foldl (fun e h => e.deliver text h) e).timeless =
        hs.foldl (fun e h => e.deliver text h) e.timeless := by
    intro hs text
    induction hs with
    | nil => exact fun e => rfl
    | cons h hs ih =>
      intro e
      rw [List.foldl_cons, List.foldl_cons, ih, timeless_deliver]
  unfold log
  have hlogging : (if Logging.covers env.timeless.logNames name then env.timeless.logging else {}) =
      (if Logging.covers env.logNames name then env.logging else {} : Logging) := rfl
  rw [hlogging]
  generalize (if Logging.covers env.logNames name then env.logging else {} : Logging) = logging
  dsimp only
  cases logging.isShownBare level with
  | true => exact congrArg (Environment.complain · message) (hall _ _ _)
  | false => exact hall _ _ _

end Environment

/-- States that agree but for the clock, the sides and the waits of an attempt. -/
def Same (env env' : Environment τ) : Prop := env.timeless = env'.timeless

namespace Same

variable {env env' env'' : Environment τ}

theorem refl (env : Environment τ) : Same env env := Eq.refl _

theorem trans (h : Same env env') (h' : Same env' env'') : Same env env'' := Eq.trans h h'

theorem symm (h : Same env env') : Same env' env := Eq.symm h

/-- States that agree have in common whatever can be read off without the rest. -/
theorem read {α : Type} (f : Environment τ → α) (h : Same env env')
    (hf : ∀ e : Environment τ, f e.timeless = f e) : f env = f env' := by
  rw [← hf env, ← hf env', show env.timeless = env'.timeless from h]

theorem links (h : Same env env') : env.links = env'.links := h.read _ fun _ => rfl

theorem openings (h : Same env env') : env.openings = env'.openings := h.read _ fun _ => rfl

theorem refusal (h : Same env env') : env.refusal = env'.refusal := h.read _ fun _ => rfl

theorem strict (h : Same env env') : env.strict = env'.strict := h.read _ fun _ => rfl

theorem dealings (h : Same env env') :
    ClusterConnect.dealings env.events = ClusterConnect.dealings env'.events :=
  (congrArg Environment.events h : env.timeless.events = env'.timeless.events)

theorem note_waited (env : Environment τ) (limit : Option τ) :
    Same env (env.note (.waited limit)) := by
  unfold Same
  rw [Environment.timeless_note]
  show _ = { env.timeless with events := env.timeless.events ++ [] }
  rw [List.append_nil]

theorem elapse (env : Environment τ) (span : Option τ) : Same env (env.elapse span) :=
  (env.timeless_elapse span).symm

theorem onSide (env : Environment τ) (side : Side) : Same env { env with side } := rfl

end Same

/-! ## Oblivious actions -/

/-- An action that cannot tell states apart that agree but for the clock, the sides and the waits of
an attempt. -/
abbrev Oblivious {α : Type} (a : Doing τ α) : Prop := Act.Respects Same a

section

open Act

theorem oblivious_modify {f : Environment τ → Environment τ} (g : Environment τ → Environment τ)
    (h : ∀ env, (f env).timeless = g env.timeless) : Oblivious (modify f : Doing τ PUnit) := by
  refine respects_modify fun env env' hsame => ?_
  unfold Same
  rw [h, h, show env.timeless = env'.timeless from hsame]

theorem oblivious_record (e : Event τ) : Oblivious (record e) :=
  oblivious_modify (fun env => { env with events := env.events ++ e.dealing?.toList })
    fun env => env.timeless_note e

theorem oblivious_pass (span : Option τ) : Oblivious (pass span) :=
  oblivious_modify id fun env => env.timeless_elapse span

theorem oblivious_warn (part message : String) : Oblivious (τ := τ) (warn part message) :=
  oblivious_modify (·.log Level.warning (Logging.rootName ++ "." ++ part) message)
    fun env => env.timeless_log _ _ _

theorem oblivious_warnUnreadable (part : String) (p : Property) (text : Option String) :
    Oblivious (τ := τ) (warnUnreadable part p text) := by
  cases text with
  | some s => exact oblivious_warn _ _
  | none => exact respects_pure ()

theorem oblivious_changeLink (id : LinkId) (f : Link τ → Link τ) : Oblivious (changeLink id f) :=
  oblivious_modify (·.changeLink id f) fun env => env.timeless_changeLink id f

theorem oblivious_linkAt (id : LinkId) : Oblivious (τ := τ) (linkAt id) := by
  unfold linkAt
  refine Respects.get_bind (fun env env' h => by rw [h.links]) fun env => ?_
  cases env.links[id]? with
  | some link => exact respects_pure link
  | none => exact respects_throw _

/-! ### Closing -/

theorem oblivious_endSession (id : LinkId) : Oblivious (τ := τ) (endSession id) := by
  unfold endSession
  refine (oblivious_record _).bind fun _ => (oblivious_linkAt id).bind fun link => ?_
  refine (oblivious_pass _).bind fun _ => ?_
  cases link.session.closing.failure with
  | some f => exact respects_throw f
  | none => exact respects_pure ()

theorem oblivious_closeLink (id : LinkId) : Oblivious (τ := τ) (closeLink id) := by
  unfold closeLink
  refine (oblivious_linkAt id).bind fun link => ?_
  have hend := oblivious_endSession (τ := τ) id
  cases link.managed with
  | false => exact (oblivious_changeLink id _).bind fun _ => hend
  | true =>
    cases link.released with
    | true => exact respects_pure ()
    | false =>
      refine (oblivious_changeLink id _).bind fun _ => hend.outcome.bind fun r => ?_
      cases r with
      | ok u => exact oblivious_changeLink id _
      | error f =>
        dsimp only
        split
        · exact respects_throw f
        · exact oblivious_record _

theorem oblivious_closeCurrent (link : Option LinkId) : Oblivious (τ := τ) (closeCurrent link) := by
  cases link with
  | some id => exact oblivious_closeLink id
  | none => exact respects_throw _

theorem oblivious_dispose (c : Connection τ) : Oblivious (Connection.dispose c) := by
  intro env env' h
  cases c with
  | direct id => exact oblivious_closeLink id env env' h
  | failover handle =>
    rw [runFrom_dispose_failover, runFrom_dispose_failover]
    split
    · exact ⟨rfl, h⟩
    · exact oblivious_closeCurrent handle.current env env' h

/-! ### Opening -/

theorem oblivious_nextOpening : Oblivious (nextOpening (τ := τ)) := by
  intro env env' h
  cases hopenings : env.openings with
  | nil =>
    rw [runFrom_nextOpening_nil hopenings, runFrom_nextOpening_nil (h.openings ▸ hopenings)]
    exact ⟨by rw [h.refusal], h⟩
  | cons o rest =>
    rw [runFrom_nextOpening_cons hopenings, runFrom_nextOpening_cons (h.openings ▸ hopenings)]
    refine ⟨rfl, ?_⟩
    unfold Same
    rw [Environment.timeless_elapse, Environment.timeless_elapse]
    -- what has become of the deadline is left out of account
    exact congrArg (fun e : Environment τ => { e with openings := rest }) h

theorem oblivious_enlist (managed : Bool) (r : OpenResult τ) : Oblivious (enlist managed r) := by
  cases r with
  | failed f => exact respects_throw f
  | nothing => exact respects_pure none
  | opened session =>
    intro env env' h
    rw [runFrom_enlist_opened, runFrom_enlist_opened, h.links]
    refine ⟨rfl, ?_⟩
    unfold Same
    rw [Environment.timeless_note, Environment.timeless_note, Environment.timeless_addLink,
      Environment.timeless_addLink, show env.timeless = env'.timeless from h]

theorem oblivious_answer (managed : Bool) :
    Oblivious (τ := τ) (nextOpening >>= enlist managed) :=
  oblivious_nextOpening.bind (oblivious_enlist managed)

theorem oblivious_openLink (c : Connector) (r : OpenRequest) :
    Oblivious (τ := τ) (openLink c r) := by
  cases c with
  | builtin =>
    refine (oblivious_warnUnreadable _ _ _).bind fun _ => (oblivious_record _).bind fun _ => ?_
    refine (oblivious_answer true).outcome.bind fun outcome => ?_
    cases outcome with
    | ok link => exact respects_pure link
    | error f => exact respects_throw _
  | custom =>
    -- the side shows in the request, and nowhere else
    intro env env' h
    have hasked : Same (env.note (.requested r env.side)) (env'.note (.requested r env'.side)) := by
      unfold Same
      rw [Environment.timeless_note, Environment.timeless_note,
        show env.timeless = env'.timeless from h]
      rfl
    have hrun : ∀ env : Environment τ, (openLink .custom r).runFrom env =
        (nextOpening >>= enlist false).runFrom (env.note (.requested r env.side)) := fun _ => rfl
    rw [hrun, hrun]
    exact oblivious_answer false _ _ hasked

theorem oblivious_connect (s : Supervisor τ) : Oblivious (FailoverHandle.connect s) := by
  unfold FailoverHandle.connect
  refine Respects.bind ?_ fun _ => respects_pure _
  cases s with
  | manager m => exact oblivious_openLink _ _
  | external enabled => exact oblivious_answer false

theorem oblivious_makeClusterConnection (d : Driver) (url : String) (props : Properties) :
    Oblivious (τ := τ) (d.makeClusterConnection url props) := by
  unfold Driver.makeClusterConnection Driver.supervisor
  cases props.endpoints with
  | error f => exact respects_throw _
  | ok endpoints =>
    cases endpoints with
    | nil => exact respects_pure none
    | cons endpoint rest =>
      refine Respects.bind ?_ fun s => (oblivious_connect s).bind fun h => ?_
      · cases d.externalManagers with
        | none => exact respects_pure _
        | some enabled => exact (oblivious_record _).bind fun _ => respects_pure _
      · split <;> exact respects_pure _

/-- Making a connection does not depend on who does it, or when. -/
theorem oblivious_makeConnection (d : Driver) (url : Option String) (props : Properties) :
    Oblivious (τ := τ) (d.makeConnection url props) := by
  unfold Driver.makeConnection
  cases url with
  | none => exact respects_throw _
  | some url =>
    dsimp only
    split
    · exact oblivious_makeClusterConnection d url props
    · refine Respects.get_bind (fun env env' h => by rw [h.strict]) fun env => ?_
      split
      · exact respects_pure none
      · cases props.endpoints with
        | error f => exact respects_throw _
        | ok endpoints => exact (oblivious_openLink _ _).bind fun _ => respects_pure _

end

end

end ClusterConnect
