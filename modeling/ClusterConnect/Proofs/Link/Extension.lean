import ClusterConnect.Proofs.Failover.Reconnection
import ClusterConnect.Proofs.Link.Account

/-!
# What is added to the record

Two parts of the environment are a record of what has been done: the events, and what has been
printed. Nothing is taken out of them again. And the only events in which a connector is asked for a
link come from attempts to open one, so that whoever knows all of these attempts knows all requests.

* `Extends`: both parts have been added to, and the requests among the new events are of a given kind.
* `extends_openLink`: an attempt to open a link adds its own request and no other.
* `within_closeLink`: where closing a link leads, going by its steps. `extends_send`,
  `extends_closeLink`: the other uses of links add no request.
* `FailoverHandle.extends_call`, `FailoverHandle.extends_close`: what is done with a handle adds
  requests of its manager only, however often the link is replaced.
-/

namespace ClusterConnect

open Act Environment

variable {τ : Type}

/-- Events have been added, and the requests among them are of a given kind. Output has been added,
too. -/
structure Extends (P : Event τ → Prop) (env env' : Environment τ) : Prop where
  events : ∃ new, env'.events = env.events ++ new ∧ ∀ e ∈ new, e.asks = true → P e
  output : ∃ more, env'.output = env.output ++ more

namespace Extends

variable {P : Event τ → Prop} {env env' : Environment τ}

/-- The record is as it was. -/
theorem of_eq (hevents : env'.events = env.events) (houtput : env'.output = env.output) :
    Extends P env env' where
  events := ⟨[], by rw [hevents, List.append_nil], by simp⟩
  output := ⟨"", by rw [houtput, String.append_empty]⟩

instance : IsPreorder (Environment τ) (Extends P) where
  refl _ := .of_eq rfl rfl
  trans := by
    rintro _ _ _ ⟨⟨new, hnew, hrequests⟩, more, hmore⟩ ⟨⟨new', hnew', hrequests'⟩, more', hmore'⟩
    refine ⟨⟨new ++ new', by rw [hnew', hnew, List.append_assoc], ?_⟩,
      more ++ more', by rw [hmore', hmore, String.append_assoc]⟩
    intro e he
    rcases List.mem_append.mp he with he | he
    · exact hrequests e he
    · exact hrequests' e he

theorem note {e : Event τ} (h : e.asks = true → P e) : Extends P env (env.note e) where
  events := by
    refine ⟨[e], rfl, fun e' he' hasks => ?_⟩
    obtain rfl := List.mem_singleton.mp he'
    exact h hasks
  output := ⟨"", String.append_empty.symm⟩

theorem print (line : String) : Extends P env (env.print line) where
  events := ⟨[], by rw [List.append_nil]; rfl, by simp⟩
  output := ⟨line ++ "\n", String.append_assoc⟩

end Extends

/-! ## Closing a link -/

section

variable {R : Environment τ → Environment τ → Prop} [IsPreorder (Environment τ) R] [Timeline τ]

/-- Closing a link leads nowhere but where its marks, a delay and the two events lead that may be
seen of it. -/
theorem within_closeLink (hchange : ∀ id f, Within R (changeLink id f))
    (hpass : ∀ span, Within R (pass span)) (hclosed : ∀ id, Within R (record (.closed id)))
    (hdropped : ∀ id, Within R (record (.terminated id))) (id : LinkId) :
    Within R (closeLink id) := by
  have hend : Within R (endSession id) := by
    unfold endSession
    refine (hclosed id).bind fun _ => (within_linkAt id).bind fun link => ?_
    refine (hpass _).bind fun _ => ?_
    cases link.session.closing.failure with
    | some f => exact within_throw f
    | none => exact within_pure _
  unfold closeLink
  refine (within_linkAt id).bind fun link => ?_
  split
  · split
    · exact within_pure _
    · refine (hchange id _).bind fun _ => hend.outcome.bind fun r => ?_
      cases r with
      | ok _ => exact hchange id _
      | error f =>
        dsimp only
        split
        · exact within_throw f
        · exact hdropped id
  · exact (hchange id _).bind fun _ => hend

end

section

variable {P : Event τ → Prop}

/-! ## Actions without requests -/

theorem extends_record {e : Event τ} (h : e.asks = true → P e) : Within (Extends P) (record e) :=
  within_modify fun _ => .note h

theorem extends_complain (line : String) : Within (Extends P) (complain line) :=
  within_modify fun _ => .of_eq rfl rfl

theorem extends_warn (part message : String) : Within (Extends P) (warn part message) := by
  refine within_modify fun env => ?_
  obtain ⟨logNames, files, errorOutput, h⟩ :=
    env.log_eq Level.warning (Logging.rootName ++ "." ++ part) message
  rw [h]
  exact .of_eq rfl rfl

theorem extends_warnUnreadable (part : String) (p : Property) (text : Option String) :
    Within (Extends P) (warnUnreadable part p text) := by
  cases text with
  | some s => exact extends_warn part _
  | none => exact within_pure _

theorem extends_configureLogging (props : Properties) :
    Within (Extends P) (configureLogging props) := by
  intro env
  unfold configureLogging
  rw [runFrom_bind_of_ok (runFrom_get env)]
  dsimp only
  rw [runFrom_bind_of_ok (runFrom_set _ env)]
  split <;> split <;> exact .of_eq rfl rfl

theorem extends_changeLink (id : LinkId) (f : Link τ → Link τ) :
    Within (Extends P) (changeLink id f) :=
  within_modify fun _ => .of_eq rfl rfl

variable [Timeline τ]

theorem extends_pass (span : Option τ) : Within (Extends P) (pass span) :=
  within_modify fun env => by cases span <;> exact .of_eq rfl rfl

theorem extends_sleep (span : τ) : Within (Extends P) (sleep span) :=
  (extends_record nofun).bind fun _ => extends_pass (some span)

theorem extends_transmit (id : LinkId) (s : Statement) : Within (Extends P) (transmit id s) := by
  unfold transmit
  refine (extends_record nofun).bind fun _ => (within_linkAt id).bind fun link => ?_
  refine (extends_changeLink id _).bind fun _ => (extends_pass _).bind fun _ => ?_
  cases (link.session.replies.headD {}).response with
  | standard => exact within_pure _
  | value v => exact within_pure v
  | failed f => exact within_throw f

theorem extends_send (id : LinkId) (s : Statement) : Within (Extends P) (send id s) :=
  within_send (extends_transmit id s)

theorem extends_closeLink (id : LinkId) : Within (Extends P) (closeLink id) :=
  within_closeLink extends_changeLink extends_pass (fun _ => extends_record nofun)
    (fun _ => extends_record nofun) id

theorem extends_sendOver (link : Option LinkId) (s : Statement) :
    Within (Extends P) (sendOver link s) := by
  cases link with
  | some id => exact extends_send id s
  | none => exact within_throw _

theorem extends_closeCurrent (link : Option LinkId) : Within (Extends P) (closeCurrent link) := by
  cases link with
  | some id => exact extends_closeLink id
  | none => exact within_throw _

/-! ## Requests -/

theorem extends_nextOpening : Within (Extends P) nextOpening := by
  intro env
  cases hopenings : env.openings with
  | nil =>
    rw [runFrom_nextOpening_nil hopenings]
    exact Std.Refl.refl env
  | cons o rest =>
    rw [runFrom_nextOpening_cons hopenings]
    cases o.delay <;> exact .of_eq rfl rfl

omit [Timeline τ] in
theorem extends_enlist (managed : Bool) (r : OpenResult τ) :
    Within (Extends P) (enlist managed r) := by
  cases r with
  | opened session =>
    intro env
    exact ⟨⟨[.opened env.links.length], rfl, by simp [Event.asks]⟩, "", String.append_empty.symm⟩
  | failed f => exact within_throw f
  | nothing => exact within_pure none

/-- An attempt to open a link adds its request, and nothing else of this kind. -/
theorem extends_openLink {c : Connector} {r : OpenRequest} (h : ∀ side, P (c.ask r side)) :
    Within (Extends P) (openLink c r) := by
  have hanswer : ∀ managed, Within (Extends P) (nextOpening >>= enlist managed) := fun managed =>
    extends_nextOpening.bind (extends_enlist managed)
  cases c with
  | builtin =>
    show Within (Extends P) (dial r)
    unfold dial
    refine (extends_warnUnreadable _ _ _).bind fun _ => ?_
    refine (extends_record fun _ => h .caller).bind fun _ => ?_
    refine (hanswer true).outcome.bind fun answer => ?_
    cases answer with
    | ok link => exact within_pure link
    | error f => exact within_throw _
  | custom =>
    refine within_get.bind fun env => ?_
    exact (extends_record fun _ => h env.side).bind fun _ => hanswer false

/-- A manager asks for its own endpoint with its own properties only. -/
theorem Manager.extends_connect {m : Manager τ} (h : ∀ side, P (m.ask side)) :
    Within (Extends P) m.connect := extends_openLink h

/-! ## Handles -/

namespace FailoverHandle

variable {m : Manager τ} {s : FailoverHandle τ × Environment τ}

/-- Whatever becomes of a statement on a handle, no one is asked for a link but by its manager. -/
theorem extends_call (hm : s.1.supervisor = .manager m) (h : ∀ side, P (m.ask side))
    (q : Statement) :
    ((call q).runFrom s).2.1.supervisor = .manager m ∧ Extends P s.2 ((call q).runFrom s).2.2 := by
  have hreplace : ∀ stale cause, Within (Extends P) (s.1.supervisor.replace stale cause) := by
    rw [hm]
    exact Manager.within_replace extends_warn extends_closeLink (Manager.extends_connect h)
      extends_sleep
  rw [← hm]
  exact within_call extends_sendOver hreplace q

theorem extends_close : Extends P s.2 (close.runFrom s).2.2 :=
  (within_close extends_closeCurrent).2

end FailoverHandle

end

end ClusterConnect
