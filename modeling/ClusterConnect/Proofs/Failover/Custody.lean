import ClusterConnect.Failover
import ClusterConnect.Proofs.Link.Effects

/-!
# One link after the other

A manager replaces a lost link by another one. Whatever comes of its attempts to close and to open
links, it never has two of them to look after.

* `Orderly`: the grammar of the traces of a manager. No link is asked for while another is held.
* `Custody`: an orderly trace together with what it says about the links and the link in use.
  Whatever is calm keeps it (`Custody.calm`), and so does closing the link in use
  (`Custody.closeLink`), which leaves nothing held even if it fails.
* `Vacant`: custody with nothing held, which is what it takes to ask for another link.
* `Manager.replaced_retry`, `Manager.replaced_replace`: what a replacement leads to, by induction on
  the number of attempts.
-/

namespace ClusterConnect

variable {τ : Type}

/-! ## Orderly traces -/

/-- A trace in which links are asked for only when none is held, and handed over only in answer to
that, each with a new number. -/
inductive Orderly : List (Event τ) → Prop
  | nil : Orderly []
  | calm {es : List (Event τ)} {e : Event τ} (h : Orderly es) (he : e.isCalm = true) :
      Orderly (es ++ [e])
  | refused {es : List (Event τ)} {ask : Event τ} (h : Orderly es) (hheld : held es = [])
      (hask : ask.asks = true) : Orderly (es ++ [ask])
  | granted {es : List (Event τ)} {ask : Event τ} {id : LinkId} (h : Orderly es)
      (hheld : held es = []) (hask : ask.asks = true) (hnew : ∀ id' ∈ opened es, id' < id) :
      Orderly (es ++ [ask] ++ [.opened id])

namespace Orderly

variable {es front : List (Event τ)} {e : Event τ} {id : LinkId}

theorem append {new : List (Event τ)} (h : Orderly es) (hnew : ∀ e ∈ new, e.isCalm = true) :
    Orderly (es ++ new) := by
  induction new generalizing es with
  | nil => rwa [List.append_nil]
  | cons e new ih =>
    have hfirst : Orderly (es ++ [e]) := h.calm (hnew e List.mem_cons_self)
    rw [List.append_cons]
    exact ih hfirst fun e' he' => hnew e' (List.mem_cons_of_mem e he')

omit e in
theorem concat_prefix_concat_iff {e e' : Event τ} :
    front ++ [e] <+: es ++ [e'] ↔ front = es ∧ e = e' ∨ front ++ [e] <+: es := by
  rw [List.prefix_concat_iff]
  simp

/-- Each event is calm, or asks with nothing held, or hands over what was asked for just before. -/
theorem event_cases (h : Orderly es) (hfront : front ++ [e] <+: es) :
    e.isCalm = true ∨ (e.asks = true ∧ held front = []) ∨
      ∃ before ask id, front = before ++ [ask] ∧ ask.asks = true ∧ e = .opened id := by
  induction h with
  | nil => simp at hfront
  | calm _ hcalm ih =>
    rcases concat_prefix_concat_iff.mp hfront with ⟨rfl, rfl⟩ | hfront
    · exact .inl hcalm
    · exact ih hfront
  | refused _ hheld hask ih =>
    rcases concat_prefix_concat_iff.mp hfront with ⟨rfl, rfl⟩ | hfront
    · exact .inr (.inl ⟨hask, hheld⟩)
    · exact ih hfront
  | granted _ hheld hask _ ih =>
    rcases concat_prefix_concat_iff.mp hfront with ⟨rfl, rfl⟩ | hfront
    · exact .inr (.inr ⟨_, _, _, rfl, hask, rfl⟩)
    · rcases concat_prefix_concat_iff.mp hfront with ⟨rfl, rfl⟩ | hfront
      · exact .inr (.inl ⟨hask, hheld⟩)
      · exact ih hfront

/-- Nothing is held when a link is asked for. -/
theorem held_eq_nil (h : Orderly es) (hfront : front ++ [e] <+: es) (he : e.asks = true) :
    held front = [] := by
  rcases h.event_cases hfront with hcalm | ⟨-, hheld⟩ | ⟨_, _, id, -, -, rfl⟩
  · exact absurd he (by simp [Event.not_asks_of_isCalm hcalm])
  · exact hheld
  · exact absurd he Bool.false_ne_true

/-- What is handed over was asked for just before. -/
theorem asked (h : Orderly es) (hfront : front ++ [.opened id] <+: es) :
    ∃ before ask, front = before ++ [ask] ∧ ask.asks = true := by
  rcases h.event_cases hfront with hcalm | ⟨hask, -⟩ | ⟨before, ask, _, hfront, hask, -⟩
  · exact absurd hcalm Bool.false_ne_true
  · exact absurd hask Bool.false_ne_true
  · exact ⟨before, ask, hfront, hask⟩

/-- No link is handed over twice. -/
theorem ascending (h : Orderly es) : (opened es).Pairwise (· < ·) := by
  induction h with
  | nil => exact List.Pairwise.nil
  | calm _ hcalm ih => rwa [opened_concat, Event.opens?_of_isCalm hcalm, Option.toList_none,
      List.append_nil]
  | refused _ _ hask ih => rwa [opened_concat, Event.opens?_of_asks hask, Option.toList_none,
      List.append_nil]
  | @granted es ask id _ _ hask hnew ih =>
    have hopened : opened (es ++ [ask] ++ [.opened id]) = opened es ++ [id] := by
      rw [opened_concat, opened_concat, Event.opens?_of_asks hask, Option.toList_none,
        List.append_nil]
      rfl
    rw [hopened]
    refine List.pairwise_append.mpr ⟨ih, List.pairwise_singleton .., ?_⟩
    intro id' hid' id'' hid''
    rw [List.mem_singleton.mp hid'']
    exact hnew id' hid'

end Orderly

/-! ## Custody -/

/-- Since the state `start` the trace is orderly, and `current` is the link in use: if a link is
held, it is that one. -/
structure Custody (start : Environment τ) (current : Option LinkId) (env : Environment τ) :
    Prop where
  begun : start.events <+: env.events
  orderly : Orderly (start.since env)
  numbered : ∀ id ∈ opened (start.since env), id < env.links.length
  /-- A link that cannot be closed again is not held. -/
  spent : ∀ id link, env.links[id]? = some link → link.isSpent = true →
    id ∉ held (start.since env)
  inUse : ∀ id ∈ held (start.since env), current = some id
  /-- The link in use is the last one handed over, unless a connector has declined. -/
  latest : current = (opened (start.since env)).getLast? ∨
    current = none ∧ ∃ o ∈ start.openings, o.result = .nothing
  openings : env.openings <:+ start.openings

/-- Custody with nothing held: a link may be asked for. -/
structure Vacant (start : Environment τ) (current : Option LinkId) (env : Environment τ) : Prop
    extends Custody start current env where
  nothingHeld : held (start.since env) = []

section

variable {start env env' : Environment τ} {current : Option LinkId} {new : List (Event τ)}

/-- Nothing has happened yet. -/
theorem vacant_start (start : Environment τ) : Vacant start none start := by
  have hsince : start.since start = [] := List.drop_length
  refine ⟨⟨List.prefix_refl _, ?_, ?_, ?_, ?_, ?_, List.suffix_refl _⟩, ?_⟩ <;> rw [hsince]
  case refine_1 => exact .nil
  case refine_5 => exact .inl rfl
  all_goals simp [opened, held]

theorem Custody.calm (h : Custody start current env) (hcalm : Calm new env env') :
    Custody start current env' := by
  have hsince : start.since env' = start.since env ++ new :=
    Environment.since_of_append h.begun hcalm.events
  have hopened : opened (start.since env') = opened (start.since env) := by
    rw [hsince, opened_append, opened_of_calm hcalm.calm, List.append_nil]
  have hheld : ∀ id, id ∈ held (start.since env') ↔
      id ∈ held (start.since env) ∧ .closed id ∉ new := by
    intro id
    rw [hsince]
    exact mem_held_append_iff hcalm.calm
  constructor
  case begun =>
    rw [hcalm.events]
    exact h.begun.trans (List.prefix_append _ _)
  case orderly =>
    rw [hsince]
    exact h.orderly.append hcalm.calm
  case numbered =>
    rw [hopened, hcalm.length_links]
    exact h.numbered
  case spent =>
    intro id link' hlink' hs hid
    obtain ⟨hid, hnew⟩ := (hheld id).mp hid
    rcases hcalm.spent id link' hlink' hs with hclosed | ⟨link, hlink, hs⟩
    · exact hnew hclosed
    · exact h.spent id link hlink hs hid
  case inUse =>
    intro id hid
    exact h.inUse id ((hheld id).mp hid).1
  case latest =>
    rw [hopened]
    exact h.latest
  case openings =>
    rw [hcalm.openings]
    exact h.openings

theorem Custody.calmly (h : Custody start current env) (hcalm : Calmly env env') :
    Custody start current env' := by
  obtain ⟨new, hcalm⟩ := hcalm
  exact h.calm hcalm

theorem Vacant.calm (h : Vacant start current env) (hcalm : Calm new env env') :
    Vacant start current env' := by
  refine ⟨h.toCustody.calm hcalm, ?_⟩
  rw [Environment.since_of_append h.begun hcalm.events, List.eq_nil_iff_forall_not_mem]
  intro id hid
  have hbefore := ((mem_held_append_iff hcalm.calm).mp hid).1
  rw [h.nothingHeld] at hbefore
  exact List.not_mem_nil hbefore

theorem Vacant.calmly (h : Vacant start current env) (hcalm : Calmly env env') :
    Vacant start current env' := by
  obtain ⟨new, hcalm⟩ := hcalm
  exact h.calm hcalm

/-! ### Letting go of the link in use -/

theorem Custody.vacant_of_none (h : Custody start none env) : Vacant start none env := by
  refine ⟨h, List.eq_nil_iff_forall_not_mem.mpr ?_⟩
  intro id hid
  exact absurd (h.inUse id hid) (by simp)

/-- The link in use is one of the links opened so far. -/
theorem Custody.exists_link {id : LinkId} (h : Custody start (some id) env) :
    ∃ link, env.links[id]? = some link := by
  have hlast : (opened (start.since env)).getLast? = some id := by
    rcases h.latest with hlast | ⟨hnone, -⟩
    · exact hlast.symm
    · exact absurd hnone (by simp)
  have hid : id < env.links.length := h.numbered id (List.mem_of_getLast? hlast)
  exact ⟨env.links[id], List.getElem?_eq_getElem hid⟩

variable [Timeline τ]

/-- Closing the link in use leaves nothing held, even if closing fails. -/
theorem Custody.closeLink {id : LinkId} (h : Custody start (some id) env) :
    Vacant start (some id) ((closeLink id).runFrom env).2 := by
  obtain ⟨link, hlink⟩ := h.exists_link
  obtain ⟨new, hcalm, hclosed⟩ := closeLink_calm hlink
  refine ⟨h.calm hcalm, List.eq_nil_iff_forall_not_mem.mpr ?_⟩
  intro id' hid'
  rw [Environment.since_of_append h.begun hcalm.events] at hid'
  obtain ⟨hheld, hnew⟩ := (mem_held_append_iff hcalm.calm).mp hid'
  obtain rfl : id = id' := Option.some.inj (h.inUse id' hheld)
  rcases hclosed with hs | hclosed
  · exact h.spent id link hlink hs hheld
  · exact hnew hclosed

theorem Custody.closeCurrent (h : Custody start current env) :
    Vacant start current ((closeCurrent current).runFrom env).2 := by
  cases current with
  | none => exact h.vacant_of_none
  | some id => exact h.closeLink

/-- To discard a link is to close it once. A failure to do so gets no further, unless it ends the
program. -/
theorem Manager.runFrom_discard (stale : Option LinkId) (env : Environment τ) :
    (Manager.discard stale).runFrom env =
      (match ((closeCurrent stale).runFrom env).1 with
        | .ok () => .ok ()
        | .error f => if f.endsProgram then .error f else .ok (),
        ((closeCurrent stale).runFrom env).2) := by
  cases stale with
  | none => rfl
  | some id =>
    show (Manager.discard (some id)).runFrom env = (match ((closeLink id).runFrom env).1 with
      | .ok () => .ok ()
      | .error f => if f.endsProgram then .error f else .ok (), ((closeLink id).runFrom env).2)
    unfold Manager.discard
    rw [Act.runFrom_bind_of_ok (Act.runFrom_outcome _ env)]
    cases ((closeLink id).runFrom env).1 with
    | ok u => rfl
    | error f => cases hf : f.endsProgram <;> simp only [hf] <;> rfl

theorem Custody.discard (h : Custody start current env) :
    Vacant start current ((Manager.discard current).runFrom env).2 := by
  rw [Manager.runFrom_discard]
  exact h.closeCurrent

/-! ### Asking for another link -/

/-- What an attempt to get another link leads to: that link is in use, or nothing is held and the
old one is. -/
def Replaced (start : Environment τ) (current : Option LinkId) :
    Except Failure (Option LinkId) → Environment τ → Prop
  | .ok link, env => Custody start link env
  | .error _, env => Vacant start current env

omit [Timeline τ] in
/-- A link is asked for and does not come. -/
theorem Vacant.refused (h : Vacant start current env) {ask : Event τ} (hask : ask.asks = true)
    (hevents : env'.events = env.events ++ [ask]) (hlinks : env'.links = env.links)
    (hopenings : env'.openings <:+ env.openings) : Vacant start current env' := by
  have hsince := Environment.since_of_append h.begun hevents
  have hopened : opened (start.since env') = opened (start.since env) := by
    rw [hsince, opened_concat, Event.opens?_of_asks hask, Option.toList_none, List.append_nil]
  have hheld : held (start.since env') = [] := by
    rw [hsince, held_concat, Event.account_of_asks hask, h.nothingHeld]
  refine ⟨?_, hheld⟩
  constructor
  case begun =>
    rw [hevents]
    exact h.begun.trans (List.prefix_append _ _)
  case orderly =>
    rw [hsince]
    exact .refused h.orderly h.nothingHeld hask
  case numbered =>
    rw [hopened, hlinks]
    exact h.numbered
  case spent => simp [hheld]
  case inUse => simp [hheld]
  case latest =>
    rw [hopened]
    exact h.latest
  case openings => exact hopenings.trans h.openings

omit [Timeline τ] in
/-- When a connector declines, there is no link in use any more. -/
theorem Vacant.none (h : Vacant start current env)
    (hoffered : ∃ o ∈ env.openings, o.result = .nothing) : Vacant start none env := by
  obtain ⟨o, ho, hresult⟩ := hoffered
  refine { h with inUse := ?_, latest := .inr ⟨rfl, o, h.openings.mem ho, hresult⟩ }
  simp [h.nothingHeld]

omit [Timeline τ] in
/-- A link is asked for and comes. -/
theorem Vacant.granted (h : Vacant start current env) {ask : Event τ} {id : LinkId}
    {session : Session τ} {managed : Bool} (hask : ask.asks = true)
    (hid : id = env.links.length) (hevents : env'.events = env.events ++ [ask] ++ [.opened id])
    (hlinks : env'.links = env.links ++ [Link.mk session managed false false])
    (hopenings : env'.openings <:+ env.openings) : Custody start (some id) env' := by
  have hsince : start.since env' = start.since env ++ [ask] ++ [.opened id] := by
    rw [List.append_assoc]
    rw [List.append_assoc] at hevents
    exact Environment.since_of_append h.begun hevents
  have hopened : opened (start.since env') = opened (start.since env) ++ [id] := by
    rw [hsince, opened_concat, opened_concat, Event.opens?_of_asks hask, Option.toList_none,
      List.append_nil]
    rfl
  have hheld : held (start.since env') = [id] := by
    rw [hsince, held_concat, held_concat, Event.account_of_asks hask, h.nothingHeld]
    rfl
  constructor
  case begun =>
    rw [hevents, List.append_assoc]
    exact h.begun.trans (List.prefix_append _ _)
  case orderly =>
    rw [hsince]
    exact .granted h.orderly h.nothingHeld hask (by rw [hid]; exact h.numbered)
  case numbered =>
    intro id' hid'
    rw [hlinks, List.length_append, List.length_singleton]
    rw [hopened, List.mem_append, List.mem_singleton] at hid'
    rcases hid' with hid' | rfl
    · exact Nat.lt_succ_of_lt (h.numbered id' hid')
    · exact Nat.lt_succ_of_le (Nat.le_of_eq hid)
  case spent =>
    -- the only link held is the new one, which has not been closed
    intro id' link hlink hs hid'
    rw [hheld, List.mem_singleton] at hid'
    rw [hlinks, hid', hid, List.getElem?_concat_length] at hlink
    obtain rfl := Option.some.inj hlink
    simp [Link.isSpent] at hs
  case inUse =>
    intro id' hid'
    rw [hheld, List.mem_singleton] at hid'
    rw [hid']
  case latest =>
    left
    rw [hopened, List.getLast?_concat]
  case openings => exact hopenings.trans h.openings

/-- A link that comes is taken into custody. -/
theorem replaced_openLink (c : Connector) (r : OpenRequest) (h : Vacant start current env) :
    Replaced start current ((openLink c r).runFrom env).1 ((openLink c r).runFrom env).2 := by
  obtain ⟨mid, hcalm, hanswer⟩ := openLink_answered c r env
  have hmid : Vacant start current mid := h.calm hcalm
  have hask := Connector.asks_ask (τ := τ) c r env.side
  generalize (openLink c r).runFrom env = answer at hanswer ⊢
  obtain ⟨outcome, env'⟩ := answer
  cases hanswer with
  | opened session id hid hevents hlinks hopenings =>
    exact hmid.granted hask hid hevents hlinks hopenings
  | declined hevents hlinks hopenings hoffered =>
    exact ((hmid.none hoffered).refused hask hevents hlinks hopenings).toCustody
  | failed f hevents hlinks hopenings => exact hmid.refused hask hevents hlinks hopenings

namespace Manager

variable (m : Manager τ)

theorem replaced_connect (h : Vacant start current env) :
    Replaced start current (m.connect.runFrom env).1 (m.connect.runFrom env).2 :=
  replaced_openLink m.connector _ h

/-- After a single attempt either a link is in use, or nothing is held and another attempt may
follow. -/
theorem replaced_tryOnce (deadline : τ) (h : Vacant start current env) :
    Replaced start current (((m.tryOnce deadline).runFrom env).1.bind id)
      ((m.tryOnce deadline).runFrom env).2 := by
  have hconnect := replaced_connect m h
  unfold tryOnce
  rw [Act.runFrom_bind_of_ok (Act.runFrom_outcome _ env)]
  generalize m.connect.runFrom env = answer at hconnect ⊢
  obtain ⟨outcome, env'⟩ := answer
  cases outcome with
  | ok link => exact hconnect
  | error f =>
    have hvacant : Vacant start current env' := hconnect
    have hsleep : (sleep m.retryInterval).runFrom env' = (.ok (), _) := rfl
    have hslept : Vacant start current ((sleep m.retryInterval).runFrom env').2 :=
      hvacant.calmly (calm_sleep m.retryInterval env')
    dsimp only
    cases f.isKind .connectionFailed with
    | false => exact hvacant
    | true =>
      simp only [Bool.not_true, Bool.false_eq_true, if_false]
      rw [Act.runFrom_bind_of_ok (Act.runFrom_get env')]
      split
      · exact hvacant
      · rw [Act.runFrom_bind_of_ok hsleep]
        exact hslept

/-- However many attempts are made, one of them succeeds or the last one leaves nothing held. -/
theorem replaced_retry (deadline : τ) (limit : Nat) (h : Vacant start current env) :
    Replaced start current ((m.retry deadline limit).runFrom env).1
      ((m.retry deadline limit).runFrom env).2 := by
  induction limit generalizing env with
  | zero =>
    have htry := replaced_tryOnce m deadline h
    unfold retry
    rw [Act.runFrom_bind]
    generalize (m.tryOnce deadline).runFrom env = answer at htry ⊢
    rcases answer with ⟨f | f | link, env'⟩ <;> exact htry
  | succ limit ih =>
    have htry := replaced_tryOnce m deadline h
    unfold retry
    rw [Act.runFrom_bind]
    generalize (m.tryOnce deadline).runFrom env = answer at htry ⊢
    rcases answer with ⟨f | f | link, env'⟩
    · exact htry
    · exact ih htry
    · exact htry

theorem runFrom_replacementTime (env : Environment τ) :
    ∃ time env', m.replacementTime.runFrom env = (.ok time, env') ∧ Calm [] env env' := by
  obtain ⟨env', hwarn, hcalm⟩ := runFrom_warnUnreadable "failover" .failoverTimeout
    (Property.failoverTimeout.timeOrDefault (τ := τ) m.properties).2 env
  unfold replacementTime
  rw [Act.runFrom_bind_of_ok hwarn]
  exact ⟨_, env', rfl, hcalm⟩

/-- A replacement closes the old link before it asks for another one. -/
theorem replaced_replace (cause : Failure) (h : Custody start current env) :
    Replaced start current ((m.replace current cause).runFrom env).1
      ((m.replace current cause).runFrom env).2 := by
  obtain ⟨env₁, hwarn, hcalm₁⟩ := runFrom_warn "failover"
    ("Connection to " ++ m.endpoint.text ++ " lost, starting failover: " ++ cause.text) env
  have hdiscard := (h.calm hcalm₁).discard
  unfold replace
  rw [Act.runFrom_bind_of_ok hwarn, Act.runFrom_bind]
  generalize (discard current).runFrom env₁ = answer at hdiscard ⊢
  rcases answer with ⟨f | u, env₂⟩
  · exact hdiscard
  · obtain ⟨time, env₃, htime, hcalm₃⟩ := runFrom_replacementTime m env₂
    dsimp only
    rw [Act.runFrom_bind_of_ok (Act.runFrom_get env₂), Act.runFrom_bind_of_ok htime,
      Act.runFrom_bind_of_ok (Act.runFrom_get env₃)]
    exact replaced_retry m _ _ (hdiscard.calm hcalm₃)

end Manager

end

end ClusterConnect
