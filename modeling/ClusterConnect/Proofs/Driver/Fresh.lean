import ClusterConnect.Proofs.Driver.Course

/-!
# Connections that have just been made

Making a connection closes nothing, and what comes of it is open: whoever disposes of it at once
closes its link, and closes it once.

* `Connection.IsFresh`, `made_makeConnection`: a new connection is open.
* `closedLinks_dispose`: disposing of it closes its link exactly once.
-/

namespace ClusterConnect

variable {τ : Type}

/-! ## Open connections -/

/-- The link of a connection, if it has one. -/
def Connection.link? : Connection τ → Option LinkId
  | .direct id => some id
  | .failover h => h.current

/-- A connection that is open: so is its handle, and its link has not been closed. -/
structure Connection.IsFresh (c : Connection τ) (env : Environment τ) : Prop where
  handle : ∀ h, c = .failover h → h.closed = false
  link : ∀ id, c.link? = some id → ∃ link, env.links[id]? = some link ∧ link.isSpent = false

/-- Nothing was closed, and a link that has come of it is open. -/
structure Obtained (env : Environment τ) (r : Except Failure (Option LinkId))
    (env' : Environment τ) : Prop where
  closed : closedLinks env'.events = closedLinks env.events
  link : ∀ id, r = .ok (some id) → ∃ link, env'.links[id]? = some link ∧ link.isSpent = false

/-- Nothing was closed, and a connection that has come of it is open. -/
structure Made (env : Environment τ) (r : Except Failure (Option (Connection τ)))
    (env' : Environment τ) : Prop where
  closed : closedLinks env'.events = closedLinks env.events
  fresh : ∀ c, r = .ok (some c) → c.IsFresh env'

section

variable {env env' : Environment τ}

theorem Answered.obtained {managed : Bool} {r : Except Failure (Option LinkId)}
    (h : Answered managed env r env') : Obtained env r env' := by
  cases h with
  | opened session id hid hevents hlinks =>
    refine ⟨by rw [hevents, closedLinks_append]; exact List.append_nil _, ?_⟩
    rintro id' ⟨⟩
    refine ⟨⟨session, managed, false, false⟩, ?_, Bool.and_false managed⟩
    rw [hlinks, hid, List.getElem?_concat_length]
  | declined hevents => exact ⟨by rw [hevents], fun id hid => absurd hid (by simp)⟩
  | failed f hevents => exact ⟨by rw [hevents], fun id hid => absurd hid (by simp)⟩

/-- A connection that is nothing but an open link is open. -/
theorem Obtained.made_direct {r : Except Failure (Option LinkId)} (h : Obtained env r env') :
    Made env (r.map (·.map .direct)) env' := by
  refine ⟨h.closed, ?_⟩
  intro c hc
  rcases r with f | _ | id
  · exact absurd hc (by simp [Except.map])
  · exact absurd hc (by simp [Except.map])
  · obtain rfl : .direct id = c := by simpa [Except.map] using hc
    refine ⟨fun h hh => absurd hh (by simp), ?_⟩
    rintro id' ⟨⟩
    exact h.link id rfl

theorem Made.none (r : Except Failure (Option (Connection τ))) (h : ∀ c, r ≠ .ok (some c)) :
    Made env r env :=
  ⟨rfl, fun c hc => absurd hc (h c)⟩

variable [Timeline τ]

theorem obtained_openLink (c : Connector) (r : OpenRequest) (env : Environment τ) :
    Obtained env ((openLink c r).runFrom env).1 ((openLink c r).runFrom env).2 := by
  obtain ⟨mid, hcalm, hanswer⟩ := openLink_answered c r env
  have hmid : closedLinks (mid.note (c.ask r env.side)).events = closedLinks env.events := by
    rw [Environment.events_note, hcalm.events, List.append_nil, closedLinks_append]
    simp [closedLinks, closes?_of_asks (c.asks_ask r env.side)]
  exact ⟨hanswer.obtained.closed.trans hmid, hanswer.obtained.link⟩

theorem obtained_connect (s : Supervisor τ) (env : Environment τ) :
    Obtained env (s.connect.runFrom env).1 (s.connect.runFrom env).2 := by
  cases s with
  | manager m => exact obtained_openLink _ _ env
  | external enabled => exact (answered_nextOpening false env).obtained

theorem runFrom_supervisor (d : Driver) (endpoint : Endpoint) (props : Properties) (url : String)
    (env : Environment τ) :
    ∃ s env', (d.supervisor endpoint props url).runFrom env = (.ok s, env') ∧
      closedLinks env'.events = closedLinks env.events := by
  unfold Driver.supervisor
  cases d.externalManagers with
  | none => exact ⟨_, env, rfl, rfl⟩
  | some enabled =>
    refine ⟨.external enabled, env.note (.entrusted endpoint props url), rfl, ?_⟩
    rw [Environment.events_note, closedLinks_append]
    exact List.append_nil _

theorem made_makeClusterConnection (d : Driver) (url : String) (props : Properties)
    (env : Environment τ) :
    Made env ((d.makeClusterConnection url props).runFrom env).1
      ((d.makeClusterConnection url props).runFrom env).2 := by
  unfold Driver.makeClusterConnection
  cases props.endpoints with
  | error f => exact .none _ (by simp)
  | ok endpoints =>
    cases endpoints with
    | nil => exact .none _ (by simp)
    | cons endpoint rest =>
      obtain ⟨s, env₁, hs, hclosed⟩ := runFrom_supervisor d endpoint props url env
      have hlink := obtained_connect s env₁
      have hconnect : FailoverHandle.connect s = (fun link => ⟨s, link, false⟩) <$> s.connect := by
        rw [← bind_pure_comp]
        rfl
      dsimp only
      rw [Act.runFrom_bind_of_ok hs, hconnect, Act.runFrom_bind, Act.runFrom_map]
      generalize s.connect.runFrom env₁ = answer at hlink ⊢
      obtain ⟨f | link, env'⟩ := answer
      · exact ⟨hlink.closed.trans hclosed, fun c hc => absurd hc (by simp [Except.map])⟩
      · dsimp only [Except.map]
        split
        · -- the handle keeps the link
          refine ⟨hlink.closed.trans hclosed, ?_⟩
          rintro c ⟨⟩
          refine ⟨?_, ?_⟩
          · rintro h ⟨⟩
            rfl
          · intro id hid
            exact hlink.link id (congrArg Except.ok hid)
        · exact ⟨hlink.closed.trans hclosed, hlink.made_direct.fresh⟩

theorem made_makeConnection (d : Driver) (url : Option String) (props : Properties)
    (env : Environment τ) :
    Made env ((d.makeConnection url props).runFrom env).1
      ((d.makeConnection url props).runFrom env).2 := by
  unfold Driver.makeConnection
  cases url with
  | none => exact .none _ (by simp)
  | some url =>
    dsimp only
    split
    · exact made_makeClusterConnection d url props env
    · rw [Act.runFrom_bind_of_ok (Act.runFrom_get env)]
      split
      · exact .none _ (by simp)
      · cases props.endpoints with
        | error f => exact .none _ (by simp)
        | ok endpoints =>
          dsimp only
          rw [bind_pure_comp, Act.runFrom_map]
          exact (obtained_openLink d.connector _ env).made_direct

/-- Closing a link that is open is seen once. -/
theorem closedLinks_closeLink {id : LinkId} {link : Link τ} (h : env.links[id]? = some link)
    (hs : link.isSpent = false) :
    closedLinks ((closeLink id).runFrom env).2.events = closedLinks env.events ++ [id] := by
  cases hm : link.managed with
  | false =>
    rw [runFrom_closeLink_custom h hm]
    simp [closedLinks_append]
    rfl
  | true =>
    have hr : link.released = false := by simpa [Link.isSpent, hm] using hs
    rw [runFrom_closeLink_managed h hm hr]
    dsimp only
    cases link.session.closing.failure with
    | none =>
      simp [closedLinks_append]
      rfl
    | some f =>
      cases hf : f.endsProgram <;> simp [hf, closedLinks_append] <;> rfl

/-- **What has just been made is closed once.** Whoever disposes of a new connection closes its link
exactly once, even if closing it fails. -/
theorem closedLinks_dispose {c : Connection τ} {id : LinkId} (h : c.IsFresh env)
    (hid : c.link? = some id) :
    closedLinks ((Connection.dispose c).runFrom env).2.events = closedLinks env.events ++ [id] := by
  obtain ⟨link, hlink, hs⟩ := h.link id hid
  cases c with
  | direct id' =>
    obtain rfl : id' = id := Option.some.inj hid
    exact closedLinks_closeLink hlink hs
  | failover handle =>
    have hcurrent : handle.current = some id := hid
    rw [runFrom_dispose_failover, h.handle handle rfl, hcurrent]
    exact closedLinks_closeLink hlink hs

end

end ClusterConnect
