import ClusterConnect.Proofs.Registry.Search

/-!
# What the driver says about a URL without connecting

Two questions can be put to the driver before a connection is made: whether it accepts a URL, and
which values the known properties have. Neither of them resolves properties. The first reads the URL
on top of nothing, the second on top of what the caller supplies, and both take a URL that breaks
the grammar or is refused for an answer. Here they are compared with the resolution.

* `ending_parseUrl`: of all that lies below a URL, only the property for strict mode has a part in
  how its reading ends.
* `ending_resolve`: so a URL that is read on top of nothing ends like one that is resolved.
* `resolve_without_defaults`: a URL that is read on top of what the caller supplies comes to the
  values of one that is resolved without defaults.
* `Driver.preview_agrees`: both questions, for every URL and whatever the caller supplies.
-/

namespace ClusterConnect

variable {url : Option String} {base base' info defaults : Properties} {strict : Bool}

/-! ## How a reading ends -/

/-- How a reading ends, its values left out of account: with properties, without, or at a fault. -/
def ending {ε α : Type} (r : Except ε (Option α)) : Except ε Bool := r.map Option.isSome

section

variable {ε α : Type} {r : Except ε (Option α)}

theorem ending_eq_true_iff : ending r = .ok true ↔ ∃ x, r = .ok (some x) := by
  rcases r with f | _ | x <;> simp [ending, Except.map]

theorem ending_eq_false_iff : ending r = .ok false ↔ r = .ok none := by
  rcases r with f | _ | x <;> simp [ending, Except.map]

theorem ending_eq_error_iff {f : ε} : ending r = .error f ↔ r = .error f := by
  rcases r with f' | _ | x <;> simp [ending, Except.map]

theorem ending_mapError {ε' : Type} (wrap : ε → ε') (r : Except ε (Option α)) :
    ending (r.mapError wrap) = (ending r).mapError wrap := by
  cases r <;> rfl

end

/-- Only one property has a part in whether strict mode holds, and a URL lays it down the same way
whatever is below. -/
theorem strictMode_properties_congr (u : Url)
    (h : base.get? Property.clusterUrlsOnly.name = base'.get? Property.clusterUrlsOnly.name) :
    strictMode (u.properties base) strict = strictMode (u.properties base') strict := by
  rw [strictMode_eq, strictMode_eq, Url.properties, Url.properties, Properties.get?_insertAll,
    Properties.get?_insertAll, get?_apply u.target base (by decide),
    get?_apply u.target base' (by decide), h]

theorem ending_parseUrl
    (h : base.get? Property.clusterUrlsOnly.name = base'.get? Property.clusterUrlsOnly.name) :
    ending (parseUrl url base strict) = ending (parseUrl url base' strict) := by
  cases url with
  | none => rfl
  | some url =>
    unfold parseUrl
    dsimp only
    rcases Url.parse? url with f | _ | u
    · rfl
    · rfl
    · dsimp only
      rw [strictMode_properties_congr u h]
      split <;> rfl

/-- A URL that is resolved on top of texts ends like one that is read on top of nothing. -/
theorem ending_resolve (hinfo : info.get? Property.clusterUrlsOnly.name = none)
    (hdefaults : defaults.get? Property.clusterUrlsOnly.name = none) :
    ending (resolve url (.ofProperties info) defaults strict) =
      (ending (parseUrl url .empty strict)).mapError .url := by
  cases url with
  | none => rfl
  | some url =>
    rw [resolve_ofProperties]
    cases hours : isOurs url with
    | false =>
      rw [(parseUrl_eq_none_iff .empty strict).mpr hours]
      rfl
    | true =>
      have hbelow : (defaults.merge info).get? Property.clusterUrlsOnly.name =
          Properties.empty.get? Property.clusterUrlsOnly.name := by
        rw [Properties.get?_merge, hinfo, hdefaults]
        rfl
      rw [if_pos rfl, ending_mapError, ending_parseUrl hbelow]

/-- Without defaults, resolution on top of texts is the reading of the URL on top of them. -/
theorem resolve_without_defaults (url : Option String) (info : Properties) (strict : Bool) :
    resolve url (.ofProperties info) .empty strict = (parseUrl url info strict).mapError .url := by
  cases url with
  | none => rfl
  | some url =>
    rw [resolve_ofProperties, Properties.empty_merge]
    cases hours : isOurs url with
    | false =>
      rw [(parseUrl_eq_none_iff info strict).mpr hours]
      rfl
    | true => rfl

/-! ## The two questions -/

namespace Driver

variable {τ : Type} {env : Environment τ}

theorem reported_of_readable (hports : ∀ text ∈ url, ReadablePorts text) (base : Properties)
    (strict : Bool) : Reported (parseUrl url base strict) := by
  cases url with
  | none => exact .inr (.inl ⟨.missing, rfl, rfl⟩)
  | some url => exact (hports url rfl).reported base strict

/-- Whether a URL is accepted is how its resolution ends. -/
theorem acceptsUrl_of_ending {r : Except ResolutionFault (Option Properties)}
    (hreported : Reported (parseUrl url .empty env.strict))
    (hend : ending r = (ending (parseUrl url .empty env.strict)).mapError .url) :
    (((acceptsUrl url).runFrom env).1 = .ok true ↔ ∃ props, r = .ok (some props)) ∧
      (((acceptsUrl url).runFrom env).1 = .ok false ↔
        r = .ok none ∨ ∃ f, r = .error f ∧ isUrlFailure f.failure = true) := by
  obtain ⟨env', -, -, hrun⟩ := runFrom_acceptsUrl url env
  rw [hrun hreported]
  rcases hread : parseUrl url .empty env.strict with f | _ | props <;> rw [hread] at hend hreported
  · have hfailure : isUrlFailure (ResolutionFault.url f).failure = true :=
      isUrlFailure_of_reported hreported
    rw [ending_eq_error_iff.mp hend]
    exact ⟨iff_of_false (by simp [Except.toOption]) (by simp),
      iff_of_true rfl (.inr ⟨_, rfl, hfailure⟩)⟩
  · rw [ending_eq_false_iff.mp hend]
    exact ⟨iff_of_false (by simp [Except.toOption]) (by simp), iff_of_true rfl (.inl rfl)⟩
  · obtain ⟨resolved, hr⟩ := ending_eq_true_iff.mp hend
    rw [hr]
    exact ⟨iff_of_true rfl ⟨resolved, rfl⟩, iff_of_false (by simp [Except.toOption]) (by simp)⟩

theorem runFrom_propertyInfo (hreported : Reported (parseUrl url info env.strict)) :
    ((propertyInfo url info).runFrom env).1 =
      .ok (Property.all.map fun known =>
        (known, known.get? ((parseUrl url info env.strict).toOption.join.getD info))) := by
  obtain ⟨env', -, hrun⟩ := runFrom_parseTolerant hreported
  unfold propertyInfo
  rw [Act.runFrom_bind_of_ok hrun]
  rfl

/-- **What the driver says about a URL is what it does with it.** Take any URL whose port texts can
be read as integers, any text values that a caller supplies, any defaults and either setting of the
process. Where neither the caller nor the defaults decide on strict mode, the URL is accepted exactly
if it resolves to properties, and not accepted exactly if it is declined or reported as a URL that
breaks the grammar or is refused. The known properties are listed once each and in their order, with
the values that the resolution gives them, or if it gives none, with those the caller supplies, and
with their defaults for want of either. -/
theorem preview_agrees (url : Option String) (info defaults : Properties) (env : Environment τ)
    (hports : ∀ text ∈ url, ReadablePorts text) :
    (info.get? Property.clusterUrlsOnly.name = none →
      defaults.get? Property.clusterUrlsOnly.name = none →
      let resolved := resolve url (.ofProperties info) defaults env.strict
      (((acceptsUrl url).runFrom env).1 = .ok true ↔ ∃ props, resolved = .ok (some props)) ∧
        (((acceptsUrl url).runFrom env).1 = .ok false ↔
          resolved = .ok none ∨ ∃ f, resolved = .error f ∧ isUrlFailure f.failure = true)) ∧
      ∃ listed, ((propertyInfo url info).runFrom env).1 = .ok listed ∧
        listed.map Prod.fst = Property.all ∧ (listed.map fun e => e.1.name).Nodup ∧
        let resolved := resolve url (.ofProperties info) .empty env.strict
        (∀ props, resolved = .ok (some props) →
          ∀ e ∈ listed, e.2 = (props.get? e.1.name).or e.1.default) ∧
        ((∀ props, resolved ≠ .ok (some props)) →
          ∀ e ∈ listed, e.2 = (info.get? e.1.name).or e.1.default) := by
  have hreported := reported_of_readable hports
  refine ⟨fun hinfo hdefaults => ?_, ?_⟩
  · exact acceptsUrl_of_ending (hreported _ _) (ending_resolve hinfo hdefaults)
  · refine ⟨_, runFrom_propertyInfo (hreported info env.strict), ?_, ?_, ?_⟩
    · rw [List.map_map]
      exact List.map_id _
    · rw [List.map_map]
      show (Property.all.map Property.name).Nodup
      decide
    · rw [resolve_without_defaults]
      generalize parseUrl url info env.strict = r
      refine ⟨fun props hprops e he => ?_, fun hnone e he => ?_⟩
      · obtain ⟨known, -, rfl⟩ := List.mem_map.mp he
        rw [mapError_eq_ok_iff.mp hprops]
        rfl
      · obtain ⟨known, -, rfl⟩ := List.mem_map.mp he
        rcases r with f | _ | props
        · rfl
        · rfl
        · exact absurd rfl (hnone props)

/-- A plain URL under a process that takes cluster URLs only. It is not accepted, and what it says
does not show. -/
theorem preview_agrees_refused :
    let env : Environment Int := { now := 0, strict := true }
    let info := Properties.ofList [("user", "reporter")]
    (∀ text ∈ some "postgresql://db/app", ReadablePorts text) ∧
      info.get? Property.clusterUrlsOnly.name = none ∧
      ((acceptsUrl (some "postgresql://db/app")).runFrom env).1 = .ok false ∧
      ∃ listed, ((propertyInfo (some "postgresql://db/app") info).runFrom env).1 = .ok listed ∧
        ∀ e ∈ listed, e.2 = (info.get? e.1.name).or e.1.default := by
  intro env info
  have hports : ∀ text ∈ some "postgresql://db/app", ReadablePorts text := by
    rintro text ⟨⟩
    exact readablePorts_of_length (by decide)
  have hinfo : info.get? Property.clusterUrlsOnly.name = none := by decide
  have hrefused : resolve (some "postgresql://db/app") (.ofProperties info) .empty env.strict =
      .error (.url (.rejected "postgresql://db/app")) := rfl
  obtain ⟨haccepts, listed, hlisted, -, -, -, hvalues⟩ :=
    preview_agrees (some "postgresql://db/app") info .empty env hports
  refine ⟨hports, hinfo, ?_, listed, hlisted, hvalues fun props => ?_⟩
  · exact (haccepts hinfo rfl).2.mpr (.inr ⟨_, hrefused, rfl⟩)
  · rw [hrefused]
    simp

end Driver

end ClusterConnect
