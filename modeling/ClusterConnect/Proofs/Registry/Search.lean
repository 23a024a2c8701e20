import ClusterConnect.Proofs.Driver.Acceptance
import ClusterConnect.Proofs.Url.Reported
import ClusterConnect.Registry

/-!
# The driver among others

A registry offers a URL to its drivers in turn, and a driver must not keep the URL from those behind
it because the text means nothing to it.

* `PassedOver`, `TurnedDown`: drivers that a search has asked and gone past;
  `PassedOver.firstAccepting`, `TurnedDown.firstConnecting`: it goes on behind them.
* `Driver.accepts_iff`: when the driver has an answer to the question whether it accepts a text.
* `Driver.foreign_of_connect`: what the driver raises beside its own errors.
* `Registry.driverFor_of_refused`, `Registry.connect_past`: searches go past the driver on account
  of a text, with one exception.
* `Registry.text_reported_iff`: all of this for one text; `Registry.overlong_port_ends_searches`:
  the exception occurs.

The exception is a port with more digits than can be read as an integer, see `HasOverlongPort`.
-/

namespace ClusterConnect

/-! ## Searches -/

section

variable {σ δ κ : Type}

/-- Drivers that have been asked in turn, none of which has accepted. -/
inductive PassedOver (accepts : δ → StateM σ (Except Failure Bool)) : List δ → σ → σ → Prop
  | nil (s : σ) : PassedOver accepts [] s s
  | cons {d : δ} {ds : List δ} {s t u : σ} (refused : (accepts d).run s = (.ok false, t))
      (rest : PassedOver accepts ds t u) : PassedOver accepts (d :: ds) s u

/-- An answer that lets a search go on: no connection, or an error of the driver's kinds. -/
def LetsPass (answer : Except Failure (Option κ)) : Prop :=
  answer = .ok none ∨ ∃ e, answer = .error (.driver e)

/-- The error that a search keeps once it has an answer. The first one counts. -/
def keptError (earlier : Option Failure) : Except Failure (Option κ) → Option Failure
  | .ok _ => earlier
  | .error f => earlier.or (some f)

/-- Drivers that have been asked in turn, each of which has let the search pass, and the errors kept
before and after. -/
inductive TurnedDown (ask : δ → StateM σ (Except Failure (Option κ))) :
    Option Failure → List δ → σ → Option Failure → σ → Prop
  | nil (earlier : Option Failure) (s : σ) : TurnedDown ask earlier [] s earlier s
  | cons {d : δ} {ds : List δ} {s t u : σ} {earlier later : Option Failure}
      {answer : Except Failure (Option κ)} (answered : (ask d).run s = (answer, t))
      (passes : LetsPass answer) (rest : TurnedDown ask (keptError earlier answer) ds t later u) :
      TurnedDown ask earlier (d :: ds) s later u

variable {accepts : δ → StateM σ (Except Failure Bool)}
variable {ask : δ → StateM σ (Except Failure (Option κ))}
variable {front rest : List δ} {d : δ} {s t : σ}

theorem firstAccepting_cons_of_false (h : (accepts d).run s = (.ok false, t)) (f : Failure) :
    (firstAccepting accepts f (d :: rest)).run s = (firstAccepting accepts f rest).run t := by
  unfold firstAccepting
  rw [StateT.run_bind, h]
  cases rest <;> rfl

theorem firstAccepting_cons_of_error {f' : Failure} (h : (accepts d).run s = (.error f', t))
    (f : Failure) : (firstAccepting accepts f (d :: rest)).run s = (.error f', t) := by
  unfold firstAccepting
  rw [StateT.run_bind, h]
  rfl

/-- A search goes on behind the drivers that it has passed over. -/
theorem PassedOver.firstAccepting (h : PassedOver accepts front s t) (f : Failure) :
    (firstAccepting accepts f (front ++ rest)).run s =
      (ClusterConnect.firstAccepting accepts f rest).run t := by
  induction h with
  | nil s => rfl
  | cons refused _ ih => rw [List.cons_append, firstAccepting_cons_of_false refused, ih]

theorem firstConnecting_cons_of_letsPass {answer : Except Failure (Option κ)}
    (h : (ask d).run s = (answer, t)) (hpass : LetsPass answer) (f : Failure)
    (earlier : Option Failure) :
    (firstConnecting ask f earlier (d :: rest)).run s =
      (firstConnecting ask f (keptError earlier answer) rest).run t := by
  rw [firstConnecting, StateT.run_bind, h]
  obtain rfl | ⟨e, rfl⟩ := hpass <;> rfl

theorem firstConnecting_cons_of_some {c : κ} (h : (ask d).run s = (.ok (some c), t)) (f : Failure)
    (earlier : Option Failure) :
    (firstConnecting ask f earlier (d :: rest)).run s = (.ok c, t) := by
  rw [firstConnecting, StateT.run_bind, h]
  rfl

theorem firstConnecting_cons_of_foreign {e : ForeignError}
    (h : (ask d).run s = (.error (.foreign e), t)) (f : Failure) (earlier : Option Failure) :
    (firstConnecting ask f earlier (d :: rest)).run s = (.error (.foreign e), t) := by
  rw [firstConnecting, StateT.run_bind, h]
  rfl

/-- A search goes on behind the drivers that have turned it down, with the error it has kept. -/
theorem TurnedDown.firstConnecting {earlier later : Option Failure}
    (h : TurnedDown ask earlier front s later t) (f : Failure) :
    (firstConnecting ask f earlier (front ++ rest)).run s =
      (ClusterConnect.firstConnecting ask f later rest).run t := by
  induction h with
  | nil earlier s => rfl
  | cons answered passes _ ih =>
    rw [List.cons_append, firstConnecting_cons_of_letsPass answered passes, ih]

end

/-! ## The turn of this driver -/

namespace Driver

variable {τ : Type} {d : Driver} {url : String} {info : Overrides} {env : Environment τ}

/-- Reading a URL changes nothing but the log, and that only if the fault is worth a warning. -/
theorem runFrom_parseLogged (url : Option String) (base : Properties) (env : Environment τ) :
    ∃ env', env.Quiet env' ∧
      (∀ port, parseUrl url base env.strict = .error (.portTooLong port) → env' = env) ∧
      (parseLogged url base).runFrom env =
        ((parseUrl url base env.strict).mapError UrlFault.failure, env') := by
  unfold parseLogged
  rw [Act.runFrom_bind_of_ok (Act.runFrom_get env)]
  cases parseUrl url base env.strict with
  | ok p => exact ⟨env, Std.Refl.refl env, fun _ _ => rfl, rfl⟩
  | error f =>
    dsimp only
    cases hwarning : f.warning? with
    | none => exact ⟨env, Std.Refl.refl env, fun _ _ => rfl, rfl⟩
    | some message =>
      refine ⟨_, quiet_warn "url" message env, ?_, rfl⟩
      intro port hf
      rw [Except.error.inj hf] at hwarning
      exact absurd hwarning (by simp [UrlFault.warning?])

/-- The faults that are reported are those that the driver takes for a refusal. -/
theorem isUrlFailure_of_reported {α : Type} {f : UrlFault}
    (h : Reported (.error f : Except UrlFault α)) : isUrlFailure f.failure = true := by
  rw [reported_iff] at h
  cases f with
  | portTooLong port => exact absurd ⟨port, rfl⟩ h
  | missing | unterminatedServers | portNotNumeric | portOutOfRange | rejected => rfl

/-- A text that is reported as what it is comes to properties or to none. -/
theorem runFrom_parseTolerant {base : Properties} {url : Option String}
    (h : Reported (parseUrl url base env.strict)) :
    ∃ env', env.Quiet env' ∧ (parseTolerant url base).runFrom env =
      (.ok (parseUrl url base env.strict).toOption.join, env') := by
  obtain ⟨env', hquiet, -, hrun⟩ := runFrom_parseLogged url base env
  refine ⟨env', hquiet, ?_⟩
  unfold parseTolerant
  rw [Act.runFrom_bind_of_ok (Act.runFrom_outcome _ _), hrun]
  cases hread : parseUrl url base env.strict with
  | ok p => rfl
  | error f =>
    rw [hread] at h
    show ((if isUrlFailure f.failure then pure none else throw f.failure :
      Doing τ (Option Properties))).runFrom env' = _
    rw [if_pos (isUrlFailure_of_reported h)]
    rfl

/-- Every text but one that fails in the reading of integers is accepted or refused. -/
theorem runFrom_acceptsUrl (url : Option String) (env : Environment τ) :
    ∃ env', env.Quiet env' ∧
      (∀ port, parseUrl url .empty env.strict = .error (.portTooLong port) →
        (acceptsUrl url).runFrom env = (.error (UrlFault.portTooLong port).failure, env)) ∧
      (Reported (parseUrl url .empty env.strict) → (acceptsUrl url).runFrom env =
        (.ok (parseUrl url .empty env.strict).toOption.join.isSome, env')) := by
  by_cases hreported : Reported (parseUrl url .empty env.strict)
  · obtain ⟨env', hquiet, hrun⟩ := runFrom_parseTolerant hreported
    refine ⟨env', hquiet, fun port hlong => absurd ⟨port, hlong⟩ (reported_iff.mp hreported), ?_⟩
    intro _
    unfold acceptsUrl
    rw [Act.runFrom_bind_of_ok hrun]
    rfl
  · refine ⟨env, Std.Refl.refl env, fun port hlong => ?_, fun h => absurd h hreported⟩
    obtain ⟨env', -, hsame, hrun⟩ := runFrom_parseLogged url .empty env
    obtain rfl := hsame port hlong
    rw [hlong] at hrun
    unfold acceptsUrl parseTolerant
    rw [bind_assoc, Act.runFrom_bind_of_ok (Act.runFrom_outcome _ _), hrun]
    rfl

/-- The driver tells whether a text is a URL for it, with the one exception. -/
theorem accepts_iff (url : String) (env : Environment τ) :
    (∃ b, ((acceptsUrl (some url)).runFrom env).1 = .ok b) ↔ ¬ HasOverlongPort url := by
  obtain ⟨env', -, hlong, hreported⟩ := runFrom_acceptsUrl (some url) env
  constructor
  · rintro ⟨b, hb⟩ hover
    obtain ⟨port, hport⟩ := (parseUrl_tooLong_iff .empty env.strict).mpr hover
    rw [hlong port hport] at hb
    exact absurd hb (by simp)
  · intro hnot
    exact ⟨_, by rw [hreported ((reported_parseUrl_iff .empty env.strict).mpr hnot)]⟩

/-- A fault in the layers is an error of the driver, unless a port cannot be read. -/
theorem foreign_of_resolve {base : Properties} {strict : Bool} {f : ResolutionFault}
    {e : ForeignError} (h : resolve (some url) info base strict = .error f)
    (hf : f.failure = .foreign e) : HasOverlongPort url := by
  unfold resolve at h
  dsimp only at h
  split at h
  · split at h
    · next f' hcheck =>
      obtain rfl := Except.error.inj h
      unfold Overrides.check at hcheck
      split at hcheck
      · exact absurd hcheck (by simp)
      · obtain rfl := Except.error.inj hcheck
        exact absurd hf (by simp [ResolutionFault.failure])
    · next given _ =>
      obtain ⟨fault, hread, rfl⟩ := mapError_eq_error_iff.mp h
      cases fault with
      | portTooLong port => exact (parseUrl_tooLong_iff (base.merge given) strict).mp ⟨port, hread⟩
      | _ => exact absurd hf (by simp [ResolutionFault.failure, UrlFault.failure])
  · exact absurd h (by simp)

theorem isOurs_of_overlong (hover : HasOverlongPort url) : isOurs url = true := by
  obtain ⟨body, hbody, -⟩ := hover
  exact plainScheme_prefix_serverPart_iff.mp (plainScheme_prefix_of_body hbody)

/-- A port that cannot be read is a fault in the layers, unless what the caller supplies is no
good. -/
theorem resolve_of_overlong {base given : Properties} {strict : Bool} (hover : HasOverlongPort url)
    (hgiven : info.check = .ok given) :
    ∃ port, resolve (some url) info base strict = .error (.url (.portTooLong port)) := by
  obtain ⟨port, hport⟩ := (parseUrl_tooLong_iff (base.merge given) strict).mpr hover
  refine ⟨port, ?_⟩
  unfold resolve
  simp only [isOurs_of_overlong hover, if_true, hgiven, hport]
  rfl

variable [Timeline τ] {registryLimit : τ} {e : ForeignError}

theorem resolved?_isSome_of_connect {c : Connection τ}
    (h : ((d.connect registryLimit (some url) info).runFrom env).1 = .ok (some c)) :
    (d.resolved? url info env).isSome = true := by
  cases hresolved : d.resolved? url info env with
  | some props => rfl
  | none =>
    obtain ⟨r, env', -, hnever, hrun⟩ := runFrom_connectBy_of_unresolved hresolved
    unfold connect at h
    rw [hrun awaitJob registryLimit] at h
    exact absurd h (hnever c)

/-- Where the layers give no properties, what the driver raises is an error of its own, or was
raised when the files were loaded; unless a port cannot be read. -/
theorem foreign_of_unresolved (hnot : ¬ HasOverlongPort url)
    (hresolved : d.resolved? url info env = none)
    (h : ((d.connect registryLimit (some url) info).runFrom env).1 = .error (.foreign e)) :
    Configuration.defaults env.files env.login d.configFiles = .error (.foreign e) := by
  unfold connect at h
  cases hours : isOurs url with
  | false =>
    rw [runFrom_connectBy_of_not_ours hours] at h
    exact absurd h (by simp)
  | true =>
    cases hdefaults : Configuration.defaults env.files env.login d.configFiles with
    | error f =>
      rw [runFrom_connectBy_of_no_defaults hours hdefaults] at h
      -- only an error in a configuration file is wrapped, so this one was foreign before
      have hraised : defaultsFailure f = .foreign e := Except.error.inj h
      unfold defaultsFailure at hraised
      split at hraised
      · exact absurd hraised (by simp)
      · rw [hraised]
    | ok defaults =>
      rcases hresolve : resolve (some url) info defaults env.strict with f | _ | props
      · obtain ⟨env', hrun, -⟩ := runFrom_resolveLogged_of_error hresolve
        rw [runFrom_connectBy_of_defaults hours hdefaults, Act.runFrom_bind_of_error hrun] at h
        exact absurd (foreign_of_resolve hresolve (Except.error.inj h)) hnot
      · have hdeclined := (resolve_eq_none_iff info defaults env.strict).mp hresolve
        exact absurd (hours.symm.trans hdeclined) (by simp)
      · have hsome := resolved?_eq_some_iff.mpr ⟨defaults, hdefaults, hresolve⟩
        exact absurd (hresolved.symm.trans hsome) (by simp)

/-- What the driver raises once the properties are there is an error of its own or ends the
program. -/
theorem foreign_of_resolved {props : Properties}
    (hresolved : d.resolved? url info env = some props)
    (h : ((d.connect registryLimit (some url) info).runFrom env).1 = .error (.foreign e)) :
    e.kind.endsProgram = true := by
  unfold connect at h
  rw [runFrom_connectBy_of_some hresolved] at h
  obtain ⟨f, -, hreported⟩ := mapError_eq_error_iff.mp h
  cases f with
  | driver e' => exact absurd hreported (by simp [Failure.reported])
  | foreign e' =>
    unfold Failure.reported at hreported
    cases hends : e'.kind.endsProgram with
    | false => simp [hends] at hreported
    | true =>
      simp only [hends, if_true] at hreported
      rw [← Failure.foreign.inj hreported]
      exact hends

/-- What the driver raises beside its own errors was raised when the files were loaded, or ends the
program; unless a port cannot be read. -/
theorem foreign_of_connect (hnot : ¬ HasOverlongPort url)
    (h : ((d.connect registryLimit (some url) info).runFrom env).1 = .error (.foreign e)) :
    Configuration.defaults env.files env.login d.configFiles = .error (.foreign e) ∨
      (d.resolved? url info env).isSome = true ∧ e.kind.endsProgram = true := by
  cases hresolved : d.resolved? url info env with
  | none => exact .inl (foreign_of_unresolved hnot hresolved h)
  | some props => exact .inr ⟨rfl, foreign_of_resolved hresolved h⟩

/-- A port that cannot be read ends the attempt in the reading of integers. -/
theorem connect_of_overlong {defaults given : Properties} (hover : HasOverlongPort url)
    (hdefaults : Configuration.defaults env.files env.login d.configFiles = .ok defaults)
    (hgiven : info.check = .ok given) (registryLimit : τ) :
    ∃ e, e.kind = .unusableValue ∧
      ((d.connect registryLimit (some url) info).runFrom env).1 = .error (.foreign e) := by
  obtain ⟨port, hresolve⟩ := resolve_of_overlong hover hgiven
  obtain ⟨env', hrun, -⟩ := runFrom_resolveLogged_of_error hresolve
  have hours := isOurs_of_overlong hover
  refine ⟨⟨.unusableValue, (UrlFault.portTooLong port).message⟩, rfl, ?_⟩
  unfold connect
  rw [runFrom_connectBy_of_defaults hours hdefaults, Act.runFrom_bind_of_error hrun]
  rfl

end Driver

/-! ## The search as a whole -/

namespace Registry

variable {τ δ : Type} [Timeline τ] {r : Registry δ τ} {this : δ} {front back : List δ}
variable {url : String} {info : Overrides} {registryLimit : τ} {d : Driver}
variable {accepts : δ → StateM (Environment τ) (Except Failure Bool)}
variable {ask : δ → StateM (Environment τ) (Except Failure (Option (Connection τ)))}

omit [Timeline τ] in
/-- The search for a driver that accepts a URL goes past this one if it refuses the text, with the
one exception. -/
theorem driverFor_of_refused (hdrivers : r.drivers = front ++ this :: back)
    (haccepts : accepts this = ExceptT.run (Driver.acceptsUrl (some url)))
    {env env' : Environment τ} (hfront : PassedOver accepts front env env')
    (hbad : ∀ p, parseUrl (some url) .empty env'.strict ≠ .ok (some p)) :
    (¬ HasOverlongPort url → ∃ env'', env'.Quiet env'' ∧
      (r.driverFor accepts (some url)).run env =
        (firstAccepting accepts (noSuitableDriver (some url)) back).run env'') ∧
    (HasOverlongPort url → ∃ e, e.kind = .unusableValue ∧
      (r.driverFor accepts (some url)).run env = (.error (.foreign e), env')) := by
  obtain ⟨env'', hquiet, hlong, hreported⟩ := Driver.runFrom_acceptsUrl (some url) env'
  have hsearch : (r.driverFor accepts (some url)).run env =
      (firstAccepting accepts (noSuitableDriver (some url)) (this :: back)).run env' := by
    unfold driverFor
    rw [hdrivers]
    exact hfront.firstAccepting _
  rw [hsearch]
  constructor
  · intro hnot
    have hread : Reported (parseUrl (some url) .empty env'.strict) :=
      (reported_parseUrl_iff .empty env'.strict).mpr hnot
    have hthis : (accepts this).run env' = (.ok false, env'') := by
      rw [haccepts]
      have hrefused : (parseUrl (some url) .empty env'.strict).toOption.join.isSome = false := by
        rcases hparse : parseUrl (some url) .empty env'.strict with f | _ | p
        · rfl
        · rfl
        · exact absurd hparse (hbad p)
      rw [← hrefused]
      exact hreported hread
    exact ⟨env'', hquiet, firstAccepting_cons_of_false hthis _⟩
  · intro hover
    obtain ⟨port, hport⟩ := (parseUrl_tooLong_iff .empty env'.strict).mpr hover
    have hthis : (accepts this).run env' = (.error (UrlFault.portTooLong port).failure, env') := by
      rw [haccepts]
      exact hlong port hport
    exact ⟨⟨.unusableValue, (UrlFault.portTooLong port).message⟩, rfl,
      firstAccepting_cons_of_error hthis _⟩

/-- The search for a connection goes past this driver, unless the driver gives one or raises what no
text is to blame for; with the one exception. -/
theorem connect_past (hdrivers : r.drivers = front ++ this :: back)
    (hask : ask this = ExceptT.run (d.connect registryLimit (some url) info))
    {env env' : Environment τ} {earlier : Option Failure}
    (hfront : TurnedDown ask none front env earlier env') :
    let own := (d.connect registryLimit (some url) info).runFrom env'
    let search := (r.connect ask (some url)).run env
    let files := Configuration.defaults env'.files env'.login d.configFiles
    (¬ HasOverlongPort url →
      (LetsPass own.1 ∧ search = (firstConnecting ask (noSuitableDriver (some url))
        (keptError earlier own.1) back).run own.2) ∨
      (d.resolved? url info env').isSome = true ∧
        (∃ c, own.1 = .ok (some c) ∧ search = (.ok c, own.2)) ∨
      ∃ e, search = (.error (.foreign e), own.2) ∧ (files = .error (.foreign e) ∨
        (d.resolved? url info env').isSome = true ∧ e.kind.endsProgram = true)) ∧
    (HasOverlongPort url → ∀ defaults given, files = .ok defaults → info.check = .ok given →
      ∃ e, e.kind = .unusableValue ∧ search = (.error (.foreign e), own.2)) := by
  intro own search files
  have hturn : ∀ {answer}, own.1 = answer → (ask this).run env' = (answer, own.2) := by
    rintro _ rfl
    rw [hask]
    rfl
  have hsearch : search =
      (firstConnecting ask (noSuitableDriver (some url)) earlier (this :: back)).run env' := by
    show (firstConnecting ask (noSuitableDriver (some url)) none r.drivers).run env = _
    rw [hdrivers]
    exact hfront.firstConnecting _
  rw [hsearch]
  constructor
  · intro hnot
    rcases hown : own.1 with (e | e) | _ | c
    · have hpass : LetsPass (κ := Connection τ) (.error (.driver e)) := .inr ⟨e, rfl⟩
      exact .inl ⟨hpass, firstConnecting_cons_of_letsPass (hturn hown) hpass _ earlier⟩
    · have hraised := Driver.foreign_of_connect hnot hown
      exact .inr (.inr ⟨e, firstConnecting_cons_of_foreign (hturn hown) _ earlier, hraised⟩)
    · have hpass : LetsPass (κ := Connection τ) (.ok none) := .inl rfl
      exact .inl ⟨hpass, firstConnecting_cons_of_letsPass (hturn hown) hpass _ earlier⟩
    · have hresolved := Driver.resolved?_isSome_of_connect hown
      exact .inr (.inl ⟨hresolved, c, rfl, firstConnecting_cons_of_some (hturn hown) _ earlier⟩)
  · intro hover defaults given hdefaults hgiven
    obtain ⟨e, hkind, hown⟩ := Driver.connect_of_overlong hover hdefaults hgiven registryLimit
    exact ⟨e, hkind, firstConnecting_cons_of_foreign (hturn hown) _ earlier⟩

/-- **A broken text is reported as such, unless it has a port too long to be read.** For a registry
with this driver at some place in it, and a URL of any text whatsoever:

* reading the text, on top of any properties and in either mode, gives properties, gives none, or
  ends in an error that says that the URL breaks the grammar or is refused;
* the driver has an answer to the question whether it accepts the URL;
* if the driver refuses the URL, the search for a driver goes on behind it;
* the search for a connection goes on behind the driver, or has found a connection, or ends with
  something other than a driver's error that the files or the properties of a good text have led to.

A text with such a port fails in the reading of integers at each of these places. -/
theorem text_reported_iff (d : Driver) (registryLimit : τ) (url : String) (info : Overrides)
    (hdrivers : r.drivers = front ++ this :: back)
    (haccepts : accepts this = ExceptT.run (Driver.acceptsUrl (some url)))
    (hask : ask this = ExceptT.run (d.connect registryLimit (some url) info)) :
    (∀ base strict, Reported (parseUrl (some url) base strict) ↔ ¬ HasOverlongPort url) ∧
    (∀ env : Environment τ,
      (∃ b, ((Driver.acceptsUrl (some url)).runFrom env).1 = .ok b) ↔ ¬ HasOverlongPort url) ∧
    (∀ env env' : Environment τ, PassedOver accepts front env env' →
      (∀ p, parseUrl (some url) .empty env'.strict ≠ .ok (some p)) →
      let search := (r.driverFor accepts (some url)).run env
      (¬ HasOverlongPort url → ∃ env'', env'.Quiet env'' ∧
        search = (firstAccepting accepts (noSuitableDriver (some url)) back).run env'') ∧
      (HasOverlongPort url → ∃ e, e.kind = .unusableValue ∧ search = (.error (.foreign e), env'))) ∧
    (∀ (env env' : Environment τ) (earlier : Option Failure),
      TurnedDown ask none front env earlier env' →
      let own := (d.connect registryLimit (some url) info).runFrom env'
      let search := (r.connect ask (some url)).run env
      let files := Configuration.defaults env'.files env'.login d.configFiles
      (¬ HasOverlongPort url →
        (LetsPass own.1 ∧ search = (firstConnecting ask (noSuitableDriver (some url))
          (keptError earlier own.1) back).run own.2) ∨
        (d.resolved? url info env').isSome = true ∧
          (∃ c, own.1 = .ok (some c) ∧ search = (.ok c, own.2)) ∨
        ∃ e, search = (.error (.foreign e), own.2) ∧ (files = .error (.foreign e) ∨
          (d.resolved? url info env').isSome = true ∧ e.kind.endsProgram = true)) ∧
      (HasOverlongPort url → ∀ defaults given, files = .ok defaults → info.check = .ok given →
        ∃ e, e.kind = .unusableValue ∧ search = (.error (.foreign e), own.2))) := by
  refine ⟨reported_parseUrl_iff, Driver.accepts_iff url, ?_, ?_⟩
  · intro env env' hfront hbad
    exact driverFor_of_refused hdrivers haccepts hfront hbad
  · intro env env' earlier hfront
    exact connect_past hdrivers hask hfront

/-- A URL without a slash at the end of its servers, and a driver behind that takes any text. -/
theorem text_reported_missing_slash :
    let url := "postgresql://h"
    let d : Driver := { connector := .custom }
    let r : Registry Bool Int := { drivers := [false, true], loginTimeout := 0 }
    let accepts : Bool → StateM (Environment Int) (Except Failure Bool) := fun other =>
      if other then pure (.ok true) else ExceptT.run (Driver.acceptsUrl (some url))
    let ask : Bool → StateM (Environment Int) (Except Failure (Option (Connection Int))) :=
      fun other => if other then pure (.ok (some (.direct 7)))
        else ExceptT.run (d.connect 0 (some url) [])
    let env : Environment Int := { now := 0 }
    ((r.driverFor accepts (some url)).run env).1 = .ok true ∧
      ((r.connect ask (some url)).run env).1 = .ok (.direct 7) := by
  intro url d r accepts ask env
  have hours : r.drivers = [] ++ false :: [true] := rfl
  have haccepts : accepts false = ExceptT.run (Driver.acceptsUrl (some url)) := rfl
  have hask : ask false = ExceptT.run (d.connect 0 (some url) []) := rfl
  obtain ⟨hreported, -, haccepting, hconnecting⟩ := text_reported_iff d 0 url [] hours haccepts hask
  have hparse : Url.parse? "postgresql://h" = .error (.unterminatedServers "postgresql://h") := rfl
  have hread : parseUrl (some url) .empty false = .error (.unterminatedServers url) := by
    simp only [parseUrl, url, hparse]
  have hnot : ¬ HasOverlongPort url :=
    (hreported .empty false).mp (.inr (.inl ⟨_, hread, rfl⟩))
  constructor
  · have hbad : ∀ p, parseUrl (some url) .empty env.strict ≠ .ok (some p) := fun p hp =>
      absurd (hread.symm.trans hp) (by simp)
    obtain ⟨env', -, hsearch⟩ := (haccepting env env (.nil env) hbad).1 hnot
    rw [hsearch]
    rfl
  · have hnone : d.resolved? url [] env = none := by decide
    rcases (hconnecting env env none (.nil none env)).1 hnot with
      ⟨-, hsearch⟩ | ⟨hsome, -⟩ | ⟨e, -, hloading | ⟨hsome, -⟩⟩
    · rw [hsearch]
      rfl
    · exact absurd hsome (by rw [hnone]; exact Bool.false_ne_true)
    · exact absurd hloading (by rintro ⟨⟩)
    · exact absurd hsome (by rw [hnone]; exact Bool.false_ne_true)

/-- One port of more digits than can be read: reading the text fails, and so do the question whether
the driver accepts it, the search for a driver, and the search for a connection. The driver behind,
which takes any text, is not reached. -/
theorem overlong_port_ends_searches :
    let digits := List.replicate 4301 '1'
    let url := String.ofList ("postgresql://h:".toList ++ digits ++ "/d".toList)
    let d : Driver := { connector := .custom }
    let r : Registry Bool Int := { drivers := [false, true], loginTimeout := 0 }
    let accepts : Bool → StateM (Environment Int) (Except Failure Bool) := fun other =>
      if other then pure (.ok true) else ExceptT.run (Driver.acceptsUrl (some url))
    let ask : Bool → StateM (Environment Int) (Except Failure (Option (Connection Int))) :=
      fun other => if other then pure (.ok (some (.direct 7)))
        else ExceptT.run (d.connect 0 (some url) [])
    let env : Environment Int := { now := 0 }
    ¬ Reported (parseUrl (some url) .empty false) ∧
      (¬ ∃ b, ((Driver.acceptsUrl (some url)).runFrom env).1 = .ok b) ∧
      (∃ e, e.kind = .unusableValue ∧
        ((r.driverFor accepts (some url)).run env).1 = .error (.foreign e)) ∧
      ∃ e, e.kind = .unusableValue ∧
        ((r.connect ask (some url)).run env).1 = .error (.foreign e) := by
  intro digits url d r accepts ask env
  have hover : HasOverlongPort url := by
    refine hasOverlongPort_of_length ?_ ?_
    · intro c hc
      rw [List.eq_of_mem_replicate hc]
      rfl
    · rw [List.length_replicate]
      decide
  have hours : r.drivers = [] ++ false :: [true] := rfl
  have haccepts : accepts false = ExceptT.run (Driver.acceptsUrl (some url)) :=
    if_neg Bool.false_ne_true
  have hask : ask false = ExceptT.run (d.connect 0 (some url) []) :=
    if_neg Bool.false_ne_true
  have hbad : ∀ p, parseUrl (some url) .empty env.strict ≠ .ok (some p) := by
    obtain ⟨port, hport⟩ := (parseUrl_tooLong_iff .empty env.strict).mpr hover
    simp [hport]
  obtain ⟨e, hkind, hsearch⟩ := (driverFor_of_refused hours haccepts (.nil env) hbad).2 hover
  obtain ⟨e', hkind', hsearch'⟩ :=
    (connect_past hours hask (.nil none env)).2 hover .empty .empty rfl rfl
  refine ⟨?_, ?_, ⟨e, hkind, ?_⟩, e', hkind', ?_⟩
  · rw [reported_parseUrl_iff]
    exact not_not_intro hover
  · rw [Driver.accepts_iff]
    exact not_not_intro hover
  · rw [hsearch]
  · rw [hsearch']

end Registry

end ClusterConnect
