import ClusterConnect.Proofs.Driver.Course
import ClusterConnect.Proofs.Resolution.Layers

/-!
# Which URLs the driver takes

The scheme of a URL is tested in several places and on different pieces of the text, and strict mode
is evaluated twice, once when the URL is read and once more when the connection is made. This file
shows that the tests agree.

* `parse?_eq_none_iff`, `parseUrl_eq_none_iff`, `resolve_eq_none_iff`: a URL is declined for its
  scheme only. `mode_of_parse?`: the scheme that is cut off decides on the mode, too.
* `Driver.refusesPlain`: whether strict mode is on, going by all layers and the process.
* `resolve_not_strict`: properties that a plain URL has been given pass the second test of strict
  mode.
* `Driver.makeConnection_ne_none`: the driver declines nothing that it has come to connect to.
* `Driver.connect_acceptance`: all of it for one call.
-/

namespace ClusterConnect

open Text

/-! ## Schemes -/

variable {url : String}

theorem prefix_takeWhile_iff {p l : List Char} {q : Char → Bool} (h : p.all q = true) :
    p <+: l.takeWhile q ↔ p <+: l := by
  constructor
  · exact fun hp => hp.trans (List.takeWhile_prefix q)
  · rintro ⟨rest, rfl⟩
    rw [List.takeWhile_append_of_pos (List.all_eq_true.mp h)]
    exact List.prefix_append p _

theorem isOurs_iff : isOurs url = true ↔ Mode.plainScheme.toList <+: url.toList :=
  List.isPrefixOf_iff_prefix

/-- No question mark stands in the plain scheme, so it makes no difference whether it is looked for
in the whole text or in the part before the first question mark. -/
theorem plainScheme_prefix_serverPart_iff :
    Mode.plainScheme.toList <+: serverPart url ↔ isOurs url = true := by
  rw [isOurs_iff]
  exact prefix_takeWhile_iff rfl

theorem clusterScheme_prefix_serverPart_iff :
    Mode.clusterScheme.toList <+: serverPart url ↔ IsCluster url :=
  prefix_takeWhile_iff rfl

/-- A URL has no parts exactly if its scheme is not ours. -/
theorem parse?_eq_none_iff : Url.parse? url = .ok none ↔ isOurs url = false := by
  rw [← Bool.not_eq_true, ← plainScheme_prefix_serverPart_iff, ← splitScheme?_eq_none_iff, parse?_eq]
  cases splitScheme? (serverPart url) with
  | none => simp
  | some parts =>
    obtain ⟨mode, body⟩ := parts
    dsimp only
    cases Target.parse body url <;> simp

theorem parseUrl_eq_none_iff (base : Properties) (strict : Bool) :
    parseUrl (some url) base strict = .ok none ↔ isOurs url = false := by
  rw [← parse?_eq_none_iff]
  unfold parseUrl
  dsimp only
  rcases Url.parse? url with f | _ | u
  · simp
  · simp
  · dsimp only
    split <;> simp

/-- What a caller supplies makes no difference to whether a URL is ours. -/
theorem resolve_eq_none_iff (overrides : Overrides) (base : Properties) (strict : Bool) :
    resolve (some url) overrides base strict = .ok none ↔ isOurs url = false := by
  cases hours : isOurs url with
  | false => simp [resolve, hours]
  | true =>
    unfold resolve
    simp only [hours, if_true, Bool.true_eq_false, iff_false]
    cases overrides.check with
    | error f => simp
    | ok given =>
      dsimp only
      rw [mapError_eq_ok_iff, parseUrl_eq_none_iff, hours]
      simp

theorem parse?_eq_some {u : Url} (h : Url.parse? url = .ok (some u)) :
    ∃ body, splitScheme? (serverPart url) = some (u.mode, body) ∧
      u.arguments = parseArguments (queryPart url) := by
  rw [parse?_eq] at h
  rcases hscheme : splitScheme? (serverPart url) with _ | ⟨mode, body⟩ <;> rw [hscheme] at h
  · exact absurd h (by simp)
  · dsimp only at h
    cases htarget : Target.parse body url with
    | error f =>
      rw [htarget] at h
      exact absurd h (by simp)
    | ok target =>
      rw [htarget] at h
      obtain rfl := Option.some.inj (Except.ok.inj h)
      exact ⟨body, rfl, rfl⟩

/-- The scheme that is cut off is the one at the front of the whole text. -/
theorem mode_of_parse? {u : Url} (h : Url.parse? url = .ok (some u)) : u.mode = Mode.ofUrl url := by
  obtain ⟨body, hscheme, -⟩ := parse?_eq_some h
  have hcluster : Mode.clusterScheme.toList.isPrefixOf url.toList = true ↔
      Mode.clusterScheme.toList <+: serverPart url := by
    rw [List.isPrefixOf_iff_prefix]
    exact clusterScheme_prefix_serverPart_iff.symm
  unfold splitScheme? at hscheme
  unfold Mode.ofUrl
  cases hfront : afterPrefix? Mode.clusterScheme.toList (serverPart url) with
  | some rest =>
    rw [hfront] at hscheme
    rw [if_pos (hcluster.mpr ⟨rest, (afterPrefix?_eq_some_iff.mp hfront).symm⟩)]
    exact (Prod.mk.inj (Option.some.inj hscheme)).1.symm
  | none =>
    rw [hfront] at hscheme
    rw [if_neg (fun hp => afterPrefix?_eq_none_iff.mp hfront (hcluster.mp hp))]
    obtain ⟨rest, -, hparts⟩ := Option.map_eq_some_iff.mp hscheme
    exact (Prod.mk.inj hparts).1.symm

/-! ## Strict mode -/

/-- A plain URL that is read is not refused, so the second look at strict mode does not refuse it
either. -/
theorem parseUrl_not_strict {base props : Properties} {strict : Bool} (hplain : ¬ IsCluster url)
    (h : parseUrl (some url) base strict = .ok (some props)) : strictMode props strict = false := by
  unfold parseUrl at h
  dsimp only at h
  rcases hparse : Url.parse? url with f | _ | u <;> rw [hparse] at h
  · exact absurd h (by simp)
  · exact absurd h (by simp)
  · dsimp only at h
    rw [ofUrl_bne_clusterAware.mpr hplain, Bool.and_true] at h
    split at h
    · exact absurd h (by simp)
    · next hstrict =>
      obtain rfl := Option.some.inj (Except.ok.inj h)
      exact Bool.not_eq_true _ ▸ hstrict

theorem resolve_not_strict {overrides : Overrides} {base props : Properties} {strict : Bool}
    (hplain : ¬ IsCluster url) (h : resolve (some url) overrides base strict = .ok (some props)) :
    strictMode props strict = false := by
  unfold resolve at h
  dsimp only at h
  split at h
  · cases hcheck : overrides.check with
    | error f =>
      rw [hcheck] at h
      exact absurd h (by simp)
    | ok given =>
      rw [hcheck] at h
      exact parseUrl_not_strict hplain (mapError_eq_ok_iff.mp h)
  · exact absurd h (by simp)

/-- A plain URL that has parts is refused in strict mode. -/
theorem parseUrl_rejected {u : Url} {base : Properties} {strict : Bool} (hplain : ¬ IsCluster url)
    (hparse : Url.parse? url = .ok (some u)) (hstrict : isStrict url base strict = true) :
    parseUrl (some url) base strict = .error (.rejected url) := by
  have hu : strictMode (u.properties base) strict = true := by
    obtain ⟨-, -, harguments⟩ := parse?_eq_some hparse
    rw [← hstrict, ← strictMode_properties u.mode u.target, ← harguments]
  unfold parseUrl
  dsimp only
  rw [hparse]
  dsimp only
  rw [hu, ofUrl_bne_clusterAware.mpr hplain]
  rfl

/-- No layer but the four that hold properties of any name says anything about strict mode. -/
theorem layered_clusterUrlsOnly (url : String) (info : Properties) (files : FileTree)
    (paths : List Path) (login : Option String) :
    layered url info files paths login Property.clusterUrlsOnly.name =
      (argument? url Property.clusterUrlsOnly.name).or
        ((info.get? Property.clusterUrlsOnly.name).or
          (configured? files paths Property.clusterUrlsOnly.name)) := by
  have hserver : ∀ host port database,
      serverLayer host port database Property.clusterUrlsOnly.name = none := by
    intro host port database
    unfold serverLayer
    rw [if_neg (by decide), if_neg (by decide), if_neg (by decide)]
  unfold layered serverValue? remainder?
  rw [hserver, hserver, if_neg (by decide : Property.clusterUrlsOnly.name ≠ Property.user.name)]
  simp

namespace Driver

variable {τ : Type} {d : Driver} {info : Properties} {env : Environment τ}

/-- Whether strict mode is on for a URL: the first layer that has a value for it decides, and if
there is none, the process. -/
def refusesPlain (d : Driver) (url : String) (info : Properties) (env : Environment τ) : Bool :=
  ((layered url info env.files d.configFiles env.login Property.clusterUrlsOnly.name).map
    Property.saysTrue).getD env.strict

theorem isStrict_eq_refusesPlain {defaults : Properties}
    (h : Configuration.defaults env.files env.login d.configFiles = .ok defaults) :
    isStrict url (defaults.merge info) env.strict = d.refusesPlain url info env := by
  unfold isStrict refusesPlain
  rw [layered_clusterUrlsOnly, Properties.get?_merge, get?_defaults h, if_neg (by decide),
    Option.or_none]

/-- In strict mode a plain URL comes to no properties. -/
theorem resolved?_eq_none_of_refusesPlain (hplain : ¬ IsCluster url)
    (hstrict : d.refusesPlain url info env = true) :
    d.resolved? url (.ofProperties info) env = none := by
  rw [Option.eq_none_iff_forall_ne_some]
  intro props hprops
  obtain ⟨defaults, hdefaults, hresolve⟩ := resolved?_eq_some_iff.mp hprops
  have hoff := resolve_not_strict hplain hresolve
  rw [strictMode_eq, get?_resolve hdefaults hresolve] at hoff
  exact absurd (hoff.symm.trans hstrict) Bool.false_ne_true

variable [Timeline τ]

/-- A plain URL that has parts is rejected in strict mode, whatever else the layers say. -/
theorem runFrom_connect_of_refused {u : Url} {defaults : Properties} (hplain : ¬ IsCluster url)
    (hdefaults : Configuration.defaults env.files env.login d.configFiles = .ok defaults)
    (hparse : Url.parse? url = .ok (some u)) (hstrict : d.refusesPlain url info env = true)
    (registryLimit : τ) :
    ((d.connect registryLimit (some url) (.ofProperties info)).runFrom env).1 =
      .error (UrlFault.rejected url).failure := by
  have hours : isOurs url = true := by
    rw [← Bool.not_eq_false, ← parse?_eq_none_iff, hparse]
    simp
  have hresolve : resolve (some url) (.ofProperties info) defaults env.strict =
      .error (.url (.rejected url)) := by
    rw [← isStrict_eq_refusesPlain hdefaults] at hstrict
    rw [resolve_ofProperties, if_pos hours, parseUrl_rejected hplain hparse hstrict]
    rfl
  obtain ⟨env', hrun, -⟩ := runFrom_resolveLogged_of_error hresolve
  show ((d.connectBy awaitJob registryLimit (some url) (.ofProperties info)).runFrom env).1 = _
  rw [runFrom_connectBy_of_defaults hours hdefaults, Act.runFrom_bind_of_error hrun]
  rfl

end Driver

/-! ## Declining -/

/-- No attempt to open a link is answered by nothing at all. -/
def Environment.AlwaysAnswers {τ : Type} (env : Environment τ) : Prop :=
  ∀ o ∈ env.openings, o.result ≠ .nothing

section

variable {τ : Type} {env env' : Environment τ}

theorem Environment.AlwaysAnswers.of_eq (h : env.AlwaysAnswers)
    (hopenings : env'.openings = env.openings) : env'.AlwaysAnswers := by
  unfold AlwaysAnswers
  rw [hopenings]
  exact h

theorem Answered.ne_none {managed : Bool} {r : Except Failure (Option LinkId)}
    (h : Answered managed env r env') (hanswers : env.AlwaysAnswers) : r ≠ .ok none := by
  cases h with
  | opened => simp
  | failed => simp
  | declined _ _ _ hoffered =>
    obtain ⟨o, ho, hresult⟩ := hoffered
    exact absurd hresult (hanswers o ho)

theorem pairUp_ne_nil {localAddress : Option String} {hosts ports : List (List Char)}
    (hhosts : hosts ≠ []) (hports : ports ≠ []) : pairUp localAddress hosts ports ≠ .ok [] := by
  cases hosts with
  | nil => exact absurd rfl hhosts
  | cons host hosts =>
    cases ports with
    | nil => exact absurd rfl hports
    | cons port ports =>
      unfold pairUp
      split
      · simp
      · split <;> simp

/-- There is always a first endpoint, if the properties name endpoints at all. -/
theorem endpoints_ne_nil (props : Properties) : props.endpoints ≠ .ok [] := by
  unfold Properties.endpoints
  dsimp only
  split
  · exact pairUp_ne_nil (List.splitOn_ne_nil _ _) (List.splitOn_ne_nil _ _)
  · simp

variable [Timeline τ]

theorem openLink_ne_none (c : Connector) (r : OpenRequest) (hanswers : env.AlwaysAnswers) :
    ((openLink c r).runFrom env).1 ≠ .ok none := by
  obtain ⟨mid, hcalm, hanswered⟩ := openLink_answered c r env
  exact hanswered.ne_none (hanswers.of_eq hcalm.openings)

theorem connect_ne_none (s : Supervisor τ) (hanswers : env.AlwaysAnswers) :
    (s.connect.runFrom env).1 ≠ .ok none := by
  cases s with
  | manager m => exact openLink_ne_none _ _ hanswers
  | external enabled => exact (answered_nextOpening false env).ne_none hanswers

namespace Driver

variable {d : Driver} {url : String}

theorem makeClusterConnection_ne_none (props : Properties) (hanswers : env.AlwaysAnswers) :
    ((d.makeClusterConnection url props).runFrom env).1 ≠ .ok none := by
  unfold makeClusterConnection
  rcases hendpoints : props.endpoints with f | _ | ⟨endpoint, rest⟩
  · simp
  · exact absurd hendpoints (endpoints_ne_nil props)
  · obtain ⟨s, env', hs, hopenings⟩ :
        ∃ s env', (d.supervisor endpoint props url).runFrom env = (.ok s, env') ∧
          env'.openings = env.openings := by
      unfold supervisor
      cases d.externalManagers with
      | none => exact ⟨_, env, rfl, rfl⟩
      | some enabled => exact ⟨.external enabled, _, rfl, rfl⟩
    have hlink := connect_ne_none s (hanswers.of_eq hopenings)
    have hconnect : FailoverHandle.connect s = (fun link => ⟨s, link, false⟩) <$> s.connect := by
      rw [← bind_pure_comp]
      rfl
    dsimp only
    rw [Act.runFrom_bind_of_ok hs, hconnect, Act.runFrom_bind, Act.runFrom_map]
    generalize s.connect.runFrom env' = answer at hlink ⊢
    rcases answer with ⟨f | _ | id, env''⟩
    · simp [Except.map]
    · exact absurd rfl hlink
    · dsimp only [Except.map]
      split <;> simp

/-- The driver declines no URL that it has come to connect to: the only test left is that of strict
mode. -/
theorem makeConnection_ne_none {props : Properties}
    (hmode : IsCluster url ∨ strictMode props env.strict = false) (hanswers : env.AlwaysAnswers) :
    ((d.makeConnection (some url) props).runFrom env).1 ≠ .ok none := by
  unfold makeConnection
  dsimp only
  split
  · exact makeClusterConnection_ne_none props hanswers
  · next hplain =>
    have hoff : strictMode props env.strict = false := by
      refine hmode.resolve_left fun hcluster => hplain ?_
      unfold Mode.ofUrl
      rw [if_pos (List.isPrefixOf_iff_prefix.mpr hcluster)]
    rw [Act.runFrom_bind_of_ok (Act.runFrom_get env), hoff]
    simp only [Bool.false_eq_true, if_false]
    cases props.endpoints with
    | error f => simp
    | ok endpoints =>
      let r : OpenRequest := ⟨endpoints, props.user, props.database, props, url⟩
      have hlink := openLink_ne_none d.connector r hanswers
      dsimp only
      rw [bind_pure_comp, Act.runFrom_map]
      generalize (openLink d.connector r).runFrom env = answer at hlink ⊢
      rcases answer with ⟨f | _ | id, env'⟩
      · simp [Except.map]
      · exact absurd rfl hlink
      · simp [Except.map]

theorem awaitJob_ne_none {j : Job τ (Connection τ)} (timeLimit : τ)
    (h : (j.connect.runFrom { env with side := .worker, late := false }).1 ≠ .ok none) :
    ((awaitJob j timeLimit).runFrom env).1 ≠ .ok none := by
  rw [runFrom_awaitJob]
  generalize (j.connect.runFrom { env with side := .worker, late := false }) = r at h ⊢
  dsimp only
  split
  · simp
  · rcases r with ⟨f | _ | c, env'⟩
    · simp
    · exact absurd rfl h
    · simp

theorem establish_ne_none {props : Properties}
    (hmode : IsCluster url ∨ strictMode props env.strict = false) (hanswers : env.AlwaysAnswers)
    (registryLimit : τ) :
    ((d.establish awaitJob registryLimit url props).runFrom env).1 ≠ .ok none := by
  have hlogged := quiet_configureLogging props env
  unfold establish
  rw [Act.runFrom_bind]
  generalize (configureLogging props).runFrom env = answer at hlogged ⊢
  rcases answer with ⟨f | u, mid⟩
  · simp
  · obtain ⟨limit, env', hrun, -⟩ := runFrom_loginTimeLimit registryLimit props mid
    have hlimit := quiet_loginTimeLimit registryLimit props mid
    rw [hrun] at hlimit
    have hquiet : env.Quiet env' := IsTrans.trans _ _ _ hlogged hlimit
    have hmode' : IsCluster url ∨ strictMode props env'.strict = false := by
      rw [hquiet.strict]
      exact hmode
    have hanswers' : env'.AlwaysAnswers := hanswers.of_eq hquiet.openings
    dsimp only
    rw [Act.runFrom_bind_of_ok hrun]
    unfold connectWithin
    split
    · exact awaitJob_ne_none limit (makeConnection_ne_none hmode' hanswers')
    · exact makeConnection_ne_none hmode' hanswers'

/-- A URL of ours is never declined. -/
theorem connect_ne_none_of_ours {info : Overrides} {defaults : Properties}
    (hours : isOurs url = true)
    (hdefaults : Configuration.defaults env.files env.login d.configFiles = .ok defaults)
    (hanswers : env.AlwaysAnswers) (registryLimit : τ) :
    ((d.connect registryLimit (some url) info).runFrom env).1 ≠ .ok none := by
  show ((d.connectBy awaitJob registryLimit (some url) info).runFrom env).1 ≠ .ok none
  rcases hresolve : resolve (some url) info defaults env.strict with f | _ | props
  · obtain ⟨env', hrun, -⟩ := runFrom_resolveLogged_of_error hresolve
    rw [runFrom_connectBy_of_defaults hours hdefaults, Act.runFrom_bind_of_error hrun]
    simp
  · have hnot := (resolve_eq_none_iff info defaults env.strict).mp hresolve
    exact absurd (hours.symm.trans hnot) (by simp)
  · -- whatever has been resolved is not refused when the connection is made
    have hmode : IsCluster url ∨ strictMode props env.strict = false := by
      by_cases hcluster : IsCluster url
      · exact .inl hcluster
      · exact .inr (resolve_not_strict hcluster hresolve)
    have hmade := establish_ne_none (d := d) hmode hanswers registryLimit
    rw [runFrom_connectBy_of_some (resolved?_eq_some_iff.mpr ⟨defaults, hdefaults, hresolve⟩),
      ne_eq, mapError_eq_ok_iff]
    exact hmade

/-- **Strict mode and schemes are told the same way everywhere.** As long as the configuration files
can be loaded and no connector declines:

* the driver declines a URL exactly if it does not begin with our scheme, and so do the reading of
  URLs and the resolution of properties, whatever goes into them; then nothing happens at all, even
  if the files could not be loaded;
* a URL that has parts is of the mode that its front calls for;
* for a plain URL in strict mode nothing is seen of the driver, and the URL is rejected as such if
  it has parts;
* properties that a plain URL resolves to are not declined when the connection is made. -/
theorem connect_acceptance (d : Driver) (registryLimit : τ) (url : String) (info : Properties)
    (env : Environment τ) {defaults : Properties}
    (hloadable : Configuration.defaults env.files env.login d.configFiles = .ok defaults)
    (hanswers : env.AlwaysAnswers) :
    let connecting := d.connect registryLimit (some url) (.ofProperties info)
    ((connecting.runFrom env).1 = .ok none ↔ isOurs url = false) ∧
    (∀ base strict, parseUrl (some url) base strict = .ok none ↔ isOurs url = false) ∧
    (∀ overrides base strict,
      resolve (some url) overrides base strict = .ok none ↔ isOurs url = false) ∧
    (isOurs url = false → ∀ anywhere : Environment τ,
      connecting.runFrom anywhere = (.ok none, anywhere)) ∧
    (∀ u, Url.parse? url = .ok (some u) → u.mode = Mode.ofUrl url) ∧
    (¬ IsCluster url → d.refusesPlain url info env = true →
      (connecting.runFrom env).2.events = env.events ∧
      (connecting.runFrom env).2.links = env.links ∧
      ((∃ u, Url.parse? url = .ok (some u)) →
        ∃ f, (connecting.runFrom env).1 = .error f ∧ f.isKind .protocolRejected = true)) ∧
    (¬ IsCluster url → ∀ overrides base props strict,
      resolve (some url) overrides base strict = .ok (some props) →
      strictMode props strict = false ∧
      ∀ env' : Environment τ, env'.strict = strict → env'.AlwaysAnswers →
        ((d.makeConnection (some url) props).runFrom env').1 ≠ .ok none) := by
  intro connecting
  have hdeclined : isOurs url = false → ∀ anywhere : Environment τ,
      connecting.runFrom anywhere = (.ok none, anywhere) := by
    intro hours anywhere
    exact runFrom_connectBy_of_not_ours hours awaitJob registryLimit
  refine ⟨⟨?_, ?_⟩, parseUrl_eq_none_iff, resolve_eq_none_iff, hdeclined,
    fun u => mode_of_parse?, ?_, ?_⟩
  · intro hnone
    rw [← Bool.not_eq_true]
    intro hours
    exact connect_ne_none_of_ours hours hloadable hanswers registryLimit hnone
  · intro hours
    rw [hdeclined hours]
  · intro hplain hstrict
    have hresolved := resolved?_eq_none_of_refusesPlain hplain hstrict
    obtain ⟨r, env', hquiet, -, hrun⟩ := runFrom_connectBy_of_unresolved hresolved
    have hend : connecting.runFrom env = (r, env') := hrun awaitJob registryLimit
    refine ⟨?_, ?_, ?_⟩
    · rw [hend]
      exact hquiet.events
    · rw [hend]
      exact hquiet.links
    · rintro ⟨u, hparse⟩
      have hrejected := runFrom_connect_of_refused hplain hloadable hparse hstrict registryLimit
      exact ⟨_, hrejected, rfl⟩
  · intro hplain overrides base props strict hresolve
    have hoff := resolve_not_strict hplain hresolve
    refine ⟨hoff, ?_⟩
    rintro env' rfl hanswers'
    exact makeConnection_ne_none (.inr hoff) hanswers'

/-- A plain URL under a process that takes cluster URLs only. -/
theorem connect_acceptance_strict :
    let d : Driver := { connector := .custom }
    let env : Environment Int := { now := 0, strict := true, openings := [{ result := .opened {} }] }
    Configuration.defaults env.files env.login d.configFiles = .ok .empty ∧ env.AlwaysAnswers ∧
      ∃ f, ((d.connect 0 (some "postgresql://db/app") (.ofProperties .empty)).runFrom env).1 =
        .error f ∧ f.isKind .protocolRejected = true := by
  intro d env
  have hanswers : env.AlwaysAnswers := by simp [Environment.AlwaysAnswers, env]
  have hall := d.connect_acceptance 0 "postgresql://db/app" .empty env rfl hanswers
  refine ⟨rfl, hanswers, ?_⟩
  exact (hall.2.2.2.2.2.1 (by unfold IsCluster; decide) (by decide)).2.2 ⟨_, rfl⟩

end Driver

end

end ClusterConnect
