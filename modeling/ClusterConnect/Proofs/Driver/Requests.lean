import ClusterConnect.Proofs.Attempt.Steps
import ClusterConnect.Proofs.Driver.Course
import ClusterConnect.Proofs.Resolution.Layers

/-!
# What a connector is asked for

On the way from a URL to a connection the driver asks a connector at most once, and what it asks for
is settled by the properties that the layers come to.

* `Asks`: one request, if there is any to make. `Silent`: none.
* `Driver.request?`: what properties call for; `comesToAsk` says when that is anything.
* `asks_openLink`, `asks_makeConnection`, `asks_awaitJob`: the request, from the attempt to open a
  link up to the caller that waits for a worker.
* `requests_ne_nil_iff`: when a connector is asked at all.
* `connect_requests`: the request of a whole connection, with its properties name by name.
-/

namespace ClusterConnect

variable {τ : Type}

/-! ## Requests -/

/-- The events in which a connector is asked for a link. -/
def requests (es : List (Event τ)) : List (Event τ) := es.filter Event.asks

theorem requests_append (es es' : List (Event τ)) :
    requests (es ++ es') = requests es ++ requests es' := List.filter_append ..

theorem requests_of_calm {es : List (Event τ)} (h : ∀ e ∈ es, e.isCalm = true) :
    requests es = [] := by
  unfold requests
  rw [List.filter_eq_nil_iff]
  intro e he
  rw [Event.not_asks_of_isCalm (h e he)]
  exact Bool.false_ne_true

/-- Something happened, and no connector was asked for a link. -/
def Silent (env env' : Environment τ) : Prop :=
  ∃ new, env'.events = env.events ++ new ∧ requests new = []

instance : IsPreorder (Environment τ) Silent where
  refl env := ⟨[], by rw [List.append_nil], rfl⟩
  trans := by
    rintro _ _ _ ⟨new, h, hn⟩ ⟨new', h', hn'⟩
    exact ⟨new ++ new', by rw [h', h, List.append_assoc], by rw [requests_append, hn, hn']; rfl⟩

section

variable {env env' : Environment τ}

theorem Calmly.silent (h : Calmly env env') : Silent env env' := by
  obtain ⟨new, h⟩ := h
  exact ⟨new, h.events, requests_of_calm h.calm⟩

theorem Environment.Quiet.silent (h : env.Quiet env') : Silent env env' :=
  ⟨[], by rw [h.events, List.append_nil], rfl⟩

theorem IsCalm.silent {α : Type} {a : Doing τ α} (h : IsCalm a) : Act.Within Silent a :=
  fun env => Calmly.silent (h env)

end

variable [Timeline τ]

/-- Something happened, and a connector was asked for the link of a request, once, or for none if there
is no request. -/
def Asks (c : Connector) (r : Option OpenRequest) (env env' : Environment τ) : Prop :=
  ∃ new side, env'.events = env.events ++ new ∧
    requests new = (r.map fun r => c.ask r side).toList

section

variable {c : Connector} {r : Option OpenRequest} {env env' env'' : Environment τ} {α β : Type}

theorem Silent.asks (h : Silent env env') : Asks c none env env' := by
  obtain ⟨new, h, hn⟩ := h
  exact ⟨new, .caller, h, hn⟩

/-- Only what has been seen counts. -/
theorem Asks.of_events {start final : Environment τ} (h : Asks c r env env')
    (hs : start.events = env.events) (hf : final.events = env'.events) : Asks c r start final := by
  obtain ⟨new, side, hnew, hn⟩ := h
  exact ⟨new, side, by rw [hf, hs, hnew], hn⟩

theorem Silent.trans_asks (h : Silent env env') (h' : Asks c r env' env'') : Asks c r env env'' := by
  obtain ⟨new, h, hn⟩ := h
  obtain ⟨new', side, h', hn'⟩ := h'
  refine ⟨new ++ new', side, by rw [h', h, List.append_assoc], ?_⟩
  rw [requests_append, hn, List.nil_append]
  exact hn'

theorem Asks.trans_silent (h : Asks c r env env') (h' : Silent env' env'') : Asks c r env env'' := by
  obtain ⟨new, side, h, hn⟩ := h
  obtain ⟨new', h', hn'⟩ := h'
  refine ⟨new ++ new', side, by rw [h', h, List.append_assoc], ?_⟩
  rw [requests_append, hn', List.append_nil]
  exact hn

/-- What is silent may come after a request. -/
theorem asks_bind {a : Doing τ α} {k : α → Doing τ β} (ha : Act.Within (Asks c r) a)
    (hk : ∀ x, Act.Within Silent (k x)) : Act.Within (Asks c r) (a >>= k) :=
  ha.seq hk (fun _ _ => id) fun _ _ _ => Asks.trans_silent

theorem asks_of_silent {a : Doing τ α} (h : Act.Within Silent a) : Act.Within (Asks c none) a :=
  fun env => Silent.asks (h env)

end

omit [Timeline τ] in
theorem Answered.silent {managed : Bool} {env env' : Environment τ}
    {r : Except Failure (Option LinkId)} (h : Answered managed env r env') : Silent env env' := by
  cases h with
  | opened session id hid hevents => exact ⟨[.opened id], hevents, rfl⟩
  | declined hevents => exact ⟨[], by rw [hevents, List.append_nil], rfl⟩
  | failed f hevents => exact ⟨[], by rw [hevents, List.append_nil], rfl⟩

theorem asks_openLink (c : Connector) (r : OpenRequest) :
    Act.Within (Asks c (some r)) (openLink c r : Doing τ (Option LinkId)) := by
  intro env
  obtain ⟨mid, hcalm, hanswer⟩ := openLink_answered c r env
  have hbefore : Silent env mid := Calmly.silent ⟨[], hcalm⟩
  have hask : Asks c (some r) mid (mid.note (c.ask r env.side)) := by
    refine ⟨[c.ask r env.side], env.side, rfl, ?_⟩
    unfold requests
    rw [List.filter_cons_of_pos (c.asks_ask r env.side), List.filter_nil]
    rfl
  exact hbefore.trans_asks (hask.trans_silent hanswer.silent)

namespace Driver

/-- The endpoints that a connector is asked for: of those of a cluster only the first. -/
def asked (url : String) (endpoints : List Endpoint) : List Endpoint :=
  if Mode.ofUrl url = .clusterAware then endpoints.take 1 else endpoints

/-- Whether it comes to a request to the driver's connector once the endpoints are there. For a
cluster there has to be one, and no manager of the application that looks after it; a plain URL must
not be ruled out by strict mode. -/
def comesToAsk (d : Driver) (url : String) (props : Properties) (strict : Bool)
    (endpoints : List Endpoint) : Bool :=
  if Mode.ofUrl url = .clusterAware then !endpoints.isEmpty && d.externalManagers.isNone
  else !strictMode props strict

/-- What the driver asks its connector for, if it asks for anything. -/
def request? (d : Driver) (url : String) (props : Properties) (strict : Bool) :
    Option OpenRequest :=
  match props.endpoints with
  | .error _ => none
  | .ok endpoints =>
    if d.comesToAsk url props strict endpoints then
      some ⟨asked url endpoints, props.user, props.database, props, url⟩
    else none

theorem request?_eq_some_iff {d : Driver} {url : String} {props : Properties} {strict : Bool}
    {r : OpenRequest} :
    d.request? url props strict = some r ↔
      ∃ endpoints, props.endpoints = .ok endpoints ∧
        d.comesToAsk url props strict endpoints = true ∧
        r = ⟨asked url endpoints, props.user, props.database, props, url⟩ := by
  unfold request?
  cases props.endpoints with
  | error f => simp
  | ok endpoints =>
    dsimp only
    constructor
    · intro h
      obtain ⟨hcomes, hr⟩ := Option.ite_none_right_eq_some.mp h
      exact ⟨endpoints, rfl, hcomes, (Option.some.inj hr).symm⟩
    · rintro ⟨endpoints', hendpoints, hcomes, rfl⟩
      obtain rfl := Except.ok.inj hendpoints
      exact if_pos hcomes

/-- The first link of a handle is asked for at the endpoint that its manager looks after. -/
theorem asks_connect (m : Manager τ) :
    Act.Within (Asks m.connector (some m.request)) (FailoverHandle.connect (.manager m)) :=
  asks_bind (asks_openLink m.connector m.request) fun _ => Act.within_pure _

/-- Managers of the application have connectors of their own. -/
theorem silent_connect (enabled : Bool) :
    Act.Within Silent (FailoverHandle.connect (.external enabled : Supervisor τ)) :=
  Act.Within.bind (fun env => (answered_nextOpening false env).silent) fun _ => Act.within_pure _

theorem asks_makeClusterConnection (d : Driver) {url : String} (props : Properties) (strict : Bool)
    (hurl : Mode.ofUrl url = .clusterAware) :
    Act.Within (Asks d.connector (d.request? url props strict))
      (d.makeClusterConnection url props : Doing τ (Option (Connection τ))) := by
  unfold makeClusterConnection request?
  cases hendpoints : props.endpoints with
  | error f => exact asks_of_silent (Act.within_throw _)
  | ok endpoints =>
    dsimp only
    rw [comesToAsk, if_pos hurl]
    cases endpoints with
    | nil => exact asks_of_silent (Act.within_pure none)
    | cons endpoint rest =>
      -- what is done with the new handle asks for nothing more
      have hrest : ∀ h : FailoverHandle τ, Act.Within Silent
          (if h.supervisor.isEnabled then return some (.failover h)
            else return h.current.map .direct : Doing τ (Option (Connection τ))) := by
        intro h
        split <;> exact Act.within_pure _
      unfold supervisor
      cases d.externalManagers with
      | none =>
        rw [asked, if_pos hurl]
        dsimp only
        rw [pure_bind]
        exact asks_bind (asks_connect ⟨endpoint, props, url, d.connector, Timeline.second⟩) hrest
      | some enabled =>
        have hentrusted : IsCalm (record (.entrusted endpoint props url) : Doing τ Unit) :=
          calm_record rfl
        dsimp only
        rw [bind_assoc]
        refine asks_of_silent (hentrusted.silent.bind fun _ => ?_)
        rw [pure_bind]
        exact (silent_connect enabled).bind hrest

theorem asks_makeConnection (d : Driver) (url : String) (props : Properties) (env : Environment τ) :
    Asks d.connector (d.request? url props env.strict) env
      ((d.makeConnection (some url) props).runFrom env).2 := by
  unfold makeConnection
  dsimp only
  split
  · next hurl => exact d.asks_makeClusterConnection props env.strict hurl env
  · next hurl =>
    rw [Act.runFrom_bind_of_ok (Act.runFrom_get env)]
    cases hendpoints : props.endpoints with
    | error f =>
      rw [show d.request? url props env.strict = none by rw [request?, hendpoints]]
      split
      · exact asks_of_silent (Act.within_pure none) env
      · exact asks_of_silent (Act.within_throw _) env
    | ok endpoints =>
      have hrequest : d.request? url props env.strict =
          if strictMode props env.strict then none
          else some ⟨endpoints, props.user, props.database, props, url⟩ := by
        rw [request?, hendpoints]
        dsimp only
        rw [comesToAsk, if_neg hurl, asked, if_neg hurl]
        cases strictMode props env.strict <;> rfl
      rw [hrequest]
      split
      · exact asks_of_silent (Act.within_pure none) env
      · exact asks_bind (asks_openLink d.connector _) (fun _ => Act.within_pure _) env

omit [Timeline τ] in
theorem calm_discard {j : Job τ (Connection τ)} (hclose : ∀ c, IsCalm (j.close c))
    (r : Except Failure (Option (Connection τ))) : IsCalm (j.discard r) := by
  intro env
  rcases r with f | _ | c
  · exact Std.Refl.refl env
  · exact Std.Refl.refl env
  · rw [BoundedWait.runFrom_discard]
    exact hclose c env

/-- Whoever waits for a worker asks for what the worker asks for. -/
theorem asks_awaitJob {c : Connector} {r : Bool → Option OpenRequest} {j : Job τ (Connection τ)}
    (hconnect : ∀ env, Asks c (r env.strict) env (j.connect.runFrom env).2)
    (hclose : ∀ c, IsCalm (j.close c)) (timeLimit : τ) (env : Environment τ) :
    Asks c (r env.strict) env ((awaitJob j timeLimit).runFrom env).2 := by
  have hmade := hconnect { env with side := .worker, late := false }
  rw [runFrom_awaitJob]
  generalize j.connect.runFrom { env with side := .worker, late := false } = made at hmade
  dsimp only at hmade ⊢
  split
  · have hleft := hmade.trans_silent (Calmly.silent (calm_discard hclose made.1 made.2))
    exact hleft.of_events rfl rfl
  · exact hmade.of_events rfl rfl

/-- An attempt asks for what its properties call for, within whatever time. -/
theorem asks_connectWithin (d : Driver) (url : String) (props : Properties) (limit : τ)
    (env : Environment τ) :
    Asks d.connector (d.request? url props env.strict) env
      ((d.connectWithin awaitJob (some url) props limit).runFrom env).2 := by
  unfold connectWithin
  split
  · exact asks_awaitJob (r := d.request? url props) (d.asks_makeConnection url props) calm_dispose
      limit env
  · exact d.asks_makeConnection url props env

/-- **A connection asks for what its attempt calls for.** -/
theorem asks_of_attempt {d : Driver} {url : String} {info : Overrides} {env start : Environment τ}
    {props : Properties} (h : d.attempt? url info env = some (props, start)) (registryLimit : τ) :
    Asks d.connector (d.request? url props env.strict) env
      ((d.connect registryLimit (some url) info).runFrom env).2 := by
  obtain ⟨hresolved, hlog⟩ := attempt?_eq_some_iff.mp h
  -- neither the log nor the time limit has anything to do with links or with strict mode
  have hlogged := quiet_configureLogging props env
  rw [hlog] at hlogged
  obtain ⟨limit, begun, hlimit, -⟩ := runFrom_loginTimeLimit registryLimit props start
  have hlimited := quiet_loginTimeLimit registryLimit props start
  rw [hlimit] at hlimited
  have hquiet : env.Quiet begun := Trans.trans hlogged hlimited
  have hrun : (d.establish awaitJob registryLimit url props).runFrom env =
      (d.connectWithin awaitJob (some url) props limit).runFrom begun := by
    unfold establish
    rw [Act.runFrom_bind_of_ok hlog, Act.runFrom_bind_of_ok hlimit]
  have hasks := d.asks_connectWithin url props limit begun
  rw [hquiet.strict] at hasks
  rw [connect, runFrom_connectBy_of_some hresolved, hrun]
  exact hquiet.silent.trans_asks hasks

/-- Without an attempt it asks for nothing. -/
theorem silent_of_no_attempt {d : Driver} {url : String} {info : Overrides} {env : Environment τ}
    (h : d.attempt? url info env = none) (registryLimit : τ) :
    Silent env ((d.connect registryLimit (some url) info).runFrom env).2 := by
  obtain ⟨r, env', hquiet, hrun⟩ := runFrom_connectBy_of_no_attempt h
  rw [connect, hrun]
  exact hquiet.silent

/-- **When a connector is asked at all**: the layers give properties, the log can be set up, the
properties name endpoints, and `comesToAsk` says so. -/
theorem requests_ne_nil_iff (d : Driver) (registryLimit : τ) (url : String) (info : Overrides)
    (env : Environment τ) :
    requests (env.since ((d.connect registryLimit (some url) info).runFrom env).2) ≠ [] ↔
      ∃ p start endpoints, d.attempt? url info env = some (p, start) ∧
        p.endpoints = .ok endpoints ∧ d.comesToAsk url p env.strict endpoints = true := by
  cases h : d.attempt? url info env with
  | none =>
    obtain ⟨new, hnew, hn⟩ := silent_of_no_attempt h registryLimit
    rw [Environment.since_eq hnew]
    simp [hn]
  | some attempt =>
    obtain ⟨props, start⟩ := attempt
    obtain ⟨new, side, hnew, hn⟩ := asks_of_attempt h registryLimit
    rw [Environment.since_eq hnew, hn]
    constructor
    · intro hne
      cases hr : d.request? url props env.strict with
      | none => exact absurd (by rw [hr]; rfl) hne
      | some r =>
        obtain ⟨endpoints, hendpoints, hcomes, -⟩ := request?_eq_some_iff.mp hr
        exact ⟨props, start, endpoints, rfl, hendpoints, hcomes⟩
    · rintro ⟨p, start', endpoints, hattempt, hendpoints, hcomes⟩
      obtain ⟨rfl, -⟩ := Prod.mk.inj (Option.some.inj hattempt)
      rw [request?_eq_some_iff.mpr ⟨endpoints, hendpoints, hcomes, rfl⟩]
      simp

/-- **What a connector is asked for.** On the way from a URL to a connection a connector is asked for
a link at most once. If it is, the properties that go with the request have for each name the value
that the layers give it, and no others; the endpoints, the user and the database are those that the
properties name; and of the endpoints only the first is named if the URL is one of a cluster. It is
asked exactly if the layers give properties, the log can be set up, the properties name endpoints,
and `comesToAsk` says so. -/
theorem connect_requests (d : Driver) (registryLimit : τ) (url : String) (info : Properties)
    (env : Environment τ) :
    let env' := ((d.connect registryLimit (some url) (.ofProperties info)).runFrom env).2
    (requests (env.since env') = [] ∨
      ∃ p endpoints side, d.resolved? url (.ofProperties info) env = some p ∧
        (∀ k, p.get? k = layered url info env.files d.configFiles env.login k) ∧
        p.endpoints = .ok endpoints ∧
        requests (env.since env') = [d.connector.ask
          ⟨if Mode.ofUrl url = .clusterAware then endpoints.take 1 else endpoints, p.user,
            p.database, p, url⟩ side]) ∧
    (requests (env.since env') ≠ [] ↔
      ∃ p start endpoints, d.attempt? url (.ofProperties info) env = some (p, start) ∧
        p.endpoints = .ok endpoints ∧ d.comesToAsk url p env.strict endpoints = true) := by
  intro env'
  constructor
  · cases h : d.attempt? url (.ofProperties info) env with
    | none =>
      obtain ⟨new, hnew, hn⟩ := silent_of_no_attempt h registryLimit
      left
      rw [Environment.since_eq hnew, hn]
    | some attempt =>
      obtain ⟨p, start⟩ := attempt
      obtain ⟨new, side, hnew, hn⟩ := asks_of_attempt h registryLimit
      rw [Environment.since_eq hnew, hn]
      cases hr : d.request? url p env.strict with
      | none => exact .inl rfl
      | some r =>
        obtain ⟨endpoints, hendpoints, -, rfl⟩ := request?_eq_some_iff.mp hr
        have hresolved := (attempt?_eq_some_iff.mp h).1
        obtain ⟨defaults, hdefaults, hresolve⟩ := resolved?_eq_some_iff.mp hresolved
        exact .inr ⟨p, endpoints, side, hresolved, get?_resolve hdefaults hresolve, hendpoints, rfl⟩
  · exact d.requests_ne_nil_iff registryLimit url (.ofProperties info) env

/-- Of two endpoints of a cluster the first one is asked for, for the user that the URL names, neither
for the one that the caller names nor for the one that has logged in. -/
theorem connect_requests_first_endpoint :
    let d : Driver := { connector := .custom }
    let url := "postgresql:aws://db:6432,spare/app?user=ann"
    let info := Properties.ofList [("user", "bob"), ("ssl", "on")]
    let env : Environment Int := { now := 0, login := some "root" }
    let env' := ((d.connect 0 (some url) (.ofProperties info)).runFrom env).2
    ∃ p side, p.get? "user" = some "ann" ∧ p.get? "ssl" = some "on" ∧ p.get? "password" = none ∧
      requests (env.since env') =
        [.requested ⟨[⟨"db", 6432, none⟩], "ann", "app", p, url⟩ side] := by
  intro d url info env env'
  obtain ⟨hrequest, hasked⟩ := connect_requests d 0 url info env
  -- it comes to a request: there are properties, and they name two endpoints
  let attempt := (d.attempt? url (.ofProperties info) env).get (by decide +kernel +zetaReduce)
  let both : List Endpoint := [⟨"db", 6432, none⟩, ⟨"spare", 5432, none⟩]
  have hnamed : attempt.1.endpoints = .ok both := by
    have h : attempt.1.endpoints.toOption = some both := by decide +kernel +zetaReduce
    cases hends : attempt.1.endpoints with
    | error f => exact absurd h (by simp [hends, Except.toOption])
    | ok endpoints => exact congrArg Except.ok (by simpa [hends, Except.toOption] using h)
  have hattempt : d.attempt? url (.ofProperties info) env = some attempt := (Option.some_get _).symm
  have hne := hasked.mpr ⟨attempt.1, attempt.2, both, hattempt, hnamed, by decide +kernel +zetaReduce⟩
  obtain ⟨p, endpoints, side, hresolved, hlayers, hendpoints, hrequests⟩ := hrequest.resolve_left hne
  obtain rfl : attempt.1 = p :=
    Option.some.inj ((attempt?_eq_some_iff.mp hattempt).1.symm.trans hresolved)
  obtain rfl : both = endpoints := Except.ok.inj (hnamed.symm.trans hendpoints)
  have huser : attempt.1.user = "ann" := by decide +kernel +zetaReduce
  have hdatabase : attempt.1.database = "app" := by decide +kernel +zetaReduce
  refine ⟨attempt.1, side, ?_, ?_, ?_, ?_⟩
  · rw [hlayers]
    decide +kernel +zetaReduce
  · rw [hlayers]
    decide +kernel +zetaReduce
  · rw [hlayers]
    decide +kernel +zetaReduce
  · have hcluster : Mode.ofUrl url = .clusterAware := by decide +kernel +zetaReduce
    rw [hrequests, huser, hdatabase, if_pos hcluster]
    rfl

end Driver

end ClusterConnect
