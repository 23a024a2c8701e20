import ClusterConnect.Proofs.Resolution.Layers

/-!
# Resolved properties are settled

Resolution lays a URL on top of other properties. What comes out already holds everything that the
URL says, so laying the same URL on top of it once more changes nothing: neither a value nor the
order of the names. The first pass may have filled in what the URL leaves out, or may have let the
query overrule the server list; the second pass finds these values in the layer below and keeps them.

* `Url.properties_properties`: a URL that has been laid on top of properties adds nothing to them.
* `parseUrl_settled`: reading the URL again gives the same properties and is not refused.
* `resolve_settled`: the same of all layers together; and no name of the lower layers is lost.
-/

namespace ClusterConnect

/-! ## What a URL sets -/

/-- The names that a target sets, in the order in which it sets them. -/
def Target.names : Target → List String
  | .servers .. => [Property.database.name, Property.host.name, Property.port.name]
  | .database _ => [Property.port.name, Property.host.name, Property.database.name]

/-- The names that a URL sets, in the order in which it sets them. -/
def Url.names (u : Url) : List String := u.target.names ++ u.arguments.map Prod.fst

/-- Whether a target replaces values or fills them in, its names come in the same way. -/
theorem names_apply (t : Target) (base : Properties) :
    (t.apply base).names = t.names.foldl addName base.names := by
  cases t with
  | servers addresses name => simp only [Target.apply, Properties.names_insert]; rfl
  | database name => simp only [Target.apply, Properties.names_insertIfAbsent]; rfl

theorem names_properties (u : Url) (base : Properties) :
    (u.properties base).names = u.names.foldl addName base.names := by
  rw [Url.properties, Properties.names_insertAll, names_apply, Url.names, List.foldl_append]

theorem names_prefix_properties (u : Url) (base : Properties) :
    base.names <+: (u.properties base).names := by
  rw [names_properties]
  exact prefix_foldl_addName _ _

/-- Where a value comes from a target, the same target gives it again. -/
theorem get?_apply_again {t : Target} {base upper : Properties} {k : String}
    (h : upper.get? k = (t.apply base).get? k) :
    (t.apply upper).get? k = (t.apply base).get? k := by
  cases t with
  | servers addresses name =>
    rw [get?_apply_servers] at h
    rw [get?_apply_servers, get?_apply_servers, h, ← Option.or_assoc, Option.or_self]
  | database name =>
    rw [get?_apply_database] at h
    rw [get?_apply_database, get?_apply_database, h, Option.or_assoc, Option.or_self]

/-- **A URL is laid down once.** On top of properties that it has been laid on, it changes nothing:
every name is there already, and has the value that the URL gives it. -/
theorem Url.properties_properties (u : Url) (base : Properties) :
    u.properties (u.properties base) = u.properties base := by
  refine Properties.ext_of_names ?_ fun k => ?_
  · have hsubset : u.names ⊆ (u.properties base).names := by
      intro k hk
      rw [names_properties]
      exact mem_foldl_addName hk
    rw [names_properties u (u.properties base), foldl_addName_of_subset hsubset]
  · have hquery : ∀ p : Properties, (u.properties p).get? k =
        (u.arguments.reverse.lookup k).or ((u.target.apply p).get? k) := fun p =>
      Properties.get?_insertAll (u.target.apply p) u.arguments k
    cases hq : u.arguments.reverse.lookup k with
    | some v => rw [hquery, hquery base, hq, Option.some_or, Option.some_or]
    | none =>
      -- the query is silent, so the value below is the one that the target has given
      have hbelow : (u.properties base).get? k = (u.target.apply base).get? k := by
        rw [hquery, hq, Option.none_or]
      rw [hquery (u.properties base), hq, Option.none_or, get?_apply_again hbelow, hbelow]

/-! ## Reading and resolving again -/

theorem eq_properties_of_parseUrl {url : String} {base props : Properties} {strict : Bool}
    (h : parseUrl (some url) base strict = .ok (some props)) :
    ∃ u, Url.parse? url = .ok (some u) ∧ u.properties base = props ∧
      (strictMode props strict && Mode.ofUrl url != .clusterAware) = false := by
  unfold parseUrl at h
  dsimp only at h
  cases hu : Url.parse? url with
  | error f => simp [hu] at h
  | ok parsed =>
    cases parsed with
    | none => simp [hu] at h
    | some u =>
      rw [hu] at h
      dsimp only at h
      split at h
      · exact absurd h (by simp)
      · next hplain =>
        obtain rfl := Option.some.inj (Except.ok.inj h)
        exact ⟨u, rfl, rfl, Bool.not_eq_true _ ▸ hplain⟩

/-- The properties that the reading of a URL gives are not changed by reading it again. Strict mode,
which is part of the properties by now, refuses the URL as little as it did before. -/
theorem parseUrl_settled {url : String} {base props : Properties} {strict : Bool}
    (h : parseUrl (some url) base strict = .ok (some props)) :
    parseUrl (some url) props strict = .ok (some props) := by
  obtain ⟨u, hu, rfl, hplain⟩ := eq_properties_of_parseUrl h
  simp [parseUrl, hu, u.properties_properties base, hplain]

theorem names_prefix_parseUrl {url : String} {base props : Properties} {strict : Bool}
    (h : parseUrl (some url) base strict = .ok (some props)) : base.names <+: props.names := by
  obtain ⟨u, -, rfl, -⟩ := eq_properties_of_parseUrl h
  exact names_prefix_properties u base

/-- Whatever a URL leaves out, it sets a host. -/
theorem contains_host_of_parseUrl {url : String} {base props : Properties} {strict : Bool}
    (h : parseUrl (some url) base strict = .ok (some props)) :
    props.contains Property.host.name = true := by
  obtain ⟨u, -, rfl, -⟩ := eq_properties_of_parseUrl h
  rw [Properties.contains_iff_mem_names, names_properties]
  refine mem_foldl_addName (List.mem_append_left _ ?_)
  cases u.target <;> simp [Target.names]

theorem isOurs_of_resolve {url : String} {overrides : Overrides} {defaults props : Properties}
    {strict : Bool} (h : resolve (some url) overrides defaults strict = .ok (some props)) :
    isOurs url = true := by
  unfold resolve at h
  dsimp only at h
  split at h
  · assumption
  · exact absurd h (by simp)

/-- What passes the check is texts and nothing else. -/
theorem eq_of_texts {overrides : Overrides} {es : List (String × String)}
    (h : overrides.texts = .ok es) :
    overrides = es.map fun e => (Value.text e.1, Value.text e.2) := by
  induction overrides using Overrides.texts.induct generalizing es with
  | case1 =>
    obtain rfl := Except.ok.inj h
    rfl
  | case2 key value rest ih =>
    rw [Overrides.texts] at h
    cases hrest : Overrides.texts rest with
    | error entry => rw [hrest] at h; cases h
    | ok es' =>
      rw [hrest] at h
      obtain rfl := Except.ok.inj h
      rw [List.map_cons, ← ih hrest]
  | case3 entry rest hentry =>
    rw [Overrides.texts] at h
    · cases h
    · exact hentry

theorem mem_names_of_check {overrides : Overrides} {given : Properties}
    (h : overrides.check = .ok given) {key value : Value} (he : (key, value) ∈ overrides) :
    ∃ name, key = .text name ∧ name ∈ given.names := by
  unfold Overrides.check at h
  split at h
  · next es hes =>
    obtain rfl := Except.ok.inj h
    rw [eq_of_texts hes] at he
    obtain ⟨e, hmem, hkey⟩ := List.mem_map.mp he
    refine ⟨e.1, (congrArg Prod.fst hkey).symm, ?_⟩
    rw [Properties.ofList, Properties.names_insertAll]
    exact mem_foldl_addName (List.mem_map_of_mem hmem)
  · exact absurd h (by simp)

/-- **Resolution is a projection.** Properties that a URL has been resolved to are settled: reading
the URL on top of them, resolving it on top of them, and resolving it on top of them and the same
defaults give the very same mapping, names and values and order, and none of the three is refused.
No name of the defaults or of what the caller supplies is lost on the way. -/
theorem resolve_settled (url : Option String) (overrides : Overrides)
    (defaults props : Properties) (strict : Bool)
    (h : resolve url overrides defaults strict = .ok (some props)) :
    parseUrl url props strict = .ok (some props) ∧
      resolve url (.ofProperties props) .empty strict = .ok (some props) ∧
      resolve url (.ofProperties props) defaults strict = .ok (some props) ∧
      (∀ key, defaults.contains key = true → props.contains key = true) ∧
      ∀ key value, (key, value) ∈ overrides →
        ∃ name, key = .text name ∧ props.contains name = true := by
  cases url with
  | none => exact absurd h (by simp [resolve])
  | some url =>
    have hours := isOurs_of_resolve h
    obtain ⟨given, hgiven, hparse⟩ := parseUrl_of_resolve h
    have hagain := parseUrl_settled hparse
    have hbase : (defaults.merge given).names <+: props.names := names_prefix_parseUrl hparse
    have hdefaults : defaults.names <+: props.names := by
      rw [Properties.names_merge] at hbase
      exact (prefix_foldl_addName _ _).trans hbase
    refine ⟨hagain, ?_, ?_, ?_, ?_⟩
    · rw [resolve_ofProperties, if_pos hours, Properties.empty_merge, hagain]
      rfl
    · -- the defaults are all in the layer above them, so that layer decides
      rw [resolve_ofProperties, if_pos hours, Properties.merge_of_prefix hdefaults, hagain]
      rfl
    · intro key hkey
      rw [Properties.contains_iff_mem_names] at hkey ⊢
      exact hdefaults.subset hkey
    · intro key value he
      obtain ⟨name, rfl, hname⟩ := mem_names_of_check hgiven he
      refine ⟨name, rfl, Properties.contains_iff_mem_names.mpr (hbase.subset ?_)⟩
      rw [Properties.names_merge]
      exact mem_foldl_addName hname

/-- A query that overrules the server list of its own URL, twice, where the defaults let the URL pass
strict mode. -/
theorem resolve_settled_overruled :
    ∃ props,
      resolve (some "postgresql://db:6000/sales?PGHOST=a&PGHOST=b")
          [(.text "user", .text "reporter")] (.ofList [("acceptAwsProtocolOnly", "false")]) true =
        .ok (some props) ∧
      props = .ofList [("acceptAwsProtocolOnly", "false"), ("user", "reporter"),
        ("PGDBNAME", "sales"), ("PGHOST", "b"), ("PGPORT", "6000")] ∧
      parseUrl (some "postgresql://db:6000/sales?PGHOST=a&PGHOST=b") props true =
        .ok (some props) ∧
      props.contains "acceptAwsProtocolOnly" = true := by
  have hresolve : resolve (some "postgresql://db:6000/sales?PGHOST=a&PGHOST=b")
      [(.text "user", .text "reporter")] (.ofList [("acceptAwsProtocolOnly", "false")]) true =
        .ok (some _) := rfl
  obtain ⟨hparse, -, -, hdefaults, -⟩ := resolve_settled _ _ _ _ _ hresolve
  exact ⟨_, hresolve, by decide +kernel, hparse, hdefaults _ (by decide)⟩

end ClusterConnect
