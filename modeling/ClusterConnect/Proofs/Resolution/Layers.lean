import ClusterConnect.Configuration
import ClusterConnect.Proofs.Url.Grammar
import ClusterConnect.Resolution

/-!
# Where the value of a property comes from

Six layers give values to properties. They are laid down one after the other, by several functions
and in different directions; here they stand side by side, and a name has the value of the first
layer that has one for it.

* `argument?` (from the grammar), `serverValue?`, `remainder?`: what the text of a URL says.
* `configured?`: what the configuration files say, the first one of them first.
* `layered`: all six layers, as one look-up.
* `get?_resolve`: the resolution of properties is that look-up.
-/

namespace ClusterConnect

open Text

/-! ## The server part -/

/-- The host in an item of a server list. -/
def hostIn (item : List Char) : String :=
  match cutLast ':' ']' item with
  | some (host, _) => String.ofList host
  | none => String.ofList item

/-- The port in an item of a server list. -/
def portIn (item : List Char) : String :=
  match cutLast ':' ']' item with
  | some (_, port) => String.ofList port
  | none => defaultPortText

/-- What stands between the scheme and the first question mark. -/
def bodyOf (url : String) : List Char :=
  if Mode.clusterScheme.toList <+: serverPart url then
    (serverPart url).drop Mode.clusterScheme.toList.length
  else (serverPart url).drop Mode.plainScheme.toList.length

/-- Whether a URL has a server list. -/
def HasServers (url : String) : Prop := ['/', '/'] <+: bodyOf url

instance (url : String) : Decidable (HasServers url) :=
  inferInstanceAs (Decidable (['/', '/'] <+: bodyOf url))

/-- The items of the server list, which a slash ends. -/
def itemsOf (url : String) : List (List Char) :=
  (((bodyOf url).drop 2).takeWhile (· != '/')).splitOn ','

/-- What stands behind the server list, decoded. -/
def databaseOf (url : String) : String :=
  String.ofList (Percent.decodeText ((((bodyOf url).drop 2).dropWhile (· != '/')).drop 1))

/-- A layer that has values for the three server properties only. -/
def serverLayer (host port database : String) (k : String) : Option String :=
  if k = Property.host.name then some host
  else if k = Property.port.name then some port
  else if k = Property.database.name then some database
  else none

/-- The value that the server list of a URL gives to a name. -/
def serverValue? (url k : String) : Option String :=
  if HasServers url then
    serverLayer (commaList ((itemsOf url).map hostIn)) (commaList ((itemsOf url).map portIn))
      (databaseOf url) k
  else none

/-- The value that a name has for want of another one, if a URL has no server list. -/
def remainder? (url k : String) : Option String :=
  if HasServers url then none
  else
    serverLayer defaultHost defaultPortText (String.ofList (Percent.decodeText (bodyOf url))) k

theorem parse_eq {item : List Char} {url : String} {a : Address}
    (h : Address.parse item url = .ok a) :
    a.host = hostIn item ∧ a.port.getD defaultPortText = portIn item := by
  unfold Address.parse at h
  unfold hostIn portIn
  cases hc : cutLast ':' ']' item with
  | none =>
    rw [hc] at h
    obtain rfl := Except.ok.inj h
    exact ⟨rfl, rfl⟩
  | some parts =>
    obtain ⟨host, port⟩ := parts
    rw [hc] at h
    dsimp only at h
    split at h
    · exact absurd h (by simp)
    · obtain rfl := Except.ok.inj h
      exact ⟨rfl, rfl⟩

theorem parseAll_eq {url : String} {items : List (List Char)} {as : List Address}
    (h : Address.parseAll url items = .ok as) :
    as.map Address.host = items.map hostIn ∧
      as.map (fun a => a.port.getD defaultPortText) = items.map portIn := by
  induction items generalizing as with
  | nil =>
    obtain rfl := Except.ok.inj h
    exact ⟨rfl, rfl⟩
  | cons item rest ih =>
    unfold Address.parseAll at h
    split at h
    · exact absurd h (by simp)
    · next a ha =>
      split at h
      · exact absurd h (by simp)
      · next as' has =>
        obtain rfl := Except.ok.inj h
        obtain ⟨hhost, hport⟩ := parse_eq ha
        obtain ⟨hhosts, hports⟩ := ih has
        simp only [List.map_cons, hhost, hport, hhosts, hports, and_self]

theorem bodyOf_eq {url : String} {mode : Mode} {body : List Char}
    (h : splitScheme? (serverPart url) = some (mode, body)) : bodyOf url = body := by
  unfold bodyOf
  rcases splitScheme?_eq_some h with hb | ⟨hn, hb⟩
  · rw [if_pos ⟨body, hb.symm⟩, hb, List.drop_left]
  · rw [if_neg hn, hb, List.drop_left]

theorem host_ne_port : Property.host.name ≠ Property.port.name := by decide

theorem host_ne_database : Property.host.name ≠ Property.database.name := by decide

theorem port_ne_database : Property.port.name ≠ Property.database.name := by decide

/-- A server list counts more than what was there before. -/
theorem get?_apply_servers (as : List Address) (name : String) (base : Properties) (k : String) :
    ((Target.servers as name).apply base).get? k =
      (serverLayer (commaList (as.map Address.host))
        (commaList (as.map fun a => a.port.getD defaultPortText)) name k).or (base.get? k) := by
  unfold serverLayer
  simp only [Target.apply, Properties.get?_insert]
  by_cases hhost : k = Property.host.name
  · simp only [hhost, if_neg host_ne_port, if_true, Option.some_or]
  · by_cases hport : k = Property.port.name
    · simp only [if_neg hhost, if_pos hport, Option.some_or]
    · by_cases hdatabase : k = Property.database.name
      · simp only [if_neg hhost, if_neg hport, if_pos hdatabase, Option.some_or]
      · simp only [if_neg hhost, if_neg hport, if_neg hdatabase, Option.none_or]

/-- A database alone counts less than what was there before. -/
theorem get?_apply_database (name : String) (base : Properties) (k : String) :
    ((Target.database name).apply base).get? k =
      (base.get? k).or (serverLayer defaultHost defaultPortText name k) := by
  unfold serverLayer
  simp only [Target.apply, Properties.get?_insertIfAbsent]
  by_cases hhost : k = Property.host.name
  · simp only [hhost, if_neg host_ne_port, if_neg host_ne_database, if_true]
    cases base.get? Property.host.name <;> rfl
  · by_cases hport : k = Property.port.name
    · simp only [hport, if_neg host_ne_port.symm, if_neg port_ne_database, if_true]
      cases base.get? Property.port.name <;> rfl
    · by_cases hdatabase : k = Property.database.name
      · simp only [hdatabase, if_neg host_ne_database.symm, if_neg port_ne_database.symm, if_true]
        cases base.get? Property.database.name <;> rfl
      · simp only [if_neg hhost, if_neg hport, if_neg hdatabase, Option.or_none]

/-- A target gives to each name what the text of the URL says about it. -/
theorem get?_apply_parse {url : String} {t : Target} (h : Target.parse (bodyOf url) url = .ok t)
    (base : Properties) (k : String) :
    (t.apply base).get? k = ((serverValue? url k).or (base.get? k)).or (remainder? url k) := by
  unfold Target.parse at h
  cases hp : afterPrefix? ['/', '/'] (bodyOf url) with
  | none =>
    have hservers : ¬ HasServers url := afterPrefix?_eq_none_iff.mp hp
    rw [hp] at h
    obtain rfl := Except.ok.inj h
    rw [serverValue?, remainder?, if_neg hservers, if_neg hservers, Option.none_or]
    exact get?_apply_database _ base k
  | some rest =>
    have hbody : bodyOf url = '/' :: '/' :: rest := afterPrefix?_eq_some_iff.mp hp
    have hservers : HasServers url := ⟨rest, hbody.symm⟩
    have hrest : (bodyOf url).drop 2 = rest := by rw [hbody]; rfl
    obtain ⟨hlist, hname⟩ := cut_eq '/' rest
    rw [hp] at h
    dsimp only at h
    rcases hc : cut '/' rest with ⟨list, _ | name⟩ <;> rw [hc] at h hlist hname
    · exact absurd h (by simp)
    · dsimp only [Option.getD_some] at h hlist hname
      split at h
      · exact absurd h (by simp)
      · next as has =>
        obtain rfl := Except.ok.inj h
        obtain ⟨hhosts, hports⟩ := parseAll_eq has
        rw [serverValue?, remainder?, if_pos hservers, if_pos hservers, Option.or_none, itemsOf,
          databaseOf, hrest, ← hlist, ← hname, ← hhosts, ← hports]
        exact get?_apply_servers as _ base k

/-! ## Configuration files -/

/-- The properties of a configuration file, `none` if there is no such file or it cannot be
loaded. -/
def fileProperties? (files : FileTree) (path : Path) : Option Properties :=
  match files.isFile path with
  | .ok true => (Configuration.load files path).toOption
  | _ => none

/-- The value in the first listed file that defines a name. -/
def configured? (files : FileTree) (paths : List Path) (k : String) : Option String :=
  paths.findSome? fun path => (fileProperties? files path).bind (·.get? k)

theorem get?_overlay {files : FileTree} {base p : Properties} {path : Path}
    (h : Configuration.overlay files base path = .ok p) (k : String) :
    p.get? k = ((fileProperties? files path).bind (·.get? k)).or (base.get? k) := by
  unfold Configuration.overlay at h
  unfold fileProperties?
  cases hfile : files.isFile path with
  | error f =>
    rw [hfile] at h
    exact absurd h (by simp)
  | ok isFile =>
    rw [hfile] at h
    cases isFile with
    | false =>
      obtain rfl := Except.ok.inj h
      rfl
    | true =>
      cases hload : Configuration.load files path with
      | error f =>
        rw [hload] at h
        exact absurd h (by simp [Except.map])
      | ok upper =>
        rw [hload] at h
        obtain rfl := Except.ok.inj h
        exact Properties.get?_merge base upper k

theorem get?_start (login : Option String) (k : String) :
    (login.elim Properties.empty (Properties.empty.insert Property.user.name)).get? k =
      if k = Property.user.name then login else none := by
  cases login with
  | none => simp
  | some name =>
    rw [Option.elim_some, Properties.get?_insert, Properties.get?_empty]

/-- The files are laid down from the last to the first, so the first one that defines a name
counts. -/
theorem get?_defaults {files : FileTree} {login : Option String} {paths : List Path}
    {p : Properties} (h : Configuration.defaults files login paths = .ok p) (k : String) :
    p.get? k =
      (configured? files paths k).or (if k = Property.user.name then login else none) := by
  unfold Configuration.defaults at h
  dsimp only at h
  induction paths generalizing p with
  | nil =>
    obtain rfl := Except.ok.inj h
    exact get?_start login k
  | cons path rest ih =>
    -- `path` is the file that is laid down last, on top of the properties of `rest`
    simp only [List.reverse_cons, List.foldlM_append, List.foldlM_cons, List.foldlM_nil,
      bind_pure] at h
    cases hrest : rest.reverse.foldlM (Configuration.overlay files)
        (login.elim Properties.empty (Properties.empty.insert Property.user.name)) with
    | error f =>
      rw [hrest] at h
      exact absurd h (by simp [bind, Except.bind])
    | ok below =>
      rw [hrest] at h
      have hover : Configuration.overlay files below path = .ok p := h
      rw [get?_overlay hover, ih hrest, ← Option.or_assoc, configured?, configured?,
        List.findSome?_cons]
      cases (fileProperties? files path).bind (·.get? k) <;> rfl

/-! ## All layers -/

/-- The value of a name, from the first layer that has one: the query of the URL, its server list,
what the caller supplies, the configuration files, the login name, and what stands in for want of a
server list. -/
def layered (url : String) (info : Properties) (files : FileTree) (paths : List Path)
    (login : Option String) (k : String) : Option String :=
  (argument? url k).or <| (serverValue? url k).or <| (info.get? k).or <|
    (configured? files paths k).or <|
      (if k = Property.user.name then login else none).or <| remainder? url k

/-- Texts that a caller supplies pass the check. -/
theorem check_ofProperties (info : Properties) :
    (Overrides.ofProperties info).check = .ok info := by
  have htexts : ∀ es : List (String × String),
      Overrides.texts (es.map fun e => (Value.text e.1, Value.text e.2)) = .ok es := by
    intro es
    induction es with
    | nil => rfl
    | cons e rest ih => rw [List.map_cons, Overrides.texts, ih]; rfl
  unfold Overrides.check Overrides.ofProperties
  rw [htexts]
  exact congrArg Except.ok info.ofList_entries

/-- Resolution on top of texts is the reading of the URL on top of both layers. -/
theorem resolve_ofProperties (url : String) (info defaults : Properties) (strict : Bool) :
    resolve (some url) (.ofProperties info) defaults strict =
      if isOurs url then (parseUrl (some url) (defaults.merge info) strict).mapError .url
      else .ok none := by
  unfold resolve
  rw [check_ofProperties]

/-- A URL that is read sets the properties of its server part and of its query. -/
theorem target_of_parseUrl {url : String} {base props : Properties} {strict : Bool}
    (h : parseUrl (some url) base strict = .ok (some props)) :
    ∃ mode target, Target.parse (bodyOf url) url = .ok target ∧
      Url.properties ⟨mode, target, parseArguments (queryPart url)⟩ base = props := by
  unfold parseUrl at h
  dsimp only at h
  rw [parse?_eq url] at h
  cases hs : splitScheme? (serverPart url) with
  | none =>
    rw [hs] at h
    exact absurd h (by simp)
  | some parts =>
    obtain ⟨mode, body⟩ := parts
    obtain rfl := bodyOf_eq hs
    rw [hs] at h
    cases ht : Target.parse (bodyOf url) url with
    | error f =>
      simp only [ht] at h
      exact absurd h (by simp)
    | ok target =>
      simp only [ht] at h
      split at h
      · exact absurd h (by simp)
      · exact ⟨mode, target, rfl, Option.some.inj (Except.ok.inj h)⟩

/-- A URL that is read gives each name the value that its text says, in the query or else in the
server part, and keeps the other values. -/
theorem get?_parseUrl {url : String} {base props : Properties} {strict : Bool}
    (h : parseUrl (some url) base strict = .ok (some props)) (k : String) :
    props.get? k = (argument? url k).or
      (((serverValue? url k).or (base.get? k)).or (remainder? url k)) := by
  obtain ⟨mode, target, ht, rfl⟩ := target_of_parseUrl h
  rw [Url.properties, Properties.get?_insertAll, lookup_parseArguments, get?_apply_parse ht]

/-- Properties are resolved by reading the URL on top of the two other layers. -/
theorem parseUrl_of_resolve {url : String} {overrides : Overrides} {defaults props : Properties}
    {strict : Bool} (h : resolve (some url) overrides defaults strict = .ok (some props)) :
    ∃ given, overrides.check = .ok given ∧
      parseUrl (some url) (defaults.merge given) strict = .ok (some props) := by
  unfold resolve at h
  dsimp only at h
  split at h
  · split at h
    · exact absurd h (by simp)
    · next given hgiven =>
      cases hp : parseUrl (some url) (defaults.merge given) strict with
      | error f =>
        rw [hp] at h
        cases h
      | ok q =>
        rw [hp] at h
        obtain rfl := Except.ok.inj h
        exact ⟨given, hgiven, hp⟩
  · exact absurd h (by simp)

/-- The resolved properties of a connection are the look-up through all layers. -/
theorem get?_resolve {url : String} {info defaults props : Properties} {files : FileTree}
    {paths : List Path} {login : Option String} {strict : Bool}
    (hdefaults : Configuration.defaults files login paths = .ok defaults)
    (h : resolve (some url) (.ofProperties info) defaults strict = .ok (some props)) (k : String) :
    props.get? k = layered url info files paths login k := by
  obtain ⟨given, hgiven, hp⟩ := parseUrl_of_resolve h
  obtain rfl := Except.ok.inj ((check_ofProperties info).symm.trans hgiven)
  rw [get?_parseUrl hp, Properties.get?_merge, get?_defaults hdefaults, layered]
  simp only [Option.or_assoc]

end ClusterConnect
