import ClusterConnect.Proofs.Configuration.Loading
import ClusterConnect.Proofs.Driver.Acceptance
import ClusterConnect.Proofs.Resolution.Layers
import Mathlib.Data.List.Forall2

/-!
# Passwords in the resolution of properties

A password may come from the configuration files, from what the caller supplies, and from the query
of the URL, more than once from each. Here two resolutions are compared that differ in the values of
passwords and in nothing else.

* `SameValue`, `SameEntry`, `SameButPassword`: values, settings and mappings that are the same but
  for the value of the password. Whatever is done to properties keeps mappings like that
  (`SameButPassword.insertAll`, `merge`, `apply`).
* `SameUrl`: URLs that are the same but for the values of passwords in the query.
  `UrlFault.withUrl`: all that such a URL may change about a fault.
* `SameFile`: configuration files that are the same but for the value of the password.
* `defaults_paired`, `parseUrl_paired`, `resolve_paired`: defaults, readings and resolutions that
  have the same faults, or mappings that are the same but for the password.
-/

namespace ClusterConnect

open Text

/-! ## Values -/

/-- Two values for a name that are the same, or that both are there or not if the name is that of
the password. -/
def SameValue (k : String) (v v' : Option String) : Prop :=
  if k = Property.password.name then v.isSome = v'.isSome else v = v'

namespace SameValue

variable {k : String} {v v' w w' : Option String}

theorem refl (k : String) (v : Option String) : SameValue k v v := by
  unfold SameValue
  split <;> rfl

theorem isSome (h : SameValue k v v') : v.isSome = v'.isSome := by
  unfold SameValue at h
  split at h
  · exact h
  · rw [h]

theorem eq (h : SameValue k v v') (hk : k ≠ Property.password.name) : v = v' := by
  unfold SameValue at h
  rwa [if_neg hk] at h

/-- The first value counts, or for want of one the second. -/
theorem or (h : SameValue k v v') (hw : SameValue k w w') : SameValue k (v.or w) (v'.or w') := by
  unfold SameValue at *
  split at h
  · next hk =>
    rw [if_pos hk] at hw ⊢
    rw [Option.isSome_or, Option.isSome_or, h, hw]
  · next hk =>
    rw [if_neg hk] at hw ⊢
    rw [h, hw]

end SameValue

/-- Two settings of one name, with one value unless the name is that of the password. -/
def SameEntry (e e' : String × String) : Prop :=
  e.1 = e'.1 ∧ (e.1 = Property.password.name ∨ e.2 = e'.2)

theorem SameEntry.refl (e : String × String) : SameEntry e e := ⟨rfl, .inr rfl⟩

theorem SameEntry.sameValue {e e' : String × String} (h : SameEntry e e') :
    SameValue e.1 (some e.2) (some e'.2) := by
  unfold SameValue
  rcases h.2 with hpassword | hvalue
  · rw [if_pos hpassword]
    rfl
  · rw [hvalue]
    split <;> rfl

/-! ## Mappings -/

/-- Mappings that are the same but for the value of the password. -/
def SameButPassword (p q : Properties) : Prop := ∀ k, SameValue k (p.get? k) (q.get? k)

namespace SameButPassword

variable {p q p' q' : Properties} {e e' : String × String} {es es' : List (String × String)}

theorem refl (p : Properties) : SameButPassword p p := fun k => .refl k (p.get? k)

theorem contains (h : SameButPassword p q) (k : String) : p.contains k = q.contains k :=
  (h k).isSome

theorem insert (h : SameButPassword p q) (he : SameEntry e e') :
    SameButPassword (p.insert e.1 e.2) (q.insert e'.1 e'.2) := by
  intro k
  rw [Properties.get?_insert, Properties.get?_insert, ← he.1]
  by_cases hk : k = e.1
  · rw [if_pos hk, if_pos hk, hk]
    exact he.sameValue
  · rw [if_neg hk, if_neg hk]
    exact h k

theorem insertIfAbsent (h : SameButPassword p q) (key value : String) :
    SameButPassword (p.insertIfAbsent key value) (q.insertIfAbsent key value) := by
  unfold Properties.insertIfAbsent
  rw [h.contains key]
  split
  · exact h
  · exact h.insert (.refl (key, value))

theorem insertAll (h : SameButPassword p q) (hes : List.Forall₂ SameEntry es es') :
    SameButPassword (p.insertAll es) (q.insertAll es') := by
  induction hes generalizing p q with
  | nil => exact h
  | cons he hrest ih => exact ih (h.insert he)

theorem merge (h : SameButPassword p q) (h' : SameButPassword p' q') :
    SameButPassword (p.merge p') (q.merge q') := by
  intro k
  rw [Properties.get?_merge, Properties.get?_merge]
  exact (h' k).or (h k)

theorem apply (h : SameButPassword p q) (t : Target) : SameButPassword (t.apply p) (t.apply q) := by
  cases t with
  | servers addresses name =>
    exact ((h.insert (.refl (_, name))).insert (.refl (_, _))).insert (.refl (_, _))
  | database name => exact ((h.insertIfAbsent _ _).insertIfAbsent _ _).insertIfAbsent _ _

/-- Strict mode has a property of its own. -/
theorem strictMode_eq (h : SameButPassword p q) (default : Bool) :
    strictMode p default = strictMode q default := by
  rw [ClusterConnect.strictMode_eq, ClusterConnect.strictMode_eq, (h _).eq (by decide)]

end SameButPassword

/-! ## URLs -/

/-- Two tokens of a query that are the same, or that both give a password. -/
def SameToken (token token' : List Char) : Prop :=
  token = token' ∨
    ∃ value value', token = "password=".toList ++ value ∧ token' = "password=".toList ++ value'

/-- URLs with the same server part whose queries have the same tokens, one by one, but for the
values of passwords. -/
structure SameUrl (url url' : String) : Prop where
  server : serverPart url = serverPart url'
  query : List.Forall₂ SameToken ((queryPart url).splitOn '&') ((queryPart url').splitOn '&')

theorem SameUrl.refl (url : String) : SameUrl url url :=
  ⟨rfl, List.forall₂_same.mpr fun _ _ => .inl rfl⟩

theorem parseArgument_password (value : List Char) :
    parseArgument ("password=".toList ++ value) =
      (Property.password.name, String.ofList (Percent.decodeText value)) := by
  have hsign : '=' ∉ "password".toList := by decide
  have hcut : cut '=' ("password=".toList ++ value) = ("password".toList, some value) :=
    cut_append hsign
  unfold parseArgument
  rw [hcut]
  rfl

theorem SameToken.parseArgument {token token' : List Char} (h : SameToken token token') :
    SameEntry (parseArgument token) (parseArgument token') := by
  rcases h with rfl | ⟨value, value', rfl, rfl⟩
  · exact .refl _
  · rw [parseArgument_password, parseArgument_password]
    exact ⟨rfl, .inl rfl⟩

theorem SameToken.isEmpty {token token' : List Char} (h : SameToken token token') :
    token.isEmpty = token'.isEmpty := by
  rcases h with rfl | ⟨value, value', rfl, rfl⟩
  · rfl
  · rfl

theorem SameUrl.arguments {url url' : String} (h : SameUrl url url') :
    List.Forall₂ SameEntry (parseArguments (queryPart url)) (parseArguments (queryPart url')) := by
  have hquery := h.query
  unfold parseArguments
  generalize (queryPart url).splitOn '&' = tokens at hquery ⊢
  generalize (queryPart url').splitOn '&' = tokens' at hquery ⊢
  induction hquery with
  | nil => exact .nil
  | @cons token token' rest rest' htoken hrest ih =>
    cases hempty : token.isEmpty with
    | true =>
      rw [List.filter_cons_of_neg (by simp [hempty]),
        List.filter_cons_of_neg (by simp [← htoken.isEmpty, hempty])]
      exact ih
    | false =>
      rw [List.filter_cons_of_pos (by simp [hempty]),
        List.filter_cons_of_pos (by simp [← htoken.isEmpty, hempty])]
      exact .cons htoken.parseArgument ih

/-- Both schemes end in front of the query. -/
theorem SameUrl.isOurs_eq {url url' : String} (h : SameUrl url url') :
    isOurs url = isOurs url' := by
  rw [Bool.eq_iff_iff, ← plainScheme_prefix_serverPart_iff, ← plainScheme_prefix_serverPart_iff,
    h.server]

/-- The same fault of another URL. -/
def UrlFault.withUrl (url : String) : UrlFault → UrlFault
  | .missing => .missing
  | .unterminatedServers _ => .unterminatedServers url
  | .portNotNumeric port _ => .portNotNumeric port url
  | .portTooLong port => .portTooLong port
  | .portOutOfRange port _ => .portOutOfRange port url
  | .rejected _ => .rejected url

theorem checkPort_withUrl (port : List Char) (url url' : String) :
    checkPort port url' = (checkPort port url).mapError (UrlFault.withUrl url') := by
  unfold checkPort
  split
  · rfl
  · split
    · rfl
    · split <;> rfl

theorem parse_withUrl (item : List Char) (url url' : String) :
    Address.parse item url' = (Address.parse item url).mapError (UrlFault.withUrl url') := by
  unfold Address.parse
  rcases cutLast ':' ']' item with _ | ⟨host, port⟩
  · rfl
  · dsimp only
    rw [checkPort_withUrl port url url']
    cases checkPort port url <;> rfl

theorem parseAll_withUrl (items : List (List Char)) (url url' : String) :
    Address.parseAll url' items =
      (Address.parseAll url items).mapError (UrlFault.withUrl url') := by
  induction items with
  | nil => rfl
  | cons item rest ih =>
    unfold Address.parseAll
    rw [parse_withUrl item url url', ih]
    cases Address.parse item url with
    | error f => rfl
    | ok a => cases Address.parseAll url rest <;> rfl

/-- The URL has no part in the reading of what follows its scheme, except that a fault names it. -/
theorem target_withUrl (body : List Char) (url url' : String) :
    Target.parse body url' = (Target.parse body url).mapError (UrlFault.withUrl url') := by
  unfold Target.parse
  cases afterPrefix? ['/', '/'] body with
  | none => rfl
  | some rest =>
    dsimp only
    rcases cut '/' rest with ⟨list, _ | name⟩
    · rfl
    · dsimp only
      rw [parseAll_withUrl _ url url']
      cases Address.parseAll url (list.splitOn ',') <;> rfl

/-- A fault of another URL is a failure of the driver if the fault is one, and else the same
failure. -/
theorem UrlFault.failure_withUrl (f : UrlFault) (url : String) :
    (∃ e e', f.failure = .driver e ∧ (f.withUrl url).failure = .driver e') ∨
      (f.withUrl url).failure = f.failure := by
  cases f with
  | portTooLong port => exact .inr rfl
  | _ => exact .inl ⟨_, _, rfl, rfl⟩

/-! ## The resolution -/

section

variable {url url' : String} {base base' : Properties}

/-- A URL is read to properties that are the same but for the password, or to the same fault. -/
theorem parseUrl_paired (hurl : SameUrl url url') (hbase : SameButPassword base base')
    (strict : Bool) :
    Paired (fun f f' => f' = f.withUrl url') (Option.Rel SameButPassword)
      (parseUrl (some url) base strict) (parseUrl (some url') base' strict) := by
  have hmode : (Mode.ofUrl url != .clusterAware) = (Mode.ofUrl url' != .clusterAware) := by
    rw [Bool.eq_iff_iff, ofUrl_bne_clusterAware, ofUrl_bne_clusterAware,
      ← clusterScheme_prefix_serverPart_iff, ← clusterScheme_prefix_serverPart_iff, hurl.server]
  unfold parseUrl
  dsimp only
  rw [parse?_eq url, parse?_eq url', ← hurl.server]
  rcases splitScheme? (serverPart url) with _ | ⟨mode, body⟩
  · exact .ok .none
  · dsimp only
    rw [target_withUrl body url url']
    cases Target.parse body url with
    | error f => exact .error rfl
    | ok target =>
      have hprops := (hbase.apply target).insertAll hurl.arguments
      have hstrict : strictMode (Url.properties ⟨mode, target, parseArguments (queryPart url)⟩ base)
          strict = strictMode (Url.properties ⟨mode, target, parseArguments (queryPart url')⟩ base')
            strict := hprops.strictMode_eq strict
      show Paired _ _ (if _ then _ else _) (if _ then _ else _)
      rw [hstrict, hmode]
      split
      · exact .error rfl
      · exact .ok (.some hprops)

/-- A fault of a URL names that URL. -/
theorem withUrl_of_parseUrl {strict : Bool} {f : UrlFault}
    (h : parseUrl (some url) base strict = .error f) : f.withUrl url = f := by
  have hpaired := parseUrl_paired (.refl url) (.refl base) strict
  rw [h] at hpaired
  cases hpaired with
  | error hf => exact hf.symm

theorem resolve_paired {given given' defaults defaults' : Properties} (hurl : SameUrl url url')
    (hgiven : SameButPassword given given') (hdefaults : SameButPassword defaults defaults')
    (strict : Bool) :
    Paired (fun f f' => ∃ fault, f = .url fault ∧ f' = .url (fault.withUrl url') ∧
        fault.withUrl url = fault) (Option.Rel SameButPassword)
      (resolve (some url) (.ofProperties given) defaults strict)
      (resolve (some url') (.ofProperties given') defaults' strict) := by
  rw [resolve_ofProperties, resolve_ofProperties, ← hurl.isOurs_eq]
  split
  · have hread := parseUrl_paired hurl (hdefaults.merge hgiven) strict
    generalize hr : parseUrl (some url) (defaults.merge given) strict = r at hread
    generalize parseUrl (some url') (defaults'.merge given') strict = r' at hread
    cases hread with
    | error hf => exact .error ⟨_, rfl, hf ▸ rfl, withUrl_of_parseUrl hr⟩
    | ok hp => exact .ok hp
  · exact .ok .none

end

/-! ## Configuration files -/

/-- What two file trees have at a path: the same obstacle, or properties that are the same but for
the password, if there is a file. -/
structure SameFile (files files' : FileTree) (path : Path) : Prop where
  obstacle : Configuration.obstacle? files path = Configuration.obstacle? files' path
  properties : Option.Rel SameButPassword (fileProperties? files path) (fileProperties? files' path)

section

variable {files files' : FileTree} {path : Path} {paths : List Path}

/-- A file that has properties is no obstacle. -/
theorem obstacle?_eq_none {p : Properties} (h : fileProperties? files path = some p) :
    Configuration.obstacle? files path = none := by
  unfold fileProperties? at h
  unfold Configuration.obstacle?
  split at h
  · next hfile =>
    rw [hfile]
    dsimp only
    cases hload : Configuration.load files path with
    | error f =>
      rw [hload] at h
      cases h
    | ok p => rfl
  · cases h

theorem SameFile.of_properties {p p' : Properties} (h : fileProperties? files path = some p)
    (h' : fileProperties? files' path = some p') (hp : SameButPassword p p') :
    SameFile files files' path := by
  constructor
  · rw [obstacle?_eq_none h, obstacle?_eq_none h']
  · rw [h, h']
    exact .some hp

theorem configured_sameValue (h : ∀ path ∈ paths, SameFile files files' path) (k : String) :
    SameValue k (configured? files paths k) (configured? files' paths k) := by
  have hcons : ∀ (fs : FileTree) (path : Path) (rest : List Path), configured? fs (path :: rest) k =
      ((fileProperties? fs path).bind (·.get? k)).or (configured? fs rest k) := by
    intro fs path rest
    rw [configured?, configured?, List.findSome?_cons]
    cases (fileProperties? fs path).bind (·.get? k) <;> rfl
  induction paths with
  | nil => exact .refl k none
  | cons path rest ih =>
    obtain ⟨hpath, hrest⟩ := List.forall_mem_cons.mp h
    rw [hcons, hcons]
    refine SameValue.or ?_ (ih hrest)
    have hproperties := hpath.properties
    generalize fileProperties? files path = p? at hproperties ⊢
    generalize fileProperties? files' path = p?' at hproperties ⊢
    cases hproperties with
    | none => exact .refl k none
    | some hp => exact hp k

/-- Files that are the same but for the password make defaults that are, or the same failure. -/
theorem defaults_paired (h : ∀ path ∈ paths, SameFile files files' path) (login : Option String) :
    Paired Eq SameButPassword (Configuration.defaults files login paths)
      (Configuration.defaults files' login paths) := by
  have hfailure : ∀ f, Configuration.defaults files login paths = .error f ↔
      Configuration.defaults files' login paths = .error f := by
    intro f
    rw [Configuration.defaults_eq_error_iff, Configuration.defaults_eq_error_iff]
    refine exists_congr fun front => exists_congr fun path => exists_congr fun back => ?_
    refine and_congr_right fun hpaths => ?_
    have hmem : ∀ other ∈ path :: back, other ∈ paths := fun other hother =>
      hpaths ▸ List.mem_append_right front hother
    obtain ⟨hpath, hback⟩ := List.forall_mem_cons.mp fun other hother =>
      (h other (hmem other hother)).obstacle
    rw [hpath]
    exact and_congr_left fun _ => forall₂_congr fun other hother => by rw [hback other hother]
  cases hloaded : Configuration.defaults files login paths with
  | error f =>
    rw [(hfailure f).mp hloaded]
    exact .error rfl
  | ok p =>
    cases hloaded' : Configuration.defaults files' login paths with
    | error f =>
      rw [(hfailure f).mpr hloaded'] at hloaded
      cases hloaded
    | ok p' =>
      refine .ok fun k => ?_
      rw [get?_defaults hloaded, get?_defaults hloaded']
      exact (configured_sameValue h k).or (.refl k _)

end

end ClusterConnect
