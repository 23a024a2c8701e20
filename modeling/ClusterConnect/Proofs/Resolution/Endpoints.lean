import ClusterConnect.Proofs.Number.Digits
import ClusterConnect.Proofs.Resolution.Layers
import Mathlib.Data.List.Forall2

/-!
# The endpoints of a URL

The server list of a URL is cut into hosts and ports, which are written down as two texts among the
properties and cut again where the endpoints are asked for. Nothing is lost on this way: the
endpoints are the items of the list, one by one and in their order, and no other layer of properties
has a part in them.

* `InQuery`, `PortSplit`, `Bare`, `Names`: what an item says, by what stands where in the text;
  `Names.unique`: it says one thing.
* `items_nonEmptyOr`, `pairUp_map`: what is written down is read back.
* `placeIn`: the place that an item is read as; `names_placeIn`: it is the one that the item names.
* `endpoints_of_resolve`: the endpoints of resolved properties.
-/

namespace ClusterConnect

open Text

/-! ## What the items of a server list say -/

/-- A host and a port. -/
@[ext]
structure Place where
  host : String
  port : Nat
deriving Repr, DecidableEq

/-- The endpoint at a place. -/
def Place.endpoint (localAddress : Option String) (place : Place) : Endpoint :=
  ⟨place.host, place.port, localAddress⟩

/-- Whether a token of the query has a name. -/
def InQuery (url name : String) : Prop :=
  ∃ token ∈ (queryPart url).splitOn '&', token.takeWhile (· != '=') = name.toList

instance (url name : String) : Decidable (InQuery url name) :=
  inferInstanceAs (Decidable (∃ token ∈ (queryPart url).splitOn '&', _ = _))

/-- An item as the text of a host and the number of a port. An item without a port has the default
one. -/
inductive PortSplit (item : List Char) : List Char → Nat → Prop
  | written {host digits : List Char} (hitem : item = host ++ ':' :: digits)
      (hcolon : ':' ∉ digits) (hbracket : ']' ∉ digits) (hport : IsPort digits) :
      PortSplit item host (digitsValue digits)
  | missing (hnone : ∀ digits, ¬ PortText item digits) : PortSplit item item defaultPort

/-- One pair of brackets around the text of a host is no part of the host. -/
inductive Bare : List Char → List Char → Prop
  | bracketed (host : List Char) : Bare ('[' :: (host ++ [']'])) host
  | plain {host : List Char} (hplain : ∀ inner, host ≠ '[' :: (inner ++ [']'])) : Bare host host

/-- The place that an item of a server list names. The default host stands for an empty one, if the
list has no other item. -/
def Names (list : List (List Char)) (item : List Char) (place : Place) : Prop :=
  ∃ host, PortSplit item host place.port ∧
    if host = [] ∧ list.length = 1 then place.host = defaultHost
    else Bare host place.host.toList

variable {item : List Char}

theorem PortSplit.unique {host host' : List Char} {port port' : Nat}
    (h : PortSplit item host port) (h' : PortSplit item host' port') :
    host = host' ∧ port = port' := by
  cases h with
  | written hitem hcolon hbracket _ =>
    have hcut := cutLast_eq_some_iff.mpr ⟨hitem, hcolon, hbracket⟩
    cases h' with
    | written hitem' hcolon' hbracket' _ =>
      have hcut' := cutLast_eq_some_iff.mpr ⟨hitem', hcolon', hbracket'⟩
      obtain ⟨rfl, rfl⟩ := Prod.mk.inj (Option.some.inj (hcut.symm.trans hcut'))
      exact ⟨rfl, rfl⟩
    | missing hnone => exact absurd ⟨_, hitem, hcolon, hbracket⟩ (hnone _)
  | missing hnone =>
    cases h' with
    | written hitem hcolon hbracket _ => exact absurd ⟨_, hitem, hcolon, hbracket⟩ (hnone _)
    | missing _ => exact ⟨rfl, rfl⟩

theorem Bare.unique {host bare bare' : List Char} (h : Bare host bare) (h' : Bare host bare') :
    bare = bare' := by
  cases h with
  | bracketed =>
    generalize hhost : '[' :: (bare ++ [']']) = host at h'
    cases h' with
    | bracketed => exact List.append_cancel_right (List.cons.inj hhost).2
    | plain hplain => exact absurd hhost.symm (hplain bare)
  | plain hplain =>
    cases h' with
    | bracketed => exact absurd rfl (hplain bare')
    | plain _ => rfl

/-- An item names one place. -/
theorem Names.unique (list : List (List Char)) : Relator.RightUnique (Names list) := by
  rintro item place place' ⟨host, hsplit, hhost⟩ ⟨host', hsplit', hhost'⟩
  obtain ⟨rfl, hport⟩ := hsplit.unique hsplit'
  refine Place.ext ?_ hport
  split at hhost
  · next hone =>
    rw [if_pos hone] at hhost'
    rw [hhost, hhost']
  · next hmany =>
    rw [if_neg hmany] at hhost'
    exact String.toList_inj.mp (hhost.unique hhost')

/-! ## Items that are taken -/

variable {url : String}

theorem checkPort_eq_ok {port : List Char} (h : checkPort port url = .ok ()) :
    IsPort port ∧ port.length ≤ Number.maxIntegerDigits := by
  have hlen : port.length ≤ Number.maxIntegerDigits := by
    unfold checkPort at h
    split at h
    · exact absurd h (by simp)
    · split at h
      · exact absurd h (by simp)
      · next hlen => exact Nat.not_lt.mp hlen
  rcases checkPort_cases url fun _ => hlen with ⟨hport, -⟩ | ⟨-, f, hf, -⟩
  · exact ⟨hport, hlen⟩
  · rw [h] at hf
    exact absurd hf (by simp)

theorem isPort_default : IsPort defaultPortText.toList := by
  have hdigits : defaultPortText.toList.all Char.isDigit = true := by decide
  exact ⟨by decide, List.all_eq_true.mp hdigits, by decide, by decide⟩

/-- An item that is taken is a host and a port that can be read. -/
theorem portSplit_of_parse {a : Address} (h : Address.parse item url = .ok a) :
    PortSplit item (hostIn item).toList (digitsValue (portIn item).toList) ∧
      IsPort (portIn item).toList ∧ (portIn item).toList.length ≤ Number.maxIntegerDigits := by
  unfold Address.parse at h
  unfold hostIn portIn
  cases hc : cutLast ':' ']' item with
  | none =>
    have hnone : ∀ digits, ¬ PortText item digits := by
      rintro digits ⟨host, hp⟩
      exact absurd (cutLast_eq_some_iff.mpr hp) (by simp [hc])
    simp only [String.toList_ofList]
    exact ⟨.missing hnone, isPort_default, by decide⟩
  | some parts =>
    obtain ⟨host, digits⟩ := parts
    obtain ⟨hitem, hcolon, hbracket⟩ := cutLast_eq_some_iff.mp hc
    rw [hc] at h
    dsimp only at h
    split at h
    · exact absurd h (by simp)
    · next hcheck =>
      obtain ⟨hport, hlen⟩ := checkPort_eq_ok hcheck
      simp only [String.toList_ofList]
      exact ⟨.written hitem hcolon hbracket hport, hport, hlen⟩

theorem parse_of_parseAll {list : List (List Char)} {as : List Address}
    (h : Address.parseAll url list = .ok as) (hitem : item ∈ list) :
    ∃ a, Address.parse item url = .ok a := by
  induction list generalizing as with
  | nil => exact absurd hitem List.not_mem_nil
  | cons first rest ih =>
    unfold Address.parseAll at h
    split at h
    · exact absurd h (by simp)
    · next a ha =>
      split at h
      · exact absurd h (by simp)
      · next has =>
        rcases List.mem_cons.mp hitem with rfl | hitem
        · exact ⟨a, ha⟩
        · exact ih has hitem

/-- Every item of a server list that is read is taken. -/
theorem parse_of_target {t : Target} (hservers : HasServers url)
    (h : Target.parse (bodyOf url) url = .ok t) (hitem : item ∈ itemsOf url) :
    ∃ a, Address.parse item url = .ok a := by
  obtain ⟨rest, hbody⟩ := hservers
  have hdrop : (bodyOf url).drop 2 = rest := by rw [← hbody]; rfl
  unfold Target.parse at h
  rw [← hbody, afterPrefix?_append] at h
  obtain ⟨hlist, -⟩ := cut_eq '/' rest
  dsimp only at h
  rcases hc : cut '/' rest with ⟨list, _ | name⟩ <;> rw [hc] at h hlist
  · exact absurd h (by simp)
  · dsimp only at h hlist
    split at h
    · exact absurd h (by simp)
    · next has =>
      rw [itemsOf, hdrop, ← hlist] at hitem
      exact parse_of_parseAll has hitem

/-! ## Lists that are read back -/

theorem hostIn_sublist (item : List Char) : (hostIn item).toList.Sublist item := by
  unfold hostIn
  cases hc : cutLast ':' ']' item with
  | none => simp
  | some parts =>
    obtain ⟨host, digits⟩ := parts
    simp [(cutLast_eq_some_iff.mp hc).1]

/-- A list that is written down is read back, unless it is empty or one of its parts holds a
comma. -/
theorem items_commaList {parts : List String} (hne : parts ≠ [])
    (h : ∀ part ∈ parts, ',' ∉ part.toList) : items (commaList parts) = parts.map String.toList := by
  rw [items, commaList, String.toList_ofList]
  refine splitOn_join (fun part hpart => ?_) (by simpa using hne)
  obtain ⟨text, htext, rfl⟩ := List.mem_map.mp hpart
  exact h text htext

/-- What is written down is an empty text for a single empty part only, which the default
replaces. -/
theorem items_nonEmptyOr {parts : List String} (hne : parts ≠ [])
    (h : ∀ part ∈ parts, ',' ∉ part.toList) (default : String) :
    items (nonEmptyOr (some (commaList parts)) default) =
      if parts = [""] then items default else parts.map String.toList := by
  have hback := items_commaList hne h
  by_cases hone : parts = [""]
  · rw [if_pos hone, hone]
    rfl
  · have hfull : (commaList parts).isEmpty = false := by
      rw [Bool.eq_false_iff]
      intro hempty
      -- The empty text is read back as one empty part, so this is what has been written down.
      rw [String.isEmpty_iff.mp hempty] at hback
      obtain ⟨part, hparts, hpart⟩ := List.map_eq_singleton_iff.mp hback.symm
      rw [String.toList_eq_nil_iff.mp hpart] at hparts
      exact hone hparts
    rw [if_neg hone, ← hback, nonEmptyOr, hfull]
    rfl

/-- The port of each pair is a number, so all the pairs are taken. -/
theorem pairUp_map {α : Type} (localAddress : Option String) (host port : α → List Char)
    (number : α → Int) {l : List α} (h : ∀ a ∈ l, Number.integer? (port a) = some (number a)) :
    pairUp localAddress (l.map host) (l.map port) =
      .ok (l.map fun a => ⟨String.ofList (unbracketed (host a)), number a, localAddress⟩) := by
  induction l with
  | nil => rfl
  | cons a l ih =>
    simp only [List.map_cons, pairUp, h a List.mem_cons_self,
      ih fun b hb => h b (List.mem_cons_of_mem a hb)]

/-! ## From the items to the endpoints -/

/-- The text that an item of a list is read back with as its host. -/
def hostText (list : List (List Char)) (item : List Char) : List Char :=
  if hostIn item = "" ∧ list.length = 1 then defaultHost.toList else (hostIn item).toList

/-- The place that an item of a list is read as. -/
def placeIn (list : List (List Char)) (item : List Char) : Place where
  host := String.ofList (unbracketed (hostText list item))
  port := digitsValue (portIn item).toList

theorem bare_unbracketed (host : List Char) : Bare host (unbracketed host) := by
  unfold unbracketed
  split
  · next rest =>
    split
    · next hlast =>
      obtain ⟨inner, rfl⟩ := List.getLast?_eq_some_iff.mp hlast
      rw [List.dropLast_concat]
      exact .bracketed inner
    · next hlast =>
      -- A pair of brackets would close at the end, which it does not.
      refine .plain fun inner hinner => hlast ?_
      rw [(List.cons.inj hinner).2]
      exact List.getLast?_concat
  · next hopen => exact .plain fun inner hinner => hopen _ hinner

/-- An item that is taken is read as the place that it names. -/
theorem names_placeIn {a : Address} (list : List (List Char))
    (h : Address.parse item url = .ok a) : Names list item (placeIn list item) := by
  refine ⟨(hostIn item).toList, (portSplit_of_parse h).1, ?_⟩
  simp only [placeIn, hostText, String.toList_eq_nil_iff]
  split
  · exact (by decide : String.ofList (unbracketed defaultHost.toList) = defaultHost)
  · rw [String.toList_ofList]
    exact bare_unbracketed _

example : placeIn [":5433".toList] ":5433".toList = ⟨"localhost", 5433⟩ := by decide

variable {list : List (List Char)}

/-- The hosts of a list as they are read back. -/
theorem items_hosts (hne : list ≠ []) (hcomma : ∀ item ∈ list, ',' ∉ item) :
    items (nonEmptyOr (some (commaList (list.map hostIn))) defaultHost) =
      list.map (hostText list) := by
  rw [items_nonEmptyOr (by simpa using hne)]
  · split
    · next hone =>
      obtain ⟨item, rfl, hitem⟩ := List.map_eq_singleton_iff.mp hone
      rw [List.map_singleton, hostText, if_pos ⟨hitem, rfl⟩]
      decide
    · next hmany =>
      -- No host is replaced: in a list with one item that one is not empty.
      rw [List.map_map]
      refine List.map_congr_left fun item hitem => ?_
      rw [hostText, if_neg]
      · rfl
      · rintro ⟨hempty, hlen⟩
        obtain ⟨only, rfl⟩ := List.length_eq_one_iff.mp hlen
        obtain rfl := List.mem_singleton.mp hitem
        exact hmany (by rw [List.map_singleton, hempty])
  · intro part hpart
    obtain ⟨item, hitem, rfl⟩ := List.mem_map.mp hpart
    exact fun hc => hcomma item hitem ((hostIn_sublist item).subset hc)

/-- The ports of a list as they are read back. -/
theorem items_ports (hne : list ≠ [])
    (hport : ∀ item ∈ list, IsPort (portIn item).toList) :
    items (nonEmptyOr (some (commaList (list.map portIn))) defaultPortText) =
      list.map fun item => (portIn item).toList := by
  rw [items_nonEmptyOr (by simpa using hne)]
  · rw [if_neg, List.map_map]
    · rfl
    · intro hone
      obtain ⟨item, rfl, hitem⟩ := List.map_eq_singleton_iff.mp hone
      exact (hport item List.mem_cons_self).1 (by rw [hitem]; rfl)
  · intro part hpart
    obtain ⟨item, hitem, rfl⟩ := List.mem_map.mp hpart
    exact fun hc => absurd ((hport item hitem).2.1 ',' hc) (by decide)

/-- Properties that hold what a server list says have one endpoint for each item. -/
theorem endpoints_of_list {p : Properties} (hne : list ≠ []) (hcomma : ∀ item ∈ list, ',' ∉ item)
    (hparse : ∀ item ∈ list, ∃ a, Address.parse item url = .ok a)
    (hhost : p.get? Property.host.name = some (commaList (list.map hostIn)))
    (hport : p.get? Property.port.name = some (commaList (list.map portIn))) :
    p.endpoints = .ok (list.map fun item =>
      (placeIn list item).endpoint (Property.localSocketAddress.get? p)) := by
  have hports : ∀ item ∈ list, IsPort (portIn item).toList ∧
      (portIn item).toList.length ≤ Number.maxIntegerDigits := by
    intro item hitem
    obtain ⟨a, ha⟩ := hparse item hitem
    exact (portSplit_of_parse ha).2
  have hnumber : ∀ item ∈ list, Number.integer? (portIn item).toList =
      some (digitsValue (portIn item).toList : Int) := by
    intro item hitem
    obtain ⟨⟨hnonempty, hdigits, -⟩, hlen⟩ := hports item hitem
    exact Number.integer?_digits hnonempty hdigits hlen
  -- The two texts are read back with one entry for each item, so that they are taken in pairs.
  unfold Properties.endpoints
  rw [hhost, hport, items_hosts hne hcomma, items_ports hne fun item hitem => (hports item hitem).1]
  dsimp only
  rw [if_pos (by simp only [List.length_map]), pairUp_map _ _ _ _ hnumber]
  rfl

/-! ## Resolved properties -/

theorem argument?_eq_none {name : String} (h : ¬ InQuery url name) : argument? url name = none := by
  unfold argument?
  rw [Option.map_eq_none_iff, List.find?_eq_none]
  intro token htoken hname
  rw [Bool.and_eq_true, beq_iff_eq] at hname
  refine h ⟨token, List.mem_reverse.mp htoken, ?_⟩
  rw [← hname.2, String.toList_ofList]

/-- The properties of a URL with a server list have one endpoint for each item. -/
theorem endpoints_of_parseUrl {base p : Properties} {strict : Bool} (hservers : HasServers url)
    (hhost : ¬ InQuery url Property.host.name) (hport : ¬ InQuery url Property.port.name)
    (h : parseUrl (some url) base strict = .ok (some p)) :
    p.endpoints = .ok ((itemsOf url).map fun item =>
      (placeIn (itemsOf url) item).endpoint (Property.localSocketAddress.get? p)) := by
  obtain ⟨-, t, ht, -⟩ := target_of_parseUrl h
  -- The query has no say in the two names, and the server list comes before all other layers.
  apply endpoints_of_list (List.splitOn_ne_nil ',' _) (fun item => not_mem_of_mem_splitOn)
    fun item => parse_of_target hservers ht
  · rw [get?_parseUrl h, argument?_eq_none hhost, serverValue?, if_pos hservers]
    rfl
  · rw [get?_parseUrl h, argument?_eq_none hport, serverValue?, if_pos hservers]
    rfl

/-- **No endpoint is lost, added or moved.** The server list of a URL names a place for each of its
items. Whatever the caller supplies, whatever the defaults are, the endpoints of the resolved
properties are these places in their order, each with the local address of the properties. -/
theorem endpoints_of_resolve {overrides : Overrides} {defaults p : Properties} {strict : Bool}
    (hservers : HasServers url) (hhost : ¬ InQuery url Property.host.name)
    (hport : ¬ InQuery url Property.port.name)
    (h : resolve (some url) overrides defaults strict = .ok (some p)) :
    ∃ places : List Place,
      List.Forall₂ (Names (itemsOf url)) (itemsOf url) places ∧
      (∀ place ∈ places, 1 ≤ place.port ∧ place.port ≤ 65535) ∧
      p.endpoints = .ok (places.map (Place.endpoint (Property.localSocketAddress.get? p))) ∧
      ∀ overrides' defaults' strict' q,
        resolve (some url) overrides' defaults' strict' = .ok (some q) →
          q.endpoints = .ok (places.map (Place.endpoint (Property.localSocketAddress.get? q))) := by
  have hendpoints : ∀ overrides' defaults' strict' q,
      resolve (some url) overrides' defaults' strict' = .ok (some q) →
        q.endpoints = .ok (((itemsOf url).map (placeIn (itemsOf url))).map
          (Place.endpoint (Property.localSocketAddress.get? q))) := by
    intro overrides' defaults' strict' q hq
    obtain ⟨given, -, hparse⟩ := parseUrl_of_resolve hq
    rw [endpoints_of_parseUrl hservers hhost hport hparse, List.map_map]
    rfl
  obtain ⟨given, -, hparse⟩ := parseUrl_of_resolve h
  obtain ⟨-, t, ht, -⟩ := target_of_parseUrl hparse
  refine ⟨(itemsOf url).map (placeIn (itemsOf url)), ?_, ?_, hendpoints _ _ _ p h, hendpoints⟩
  · rw [List.forall₂_map_right_iff, List.forall₂_same]
    intro item hitem
    obtain ⟨a, ha⟩ := parse_of_target hservers ht hitem
    exact names_placeIn _ ha
  · intro place hplace
    obtain ⟨item, hitem, rfl⟩ := List.mem_map.mp hplace
    obtain ⟨a, ha⟩ := parse_of_target hservers ht hitem
    exact (portSplit_of_parse ha).2.1.2.2

/-- A host in brackets, a port with leading zeros and an item without a port, under a caller who asks
for another host. -/
theorem endpoints_of_resolve_brackets :
    HasServers "postgresql://[::1]:0080,b/app?user=u" ∧
      ¬ InQuery "postgresql://[::1]:0080,b/app?user=u" Property.host.name ∧
      ¬ InQuery "postgresql://[::1]:0080,b/app?user=u" Property.port.name ∧
      ∃ p, resolve (some "postgresql://[::1]:0080,b/app?user=u")
          [(.text "PGHOST", .text "other")] .empty false = .ok (some p) ∧
        p.endpoints = .ok [⟨"::1", 80, none⟩, ⟨"b", 5432, none⟩] := by
  have hservers : HasServers "postgresql://[::1]:0080,b/app?user=u" := by decide
  have hhost : ¬ InQuery "postgresql://[::1]:0080,b/app?user=u" Property.host.name := by decide
  have hport : ¬ InQuery "postgresql://[::1]:0080,b/app?user=u" Property.port.name := by decide
  have hresolve : resolve (some "postgresql://[::1]:0080,b/app?user=u")
      [(.text "PGHOST", .text "other")] .empty false = .ok (some _) := rfl
  have hbrackets : Names ["[::1]:0080".toList, "b".toList] "[::1]:0080".toList ⟨"::1", 80⟩ := by
    refine ⟨"[::1]".toList, ?_, .bracketed "::1".toList⟩
    show PortSplit _ _ (digitsValue "0080".toList)
    exact .written rfl (by decide) (by decide)
      ⟨by decide, List.all_eq_true.mp (by decide), by decide, by decide⟩
  have hnoPort : Names ["[::1]:0080".toList, "b".toList] "b".toList ⟨"b", 5432⟩ := by
    refine ⟨"b".toList, .missing ?_, .plain fun inner => by simp⟩
    rintro digits ⟨host, hitem, -⟩
    have hcolon : ':' ∈ "b".toList := by simp [hitem]
    exact absurd hcolon (by decide)
  obtain ⟨places, hnames, -, hp, -⟩ := endpoints_of_resolve hservers hhost hport hresolve
  have hplaces : places = [⟨"::1", 80⟩, ⟨"b", 5432⟩] :=
    (Names.unique _).forall₂ hnames (.cons hbrackets (.cons hnoPort .nil))
  rw [hplaces] at hp
  exact ⟨hservers, hhost, hport, _, hresolve, hp⟩

end ClusterConnect
