import ClusterConnect.Proofs.Resolution.Endpoints
import ClusterConnect.Proofs.Url.RoundTrip

/-!
# Endpoints that are written into a URL are read back

The text of an endpoint has brackets around its host if the host holds a colon. The reading of a URL
looks for the port behind the last colon and leaves brackets alone; they are taken off much later,
where the endpoints are asked for, and from any host that stands in one pair of them.

* `Endpoint.Listable`: the endpoints whose text is one item of a server list; `listing`: the URL
  that lists some of them.
* `itemsOf_listing`, `parseUrl_listing`: the list is cut where it was put together, and it is taken.
* `Endpoint.reread`: what becomes of an endpoint; `reread_eq_self_iff`: when it comes back
  unchanged.
* `endpoints_of_listing`: which lists of endpoints come back.
-/

namespace ClusterConnect

open Text

/-! ## Writing -/

/-- An endpoint that can stand in a server list: its port is one, and nothing in its host ends the
item, the list or the part of the URL before the query. -/
structure Endpoint.Listable (e : Endpoint) : Prop where
  host_plain : ',' ∉ e.host.toList ∧ '/' ∉ e.host.toList ∧ '?' ∉ e.host.toList
  port_range : 1 ≤ e.port ∧ e.port ≤ 65535

/-- The URL that lists endpoints, with no database and no query. -/
def listing (mode : Mode) (es : List Endpoint) : String :=
  mode.scheme ++ "//" ++ commaList (es.map Endpoint.text) ++ "/"

/-- The host as the text of an endpoint has it. -/
def Endpoint.shownHost (e : Endpoint) : List Char :=
  if ':' ∈ e.host.toList then '[' :: (e.host.toList ++ [']']) else e.host.toList

/-- The port as the text of an endpoint has it. -/
def Endpoint.shownPort (e : Endpoint) : List Char := decimalDigits e.port.toNat

variable {e : Endpoint} {es : List Endpoint} {mode : Mode}

namespace Endpoint.Listable

theorem toNat_range (h : e.Listable) : 1 ≤ e.port.toNat ∧ e.port.toNat ≤ 65535 := by
  have hrange := h.port_range
  omega

theorem toList_text (h : e.Listable) : e.text.toList = e.shownHost ++ ':' :: e.shownPort := by
  have hport : (integerText e.port).toList = e.shownPort := by
    have hrange := h.port_range
    have hnat : e.port.natAbs = e.port.toNat := by omega
    rw [integerText, if_neg (by omega), String.toList_ofList, hnat]
    rfl
  unfold text shownHost
  by_cases hcolon : ':' ∈ e.host.toList
  · rw [if_pos (by simpa using hcolon), if_pos hcolon]
    simp [hport]
  · rw [if_neg (by simpa using hcolon), if_neg hcolon]
    simp [hport]

/-- The port is what stands behind the last colon. -/
theorem cutLast_text (h : e.Listable) :
    cutLast ':' ']' e.text.toList = some (e.shownHost, e.shownPort) := by
  rw [h.toList_text]
  exact cutLast_append (not_mem_decimalDigits rfl _) (not_mem_decimalDigits rfl _)

theorem isPort_of_portText (h : e.Listable) {port : List Char} (hp : PortText e.text.toList port) :
    IsPort port ∧ port.length ≤ Number.maxIntegerDigits := by
  obtain ⟨host, hp⟩ := hp
  have hcut := (cutLast_eq_some_iff.mpr hp).symm.trans h.cutLast_text
  obtain ⟨-, rfl⟩ := Prod.mk.inj (Option.some.inj hcut)
  have hport : IsPort e.shownPort := isPort_decimalDigits h.toNat_range
  have hcheck : checkPort e.shownPort "" = .ok () := checkPort_decimalDigits h.toNat_range
  exact ⟨hport, (checkPort_eq_ok hcheck).2⟩

/-- What cannot stand in the host does not stand in the text. -/
theorem not_mem_text (h : e.Listable) {c : Char} (hhost : c ∉ e.host.toList)
    (hmarks : c ∉ [':', '[', ']']) (hdigit : c.isDigit = false) : c ∉ e.text.toList := by
  have hport : c ∉ e.shownPort := not_mem_decimalDigits hdigit _
  simp only [List.mem_cons, List.not_mem_nil, or_false, not_or] at hmarks
  rw [h.toList_text, shownHost]
  split <;> simp [hmarks, hhost, hport]

end Endpoint.Listable

/-! ## The parts of the URL -/

/-- The items of the list. -/
def endpointTexts (es : List Endpoint) : List (List Char) := es.map fun e => e.text.toList

theorem toList_listing (mode : Mode) (es : List Endpoint) :
    (listing mode es).toList =
      mode.scheme.toList ++ '/' :: '/' :: (join ',' (endpointTexts es) ++ ['/']) := by
  simp [listing, commaList, endpointTexts, Function.comp_def]

/-- No text ends the list or the part before the query. -/
theorem not_mem_join (h : ∀ e ∈ es, e.Listable) {c : Char} (hc : c = '/' ∨ c = '?') :
    c ∉ join ',' (endpointTexts es) := by
  intro hmem
  rcases mem_join hmem with hcomma | ⟨text, htext, hmem⟩
  · rcases hc with rfl | rfl <;> exact absurd hcomma (by decide)
  · obtain ⟨e, he, rfl⟩ := List.mem_map.mp htext
    obtain ⟨-, hslash, hmark⟩ := (h e he).host_plain
    rcases hc with rfl | rfl
    · exact (h e he).not_mem_text hslash (by decide) rfl hmem
    · exact (h e he).not_mem_text hmark (by decide) rfl hmem

theorem splitOn_endpointTexts (h : ∀ e ∈ es, e.Listable) (hne : es ≠ []) :
    (join ',' (endpointTexts es)).splitOn ',' = endpointTexts es := by
  refine splitOn_join (fun text htext => ?_) (by simpa [endpointTexts] using hne)
  obtain ⟨e, he, rfl⟩ := List.mem_map.mp htext
  exact (h e he).not_mem_text (h e he).host_plain.1 (by decide) rfl

theorem not_mem_listing (h : ∀ e ∈ es, e.Listable) (mode : Mode) :
    '?' ∉ (listing mode es).toList := by
  have hscheme : '?' ∉ mode.scheme.toList := by cases mode <;> decide
  have hlist := not_mem_join h (.inr rfl)
  rw [toList_listing]
  simp [hscheme, hlist]

theorem serverPart_listing (h : ∀ e ∈ es, e.Listable) (mode : Mode) :
    serverPart (listing mode es) = (listing mode es).toList := by
  rw [serverPart, ← (cut_eq '?' _).1, cut_of_not_mem (not_mem_listing h mode)]

theorem queryPart_listing (h : ∀ e ∈ es, e.Listable) (mode : Mode) :
    queryPart (listing mode es) = [] := by
  rw [queryPart, ← (cut_eq '?' _).2, cut_of_not_mem (not_mem_listing h mode), Option.getD_none]

theorem not_inQuery_listing (h : ∀ e ∈ es, e.Listable) (mode : Mode) {name : String}
    (hname : name.toList ≠ []) : ¬ InQuery (listing mode es) name := by
  rintro ⟨token, htoken, heq⟩
  rw [queryPart_listing h] at htoken
  obtain rfl : token = [] := by simpa using htoken
  exact hname heq.symm

theorem splitScheme?_listing (h : ∀ e ∈ es, e.Listable) (mode : Mode) :
    splitScheme? (serverPart (listing mode es)) =
      some (mode, '/' :: '/' :: (join ',' (endpointTexts es) ++ ['/'])) := by
  rw [serverPart_listing h, toList_listing]
  exact splitScheme?_scheme mode _

theorem hasServers_listing (h : ∀ e ∈ es, e.Listable) (mode : Mode) :
    HasServers (listing mode es) := by
  rw [HasServers, bodyOf_eq (splitScheme?_listing h mode)]
  exact ⟨_, rfl⟩

/-- The list is cut where it was put together. -/
theorem itemsOf_listing (h : ∀ e ∈ es, e.Listable) (hne : es ≠ []) (mode : Mode) :
    itemsOf (listing mode es) = endpointTexts es := by
  rw [itemsOf, bodyOf_eq (splitScheme?_listing h mode)]
  show ((join ',' (endpointTexts es) ++ ['/']).takeWhile (· != '/')).splitOn ',' = endpointTexts es
  rw [← (cut_eq '/' _).1, cut_append (not_mem_join h (.inl rfl)), splitOn_endpointTexts h hne]

/-! ## The URL is taken -/

theorem isStrict_listing (h : ∀ e ∈ es, e.Listable) (mode : Mode) (base : Properties)
    (default : Bool) : isStrict (listing mode es) base default = strictMode base default := by
  have hquery : ¬ InQuery (listing mode es) Property.clusterUrlsOnly.name :=
    not_inQuery_listing h mode (by decide)
  rw [isStrict, argument?_eq_none hquery, Option.none_or, strictMode_eq]

theorem isCluster_listing (es : List Endpoint) : IsCluster (listing .clusterAware es) := by
  rw [IsCluster, toList_listing]
  exact List.prefix_append _ _

/-- The URL is taken, unless strict mode refuses it. -/
theorem parseUrl_listing (h : ∀ e ∈ es, e.Listable) (hne : es ≠ []) {base : Properties}
    {strict : Bool} (hstrict : mode = .clusterAware ∨ strictMode base strict = false) :
    ∃ p, parseUrl (some (listing mode es)) base strict = .ok (some p) := by
  have hbody := splitScheme?_eq_some (splitScheme?_listing h mode)
  have hcut : cut '/' (join ',' (endpointTexts es) ++ ['/']) =
      (join ',' (endpointTexts es), some []) := cut_append (not_mem_join h (.inl rfl))
  have hitem : ∀ item, Listed ('/' :: '/' :: (join ',' (endpointTexts es) ++ ['/'])) item →
      ∃ e ∈ es, e.text.toList = item := by
    intro item hlisted
    rw [listed_iff hcut, splitOn_endpointTexts h hne] at hlisted
    exact List.mem_map.mp hlisted
  have hreadable : ReadablePorts (listing mode es) := by
    intro body item hbody' hlisted port hport _
    obtain rfl := body_unique hbody' hbody
    obtain ⟨e, he, rfl⟩ := hitem item hlisted
    exact ((h e he).isPort_of_portText hport).2
  rcases parseUrl_cases hreadable base strict with ⟨hforeign, -⟩ | ⟨body, hbody', hcases⟩
  · exact absurd (plainScheme_prefix_of_body hbody) hforeign
  · obtain rfl := body_unique hbody' hbody
    rcases hcases with ⟨hbad | ⟨item, hlisted, port, hport, hno⟩, -⟩ | ⟨-, ⟨hplain, hon⟩, -⟩ |
      ⟨-, -, hp⟩
    · -- a slash does end the list
      obtain ⟨rest, hrest, hslash⟩ := hbad
      obtain rfl := (List.cons.inj (List.cons.inj hrest).2).2
      exact absurd (by simp) hslash
    · obtain ⟨e, he, rfl⟩ := hitem item hlisted
      exact absurd ((h e he).isPort_of_portText hport).1 hno
    · rcases hstrict with rfl | hoff
      · exact absurd (isCluster_listing es) hplain
      · rw [isStrict_listing h, hoff] at hon
        exact absurd hon Bool.false_ne_true
    · exact hp

/-! ## What becomes of an endpoint -/

/-- An endpoint as it is read back from a list of endpoints. An empty host that stands alone counts
as one that has been left out. -/
def Endpoint.reread (localAddress : Option String) (es : List Endpoint) (e : Endpoint) :
    Endpoint where
  host :=
    if e.host = "" ∧ es.length = 1 then defaultHost else String.ofList (unbracketed e.shownHost)
  port := e.port
  localAddress := localAddress

/-- The text of a host in a pair of brackets. -/
def Bracketed (host : List Char) : Prop := ∃ inner, host = '[' :: (inner ++ [']'])

theorem shownHost_eq_nil_iff : e.shownHost = [] ↔ e.host = "" := by
  unfold Endpoint.shownHost
  split
  · next hcolon =>
    refine iff_of_false (by simp) fun hempty => ?_
    rw [hempty] at hcolon
    exact absurd hcolon (by decide)
  · exact String.toList_eq_nil_iff

theorem unbracketed_eq_self_iff {host : List Char} :
    unbracketed host = host ↔ ¬ Bracketed host := by
  have hbare := bare_unbracketed host
  constructor
  · rintro heq ⟨inner, rfl⟩
    have hlength := congrArg List.length ((hbare.unique (.bracketed inner)).symm.trans heq)
    simp only [List.length_cons, List.length_append, List.length_nil] at hlength
    omega
  · exact fun hnone => hbare.unique (.plain fun inner heq => hnone ⟨inner, heq⟩)

instance (host : List Char) : Decidable (Bracketed host) :=
  decidable_of_iff (¬ unbracketed host = host) (not_iff_comm.mp unbracketed_eq_self_iff.symm)

/-- The brackets that the text adds are taken off again, but so are those that a host without a
colon had before. -/
theorem unbracketed_shownHost_iff :
    unbracketed e.shownHost = e.host.toList ↔ (Bracketed e.host.toList → ':' ∈ e.host.toList) := by
  unfold Endpoint.shownHost
  by_cases hcolon : ':' ∈ e.host.toList
  · rw [if_pos hcolon]
    exact iff_of_true ((bare_unbracketed _).unique (.bracketed _)) fun _ => hcolon
  · rw [if_neg hcolon, unbracketed_eq_self_iff]
    exact ⟨fun hnone hb => absurd hb hnone, fun h hb => hcolon (h hb)⟩

theorem reread_eq_self_iff {localAddress : Option String} :
    e.reread localAddress es = e ↔
      e.localAddress = localAddress ∧ (Bracketed e.host.toList → ':' ∈ e.host.toList) ∧
        ¬ (e.host = "" ∧ es.length = 1) := by
  have hhost : String.ofList (unbracketed e.shownHost) = e.host ↔
      (Bracketed e.host.toList → ':' ∈ e.host.toList) := by
    rw [← unbracketed_shownHost_iff, ← String.toList_inj, String.toList_ofList]
  have hfields : e.reread localAddress es = e ↔
      (e.reread localAddress es).host = e.host ∧ localAddress = e.localAddress := by
    constructor
    · exact fun h => ⟨congrArg Endpoint.host h, congrArg Endpoint.localAddress h⟩
    · obtain ⟨host, port, address⟩ := e
      rintro ⟨hhost, haddress⟩
      exact congrArg₂ (Endpoint.mk · port ·) hhost haddress
  rw [hfields, eq_comm (a := localAddress), and_comm (b := e.localAddress = _)]
  refine and_congr_right fun _ => ?_
  show (if e.host = "" ∧ es.length = 1 then defaultHost
    else String.ofList (unbracketed e.shownHost)) = e.host ↔ _
  by_cases halone : e.host = "" ∧ es.length = 1
  · -- the default host is not empty
    rw [if_pos halone, halone.1]
    exact iff_of_false (by decide) fun h => h.2 ⟨rfl, halone.2⟩
  · rw [if_neg halone, hhost]
    exact (and_iff_left halone).symm

theorem Endpoint.Listable.placeIn_text (h : e.Listable) (localAddress : Option String) :
    (placeIn (endpointTexts es) e.text.toList).endpoint localAddress =
      e.reread localAddress es := by
  have hhost : hostIn e.text.toList = String.ofList e.shownHost := by
    rw [hostIn, h.cutLast_text]
  have hport : portIn e.text.toList = String.ofList e.shownPort := by
    rw [portIn, h.cutLast_text]
  have hvalue : (digitsValue e.shownPort : Int) = e.port := by
    have hrange := h.port_range
    rw [Endpoint.shownPort, digitsValue_decimalDigits]
    omega
  have hempty : String.ofList e.shownHost = "" ↔ e.host = "" := by
    rw [← shownHost_eq_nil_iff, ← String.toList_eq_nil_iff, String.toList_ofList]
  have hlength : (endpointTexts es).length = es.length := List.length_map _
  unfold placeIn Place.endpoint Endpoint.reread hostText
  simp only [hhost, hport, String.toList_ofList, hvalue, hempty, hlength]
  split <;> rfl

/-- What becomes of a list of endpoints. -/
theorem endpoints_eq_reread (h : ∀ e ∈ es, e.Listable) (hne : es ≠ []) {base p : Properties}
    {strict : Bool} (hp : parseUrl (some (listing mode es)) base strict = .ok (some p)) :
    p.endpoints = .ok (es.map (Endpoint.reread (Property.localSocketAddress.get? base) es)) := by
  have hservers := hasServers_listing h mode
  have hserver : serverValue? (listing mode es) Property.localSocketAddress.name = none := by
    rw [serverValue?, if_pos hservers, serverLayer, if_neg (by decide), if_neg (by decide),
      if_neg (by decide)]
  have hlocal : Property.localSocketAddress.get? p = Property.localSocketAddress.get? base := by
    unfold Property.get?
    rw [get?_parseUrl hp, argument?_eq_none (not_inQuery_listing h mode (by decide)), hserver,
      remainder?, if_pos hservers, Option.none_or, Option.none_or, Option.or_none]
  rw [endpoints_of_parseUrl hservers (not_inQuery_listing h mode (by decide))
    (not_inQuery_listing h mode (by decide)) hp, itemsOf_listing h hne, hlocal]
  refine congrArg Except.ok ?_
  rw [endpointTexts, List.map_map]
  exact List.map_congr_left fun e he => (h e he).placeIn_text _

theorem not_alone_iff :
    (∀ e ∈ es, ¬ (e.host = "" ∧ es.length = 1)) ↔ es.map Endpoint.host ≠ [""] := by
  constructor
  · intro h hhosts
    obtain ⟨e, rfl, hempty⟩ := List.map_eq_singleton_iff.mp hhosts
    exact h e (List.mem_singleton_self e) ⟨hempty, rfl⟩
  · rintro h e he ⟨hempty, hlength⟩
    obtain ⟨only, rfl⟩ := List.length_eq_one_iff.mp hlength
    obtain rfl := List.mem_singleton.mp he
    exact h (by rw [List.map_singleton, hempty])

/-- **The text of an endpoint is read back as that endpoint.** A list of endpoints that is written
into a URL of either scheme is taken, whatever the defaults are, unless strict mode refuses the URL.
It comes back as it was, no endpoint lost, added or changed, exactly if each of them has the local
address that the defaults give, no host in brackets is without a colon, and the list is not a single
empty host. -/
theorem endpoints_of_listing (mode : Mode) {base : Properties} {strict : Bool} (hne : es ≠ [])
    (h : ∀ e ∈ es, e.Listable) (hstrict : mode = .clusterAware ∨ strictMode base strict = false) :
    ∃ p, parseUrl (some (listing mode es)) base strict = .ok (some p) ∧
      (p.endpoints = .ok es ↔
        (∀ e ∈ es, e.localAddress = Property.localSocketAddress.get? base) ∧
        (∀ e ∈ es, Bracketed e.host.toList → ':' ∈ e.host.toList) ∧
        es.map Endpoint.host ≠ [""]) := by
  obtain ⟨p, hp⟩ := parseUrl_listing h hne hstrict
  refine ⟨p, hp, ?_⟩
  have hsame : es.map (Endpoint.reread (Property.localSocketAddress.get? base) es) = es ↔
      ∀ e ∈ es, e.reread (Property.localSocketAddress.get? base) es = e := by
    conv_lhs => rhs; rw [← List.map_id es]
    exact List.map_inj_left
  rw [endpoints_eq_reread h hne hp, Except.ok.injEq, hsame, ← not_alone_iff]
  simp only [reread_eq_self_iff, forall_and]

/-- A host with colons and brackets of its own, a host with stray brackets and an empty one. -/
theorem endpoints_of_listing_brackets :
    let es : List Endpoint := [⟨"[fe80::1]", 1, none⟩, ⟨"]a[", 65535, none⟩, ⟨"", 5432, none⟩]
    es ≠ [] ∧ (∀ e ∈ es, e.Listable) ∧ strictMode .empty false = false ∧
      ∃ p, parseUrl (some "postgresql://[[fe80::1]]:1,]a[:65535,:5432/") .empty false =
        .ok (some p) ∧ p.endpoints = .ok es := by
  intro es
  have hne : es ≠ [] := by simp [es]
  have hlistable : ∀ e ∈ es, e.Listable := by
    have hall : ∀ e ∈ es, (',' ∉ e.host.toList ∧ '/' ∉ e.host.toList ∧ '?' ∉ e.host.toList) ∧
        1 ≤ e.port ∧ e.port ≤ 65535 := by decide
    exact fun e he => ⟨(hall e he).1, (hall e he).2⟩
  have hoff : strictMode .empty false = false := by decide
  obtain ⟨p, hp, hback⟩ := endpoints_of_listing .plain hne hlistable (.inr hoff)
  refine ⟨hne, hlistable, hoff, p, hp, hback.mpr (by decide)⟩

end ClusterConnect
