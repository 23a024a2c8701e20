import ClusterConnect.Url

/-!
# The grammar of connection URLs

Which texts the reading of URLs takes, said without reading them: by what stands where in the text.

* `IsPort`, `Misplaced`: the ports of a server list; `Malformed`: the bodies that are refused.
* `serverPart`, `queryPart`, `Body`: the parts of a URL.
* `argument?`, `isStrict`: what the query says about a name, and whether plain URLs are refused.
* `parseUrl_outcome_iff`: the four outcomes of the reading, each with its exact condition.
-/

namespace ClusterConnect

open Text

/-! ## Ports -/

/-- A number from 1 to 65535 in ASCII digits. -/
def IsPort (port : List Char) : Prop :=
  port ≠ [] ∧ (∀ c ∈ port, c.isDigit = true) ∧ 1 ≤ digitsValue port ∧ digitsValue port ≤ 65535

/-- The text behind the last colon of an item, if that colon stands behind the last closing
bracket. -/
def PortText (item port : List Char) : Prop :=
  ∃ host, item = host ++ ':' :: port ∧ ':' ∉ port ∧ ']' ∉ port

/-- Whether a reading ends in an error of exactly the given kind. -/
def Raises {α : Type} (r : Except UrlFault α) (kind : ErrorKind) : Prop :=
  ∃ f, r = .error f ∧ f.failure.isKind kind = true

variable {url : String} {item port body : List Char}

/-- A port whose digits can be counted is taken exactly if it is one. -/
theorem checkPort_cases (url : String)
    (h : (∀ c ∈ port, c.isDigit = true) → port.length ≤ Number.maxIntegerDigits) :
    IsPort port ∧ checkPort port url = .ok () ∨
      ¬ IsPort port ∧ Raises (checkPort port url) .malformedUrl := by
  unfold checkPort
  split
  · next hd =>
    refine .inr ⟨?_, _, rfl, rfl⟩
    rintro ⟨hne, hall, -⟩
    rw [Bool.or_eq_true, List.isEmpty_iff, Bool.not_eq_true', ← Bool.not_eq_true] at hd
    exact hd.elim hne fun hd => hd (List.all_eq_true.mpr hall)
  · next hd =>
    rw [Bool.not_eq_true, Bool.or_eq_false_iff, Bool.not_eq_false', List.all_eq_true] at hd
    rw [if_neg (Nat.not_lt.mpr (h hd.2))]
    have hne : port ≠ [] := by simpa using hd.1
    split
    · next hv => exact .inl ⟨⟨hne, hd.2, hv⟩, rfl⟩
    · next hv => exact .inr ⟨fun hp => hv hp.2.2, _, rfl, rfl⟩

/-! ## Server lists -/

/-- An item whose port is none. -/
def Misplaced (item : List Char) : Prop := ∃ port, PortText item port ∧ ¬ IsPort port

/-- The port texts of an item have no more digits than can be read as an integer. -/
def Readable (item : List Char) : Prop :=
  ∀ port, PortText item port → (∀ c ∈ port, c.isDigit = true) → port.length ≤ Number.maxIntegerDigits

theorem parse_cases (url : String) (h : Readable item) :
    ¬ Misplaced item ∧ (∃ a, Address.parse item url = .ok a) ∨
      Misplaced item ∧ Raises (Address.parse item url) .malformedUrl := by
  unfold Address.parse
  cases hc : cutLast ':' ']' item with
  | none =>
    refine .inl ⟨?_, _, rfl⟩
    rintro ⟨port, ⟨host, hp⟩, -⟩
    exact absurd (cutLast_eq_some_iff.mpr hp) (by simp [hc])
  | some p =>
    obtain ⟨host, port⟩ := p
    have hp := cutLast_eq_some_iff.mp hc
    have hport : PortText item port := ⟨host, hp⟩
    rcases checkPort_cases url (h port hport) with ⟨hi, ho⟩ | ⟨hi, f, ho, hf⟩
    · refine .inl ⟨?_, ⟨String.ofList host, some (String.ofList port)⟩, by simp only [ho]⟩
      rintro ⟨port', ⟨host', hp'⟩, hn⟩
      rw [cutLast_eq_some_iff.mpr hp'] at hc
      obtain ⟨-, rfl⟩ := Prod.mk.inj (Option.some.inj hc)
      exact hn hi
    · exact .inr ⟨⟨port, hport, hi⟩, f, by simp only [ho], hf⟩

theorem parseAll_cases (url : String) {items : List (List Char)}
    (h : ∀ item ∈ items, Readable item) :
    (¬ ∃ item ∈ items, Misplaced item) ∧ (∃ as, Address.parseAll url items = .ok as) ∨
      (∃ item ∈ items, Misplaced item) ∧ Raises (Address.parseAll url items) .malformedUrl := by
  induction items with
  | nil => exact .inl ⟨by simp, [], rfl⟩
  | cons item rest ih =>
    rcases parse_cases url (h item List.mem_cons_self) with ⟨hi, a, ha⟩ | ⟨hi, f, ha, hf⟩
    · rcases ih fun item hm => h item (List.mem_cons_of_mem _ hm) with ⟨hr, as, has⟩ | ⟨hr, f, has, hf⟩
      · refine .inl ⟨?_, a :: as, by simp only [Address.parseAll, ha, has]⟩
        rintro ⟨item', hm, hi'⟩
        rcases List.mem_cons.mp hm with rfl | hm
        · exact hi hi'
        · exact hr ⟨item', hm, hi'⟩
      · obtain ⟨item', hm, hi'⟩ := hr
        exact .inr ⟨⟨item', List.mem_cons_of_mem _ hm, hi'⟩, f,
          by simp only [Address.parseAll, ha, has], hf⟩
    · exact .inr ⟨⟨item, List.mem_cons_self, hi⟩, f, by simp only [Address.parseAll, ha], hf⟩

/-! ## Bodies -/

/-- The items of the server list in what follows the scheme. -/
def Listed (body item : List Char) : Prop :=
  ∃ list name, body = '/' :: '/' :: (list ++ '/' :: name) ∧ '/' ∉ list ∧ item ∈ list.splitOn ','

/-- What follows the scheme begins a server list that no slash ends, or that has an item whose port
is none. -/
def Malformed (body : List Char) : Prop :=
  (∃ rest, body = '/' :: '/' :: rest ∧ '/' ∉ rest) ∨ ∃ item, Listed body item ∧ Misplaced item

theorem listed_iff {rest list name : List Char} (h : cut '/' rest = (list, some name)) :
    Listed ('/' :: '/' :: rest) item ↔ item ∈ list.splitOn ',' := by
  constructor
  · rintro ⟨list', name', hb, hn, hi⟩
    have hc := cut_eq_some_iff.mpr ⟨(List.cons.inj (List.cons.inj hb).2).2, hn⟩
    rw [h] at hc
    rwa [(Prod.mk.inj hc).1]
  · obtain ⟨rfl, hn⟩ := cut_eq_some_iff.mp h
    exact fun hi => ⟨list, name, rfl, hn, hi⟩

theorem target_cases (url : String) (h : ∀ item, Listed body item → Readable item) :
    ¬ Malformed body ∧ (∃ t, Target.parse body url = .ok t) ∨
      Malformed body ∧ Raises (Target.parse body url) .malformedUrl := by
  unfold Target.parse
  cases hp : afterPrefix? ['/', '/'] body with
  | none =>
    have hn : ∀ rest, body ≠ '/' :: '/' :: rest := by
      intro rest hb
      rw [afterPrefix?_eq_some_iff.mpr hb] at hp
      exact absurd hp (by simp)
    refine .inl ⟨?_, _, rfl⟩
    rintro (⟨rest, hb, -⟩ | ⟨item, ⟨list, name, hb, -⟩, -⟩)
    · exact hn _ hb
    · exact hn _ hb
  | some rest =>
    obtain rfl : body = '/' :: '/' :: rest := afterPrefix?_eq_some_iff.mp hp
    rcases hc : cut '/' rest with ⟨list, _ | name⟩
    · obtain ⟨rfl, hn⟩ := cut_eq_none_iff.mp hc
      exact .inr ⟨.inl ⟨rest, rfl, hn⟩, .unterminatedServers url, by simp only [hc], rfl⟩
    · -- A slash ends the list, so that only an item can be at fault.
      have hterm : '/' ∈ rest := by simp [(cut_eq_some_iff.mp hc).1]
      have hm : Malformed ('/' :: '/' :: rest) ↔ ∃ item ∈ list.splitOn ',', Misplaced item := by
        unfold Malformed
        simp only [listed_iff hc]
        refine or_iff_right ?_
        rintro ⟨rest', hb, hn⟩
        obtain rfl : rest = rest' := (List.cons.inj (List.cons.inj hb).2).2
        exact hn hterm
      rw [hm]
      rcases parseAll_cases url fun item hi => h item ((listed_iff hc).mpr hi) with
        ⟨hn, as, has⟩ | ⟨hn, f, has, hf⟩
      · exact .inl ⟨hn, .servers as (String.ofList (Percent.decodeText name)), by simp only [hc, has]⟩
      · exact .inr ⟨hn, f, by simp only [hc, has], hf⟩

/-! ## Parts of a URL -/

/-- What stands before the first question mark. -/
def serverPart (url : String) : List Char := url.toList.takeWhile (· != '?')

/-- What stands behind the first question mark. -/
def queryPart (url : String) : List Char := (url.toList.dropWhile (· != '?')).drop 1

/-- What follows the scheme in the server part: the cluster scheme if that stands there, else the
plain one. -/
def Body (url : String) (body : List Char) : Prop :=
  serverPart url = Mode.clusterScheme.toList ++ body ∨
    ¬ Mode.clusterScheme.toList <+: serverPart url ∧
      serverPart url = Mode.plainScheme.toList ++ body

/-- The value that the query gives to a name: the last token of that name counts, and what stands
behind its first equals sign is decoded. -/
def argument? (url name : String) : Option String :=
  (((queryPart url).splitOn '&').reverse.find? fun token =>
    !token.isEmpty && String.ofList (token.takeWhile (· != '=')) == name).map fun token =>
      String.ofList (Percent.decodeText ((token.dropWhile (· != '=')).drop 1))

/-- Whether plain URLs are refused: what the query says, else what the properties say, else
`default`. -/
def isStrict (url : String) (base : Properties) (default : Bool) : Bool :=
  (((argument? url Property.clusterUrlsOnly.name).or
    (base.get? Property.clusterUrlsOnly.name)).map Property.saysTrue).getD default

theorem plainScheme_prefix_clusterScheme :
    Mode.plainScheme.toList <+: Mode.clusterScheme.toList := by
  decide

theorem splitScheme?_eq_none_iff {server : List Char} :
    splitScheme? server = none ↔ ¬ Mode.plainScheme.toList <+: server := by
  unfold splitScheme?
  cases hc : afterPrefix? Mode.clusterScheme.toList server with
  | none => rw [Option.map_eq_none_iff, afterPrefix?_eq_none_iff]
  | some body =>
    refine iff_of_false (by simp) (not_not_intro ?_)
    exact plainScheme_prefix_clusterScheme.trans ⟨body, (afterPrefix?_eq_some_iff.mp hc).symm⟩

theorem splitScheme?_eq_some {mode : Mode} (h : splitScheme? (serverPart url) = some (mode, body)) :
    Body url body := by
  unfold splitScheme? at h
  cases hc : afterPrefix? Mode.clusterScheme.toList (serverPart url) with
  | some rest =>
    rw [hc] at h
    obtain ⟨-, rfl⟩ := Prod.mk.inj (Option.some.inj h)
    exact .inl (afterPrefix?_eq_some_iff.mp hc)
  | none =>
    rw [hc] at h
    obtain ⟨rest, hr, he⟩ := Option.map_eq_some_iff.mp h
    obtain ⟨-, rfl⟩ := Prod.mk.inj he
    exact .inr ⟨afterPrefix?_eq_none_iff.mp hc, afterPrefix?_eq_some_iff.mp hr⟩

theorem body_unique {body' : List Char} (h : Body url body) (h' : Body url body') :
    body = body' := by
  rcases h with h | ⟨hn, h⟩ <;> rcases h' with h' | ⟨hn', h'⟩
  · exact List.append_cancel_left (h.symm.trans h')
  · exact absurd ⟨body, h.symm⟩ hn'
  · exact absurd ⟨body', h'.symm⟩ hn
  · exact List.append_cancel_left (h.symm.trans h')

/-- A target sets the three server properties only. -/
theorem get?_apply (t : Target) (base : Properties) {k : String}
    (h : k ∉ [Property.host.name, Property.port.name, Property.database.name]) :
    (t.apply base).get? k = base.get? k := by
  simp only [List.mem_cons, List.not_mem_nil, or_false, not_or] at h
  cases t <;> simp [Target.apply, Properties.get?_insert, Properties.get?_insertIfAbsent, h]

theorem parseArgument_eq (token : List Char) :
    parseArgument token = (String.ofList (token.takeWhile (· != '=')),
      String.ofList (Percent.decodeText ((token.dropWhile (· != '=')).drop 1))) := by
  obtain ⟨hn, hv⟩ := cut_eq '=' token
  unfold parseArgument
  rw [← hn, ← hv]
  rcases cut '=' token with ⟨name, _ | value⟩ <;> simp

/-- The last setting of a name is the one that counts. -/
theorem lookup_parseArguments (url k : String) :
    (parseArguments (queryPart url)).reverse.lookup k = argument? url k := by
  unfold parseArguments argument?
  rw [← List.map_reverse, ← List.filter_reverse]
  -- Latest token first, the first one of the name decides on both sides.
  induction ((queryPart url).splitOn '&').reverse with
  | nil => rfl
  | cons token rest ih =>
    by_cases ht : token.isEmpty = true
    · rw [List.filter_cons_of_neg (by simpa using ht), List.find?_cons_of_neg (by simp [ht])]
      exact ih
    · rw [List.filter_cons_of_pos (by simpa using ht), List.map_cons, lookup_entry, parseArgument_eq]
      by_cases hk : k = String.ofList (token.takeWhile (· != '='))
      · rw [if_pos hk, List.find?_cons_of_pos (by simp [ht, hk])]
        rfl
      · rw [if_neg hk, List.find?_cons_of_neg (by simp [Ne.symm hk])]
        exact ih

/-- The reading of the parts agrees with what the text says about strict mode. -/
theorem strictMode_properties (mode : Mode) (target : Target) (url : String) (base : Properties)
    (default : Bool) :
    strictMode (Url.properties ⟨mode, target, parseArguments (queryPart url)⟩ base) default =
      isStrict url base default := by
  have ht := get?_apply target base (k := Property.clusterUrlsOnly.name) (by decide)
  rw [strictMode_eq, Url.properties, Properties.get?_insertAll, lookup_parseArguments, ht, isStrict]

/-! ## The four outcomes -/

/-- Whether a text begins with the cluster scheme. -/
def IsCluster (url : String) : Prop := Mode.clusterScheme.toList <+: url.toList

theorem ofUrl_bne_clusterAware : (Mode.ofUrl url != .clusterAware) = true ↔ ¬ IsCluster url := by
  unfold Mode.ofUrl IsCluster
  rw [← List.isPrefixOf_iff_prefix]
  cases Mode.clusterScheme.toList.isPrefixOf url.toList <;> decide

/-- The reading of a URL, part by part. -/
theorem parse?_eq (url : String) :
    Url.parse? url =
      match splitScheme? (serverPart url) with
      | none => .ok none
      | some (mode, body) =>
        match Target.parse body url with
        | .error f => .error f
        | .ok target => .ok (some ⟨mode, target, parseArguments (queryPart url)⟩) := by
  obtain ⟨hs, hq⟩ := cut_eq '?' url.toList
  unfold serverPart queryPart
  rw [← hs, ← hq]
  rfl

/-- The port texts of a URL have no more digits than can be read as an integer. -/
def ReadablePorts (url : String) : Prop :=
  ∀ body item, Body url body → Listed body item → Readable item

/-- A short text has no port that is too long. -/
theorem readablePorts_of_length (h : url.toList.length ≤ Number.maxIntegerDigits) :
    ReadablePorts url := by
  rintro body item hb ⟨list, name, rfl, -, hi⟩ port ⟨host, rfl, -, -⟩ -
  have hitem := (sublist_of_mem_splitOn hi).length_le
  have hserver : (serverPart url).length ≤ url.toList.length :=
    (List.takeWhile_sublist _).length_le
  rcases hb with hb | ⟨-, hb⟩ <;>
  · rw [hb] at hserver
    simp only [List.length_append, List.length_cons] at hitem hserver
    omega

/-- Whether strict mode refuses a text. -/
def Refused (url : String) (base : Properties) (default : Bool) : Prop :=
  ¬ IsCluster url ∧ isStrict url base default = true

/-- The reading follows the grammar: whatever the text, it comes to one of four outcomes. -/
theorem parseUrl_cases (h : ReadablePorts url) (base : Properties) (strict : Bool) :
    ¬ Mode.plainScheme.toList <+: serverPart url ∧ parseUrl (some url) base strict = .ok none ∨
      ∃ body, Body url body ∧
        (Malformed body ∧ Raises (parseUrl (some url) base strict) .malformedUrl ∨
          ¬ Malformed body ∧ Refused url base strict ∧
            Raises (parseUrl (some url) base strict) .protocolRejected ∨
          ¬ Malformed body ∧ ¬ Refused url base strict ∧
            ∃ p, parseUrl (some url) base strict = .ok (some p)) := by
  have hparse := parse?_eq url
  cases hs : splitScheme? (serverPart url) with
  | none =>
    rw [hs] at hparse
    exact .inl ⟨splitScheme?_eq_none_iff.mp hs, by simp only [parseUrl, hparse]⟩
  | some p =>
    obtain ⟨mode, body⟩ := p
    rw [hs] at hparse
    have hb := splitScheme?_eq_some hs
    refine .inr ⟨body, hb, ?_⟩
    rcases target_cases url fun item => h body item hb with ⟨hm, t, ht⟩ | ⟨hm, f, ht, hf⟩
    · simp only [ht] at hparse
      simp only [parseUrl, hparse, strictMode_properties]
      -- The target is read; whether it is given away is left to strict mode.
      split
      · next hr =>
        rw [Bool.and_eq_true, ofUrl_bne_clusterAware] at hr
        exact .inr (.inl ⟨hm, ⟨hr.2, hr.1⟩, _, rfl, rfl⟩)
      · next hr =>
        rw [Bool.and_eq_true, ofUrl_bne_clusterAware] at hr
        exact .inr (.inr ⟨hm, fun hr' => hr ⟨hr'.2, hr'.1⟩, _, rfl⟩)
    · simp only [ht] at hparse
      exact .inl ⟨hm, f, by simp only [parseUrl, hparse], hf⟩

theorem Raises.ne_ok {α : Type} {r : Except UrlFault α} {kind : ErrorKind} (h : Raises r kind)
    (x : α) : r ≠ .ok x := by
  obtain ⟨f, rfl, -⟩ := h
  simp

theorem Raises.unique {α : Type} {r : Except UrlFault α} {kind kind' : ErrorKind}
    (h : Raises r kind) (h' : Raises r kind') : kind = kind' := by
  obtain ⟨f, rfl, hf⟩ := h
  obtain ⟨f', hf', hk⟩ := h'
  rw [← Except.error.inj hf'] at hk
  cases hfail : f.failure with
  | foreign e => simp [hfail, Failure.isKind] at hf
  | driver e =>
    simp only [hfail, Failure.isKind, decide_eq_true_eq] at hf hk
    exact hf.symm.trans hk

theorem exists_body_iff {P : List Char → Prop} (hb : Body url body) :
    (∃ b, Body url b ∧ P b) ↔ P body :=
  ⟨fun ⟨_, hb', hp⟩ => body_unique hb' hb ▸ hp, fun hp => ⟨body, hb, hp⟩⟩

theorem plainScheme_prefix_of_body (hb : Body url body) :
    Mode.plainScheme.toList <+: serverPart url := by
  rcases hb with hb | ⟨-, hb⟩
  · exact plainScheme_prefix_clusterScheme.trans ⟨body, hb.symm⟩
  · exact ⟨body, hb.symm⟩

/-- **What the reading of URLs takes.** A text without our scheme before its first question mark is
no URL of ours. Any other text is malformed exactly if its body breaks the grammar, else refused
exactly if strict mode holds and it does not begin with the cluster scheme, else taken. Strict mode
is what the properties say; where they say nothing, what the caller asks for; where the caller asks
for nothing, what holds for the process. -/
theorem parseUrl_outcome_iff (url : String) (base : Properties) (asked : Option Bool)
    (process : Bool) (h : ReadablePorts url) :
    (parseUrl (some url) base (asked.getD process) = .ok none ↔
        ¬ Mode.plainScheme.toList <+: serverPart url) ∧
      (Raises (parseUrl (some url) base (asked.getD process)) .malformedUrl ↔
        ∃ body, Body url body ∧ Malformed body) ∧
      (Raises (parseUrl (some url) base (asked.getD process)) .protocolRejected ↔
        ∃ body, Body url body ∧ ¬ Malformed body ∧ Refused url base (asked.getD process)) ∧
      ((∃ p, parseUrl (some url) base (asked.getD process) = .ok (some p)) ↔
        ∃ body, Body url body ∧ ¬ Malformed body ∧ ¬ Refused url base (asked.getD process)) := by
  generalize hstrict : asked.getD process = strict
  rcases parseUrl_cases h base strict with ⟨hn, hr⟩ | ⟨body, hb, hcases⟩
  · have hnone : ∀ P : List Char → Prop, ¬ ∃ body, Body url body ∧ P body := fun P ⟨_, hb, _⟩ =>
      hn (plainScheme_prefix_of_body hb)
    refine ⟨iff_of_true hr hn, iff_of_false (fun hk => hk.ne_ok none hr) (hnone _),
      iff_of_false (fun hk => hk.ne_ok none hr) (hnone _), iff_of_false ?_ (hnone _)⟩
    rintro ⟨p, hp⟩
    exact absurd (hr.symm.trans hp) (by simp)
  · have hplain := not_not_intro (plainScheme_prefix_of_body hb)
    simp only [exists_body_iff hb]
    rcases hcases with ⟨hm, hk⟩ | ⟨hm, hrefused, hk⟩ | ⟨hm, hrefused, p, hp⟩
    · exact ⟨iff_of_false (hk.ne_ok none) hplain, iff_of_true hk hm,
        iff_of_false (fun hk' => absurd (hk.unique hk') (by decide)) fun hc => hc.1 hm,
        iff_of_false (fun ⟨p, hp⟩ => hk.ne_ok _ hp) fun hc => hc.1 hm⟩
    · exact ⟨iff_of_false (hk.ne_ok none) hplain,
        iff_of_false (fun hk' => absurd (hk.unique hk') (by decide)) hm,
        iff_of_true hk ⟨hm, hrefused⟩,
        iff_of_false (fun ⟨p, hp⟩ => hk.ne_ok _ hp) fun hc => hc.2 hrefused⟩
    · refine ⟨iff_of_false ?_ hplain, iff_of_false (fun hk => hk.ne_ok _ hp) hm,
        iff_of_false (fun hk => hk.ne_ok _ hp) fun hc => hrefused hc.2,
        iff_of_true ⟨p, hp⟩ ⟨hm, hrefused⟩⟩
      rw [hp]
      simp

/-- A port beyond the range makes a text malformed. -/
theorem parseUrl_port_out_of_range :
    ReadablePorts "postgresql://db:70000/app" ∧
      Raises (parseUrl (some "postgresql://db:70000/app") .empty ((none : Option Bool).getD false))
        .malformedUrl := by
  have h : ReadablePorts "postgresql://db:70000/app" := readablePorts_of_length (by decide)
  refine ⟨h, (parseUrl_outcome_iff _ _ none false h).2.1.mpr ⟨"//db:70000/app".toList, ?_, .inr ?_⟩⟩
  · exact .inr ⟨by decide, by decide⟩
  · refine ⟨"db:70000".toList, ⟨"db:70000".toList, "app".toList, rfl, by decide, by decide⟩,
      "70000".toList, ⟨"db".toList, rfl, by decide, by decide⟩, fun hp => ?_⟩
    exact absurd hp.2.2.2 (by decide)

end ClusterConnect
