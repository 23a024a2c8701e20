import ClusterConnect.Proofs.Url.Grammar

/-!
# Which texts are reported as what they are

A text that is no good as a URL is reported as a URL that breaks the grammar or is refused. There is
one exception, and this file says exactly when it occurs: a port text with more digits than can be
read as an integer, in a server list whose items are all in order up to that point.

* `Reported`: the reading ends in one of the ways that its callers are prepared for.
* `HasOverlongPort`: the texts for which it does not, said by what stands where in the text.
* `parseUrl_tooLong_iff`, `reported_parseUrl_iff`: these are all of them.
-/

namespace ClusterConnect

open Text

variable {url : String} {item port body : List Char}

/-- A reading comes to a result, or ends in an error that says that the URL breaks the grammar or is
refused. -/
def Reported {α : Type} (r : Except UrlFault α) : Prop :=
  (∃ x, r = .ok x) ∨ Raises r .malformedUrl ∨ Raises r .protocolRejected

/-- Of all faults only one is not reported as a fault of the URL. -/
theorem reported_iff {α : Type} {r : Except UrlFault α} :
    Reported r ↔ ¬ ∃ port, r = .error (.portTooLong port) := by
  cases r with
  | ok x => simp [Reported]
  | error f =>
    cases f with
    | portTooLong port =>
      refine iff_of_false ?_ (by simp)
      rintro (⟨x, hx⟩ | ⟨f, hf, hkind⟩ | ⟨f, hf, hkind⟩)
      · exact absurd hx (by simp)
      · obtain rfl := Except.error.inj hf
        exact absurd hkind (by simp [UrlFault.failure, Failure.ofForeign, Failure.isKind])
      · obtain rfl := Except.error.inj hf
        exact absurd hkind (by simp [UrlFault.failure, Failure.ofForeign, Failure.isKind])
    | rejected url => exact iff_of_true (.inr (.inr ⟨_, rfl, rfl⟩)) (by simp)
    | missing => exact iff_of_true (.inr (.inl ⟨_, rfl, rfl⟩)) (by simp)
    | unterminatedServers url => exact iff_of_true (.inr (.inl ⟨_, rfl, rfl⟩)) (by simp)
    | portNotNumeric port url => exact iff_of_true (.inr (.inl ⟨_, rfl, rfl⟩)) (by simp)
    | portOutOfRange port url => exact iff_of_true (.inr (.inl ⟨_, rfl, rfl⟩)) (by simp)

/-- A text whose ports can all be read is reported as what it is. -/
theorem ReadablePorts.reported (h : ReadablePorts url) (base : Properties) (strict : Bool) :
    Reported (parseUrl (some url) base strict) := by
  rcases parseUrl_cases h base strict with ⟨-, hnone⟩ | ⟨body, -, hcases⟩
  · exact .inl ⟨none, hnone⟩
  · rcases hcases with ⟨-, hraises⟩ | ⟨-, -, hraises⟩ | ⟨-, -, p, hp⟩
    · exact .inr (.inl hraises)
    · exact .inr (.inr hraises)
    · exact .inl ⟨some p, hp⟩

/-! ## Ports that are too long -/

/-- The items of a server list are in order up to one whose port has more digits than can be read. -/
def StopsAtOverlong (items : List (List Char)) : Prop :=
  ∃ front item back, items = front ++ item :: back ∧ ¬ Readable item ∧
    ∀ item' ∈ front, Readable item' ∧ ¬ Misplaced item'

/-- What follows the scheme begins a server list that a slash ends, and that stops at a port with
more digits than can be read. -/
def Overlong (body : List Char) : Prop :=
  ∃ list name, body = '/' :: '/' :: (list ++ '/' :: name) ∧ '/' ∉ list ∧
    StopsAtOverlong (list.splitOn ',')

/-- A text of ours has a port with more digits than can be read, and nothing is wrong before it. -/
def HasOverlongPort (url : String) : Prop := ∃ body, Body url body ∧ Overlong body

theorem not_readable_iff :
    ¬ Readable item ↔ ∃ port, PortText item port ∧ (∀ c ∈ port, c.isDigit = true) ∧
      Number.maxIntegerDigits < port.length := by
  simp only [Readable, Classical.not_forall, Nat.not_le, exists_prop]

theorem stopsAtOverlong_cons {rest : List (List Char)} :
    StopsAtOverlong (item :: rest) ↔
      ¬ Readable item ∨ (Readable item ∧ ¬ Misplaced item) ∧ StopsAtOverlong rest := by
  constructor
  · rintro ⟨front, last, back, hitems, hlong, hfront⟩
    cases front with
    | nil =>
      obtain ⟨rfl, rfl⟩ := List.cons.inj hitems
      exact .inl hlong
    | cons first front =>
      obtain ⟨rfl, rfl⟩ := List.cons.inj hitems
      refine .inr ⟨hfront item List.mem_cons_self, front, last, back, rfl, hlong, ?_⟩
      exact fun item' hitem' => hfront item' (List.mem_cons_of_mem _ hitem')
  · rintro (hlong | ⟨hitem, front, last, back, rfl, hlong, hfront⟩)
    · exact ⟨[], item, rest, rfl, hlong, by simp⟩
    · refine ⟨item :: front, last, back, rfl, hlong, ?_⟩
      intro item' hitem'
      rcases List.mem_cons.mp hitem' with rfl | hitem'
      · exact hitem
      · exact hfront item' hitem'

/-! ## Where the reading stops -/

theorem checkPort_tooLong (url : String) (hdigits : ∀ c ∈ port, c.isDigit = true)
    (hlong : Number.maxIntegerDigits < port.length) :
    checkPort port url = .error (.portTooLong (String.ofList port)) := by
  have hsome : port.isEmpty = false := by
    cases port with
    | nil => simp at hlong
    | cons c cs => rfl
  unfold checkPort
  rw [hsome, List.all_eq_true.mpr hdigits]
  simp [hlong]

theorem parse_tooLong_iff (url : String) (item : List Char) :
    (∃ port, Address.parse item url = .error (.portTooLong port)) ↔ ¬ Readable item := by
  by_cases hreadable : Readable item
  · refine iff_of_false ?_ (not_not_intro hreadable)
    rintro ⟨port, hport⟩
    rcases parse_cases url hreadable with ⟨-, a, ha⟩ | ⟨-, hraises⟩
    · exact absurd (ha.symm.trans hport) (by simp)
    · exact reported_iff.mp (.inr (.inl hraises)) ⟨port, hport⟩
  · refine iff_of_true ?_ hreadable
    obtain ⟨port, ⟨host, hport⟩, hdigits, hlong⟩ := not_readable_iff.mp hreadable
    unfold Address.parse
    rw [cutLast_eq_some_iff.mpr hport]
    simp only [checkPort_tooLong url hdigits hlong]
    exact ⟨_, rfl⟩

theorem parseAll_tooLong_iff (url : String) (items : List (List Char)) :
    (∃ port, Address.parseAll url items = .error (.portTooLong port)) ↔ StopsAtOverlong items := by
  induction items with
  | nil => simp [Address.parseAll, StopsAtOverlong]
  | cons item rest ih =>
    rw [stopsAtOverlong_cons]
    by_cases hreadable : Readable item
    · rcases parse_cases url hreadable with ⟨hplaced, a, ha⟩ | ⟨hmisplaced, f, hf, hkind⟩
      · -- the item is in order, so the rest decides
        have hrest : (∃ port, Address.parseAll url (item :: rest) = .error (.portTooLong port)) ↔
            ∃ port, Address.parseAll url rest = .error (.portTooLong port) := by
          simp only [Address.parseAll, ha]
          cases Address.parseAll url rest <;> simp
        rw [hrest, ih]
        simp [hreadable, hplaced]
      · -- the item is at fault for another reason
        have hother := reported_iff.mp (.inr (.inl ⟨f, hf, hkind⟩))
        rw [hf] at hother
        refine iff_of_false ?_ ?_
        · simp only [Address.parseAll, hf]
          simpa using hother
        · rintro (hlong | ⟨hitem, -⟩)
          · exact hlong hreadable
          · exact hitem.2 hmisplaced
    · obtain ⟨port, hport⟩ := (parse_tooLong_iff url item).mpr hreadable
      exact iff_of_true ⟨port, by simp only [Address.parseAll, hport]⟩ (.inl hreadable)

theorem target_tooLong_iff :
    (∃ port, Target.parse body url = .error (.portTooLong port)) ↔ Overlong body := by
  unfold Target.parse
  cases hp : afterPrefix? ['/', '/'] body with
  | none =>
    refine iff_of_false (by simp) ?_
    rintro ⟨list, name, rfl, -⟩
    exact absurd (hp.symm.trans (afterPrefix?_eq_some_iff.mpr rfl)) (by simp)
  | some rest =>
    obtain rfl : body = '/' :: '/' :: rest := afterPrefix?_eq_some_iff.mp hp
    rcases hc : cut '/' rest with ⟨list, _ | name⟩
    · obtain ⟨rfl, hn⟩ := cut_eq_none_iff.mp hc
      refine iff_of_false (by simp [hc]) ?_
      rintro ⟨list, name, hb, -⟩
      obtain rfl := (List.cons.inj (List.cons.inj hb).2).2
      simp at hn
    · obtain ⟨hrest, hn⟩ := cut_eq_some_iff.mp hc
      have hlist : Overlong ('/' :: '/' :: rest) ↔ StopsAtOverlong (list.splitOn ',') := by
        constructor
        · rintro ⟨list', name', hb, hn', hstops⟩
          have hc' := cut_eq_some_iff.mpr ⟨(List.cons.inj (List.cons.inj hb).2).2, hn'⟩
          rw [hc] at hc'
          rwa [(Prod.mk.inj hc').1]
        · exact fun hstops => ⟨list, name, by rw [hrest], hn, hstops⟩
      rw [hlist, ← parseAll_tooLong_iff url]
      simp only [hc]
      cases Address.parseAll url (list.splitOn ',') <;> simp

/-- **The one text that is not reported as what it is.** Whatever the properties and the mode, a text
fails in the reading of integers exactly if it has a port with more digits than can be read, in a
server list that a slash ends and that is in order up to there. -/
theorem parseUrl_tooLong_iff (base : Properties) (strict : Bool) :
    (∃ port, parseUrl (some url) base strict = .error (.portTooLong port)) ↔
      HasOverlongPort url := by
  have hparse := parse?_eq url
  unfold parseUrl
  dsimp only
  rcases hscheme : splitScheme? (serverPart url) with _ | ⟨mode, body⟩ <;> rw [hscheme] at hparse
  · refine iff_of_false (by simp [hparse]) ?_
    rintro ⟨body, hbody, -⟩
    exact splitScheme?_eq_none_iff.mp hscheme (plainScheme_prefix_of_body hbody)
  · have hbody := splitScheme?_eq_some hscheme
    have hlong : HasOverlongPort url ↔ ∃ port, Target.parse body url = .error (.portTooLong port) := by
      rw [target_tooLong_iff]
      exact exists_body_iff hbody
    rw [hlong]
    cases htarget : Target.parse body url with
    | error f => simp [hparse, htarget]
    | ok target =>
      simp only [hparse, htarget]
      split <;> simp

theorem reported_parseUrl_iff (base : Properties) (strict : Bool) :
    Reported (parseUrl (some url) base strict) ↔ ¬ HasOverlongPort url := by
  rw [reported_iff, parseUrl_tooLong_iff]

/-- One digit more than can be read is too long, whatever number the digits stand for. -/
theorem hasOverlongPort_of_length {digits : List Char} (hdigits : ∀ c ∈ digits, c.isDigit = true)
    (hlong : Number.maxIntegerDigits < digits.length) :
    HasOverlongPort (String.ofList ("postgresql://h:".toList ++ digits ++ "/d".toList)) := by
  have hnot : ∀ c, c.isDigit = false → c ∉ digits := by
    intro c hc hmem
    exact absurd (hc.symm.trans (hdigits c hmem)) Bool.false_ne_true
  have hserver : serverPart (String.ofList ("postgresql://h:".toList ++ digits ++ "/d".toList)) =
      Mode.plainScheme.toList ++ ('/' :: '/' :: ('h' :: ':' :: digits ++ '/' :: ['d'])) := by
    unfold serverPart
    rw [String.toList_ofList, List.append_assoc,
      List.takeWhile_append_of_pos (List.all_eq_true.mp rfl),
      List.takeWhile_append_of_pos fun c hc => ?_]
    · rfl
    · have hmark : c ≠ '?' := fun h => hnot '?' rfl (h ▸ hc)
      simpa using hmark
  have hcluster : ¬ Mode.clusterScheme.toList <+:
      Mode.plainScheme.toList ++ ('/' :: '/' :: ('h' :: ':' :: digits ++ '/' :: ['d'])) := by
    intro h
    simp [Mode.clusterScheme, Mode.plainScheme] at h
  refine ⟨_, .inr ⟨by rwa [hserver], hserver⟩, 'h' :: ':' :: digits, ['d'], rfl, ?_, ?_⟩
  · simp [hnot '/' rfl]
  · have hjoin : join ',' ['h' :: ':' :: digits] = 'h' :: ':' :: digits := by simp [join]
    have hsplit : (join ',' ['h' :: ':' :: digits]).splitOn ',' = ['h' :: ':' :: digits] :=
      splitOn_join (by simp [hnot ',' rfl]) (by simp)
    rw [hjoin] at hsplit
    rw [hsplit]
    refine ⟨[], _, [], rfl, not_readable_iff.mpr ⟨digits, ⟨['h'], rfl, ?_, ?_⟩, hdigits, hlong⟩, by simp⟩
    · exact hnot ':' rfl
    · exact hnot ']' rfl

end ClusterConnect
