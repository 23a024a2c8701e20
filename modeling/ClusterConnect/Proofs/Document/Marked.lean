import ClusterConnect.Configuration

/-!
# Texts between quotation marks

A writer that escapes the backslash and the quotation mark, and nothing else, is read back as long as
its texts hold no control character besides the tab. A text that does hold one is refused: none of
its characters can end the text early.

* `basic?_marked`, `basic?_controlled`: one text between its marks, in either case.
* `unifyLineEnds_line`: what the unification of line ends makes of an entry.
* `pair_line`, `pair_not_plain`: an entry, in either case.
-/

namespace ClusterConnect

open Text Document

namespace Configuration

/-- A text with a control character other than the tab. -/
def Controlled (s : List Char) : Prop := ∃ c ∈ s, isForbidden c = true

variable {s : List Char}

/-! ## One text -/

theorem escape_of_special {c : Char} (h : c = '\\' ∨ c = '"') : escape c = ['\\', c] := if_pos h

theorem escape_of_plain {c : Char} (h : ¬ (c = '\\' ∨ c = '"')) : escape c = [c] := if_neg h

theorem isForbidden_of_special {c : Char} (h : c = '\\' ∨ c = '"') : isForbidden c = false := by
  rcases h with rfl | rfl <;> decide

/-- What the writer escapes is read as one character. -/
theorem basic?_special {c : Char} (h : c = '\\' ∨ c = '"') (rest : List Char) :
    basic? ('\\' :: c :: rest) = (basic? rest).map fun r => (c :: r.1, r.2) := by
  have he : escape? (c :: rest) = some (c, rest) := by rcases h with rfl | rfl <;> rfl
  rw [basic?, if_neg (by decide), if_pos rfl]
  split
  · next hn => exact absurd (he.symm.trans hn) (by simp)
  · next e rest' hs =>
    obtain ⟨rfl, rfl⟩ := Prod.mk.inj (Option.some.inj (he.symm.trans hs))
    rfl

theorem basic?_plain {c : Char} (h : ¬ (c = '\\' ∨ c = '"')) (rest : List Char) :
    basic? (c :: rest) =
      if isForbidden c then none else (basic? rest).map fun r => (c :: r.1, r.2) := by
  rw [not_or] at h
  rw [basic?, if_neg h.2, if_neg h.1]

/-- A text without control characters is read back up to its closing mark. -/
theorem basic?_marked (h : ¬ Controlled s) (rest : List Char) :
    basic? (s.flatMap escape ++ '"' :: rest) = some (s, rest) := by
  induction s with
  | nil => rw [List.flatMap_nil, List.nil_append, basic?, if_pos rfl]
  | cons c s ih =>
    have hs : basic? (s.flatMap escape ++ '"' :: rest) = some (s, rest) := by
      apply ih
      rintro ⟨d, hd, hf⟩
      exact h ⟨d, List.mem_cons_of_mem c hd, hf⟩
    rw [List.flatMap_cons]
    by_cases hc : c = '\\' ∨ c = '"'
    · rw [escape_of_special hc]
      show basic? ('\\' :: c :: (s.flatMap escape ++ '"' :: rest)) = some (c :: s, rest)
      rw [basic?_special hc, hs]
      rfl
    · have hf : isForbidden c = false := by
        cases hf : isForbidden c with
        | false => rfl
        | true => exact absurd ⟨c, List.mem_cons_self, hf⟩ h
      rw [escape_of_plain hc]
      show basic? (c :: (s.flatMap escape ++ '"' :: rest)) = some (c :: s, rest)
      rw [basic?_plain hc, hf, hs]
      rfl

/-- A text with a control character is refused, whatever follows it. -/
theorem basic?_controlled (h : Controlled s) (rest : List Char) :
    basic? (s.flatMap escape ++ rest) = none := by
  induction s with
  | nil =>
    obtain ⟨d, hd, -⟩ := h
    exact absurd hd List.not_mem_nil
  | cons c s ih =>
    obtain ⟨d, hd, hf⟩ := h
    rw [List.flatMap_cons]
    by_cases hc : c = '\\' ∨ c = '"'
    · -- The control character stands further back.
      have hs : Controlled s := by
        rcases List.mem_cons.mp hd with rfl | hd
        · exact absurd hf (by simp [isForbidden_of_special hc])
        · exact ⟨d, hd, hf⟩
      rw [escape_of_special hc]
      show basic? ('\\' :: c :: (s.flatMap escape ++ rest)) = none
      rw [basic?_special hc, ih hs]
      rfl
    · rw [escape_of_plain hc]
      show basic? (c :: (s.flatMap escape ++ rest)) = none
      rw [basic?_plain hc]
      rcases List.mem_cons.mp hd with rfl | hd
      · exact if_pos hf
      · rw [ih ⟨d, hd, hf⟩]
        exact ite_self _

/-! ## Line ends -/

/-- A character that has no part in a line end separates what stands before and behind it. -/
theorem unifyLineEnds_append_cons {c : Char} (hr : c ≠ '\r') (hn : c ≠ '\n') (a b : List Char) :
    unifyLineEnds (a ++ c :: b) = unifyLineEnds a ++ c :: unifyLineEnds b := by
  fun_induction unifyLineEnds a with
  | case1 rest ih =>
    show unifyLineEnds ('\r' :: '\n' :: (rest ++ c :: b)) = _
    rw [unifyLineEnds, ih]
    rfl
  | case2 d rest hd ih =>
    rw [List.cons_append, unifyLineEnds, ih]
    · rfl
    · intro rest' hrest
      cases rest with
      | nil => exact fun h => hn (List.cons.inj h).1
      | cons x rest => exact fun h => hd rest hrest (by rw [(List.cons.inj h).1])
  | case3 =>
    rw [List.nil_append, unifyLineEnds]
    · rfl
    · exact fun _ h => absurd h hr

theorem unifyLineEnds_cons {c : Char} (h : c ≠ '\r') (cs : List Char) :
    unifyLineEnds (c :: cs) = c :: unifyLineEnds cs := by
  rw [unifyLineEnds]
  exact fun _ hc => absurd hc h

/-- The writer puts no line feed in front of a text. -/
theorem eq_cons_of_flatMap_escape {cs rest : List Char} (h : cs.flatMap escape = '\n' :: rest) :
    ∃ cs', cs = '\n' :: cs' := by
  cases cs with
  | nil => exact absurd h (by simp)
  | cons c cs =>
    rw [List.flatMap_cons] at h
    by_cases hc : c = '\\' ∨ c = '"'
    · rw [escape_of_special hc] at h
      exact absurd (List.cons.inj h).1 (by decide)
    · rw [escape_of_plain hc] at h
      exact ⟨cs, by rw [(List.cons.inj h).1]⟩

/-- The unification of line ends does not meet what the writer escapes. -/
theorem unifyLineEnds_escape (s : List Char) :
    unifyLineEnds (s.flatMap escape) = (unifyLineEnds s).flatMap escape := by
  fun_induction unifyLineEnds s with
  | case1 rest ih =>
    show unifyLineEnds ('\r' :: '\n' :: rest.flatMap escape) = _
    rw [unifyLineEnds, ih]
    rfl
  | case2 c rest hc ih =>
    rw [List.flatMap_cons, List.flatMap_cons, ← ih]
    by_cases hs : c = '\\' ∨ c = '"'
    · have hr : c ≠ '\r' := by rcases hs with rfl | rfl <;> decide
      rw [escape_of_special hs]
      show unifyLineEnds ('\\' :: c :: rest.flatMap escape) = _
      rw [unifyLineEnds_cons (by decide), unifyLineEnds_cons hr]
      rfl
    · rw [escape_of_plain hs]
      show unifyLineEnds (c :: rest.flatMap escape) = c :: unifyLineEnds (rest.flatMap escape)
      rw [unifyLineEnds]
      intro rest' hcr hrest
      obtain ⟨cs, rfl⟩ := eq_cons_of_flatMap_escape hrest
      exact hc cs hcr rfl
  | case3 => rfl

/-- What the unification of line ends leaves of a text. -/
def unified (s : String) : String := String.ofList (unifyLineEnds s.toList)

/-- A text that is written, with what stands around it. -/
theorem line_append (e : String × String) (rest : List Char) :
    line e ++ rest =
      '"' :: (e.1.toList.flatMap escape ++ '"' :: ' ' :: '=' :: ' ' :: '"' ::
        (e.2.toList.flatMap escape ++ '"' :: '\n' :: rest)) := by
  simp [line, mark]

theorem unifyLineEnds_line (e : String × String) (rest : List Char) :
    unifyLineEnds (line e ++ rest) = line (unified e.1, unified e.2) ++ unifyLineEnds rest := by
  rw [line_append, line_append, unifyLineEnds_cons (by decide),
    unifyLineEnds_append_cons (by decide) (by decide), unifyLineEnds_escape,
    unifyLineEnds_cons (by decide), unifyLineEnds_cons (by decide), unifyLineEnds_cons (by decide),
    unifyLineEnds_cons (by decide), unifyLineEnds_append_cons (by decide) (by decide),
    unifyLineEnds_escape, unifyLineEnds_cons (by decide)]
  simp only [unified, String.toList_ofList]

/-- Neither character of a line end can be hidden by unifying it. -/
theorem Controlled.unified (h : Controlled s) : Controlled (unifyLineEnds s) := by
  fun_induction unifyLineEnds s with
  | case1 rest ih => exact ⟨'\n', List.mem_cons_self, by decide⟩
  | case2 c rest hc ih =>
    obtain ⟨d, hd, hf⟩ := h
    rcases List.mem_cons.mp hd with rfl | hd
    · exact ⟨d, List.mem_cons_self, hf⟩
    · obtain ⟨d', hd', hf'⟩ := ih ⟨d, hd, hf⟩
      exact ⟨d', List.mem_cons_of_mem c hd', hf'⟩
  | case3 => exact h

theorem unified_of_not_controlled {s : String} (h : ¬ Controlled s.toList) : unified s = s := by
  have hr : '\r' ∉ s.toList := fun hr => h ⟨'\r', hr, by decide⟩
  rw [Configuration.unified, unifyLineEnds_of_not_mem hr, String.ofList_toList]

/-! ## One entry -/

/-- An entry of which neither the name nor the value holds a control character. -/
def Plain (e : String × String) : Prop := ¬ Controlled e.1.toList ∧ ¬ Controlled e.2.toList

/-- What stands behind the opening mark of a value, up to the end of its line, does not begin with two
more marks. -/
theorem not_three_marks (v : String) (rest tail : List Char) :
    v.toList.flatMap escape ++ '"' :: '\n' :: rest ≠ '"' :: '"' :: tail := by
  intro h
  cases hv : v.toList with
  | nil =>
    rw [hv] at h
    exact absurd (List.cons.inj (List.cons.inj h).2).1 (by decide)
  | cons c cs =>
    rw [hv, List.flatMap_cons] at h
    by_cases hc : c = '\\' ∨ c = '"'
    · rw [escape_of_special hc] at h
      exact absurd (List.cons.inj h).1 (by decide)
    · rw [escape_of_plain hc] at h
      exact hc (.inr (List.cons.inj h).1)

/-- What stands at the place of a value is read as one text, or not at all. -/
theorem value_marked (limit room : Nat) (v : String) (rest : List Char) :
    value (limit + 1) room ('"' :: (v.toList.flatMap escape ++ '"' :: '\n' :: rest)) =
      (orMalformed (basic? (v.toList.flatMap escape ++ '"' :: '\n' :: rest))).map fun r =>
        (.text (String.ofList r.1), r.2) := by
  rw [value, scalar, text?]
  · exact fun tail h => absurd h (not_three_marks v rest tail)
  · exact Nat.succ_ne_zero limit
  · exact fun _ _ _ h => absurd (List.cons.inj h).1 (by decide)
  · exact fun _ _ _ h => absurd (List.cons.inj h).1 (by decide)

theorem key?_marked {k : String} (h : ¬ Controlled k.toList) (rest : List Char) :
    key? ('"' :: (k.toList.flatMap escape ++ '"' :: ' ' :: '=' :: rest)) =
      some ([k], '=' :: rest) := by
  have hp : keyPart? ('"' :: (k.toList.flatMap escape ++ '"' :: ' ' :: '=' :: rest)) =
      some (k, ' ' :: '=' :: rest) := by
    rw [keyPart?, basic?_marked h, Option.map_some, String.ofList_toList]
  rw [key?, List.length_cons, keyParts?, hp]
  rfl

theorem key?_controlled {k : String} (h : Controlled k.toList) (rest : List Char) :
    key? ('"' :: (k.toList.flatMap escape ++ rest)) = none := by
  have hp : keyPart? ('"' :: (k.toList.flatMap escape ++ rest)) = none := by
    rw [keyPart?, basic?_controlled h]
    rfl
  rw [key?, List.length_cons, keyParts?, hp]

/-- Behind a name that can be read, an entry stands or falls with its value. -/
theorem pair_of_name {e : String × String} (h : ¬ Controlled e.1.toList) (limit room : Nat)
    (rest : List Char) :
    pair (limit + 2) room (line e ++ rest) =
      (orMalformed (basic? (e.2.toList.flatMap escape ++ '"' :: '\n' :: rest))).map fun r =>
        ([e.1], .text (String.ofList r.1), r.2) := by
  rw [line_append, pair, key?_marked h]
  show (value (limit + 1) room ('"' :: (e.2.toList.flatMap escape ++ '"' :: '\n' :: rest)) >>=
    fun r => .ok ([e.1], r.1, r.2)) = _
  rw [value_marked]
  cases basic? (e.2.toList.flatMap escape ++ '"' :: '\n' :: rest) <;> rfl

/-- A plain entry is read back, up to the end of its line. -/
theorem pair_line {e : String × String} (h : Plain e) (limit room : Nat) (rest : List Char) :
    pair (limit + 2) room (line e ++ rest) = .ok ([e.1], .text e.2, '\n' :: rest) := by
  rw [pair_of_name h.1, basic?_marked h.2, orMalformed, Except.map, String.ofList_toList]

/-- An entry that is not plain is refused. -/
theorem pair_not_plain {e : String × String} (h : ¬ Plain e) (limit room : Nat)
    (rest : List Char) : pair (limit + 2) room (line e ++ rest) = .error .malformed := by
  by_cases hk : Controlled e.1.toList
  · rw [line_append, pair, key?_controlled hk]
    rfl
  · have hv : Controlled e.2.toList := Classical.byContradiction fun hv => h ⟨hk, hv⟩
    rw [pair_of_name hk, basic?_controlled hv]
    rfl

end Configuration

end ClusterConnect
