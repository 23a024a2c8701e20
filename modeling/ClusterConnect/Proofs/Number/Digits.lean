import ClusterConnect.Number.Numeral

/-!
# Digits are read as the number they write

* `integer?_digits`: a run of ASCII digits stands for its value, leading zeros and all.
-/

namespace ClusterConnect.Number

open Text

/-- The ASCII digits are the characters of the numbers below ten. -/
theorem exists_eq_digitChar {c : Char} (h : c.isDigit = true) :
    ∃ d : Fin 10, c = Nat.digitChar d := by
  obtain ⟨hlow, hhigh⟩ : 48 ≤ c.toNat ∧ c.toNat ≤ 57 := by
    simpa [Char.isDigit, UInt32.le_iff_toNat_le] using h
  refine ⟨⟨c.toNat - 48, by omega⟩, Char.toNat_inj.mp ?_⟩
  rw [Nat.toNat_digitChar_of_lt_ten (by omega), Nat.add_sub_cancel' hlow]

/-- No blank around a numeral is a digit. -/
theorem isPadding_of_isDigit {c : Char} (h : c.isDigit = true) : isPadding c = false := by
  obtain ⟨d, rfl⟩ := exists_eq_digitChar h
  revert d
  decide

/-- An ASCII digit is the ASCII form of itself. -/
theorem map_digitValue?_of_isDigit {c : Char} (h : c.isDigit = true) :
    (digitValue? c).map Nat.digitChar = some c := by
  obtain ⟨d, rfl⟩ := exists_eq_digitChar h
  revert d
  decide

variable {cs : List Char}

theorem strip_digits (h : ∀ c ∈ cs, c.isDigit = true) : strip isPadding cs = cs := by
  -- Blanks are looked for from the front and from the back; a digit stops the search at once.
  have hkeep : ∀ ds : List Char, (∀ d ∈ ds, d.isDigit = true) → ds.dropWhile isPadding = ds := by
    intro ds hds
    cases ds with
    | nil => rfl
    | cons d ds =>
      rw [List.dropWhile_cons_of_neg]
      simp [isPadding_of_isDigit (hds d List.mem_cons_self)]
  rw [strip, hkeep cs h, hkeep cs.reverse fun c hc => h c (List.mem_reverse.mp hc),
    List.reverse_reverse]

theorem normalized_digits (h : ∀ c ∈ cs, c.isDigit = true) : normalized cs = cs := by
  unfold normalized
  rw [strip_digits h]
  refine (List.map_congr_left fun c hc => ?_).trans (List.map_id cs)
  obtain ⟨d, hd, hchar⟩ := Option.map_eq_some_iff.mp (map_digitValue?_of_isDigit (h c hc))
  rw [hd]
  exact hchar

theorem moreDigits_digits (h : ∀ c ∈ cs, c.isDigit = true) :
    moreDigits Char.isDigit cs = (cs, []) := by
  induction cs with
  | nil => rfl
  | cons c cs ih =>
    have hc := h c List.mem_cons_self
    rw [moreDigits, if_pos hc, ih fun d hd => h d (List.mem_cons_of_mem c hd)]
    -- The other equation is for an underscore, which is no digit.
    rintro d rest rfl
    exact absurd hc (by decide)

theorem sign_cons_of_isDigit {c : Char} (h : c.isDigit = true) (cs : List Char) :
    sign (c :: cs) = (false, c :: cs) := by
  unfold sign
  split
  · next hcs => exact absurd ((List.cons.inj hcs).1 ▸ h) (by decide)
  · next hcs => exact absurd ((List.cons.inj hcs).1 ▸ h) (by decide)
  · rfl

/-- A run of ASCII digits stands for its value, unless it is too long to be read. -/
theorem integer?_digits (hne : cs ≠ []) (h : ∀ c ∈ cs, c.isDigit = true)
    (hlen : cs.length ≤ maxIntegerDigits) : integer? cs = some (digitsValue cs : Int) := by
  obtain ⟨c, rest, rfl⟩ := List.exists_cons_of_ne_nil hne
  have hc := h c List.mem_cons_self
  have hrun : digitRun? Char.isDigit (c :: rest) = some (c :: rest, []) := by
    rw [digitRun?, if_pos hc, moreDigits_digits fun d hd => h d (List.mem_cons_of_mem c hd)]
  unfold integer?
  rw [normalized_digits h, sign_cons_of_isDigit hc]
  simp only [hrun, if_pos hlen, Bool.false_eq_true, if_false]

end ClusterConnect.Number
