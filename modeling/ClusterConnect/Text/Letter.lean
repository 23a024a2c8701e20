/-!
# Letter case of keywords

Property values such as `true` and `DEBUG` are compared without regard to letter case. Only ASCII
words are looked for, so it is enough to know which characters have an ASCII counterpart in the
other case. On the lower-case side these are the ASCII capitals and the Kelvin sign, on the
upper-case side the ASCII small letters, the dotless i, the long s, the sharp s and the Latin
ligatures. Every other character stands for itself.
-/

namespace ClusterConnect.Text

/-- The characters beyond ASCII whose upper-case form consists of ASCII letters. -/
def asciiCapitals : List (Char × List Char) :=
  [('ß', ['S', 'S']), ('ı', ['I']), ('ſ', ['S']), ('ﬀ', ['F', 'F']), ('ﬁ', ['F', 'I']),
   ('ﬂ', ['F', 'L']), ('ﬃ', ['F', 'F', 'I']), ('ﬄ', ['F', 'F', 'L']), ('ﬅ', ['S', 'T']),
   ('ﬆ', ['S', 'T'])]

/-- The upper-case form of a character, where that form is ASCII. -/
def capitals (c : Char) : List Char :=
  match asciiCapitals.lookup c with
  | some word => word
  | none => [c.toUpper]

/-- A text in capitals, as far as an ASCII word can tell. -/
def uppercase (cs : List Char) : List Char := cs.flatMap capitals

/-- The lower-case form of a character, where that form is ASCII. -/
def small (c : Char) : Char := if c = '\u212A' then 'k' else c.toLower

/-- A text in small letters, as far as an ASCII word can tell. -/
def lowercase (cs : List Char) : List Char := cs.map small

@[simp] theorem uppercase_nil : uppercase [] = [] := rfl

@[simp] theorem lowercase_nil : lowercase [] = [] := rfl

/-- A text with the letters of an ASCII word is that word in capitals. -/
theorem uppercase_of_map_toUpper {cs word : List Char} (h : cs.map Char.toUpper = word)
    (hword : word.all fun c => (asciiCapitals.lookup c).isNone) : uppercase cs = word := by
  have hunchanged : ∀ p ∈ asciiCapitals, p.1.toUpper = p.1 := by decide
  subst h
  induction cs with
  | nil => rfl
  | cons c cs ih =>
    have hcapitals : capitals c = [c.toUpper] := by
      unfold capitals
      cases hspecial : asciiCapitals.lookup c with
      | none => rfl
      | some w =>
        -- such a character is its own capital, so it would be a letter of the word
        obtain ⟨before, after, hlist, -⟩ := List.lookup_eq_some_iff.mp hspecial
        have hsame : c.toUpper = c := hunchanged (c, w) (by simp [hlist])
        have hnone := List.all_eq_true.mp hword c.toUpper (by simp)
        rw [hsame, hspecial] at hnone
        cases hnone
    show capitals c ++ uppercase cs = _
    rw [List.map_cons, List.all_cons, Bool.and_eq_true] at hword
    rw [hcapitals, ih hword.2]
    rfl

end ClusterConnect.Text
