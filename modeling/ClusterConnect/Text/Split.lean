/-!
# Cutting texts at separators

* `afterPrefix?`: the rest of a text behind a given beginning.
* `cut`: the parts before and after the first occurrence of a separator; `cutAt?` takes a text as
  separator.
* `cutLast`: the parts before and after the last occurrence of a separator, where another character
  further back hides it.
* `join`: texts with one separator between them, undone by `List.splitOn`.
-/

namespace ClusterConnect.Text

/-- What follows `front` in a text that begins with it. -/
def afterPrefix? : (front cs : List Char) → Option (List Char)
  | [], cs => some cs
  | _ :: _, [] => none
  | f :: fs, c :: cs => if f = c then afterPrefix? fs cs else none

/-- The part before the first separator, and the part after it if there is one. -/
def cut (sep : Char) : List Char → List Char × Option (List Char)
  | [] => ([], none)
  | c :: cs =>
    if c = sep then ([], some cs)
    else
      let r := cut sep cs
      (c :: r.1, r.2)

/-- The parts before and after the first occurrence of a text, `none` if it does not occur. -/
def cutAt? (sep : List Char) : List Char → Option (List Char × List Char)
  | [] => if sep.isEmpty then some ([], []) else none
  | c :: cs =>
    match afterPrefix? sep (c :: cs) with
    | some rest => some ([], rest)
    | none => (cutAt? sep cs).map fun r => (c :: r.1, r.2)

/-- The parts before and after the last separator, `none` if there is no separator or if `guard`
occurs after the last one. -/
def cutLast (sep guard : Char) (cs : List Char) : Option (List Char × List Char) :=
  let tail := cs.reverse.takeWhile fun c => c != sep && c != guard
  match cs.reverse.dropWhile fun c => c != sep && c != guard with
  | c :: front => if c = sep then some (front.reverse, tail.reverse) else none
  | [] => none

/-- Texts with a separator between them. -/
def join (sep : Char) (parts : List (List Char)) : List Char := [sep].intercalate parts

@[simp] theorem afterPrefix?_append (front cs : List Char) :
    afterPrefix? front (front ++ cs) = some cs := by
  induction front with
  | nil => rfl
  | cons f fs ih => simp [afterPrefix?, ih]

theorem afterPrefix?_eq_some_iff {front cs rest : List Char} :
    afterPrefix? front cs = some rest ↔ cs = front ++ rest := by
  induction front generalizing cs with
  | nil => simp [afterPrefix?, eq_comm]
  | cons f fs ih =>
    cases cs with
    | nil => simp [afterPrefix?]
    | cons c cs =>
      by_cases h : f = c
      · subst h; simp [afterPrefix?, ih]
      · simp [afterPrefix?, h, Ne.symm h]

theorem afterPrefix?_eq_none_iff {front cs : List Char} :
    afterPrefix? front cs = none ↔ ¬ front <+: cs := by
  constructor
  · rintro h ⟨rest, rfl⟩
    exact absurd h (by simp)
  · intro h
    cases hr : afterPrefix? front cs with
    | none => rfl
    | some rest => exact absurd ⟨rest, (afterPrefix?_eq_some_iff.mp hr).symm⟩ h

theorem cut_of_not_mem {sep : Char} {cs : List Char} (h : sep ∉ cs) : cut sep cs = (cs, none) := by
  induction cs with
  | nil => rfl
  | cons c cs ih =>
    rw [List.mem_cons, not_or] at h
    simp [cut, Ne.symm h.1, ih h.2]

theorem cut_append {sep : Char} {cs rest : List Char} (h : sep ∉ cs) :
    cut sep (cs ++ sep :: rest) = (cs, some rest) := by
  induction cs with
  | nil => simp [cut]
  | cons c cs ih =>
    rw [List.mem_cons, not_or] at h
    simp [cut, Ne.symm h.1, ih h.2]

theorem cut_eq_none_iff {sep : Char} {cs a : List Char} :
    cut sep cs = (a, none) ↔ cs = a ∧ sep ∉ a := by
  constructor
  · intro h
    by_cases hm : sep ∈ cs
    · obtain ⟨x, y, rfl, hx⟩ := List.eq_append_cons_of_mem hm
      rw [cut_append hx] at h
      exact absurd (congrArg Prod.snd h) (by simp)
    · rw [cut_of_not_mem hm] at h
      obtain ⟨rfl, -⟩ := Prod.mk.inj h
      exact ⟨rfl, hm⟩
  · rintro ⟨rfl, hm⟩
    exact cut_of_not_mem hm

theorem cut_eq_some_iff {sep : Char} {cs a b : List Char} :
    cut sep cs = (a, some b) ↔ cs = a ++ sep :: b ∧ sep ∉ a := by
  constructor
  · intro h
    by_cases hm : sep ∈ cs
    · obtain ⟨x, y, rfl, hx⟩ := List.eq_append_cons_of_mem hm
      rw [cut_append hx] at h
      obtain ⟨rfl, hy⟩ := Prod.mk.inj h
      exact ⟨by rw [Option.some.inj hy], hx⟩
    · rw [cut_of_not_mem hm] at h
      exact absurd (congrArg Prod.snd h) (by simp)
  · rintro ⟨rfl, ha⟩
    exact cut_append ha

/-- The first part is what stands before the first separator, the second what follows it. -/
theorem cut_eq (sep : Char) (cs : List Char) :
    (cut sep cs).1 = cs.takeWhile (· != sep) ∧
      (cut sep cs).2.getD [] = (cs.dropWhile (· != sep)).drop 1 := by
  induction cs with
  | nil => exact ⟨rfl, rfl⟩
  | cons c cs ih => by_cases h : c = sep <;> simp [cut, h, ih]

theorem cutLast_append {sep guard : Char} {a b : List Char} (hs : sep ∉ b) (hg : guard ∉ b) :
    cutLast sep guard (a ++ sep :: b) = some (a, b) := by
  have hp : ∀ c ∈ b.reverse, (c != sep && c != guard) = true := by
    intro c hc
    rw [List.mem_reverse] at hc
    simp [ne_of_mem_of_not_mem hc hs, ne_of_mem_of_not_mem hc hg]
  have hr : (a ++ sep :: b).reverse = b.reverse ++ sep :: a.reverse := by simp
  unfold cutLast
  rw [hr, List.dropWhile_append_of_pos hp, List.takeWhile_append_of_pos hp]
  simp

/-- The text behind the last separator holds no further separator and nothing that hides it. -/
theorem cutLast_eq_some_iff {sep guard : Char} {cs a b : List Char} :
    cutLast sep guard cs = some (a, b) ↔ cs = a ++ sep :: b ∧ sep ∉ b ∧ guard ∉ b := by
  constructor
  · intro h
    unfold cutLast at h
    have hcs := List.takeWhile_append_dropWhile (p := fun c => c != sep && c != guard)
      (l := cs.reverse)
    have hall := List.all_takeWhile (p := fun c => c != sep && c != guard) (l := cs.reverse)
    -- Read from the back, the text is the part behind the separator, the separator and the rest.
    generalize cs.reverse.takeWhile (fun c => c != sep && c != guard) = tail at h hcs hall
    split at h
    · next c front hd =>
      rw [hd] at hcs
      split at h
      · next hc =>
        subst hc
        obtain ⟨rfl, rfl⟩ := Prod.mk.inj (Option.some.inj h)
        rw [List.all_eq_true] at hall
        refine ⟨?_, fun hs => ?_, fun hg => ?_⟩
        · rw [← List.reverse_reverse cs, ← hcs]
          simp
        · simpa using hall c (List.mem_reverse.mp hs)
        · simpa using hall guard (List.mem_reverse.mp hg)
      · exact absurd h (by simp)
    · exact absurd h (by simp)
  · rintro ⟨rfl, hs, hg⟩
    exact cutLast_append hs hg

theorem splitOn_join {sep : Char} {parts : List (List Char)} (h : ∀ part ∈ parts, sep ∉ part)
    (hne : parts ≠ []) : (join sep parts).splitOn sep = parts :=
  List.splitOn_intercalate sep h hne

theorem mem_join {sep c : Char} {parts : List (List Char)} (h : c ∈ join sep parts) :
    c = sep ∨ ∃ part ∈ parts, c ∈ part := by
  unfold join at h
  induction parts with
  | nil => exact absurd h List.not_mem_nil
  | cons p rest ih =>
    cases rest with
    | nil => exact .inr ⟨p, List.mem_cons_self, by simpa using h⟩
    | cons q rest =>
      rw [List.intercalate_cons_cons, List.mem_append, List.mem_append, List.mem_singleton] at h
      rcases h with (h | h) | h
      · exact .inr ⟨p, List.mem_cons_self, h⟩
      · exact .inl h
      · exact (ih h).imp_right fun ⟨part, hp, hc⟩ => ⟨part, List.mem_cons_of_mem p hp, hc⟩

theorem sublist_join {sep : Char} {part : List Char} {parts : List (List Char)}
    (h : part ∈ parts) : part.Sublist (join sep parts) := by
  unfold join
  induction parts with
  | nil => exact absurd h List.not_mem_nil
  | cons p rest ih =>
    cases rest with
    | nil => simp [List.mem_singleton.mp h]
    | cons q rest =>
      rw [List.intercalate_cons_cons]
      rcases List.mem_cons.mp h with rfl | h
      · exact List.sublist_append_of_sublist_left (List.sublist_append_left part [sep])
      · exact (ih h).trans (List.sublist_append_right _ _)

/-- No part is longer than the text. -/
theorem sublist_of_mem_splitOn {sep : Char} {part cs : List Char} (h : part ∈ cs.splitOn sep) :
    part.Sublist cs := by
  have hs : part.Sublist (join sep (cs.splitOn sep)) := sublist_join h
  rwa [join, List.intercalate_splitOn] at hs

/-- No part of a text that is cut at a separator holds the separator. -/
theorem not_mem_of_mem_splitOn {sep : Char} {part cs : List Char} (h : part ∈ cs.splitOn sep) :
    sep ∉ part := by
  induction cs generalizing part with
  | nil =>
    obtain rfl : part = [] := by simpa using h
    exact List.not_mem_nil
  | cons c cs ih =>
    rw [List.splitOn_cons_eq_if_modifyHead] at h
    obtain ⟨first, rest, hcut⟩ := List.exists_cons_of_ne_nil (List.splitOn_ne_nil sep cs)
    rw [hcut] at h ih
    split at h
    · rcases List.mem_cons.mp h with rfl | h
      · exact List.not_mem_nil
      · exact ih h
    · next hc =>
      rw [List.modifyHead_cons] at h
      rcases List.mem_cons.mp h with rfl | h
      · rw [List.mem_cons, not_or]
        exact ⟨fun hsep => hc (beq_iff_eq.mpr hsep.symm), ih List.mem_cons_self⟩
      · exact ih (List.mem_cons_of_mem first h)

end ClusterConnect.Text
