import ClusterConnect.CommandLine.Inspection
import Mathlib.Data.List.Forall2
import Mathlib.Data.String.Basic

/-!
# Properties on the command line

The command takes properties as texts, each with its name and its value around an equals sign, and it
shows properties one to a line. Both are said here without the functions that do it.

* `IsPair`: a name and a value around the first equals sign. `pairs_of_parseSettings`,
  `parseSettings_eq_error_iff`: what is made of a list of texts, and which text is refused.
* `LastPair`: of several values for a name the last one; `get?_settings`: it is the one that counts.
* `IsListing`: the lines that show properties; `isListing_sorted`: these are the ones printed.
-/

namespace ClusterConnect

namespace Inspection

/-! ## Reading -/

/-- A property as written: a name that is not empty, and behind the first equals sign a value. -/
def IsPair (s : Option String) (key value : String) : Prop :=
  s = some (key ++ "=" ++ value) ∧ key ≠ "" ∧ '=' ∉ key.toList

/-- A text that is a property as written. -/
def IsWellFormed (s : Option String) : Prop := ∃ key value, IsPair s key value

/-- The last property of this name has this value. -/
def LastPair (settings : List (Option String)) (key value : String) : Prop :=
  ∃ front s back, settings = front ++ s :: back ∧ IsPair s key value ∧
    ∀ s' ∈ back, ∀ value', ¬ IsPair s' key value'

theorem not_isWellFormed_none : ¬ IsWellFormed none := by
  rintro ⟨key, value, hpair⟩
  exact nomatch hpair.1

variable {s : Option String} {key key' value value' : String} {e : String × String}
variable {settings : List (Option String)} {es : List (String × String)}

theorem bind_parseSetting_eq_some_iff : s.bind parseSetting = some e ↔ IsPair s e.1 e.2 := by
  obtain ⟨key, value⟩ := e
  cases s with
  | none => exact iff_of_false (by simp) fun h => nomatch h.1
  | some text =>
    have hparts : ∀ key value : String, (key ++ "=" ++ value).toList =
        key.toList ++ '=' :: value.toList := by
      intro key value
      rw [String.toList_append, String.toList_append, List.append_assoc]
      rfl
    show parseSetting text = _ ↔ _
    unfold parseSetting
    constructor
    · intro h
      rcases hcut : Text.cut '=' text.toList with ⟨name, _ | rest⟩ <;> rw [hcut] at h
      · cases h
      · dsimp only at h
        split at h
        · cases h
        · next hname =>
          obtain ⟨rfl, rfl⟩ := Prod.mk.inj (Option.some.inj h)
          obtain ⟨htext, hfirst⟩ := Text.cut_eq_some_iff.mp hcut
          refine ⟨congrArg some ?_, ?_, by rwa [String.toList_ofList]⟩
          · rw [← String.toList_inj, hparts, String.toList_ofList, String.toList_ofList, htext]
          · rintro hempty
            exact hname (by simpa using hempty)
    · rintro ⟨htext, hname, hfirst⟩
      obtain rfl := Option.some.inj htext
      rw [hparts, Text.cut_append hfirst]
      dsimp only
      rw [if_neg (by simpa using hname), String.ofList_toList, String.ofList_toList]

theorem IsPair.unique (h : IsPair s key value) (h' : IsPair s key' value') :
    key = key' ∧ value = value' := by
  have hsame : some (key, value) = some (key', value') :=
    (bind_parseSetting_eq_some_iff.mpr h).symm.trans (bind_parseSetting_eq_some_iff.mpr h')
  exact Prod.mk.inj (Option.some.inj hsame)

theorem bind_parseSetting_eq_none_iff : s.bind parseSetting = none ↔ ¬ IsWellFormed s := by
  rw [Option.eq_none_iff_forall_ne_some]
  constructor
  · rintro h ⟨key, value, hpair⟩
    exact h (key, value) (bind_parseSetting_eq_some_iff.mpr hpair)
  · intro h e he
    exact h ⟨e.1, e.2, bind_parseSetting_eq_some_iff.mp he⟩

theorem parseSettings_cons_of_isPair (h : IsPair s e.1 e.2) (rest : List (Option String)) :
    parseSettings (s :: rest) = (parseSettings rest).map (e :: ·) := by
  rw [parseSettings, bind_parseSetting_eq_some_iff.mpr h]

theorem parseSettings_cons_of_not (h : ¬ IsWellFormed s) (rest : List (Option String)) :
    parseSettings (s :: rest) = .error s := by
  rw [parseSettings, bind_parseSetting_eq_none_iff.mpr h]

/-- Texts are read one by one, if all of them are well formed. -/
theorem pairs_of_parseSettings (h : parseSettings settings = .ok es) :
    List.Forall₂ (fun s e => IsPair s e.1 e.2) settings es := by
  induction settings generalizing es with
  | nil =>
    obtain rfl := Except.ok.inj h
    exact .nil
  | cons s rest ih =>
    by_cases hs : IsWellFormed s
    · obtain ⟨key, value, hpair⟩ := hs
      rw [parseSettings_cons_of_isPair (e := (key, value)) hpair] at h
      cases hrest : parseSettings rest with
      | error s' => rw [hrest] at h; cases h
      | ok es' =>
        rw [hrest] at h
        obtain rfl := Except.ok.inj h
        exact .cons hpair (ih hrest)
    · rw [parseSettings_cons_of_not hs] at h
      cases h

theorem isWellFormed_of_pairs (h : List.Forall₂ (fun s e => IsPair s e.1 e.2) settings es) :
    ∀ s ∈ settings, IsWellFormed s := by
  induction h with
  | nil => simp
  | @cons s e settings es hpair hrest ih => exact List.forall_mem_cons.mpr ⟨⟨e.1, e.2, hpair⟩, ih⟩

/-- The first text that is not well formed is refused. -/
theorem parseSettings_eq_error_iff :
    parseSettings settings = .error s ↔
      ∃ front back, settings = front ++ s :: back ∧ (∀ s' ∈ front, IsWellFormed s') ∧
        ¬ IsWellFormed s := by
  induction settings with
  | nil => exact iff_of_false nofun (by simp)
  | cons first rest ih =>
    by_cases hfirst : IsWellFormed first
    · obtain ⟨key, value, hpair⟩ := hfirst
      have hcons : parseSettings (first :: rest) = .error s ↔ parseSettings rest = .error s := by
        rw [parseSettings_cons_of_isPair (e := (key, value)) hpair]
        cases parseSettings rest <;> simp [Except.map]
      rw [hcons, ih]
      constructor
      · rintro ⟨front, back, rfl, hfront, hs⟩
        exact ⟨first :: front, back, rfl, List.forall_mem_cons.mpr ⟨⟨key, value, hpair⟩, hfront⟩, hs⟩
      · rintro ⟨front, back, hsplit, hfront, hs⟩
        cases front with
        | nil =>
          obtain ⟨rfl, -⟩ := List.cons.inj hsplit
          exact absurd ⟨key, value, hpair⟩ hs
        | cons _ front =>
          obtain ⟨rfl, rfl⟩ := List.cons.inj hsplit
          exact ⟨front, back, rfl, (List.forall_mem_cons.mp hfront).2, hs⟩
    · rw [parseSettings_cons_of_not hfirst]
      constructor
      · rintro ⟨⟩
        exact ⟨[], rest, rfl, by simp, hfirst⟩
      · rintro ⟨front, back, hsplit, hfront, -⟩
        cases front with
        | nil =>
          obtain ⟨rfl, -⟩ := List.cons.inj hsplit
          rfl
        | cons _ front =>
          obtain ⟨rfl, -⟩ := List.cons.inj hsplit
          exact absurd (hfront first List.mem_cons_self) hfirst

/-- A property that is missing altogether is refused in its place, too. -/
theorem parseSettings_eq_separator_iff :
    parseSettings settings = .error none ↔
      ∃ front back, settings = front ++ none :: back ∧ ∀ s ∈ front, IsWellFormed s := by
  rw [parseSettings_eq_error_iff]
  simp only [not_isWellFormed_none, not_false_eq_true, and_true]

/-! ## The last value of a name -/

theorem lastPair_cons :
    LastPair (s :: settings) key value ↔
      LastPair settings key value ∨
        (∀ s' ∈ settings, ∀ value', ¬ IsPair s' key value') ∧ IsPair s key value := by
  constructor
  · rintro ⟨front, s', back, hsplit, hpair, hback⟩
    cases front with
    | nil =>
      obtain ⟨rfl, rfl⟩ := List.cons.inj hsplit
      exact .inr ⟨hback, hpair⟩
    | cons _ front =>
      obtain ⟨-, rfl⟩ := List.cons.inj hsplit
      exact .inl ⟨front, s', back, rfl, hpair, hback⟩
  · rintro (⟨front, s', back, rfl, hpair, hback⟩ | ⟨hback, hpair⟩)
    · exact ⟨s :: front, s', back, rfl, hpair, hback⟩
    · exact ⟨[], s, settings, rfl, hpair, hback⟩

theorem lookup_reverse_cons (key : String) (e : String × String) (es : List (String × String)) :
    (e :: es).reverse.lookup key =
      (es.reverse.lookup key).or (if key = e.1 then some e.2 else none) := by
  rw [List.reverse_cons, List.lookup_append, lookup_entry]
  rfl

theorem lookup_reverse_eq_none_iff
    (h : List.Forall₂ (fun s e => IsPair s e.1 e.2) settings es) :
    es.reverse.lookup key = none ↔ ∀ s ∈ settings, ∀ value, ¬ IsPair s key value := by
  induction h with
  | nil => simp
  | @cons s e settings es hpair hrest ih =>
    rw [lookup_reverse_cons, Option.or_eq_none_iff, ih, List.forall_mem_cons, and_comm]
    refine and_congr_left fun _ => ?_
    by_cases hkey : key = e.1
    · subst hkey
      exact iff_of_false (by simp) fun hnone => hnone e.2 hpair
    · rw [if_neg hkey]
      exact iff_of_true rfl fun value hother => hkey (hother.unique hpair).1

/-- Of the values that are written for a name the last one counts. -/
theorem get?_settings (h : List.Forall₂ (fun s e => IsPair s e.1 e.2) settings es) :
    (Properties.ofList es).get? key = some value ↔ LastPair settings key value := by
  rw [Properties.get?_ofList]
  induction h with
  | nil => exact iff_of_false nofun (by simp [LastPair])
  | @cons s e settings es hpair hrest ih =>
    have hown : (if key = e.1 then some e.2 else none) = some value ↔ IsPair s key value := by
      constructor
      · intro hif
        split at hif
        · next hkey =>
          obtain rfl := Option.some.inj hif
          exact hkey ▸ hpair
        · cases hif
      · intro hother
        obtain ⟨rfl, rfl⟩ := hother.unique hpair
        exact if_pos rfl
    rw [lookup_reverse_cons, Option.or_eq_some_iff, ih, lookup_reverse_eq_none_iff hrest, hown,
      lastPair_cons]

/-! ## Showing -/

/-- The lines that show properties: one for each name, the names in their order, and stars in place
of a password. -/
def IsListing (props : Properties) (text : String) : Prop :=
  ∃ listed : List (String × String), (listed.map Prod.fst).Pairwise (· < ·) ∧
    (∀ key value, (key, value) ∈ listed ↔ props.get? key = some value) ∧
    text = String.join (listed.map fun e =>
      e.1 ++ " = " ++ (if e.1 = "password" then "****" else e.2) ++ "\n")

theorem pairwise_sorted (props : Properties) : (props.sorted.map Prod.fst).Pairwise (· < ·) := by
  have hsorted : props.sorted.Pairwise fun a b => decide (a.1 ≤ b.1) = true := by
    refine List.pairwise_mergeSort ?_ ?_ props.entries
    · intro a b c
      simpa using le_trans
    · intro a b
      simpa using le_total a.1 b.1
  have hle : (props.sorted.map Prod.fst).Pairwise (· ≤ ·) :=
    List.pairwise_map.mpr (hsorted.imp of_decide_eq_true)
  exact (hle.and props.nodup_sorted).imp fun h => lt_of_le_of_ne h.1 h.2

theorem mem_sorted_iff (props : Properties) :
    (key, value) ∈ props.sorted ↔ props.get? key = some value := by
  rw [props.sorted_perm.mem_iff]
  exact (lookup_eq_some_iff_mem props.nodup).symm

theorem line_eq (e : String × String) :
    line e = e.1 ++ " = " ++ if e.1 = "password" then "****" else e.2 := by
  have hmasked : masked.contains e.1 = true ↔ e.1 = "password" := by simp [masked, Property.password]
  simp only [line, hmasked]

/-- The lines of the properties in their order are a listing. -/
theorem isListing_sorted (props : Properties) :
    IsListing props (String.join (props.sorted.map fun e => line e ++ "\n")) := by
  refine ⟨props.sorted, pairwise_sorted props, fun key value => mem_sorted_iff props, ?_⟩
  simp only [line_eq]

/-- A listing of properties of which there is one at least is not empty. -/
theorem IsListing.ne_empty {props : Properties} {text : String} (h : IsListing props text)
    (hkey : props.contains key = true) : text ≠ "" := by
  obtain ⟨listed, -, hlisted, rfl⟩ := h
  obtain ⟨value, hvalue⟩ := Option.isSome_iff_exists.mp hkey
  cases listed with
  | nil => exact absurd ((hlisted key value).mpr hvalue) List.not_mem_nil
  | cons e rest =>
    intro hempty
    have hlength := congrArg (·.toList.length) hempty
    simp [String.join_cons] at hlength

end Inspection

end ClusterConnect
