/-!
# Connection properties

A mapping from names to texts. The entries keep the order in which their names were first set; a
name that is set again keeps its place.

* `get?`, `insert`, `merge`, `ofList`, and how `get?` sees each of them.
* `sorted`: the entries in the order of their names.
* `names`: the names alone, and what setting a name does to them; with `get?` they are all there is
  to a mapping (`ext_of_names`).
-/

namespace ClusterConnect

/-- The entries of a mapping after `key` is set to `value`. -/
def setEntry (key value : String) : List (String × String) → List (String × String)
  | [] => [(key, value)]
  | e :: rest => if e.1 = key then (key, value) :: rest else e :: setEntry key value rest

theorem mem_keys_setEntry {k key value : String} {es : List (String × String)} :
    k ∈ (setEntry key value es).map Prod.fst ↔ k = key ∨ k ∈ es.map Prod.fst := by
  induction es with
  | nil => simp [setEntry]
  | cons e rest ih =>
    rw [setEntry]
    split
    · next h => subst h; simp
    · simp only [List.map_cons, List.mem_cons, ih]; exact or_left_comm

theorem nodup_setEntry {key value : String} {es : List (String × String)}
    (h : (es.map Prod.fst).Nodup) : ((setEntry key value es).map Prod.fst).Nodup := by
  induction es with
  | nil => simp [setEntry]
  | cons e rest ih =>
    rw [List.map_cons, List.nodup_cons] at h
    rw [setEntry]
    split
    · next he => subst he; exact List.nodup_cons.2 h
    · next he =>
      refine List.nodup_cons.2 ⟨fun hm => ?_, ih h.2⟩
      rcases mem_keys_setEntry.1 hm with rfl | hm
      · exact he rfl
      · exact h.1 hm

/-- The first entry decides if it has the name looked for. -/
theorem lookup_entry (k : String) (e : String × String) (es : List (String × String)) :
    (e :: es).lookup k = if k = e.1 then some e.2 else es.lookup k := by
  obtain ⟨n, v⟩ := e
  rw [List.lookup_cons]
  by_cases h : k = n
  · subst h; simp
  · have hb : (k == n) = false := by simpa using h
    simp [h, hb]

theorem lookup_setEntry (k key value : String) (es : List (String × String)) :
    (setEntry key value es).lookup k = if k = key then some value else es.lookup k := by
  induction es with
  | nil => rw [setEntry, lookup_entry]
  | cons e rest ih =>
    rw [setEntry, lookup_entry]
    split
    · next he =>
      subst he
      rw [lookup_entry]
      by_cases hk : k = e.1 <;> simp [hk]
    · next he =>
      rw [lookup_entry, ih]
      by_cases hk : k = key
      · subst hk; simp [Ne.symm he]
      · simp [hk]

/-- Where every name has one value, that is what the look-up finds. -/
theorem lookup_eq_some_iff_mem {k v : String} {es : List (String × String)}
    (h : (es.map Prod.fst).Nodup) : es.lookup k = some v ↔ (k, v) ∈ es := by
  induction es with
  | nil => simp
  | cons e rest ih =>
    rw [List.map_cons, List.nodup_cons] at h
    rw [lookup_entry, List.mem_cons]
    by_cases hk : k = e.1
    · subst hk
      have hrest : (e.1, v) ∉ rest := fun hm => h.1 (List.mem_map.mpr ⟨(e.1, v), hm, rfl⟩)
      simp [hrest, Prod.ext_iff, eq_comm]
    · simp [hk, ih h.2, Prod.ext_iff]

/-- The order of the entries has no part in the look-up. -/
theorem lookup_of_perm {es es' : List (String × String)} (p : es.Perm es')
    (h : (es.map Prod.fst).Nodup) (k : String) : es.lookup k = es'.lookup k := by
  have h' : (es'.map Prod.fst).Nodup := (p.map Prod.fst).nodup_iff.mp h
  apply Option.ext
  intro v
  rw [lookup_eq_some_iff_mem h, lookup_eq_some_iff_mem h', p.mem_iff]

theorem isSome_lookup_iff {k : String} {es : List (String × String)} :
    (es.lookup k).isSome = true ↔ k ∈ es.map Prod.fst := by
  induction es with
  | nil => simp
  | cons e rest ih =>
    rw [lookup_entry, List.map_cons, List.mem_cons, ← ih]
    by_cases hk : k = e.1 <;> simp [hk]

/-- Names after one is set: a new name comes last, any other keeps its place. -/
def addName (names : List String) (key : String) : List String :=
  if key ∈ names then names else names ++ [key]

theorem prefix_addName (names : List String) (key : String) : names <+: addName names key := by
  unfold addName
  split
  · exact List.prefix_rfl
  · exact List.prefix_append names [key]

theorem mem_addName_self (names : List String) (key : String) : key ∈ addName names key := by
  unfold addName
  split
  · assumption
  · simp

theorem prefix_foldl_addName (names keys : List String) : names <+: keys.foldl addName names := by
  induction keys generalizing names with
  | nil => exact List.prefix_rfl
  | cons key rest ih => exact (prefix_addName names key).trans (ih _)

theorem mem_foldl_addName {names keys : List String} {key : String} (h : key ∈ keys) :
    key ∈ keys.foldl addName names := by
  induction keys generalizing names with
  | nil => simp at h
  | cons first rest ih =>
    rcases List.mem_cons.mp h with rfl | h
    · exact (prefix_foldl_addName (addName names key) rest).subset (mem_addName_self names key)
    · exact ih h

/-- Names that are all there stay as they are. -/
theorem foldl_addName_of_subset {names keys : List String} (h : keys ⊆ names) :
    keys.foldl addName names = names := by
  induction keys with
  | nil => rfl
  | cons key rest ih =>
    obtain ⟨hkey, hrest⟩ := List.cons_subset.mp h
    rw [List.foldl_cons, addName, if_pos hkey, ih hrest]

/-- Names that are all new come one after the other. -/
theorem foldl_addName_of_nodup {names keys : List String} (h : (names ++ keys).Nodup) :
    keys.foldl addName names = names ++ keys := by
  induction keys generalizing names with
  | nil => rw [List.foldl_nil, List.append_nil]
  | cons key rest ih =>
    have hkey : key ∉ names := fun hm => (List.nodup_append.mp h).2.2 key hm key (by simp) rfl
    rw [List.foldl_cons, addName, if_neg hkey, ih (by simpa using h), List.append_assoc]
    rfl

theorem names_setEntry (key value : String) (es : List (String × String)) :
    (setEntry key value es).map Prod.fst = addName (es.map Prod.fst) key := by
  induction es with
  | nil => rfl
  | cons e rest ih =>
    rw [setEntry]
    by_cases he : e.1 = key
    · simp [he, addName]
    · rw [if_neg he, List.map_cons, ih, List.map_cons]
      by_cases hm : key ∈ rest.map Prod.fst <;> simp [addName, hm, Ne.symm he]

/-- A mapping from property names to values. -/
structure Properties where
  /-- Names and values, in the order in which the names were first set. -/
  entries : List (String × String)
  /-- Every name has one value. -/
  nodup : (entries.map Prod.fst).Nodup
deriving DecidableEq

namespace Properties

/-- No properties. -/
def empty : Properties := ⟨[], by simp⟩

instance : Inhabited Properties := ⟨empty⟩

/-- The value of a name. -/
def get? (p : Properties) (key : String) : Option String := p.entries.lookup key

/-- Whether a name has a value. -/
def contains (p : Properties) (key : String) : Bool := (p.get? key).isSome

/-- The mapping after `key` is set to `value`. -/
def insert (p : Properties) (key value : String) : Properties :=
  ⟨setEntry key value p.entries, nodup_setEntry p.nodup⟩

/-- Sets `key` unless it has a value. -/
def insertIfAbsent (p : Properties) (key value : String) : Properties :=
  if p.contains key then p else p.insert key value

/-- Sets the names of a list one after the other. -/
def insertAll (p : Properties) (es : List (String × String)) : Properties :=
  es.foldl (fun p e => p.insert e.1 e.2) p

/-- The mapping of a list of names and values; the last value of a name counts. -/
def ofList (es : List (String × String)) : Properties := empty.insertAll es

/-- Both mappings together; where both have a value, that of `upper` counts. -/
def merge (base upper : Properties) : Properties := base.insertAll upper.entries

/-- The entries in the order of their names. -/
def sorted (p : Properties) : List (String × String) :=
  p.entries.mergeSort fun a b => decide (a.1 ≤ b.1)

@[simp] theorem get?_empty (k : String) : empty.get? k = none := rfl

theorem get?_insert (p : Properties) (k key value : String) :
    (p.insert key value).get? k = if k = key then some value else p.get? k :=
  lookup_setEntry k key value p.entries

@[simp] theorem get?_insert_self (p : Properties) (key value : String) :
    (p.insert key value).get? key = some value := by simp [get?_insert]

theorem get?_insertIfAbsent (p : Properties) (k key value : String) :
    (p.insertIfAbsent key value).get? k =
      if k = key then some ((p.get? key).getD value) else p.get? k := by
  unfold insertIfAbsent contains
  by_cases hk : k = key
  · subst hk
    cases h : p.get? k <;> simp [h]
  · cases h : p.get? key <;> simp [hk, get?_insert]

/-- A name has the last value that the list gives it, else the value it had. -/
theorem get?_insertAll (p : Properties) (es : List (String × String)) (k : String) :
    (p.insertAll es).get? k = (es.reverse.lookup k).or (p.get? k) := by
  induction es generalizing p with
  | nil => simp [insertAll]
  | cons e rest ih =>
    have step : p.insertAll (e :: rest) = (p.insert e.1 e.2).insertAll rest := rfl
    rw [step, ih, get?_insert, List.reverse_cons, List.lookup_append, lookup_entry]
    cases rest.reverse.lookup k with
    | some v => simp
    | none => by_cases h : k = e.1 <;> simp [h]

theorem get?_ofList (es : List (String × String)) (k : String) :
    (ofList es).get? k = es.reverse.lookup k := by
  rw [ofList, get?_insertAll, get?_empty, Option.or_none]

theorem get?_merge (base upper : Properties) (k : String) :
    (base.merge upper).get? k = (upper.get? k).or (base.get? k) := by
  have hperm := List.reverse_perm upper.entries
  have hnodup := (hperm.map Prod.fst).nodup_iff.mpr upper.nodup
  rw [merge, get?_insertAll, lookup_of_perm hperm hnodup]
  rfl

/-! ### Names -/

/-- The names of a mapping, in the order in which they were first set. -/
def names (p : Properties) : List String := p.entries.map Prod.fst

theorem contains_iff_mem_names {p : Properties} {k : String} :
    p.contains k = true ↔ k ∈ p.names := isSome_lookup_iff

theorem entries_eq (p : Properties) :
    p.entries = p.names.map fun k => (k, (p.get? k).getD "") := by
  have hentry : ∀ e ∈ p.entries, (e.1, (p.get? e.1).getD "") = e := by
    intro e he
    rw [get?, (lookup_eq_some_iff_mem p.nodup).mpr he, Option.getD_some]
  rw [names, List.map_map]
  exact ((List.map_congr_left hentry).trans (List.map_id _)).symm

/-- A mapping is its names, in their order, and the value of each. -/
theorem ext_of_names {p q : Properties} (hnames : p.names = q.names)
    (hvalues : ∀ k, p.get? k = q.get? k) : p = q := by
  have hentries : p.entries = q.entries := by
    rw [entries_eq p, entries_eq q, hnames]
    simp only [hvalues]
  cases p
  cases q
  simpa using hentries

theorem names_insert (p : Properties) (key value : String) :
    (p.insert key value).names = addName p.names key := names_setEntry key value p.entries

theorem names_insertIfAbsent (p : Properties) (key value : String) :
    (p.insertIfAbsent key value).names = addName p.names key := by
  unfold insertIfAbsent
  by_cases h : p.contains key = true
  · rw [if_pos h, addName, if_pos (contains_iff_mem_names.mp h)]
  · rw [if_neg h, names_insert]

theorem names_insertAll (p : Properties) (es : List (String × String)) :
    (p.insertAll es).names = (es.map Prod.fst).foldl addName p.names := by
  induction es generalizing p with
  | nil => rfl
  | cons e rest ih => rw [List.map_cons, List.foldl_cons, ← names_insert p e.1 e.2, ← ih]; rfl

theorem names_merge (base upper : Properties) :
    (base.merge upper).names = upper.names.foldl addName base.names :=
  names_insertAll base upper.entries

/-- On top of a mapping whose names it has, in the same order, a mapping is all that counts. -/
theorem merge_of_prefix {base upper : Properties} (h : base.names <+: upper.names) :
    base.merge upper = upper := by
  refine ext_of_names ?_ fun k => ?_
  · obtain ⟨more, hmore⟩ := h
    have hnodup : (base.names ++ more).Nodup := by
      rw [hmore]
      exact upper.nodup
    rw [names_merge, ← hmore, List.foldl_append,
      foldl_addName_of_subset (List.Subset.refl base.names), foldl_addName_of_nodup hnodup]
  · have hk : (base.get? k).isSome = true → (upper.get? k).isSome = true := fun hb =>
      contains_iff_mem_names.mpr (h.subset (contains_iff_mem_names.mp hb))
    rw [get?_merge]
    cases hu : upper.get? k with
    | some v => rfl
    | none =>
      rw [Option.none_or]
      cases hb : base.get? k with
      | none => rfl
      | some v => simp [hb, hu] at hk

theorem empty_merge (p : Properties) : empty.merge p = p :=
  merge_of_prefix (List.nil_prefix : [] <+: p.names)

/-- The entries of a mapping give the mapping. -/
@[simp] theorem ofList_entries (p : Properties) : ofList p.entries = p := empty_merge p

/-! ### The order of the names -/

theorem sorted_perm (p : Properties) : p.sorted.Perm p.entries := List.mergeSort_perm _ _

theorem nodup_sorted (p : Properties) : (p.sorted.map Prod.fst).Nodup :=
  (p.sorted_perm.map Prod.fst).nodup_iff.mpr p.nodup

/-- Nothing is lost when the entries are put in order. -/
theorem get?_ofList_sorted (p : Properties) (k : String) : (ofList p.sorted).get? k = p.get? k := by
  rw [get?_ofList, lookup_of_perm (List.reverse_perm _) ?_ k]
  · exact lookup_of_perm p.sorted_perm p.nodup_sorted k
  · exact ((List.reverse_perm p.sorted).map Prod.fst).nodup_iff.mpr p.nodup_sorted

end Properties

end ClusterConnect
