import ClusterConnect.Proofs.Document.Marked
import ClusterConnect.Proofs.Text.Encoding

/-!
# Configuration files that are written are read back

What a mapping is written as says that mapping, or nothing at all. No name and no value can be chosen
so that the file says something else: a control character makes the whole file unreadable, and every
other character is read as itself.

* `soFar`: what has been read after some of the entries.
* `statements_lines`, `statements_not_plain`: the lines of a file, in either case.
* `decode_render`, `decode_render_not_writable`: the bytes of a file.
* `load_saved`: the file itself.
-/

namespace ClusterConnect.Configuration

open Text Document

/-! ## The table of the properties -/

/-- What has been read when the header and some entries have been. -/
def soFar (es : List (String × String)) : Progress where
  table := [(tableName, .table .header (es.map fun e => (e.1, .leaf (.text e.2))))]
  header := [tableName]
  number := 1

theorem update?_of_not_mem {key : String} {t : Table} (h : key ∉ t.map Prod.fst)
    (f : Option Node → Option Node) :
    t.update? key f = (f none).map fun node => t ++ [(key, node)] := by
  induction t with
  | nil => rfl
  | cons e t ih =>
    rw [List.map_cons, List.mem_cons, not_or] at h
    rw [Table.update?, if_neg (Ne.symm h.1), ih h.2]
    cases f none <;> rfl

theorem update?_of_mem {key : String} {t : Table} (h : key ∈ t.map Prod.fst)
    {f : Option Node → Option Node} (hf : ∀ node, f (some node) = none) :
    t.update? key f = none := by
  induction t with
  | nil => exact absurd h List.not_mem_nil
  | cons e t ih =>
    rw [Table.update?]
    by_cases hk : e.1 = key
    · rw [if_pos hk, hf]
      rfl
    · rw [List.map_cons, List.mem_cons] at h
      rw [if_neg hk, ih (h.resolve_left (Ne.symm hk))]
      rfl

/-- The names that have been read are those of the entries. -/
theorem keys_soFar (es : List (String × String)) :
    (es.map fun e => ((e.1, .leaf (.text e.2)) : String × Node)).map Prod.fst = es.map Prod.fst := by
  rw [List.map_map]
  rfl

/-- A new name is added behind the others. -/
theorem assign?_new {es : List (String × String)} {e : String × String}
    (h : e.1 ∉ es.map Prod.fst) :
    (soFar es).table.assign? 1 [tableName] [e.1] (.text e.2) = some (soFar (es ++ [e])).table := by
  simp only [Table.assign?, Table.within?, soFar, Table.update?, if_pos, Table.set?]
  rw [update?_of_not_mem (by rwa [keys_soFar])]
  simp

/-- A name that has been read cannot be read again. -/
theorem assign?_repeated {es : List (String × String)} {e : String × String}
    (h : e.1 ∈ es.map Prod.fst) :
    (soFar es).table.assign? 1 [tableName] [e.1] (.text e.2) = none := by
  simp only [Table.assign?, Table.within?, soFar, Table.update?, if_pos, Table.set?]
  rw [update?_of_mem (by rwa [keys_soFar]) fun _ => rfl]
  rfl

/-! ## The lines -/

variable {es ds : List (String × String)} {e : String × String}

theorem statement_line (p : Progress) (e : String × String) (rest : List Char) :
    statement p (line e ++ rest) =
      (pair (stepLimit (line e ++ rest)) nestingRoom (line e ++ rest)) >>= fun r =>
        orMalformed (p.table.assign? p.number p.header r.1 r.2.1) >>= fun t =>
          .ok ({ p with table := t }, r.2.2) := by
  rw [line_append]
  rfl

theorem statements_line (limit : Nat) (p : Progress) (e : String × String) (rest : List Char) :
    statements (limit + 1) p (line e ++ rest) =
      statement p (line e ++ rest) >>= fun r =>
        orMalformed (endLine? r.2) >>= fun cs => statements limit r.1 cs := by
  rw [line_append]
  rfl

/-- A plain entry with a new name adds to what has been read. -/
theorem statements_new (hp : Plain e) (hk : e.1 ∉ ds.map Prod.fst) (limit : Nat)
    (rest : List Char) :
    statements (limit + 1) (soFar ds) (line e ++ rest) = statements limit (soFar (ds ++ [e])) rest := by
  have hstep : stepLimit (line e ++ rest) = 3 * (line e ++ rest).length + 1 + 2 := rfl
  rw [statements_line, statement_line, hstep, pair_line hp]
  show ((orMalformed ((soFar ds).table.assign? 1 [tableName] [e.1] (.text e.2)) >>= fun t =>
    .ok ({ soFar ds with table := t }, '\n' :: rest)) >>= _) = _
  rw [assign?_new hk]
  rfl

/-- Any other entry is refused. -/
theorem statements_other (h : Plain e → e.1 ∈ ds.map Prod.fst) (limit : Nat) (rest : List Char) :
    statements (limit + 1) (soFar ds) (line e ++ rest) = .error .malformed := by
  have hstep : stepLimit (line e ++ rest) = 3 * (line e ++ rest).length + 1 + 2 := rfl
  rw [statements_line, statement_line, hstep]
  by_cases hp : Plain e
  · rw [pair_line hp]
    show ((orMalformed ((soFar ds).table.assign? 1 [tableName] [e.1] (.text e.2)) >>= fun t =>
      .ok ({ soFar ds with table := t }, '\n' :: rest)) >>= _) = _
    rw [assign?_repeated (h hp)]
    rfl
  · rw [pair_not_plain hp]
    rfl

/-- Plain entries with distinct names are read one after the other. -/
theorem statements_lines {limit : Nat} (hp : ∀ e ∈ es, Plain e)
    (hk : ((ds ++ es).map Prod.fst).Nodup) (hl : es.length < limit) :
    statements limit (soFar ds) (es.flatMap line) = .ok (soFar (ds ++ es)) := by
  induction es generalizing ds limit with
  | nil =>
    obtain ⟨limit, rfl⟩ := Nat.exists_eq_add_of_lt hl
    rw [List.append_nil]
    rfl
  | cons e es ih =>
    cases limit with
    | zero => exact absurd hl (Nat.not_lt_zero _)
    | succ limit =>
      have hnew : e.1 ∉ ds.map Prod.fst := by
        intro hm
        rw [List.map_append, List.nodup_append] at hk
        exact hk.2.2 _ hm _ (by simp) rfl
      rw [List.flatMap_cons, statements_new (hp e List.mem_cons_self) hnew]
      rw [List.append_cons ds e es] at hk ⊢
      exact ih (fun e he => hp e (List.mem_cons_of_mem _ he)) hk (Nat.lt_of_succ_lt_succ hl)

/-- One entry that is not plain makes all of them unreadable. -/
theorem statements_not_plain (h : ∃ e ∈ es, ¬ Plain e) (limit : Nat) :
    statements limit (soFar ds) (es.flatMap line) = .error .malformed := by
  induction es generalizing ds limit with
  | nil =>
    obtain ⟨e, he, -⟩ := h
    exact absurd he List.not_mem_nil
  | cons e es ih =>
    cases limit with
    | zero => rfl
    | succ limit =>
      rw [List.flatMap_cons]
      by_cases hc : Plain e → e.1 ∈ ds.map Prod.fst
      · exact statements_other hc limit _
      · rw [Classical.not_imp] at hc
        rw [statements_new hc.1 hc.2]
        obtain ⟨e', he, hn⟩ := h
        rcases List.mem_cons.mp he with rfl | he
        · exact absurd hc.1 hn
        · exact ih ⟨e', he, hn⟩ limit

/-- The header opens the table. -/
theorem statements_header (limit : Nat) (rest : List Char) :
    statements (limit + 1) {} ("[properties]\n".toList ++ rest) = statements limit (soFar []) rest := by
  rfl

/-! ## The bytes of a file -/

theorem unifyLineEnds_lines (es : List (String × String)) :
    unifyLineEnds (es.flatMap line) =
      (es.map fun e => (unified e.1, unified e.2)).flatMap line := by
  induction es with
  | nil => rfl
  | cons e es ih => rw [List.flatMap_cons, unifyLineEnds_line, ih, List.map_cons, List.flatMap_cons]

/-- The lines of a file, with their ends unified. -/
theorem unifyLineEnds_render (p : Properties) :
    unifyLineEnds (render p) =
      "[properties]\n".toList ++
        (p.sorted.map fun e => (unified e.1, unified e.2)).flatMap line := by
  rw [← unifyLineEnds_lines]
  rfl

/-- A line is read in one step, and every line has a character. -/
theorem length_le_lines (es : List (String × String)) :
    es.length ≤ (es.flatMap line).length := by
  induction es with
  | nil => exact Nat.le_refl _
  | cons e es ih =>
    rw [List.flatMap_cons, List.length_append, List.length_cons]
    have hl : 1 ≤ (line e).length := by simp [line, mark]
    omega

theorem entryValues_texts (es : List (String × String)) :
    Table.entryValues (es.map fun e => (e.1, .leaf (.text e.2))) =
      es.map fun e => (e.1, .text e.2) := by
  induction es with
  | nil => rfl
  | cons e es ih =>
    rw [List.map_cons, Table.entryValues, ih]
    rfl

theorem textEntries_texts (es : List (String × String)) :
    textEntries (es.map fun e => (e.1, .text e.2)) = .ok es := by
  induction es with
  | nil => rfl
  | cons e es ih =>
    show (if Value.maxWrittenDepth < 0 then .error .tooDeep else
      (textEntries (es.map fun e => (e.1, .text e.2))).map ((e.1, e.2) :: ·)) = _
    rw [if_neg (by decide), ih]
    rfl

/-- The table that has been read holds the properties that have been. -/
theorem propertiesOf_soFar (es : List (String × String)) :
    propertiesOf (Table.entryValues (soFar es).table) = .ok (.ofList es) := by
  have ht : Table.entryValues (soFar es).table =
      [(tableName, .table (es.map fun e => (e.1, .text e.2)))] := by
    rw [← entryValues_texts]
    rfl
  have hl : [(tableName, Value.table (es.map fun e => (e.1, .text e.2)))].lookup tableName =
      some (.table (es.map fun e => (e.1, .text e.2))) := List.lookup_cons_self
  unfold propertiesOf
  rw [ht, hl]
  simp only [textEntries_texts, Except.map]

/-- **What the properties have to be for their file to be readable**: no name and no value holds a
control character other than the tab. -/
def Writable (p : Properties) : Prop :=
  ∀ k v, p.get? k = some v → ∀ c ∈ k.toList ++ v.toList, c.toNat < 0x20 ∨ c.toNat = 0x7F → c = '\t'

theorem controlled_iff {s : List Char} :
    Controlled s ↔ ∃ c ∈ s, (c.toNat < 0x20 ∨ c.toNat = 0x7F) ∧ c ≠ '\t' := by
  simp [Controlled, isForbidden]

theorem writable_iff (p : Properties) : Writable p ↔ ∀ e ∈ p.sorted, Plain e := by
  have hmem : ∀ e : String × String, e ∈ p.sorted ↔ p.get? e.1 = some e.2 := by
    intro e
    rw [p.sorted_perm.mem_iff]
    exact (lookup_eq_some_iff_mem p.nodup).symm
  constructor
  · intro h e he
    have hc := h e.1 e.2 ((hmem e).mp he)
    constructor
    · rw [controlled_iff]
      rintro ⟨c, hm, hctl, hne⟩
      exact hne (hc c (List.mem_append_left _ hm) hctl)
    · rw [controlled_iff]
      rintro ⟨c, hm, hctl, hne⟩
      exact hne (hc c (List.mem_append_right _ hm) hctl)
  · intro h k v hkv c hm hctl
    obtain ⟨hk, hv⟩ := h (k, v) ((hmem (k, v)).mpr hkv)
    rw [controlled_iff] at hk hv
    apply Classical.byContradiction
    intro hne
    rcases List.mem_append.mp hm with hm | hm
    · exact hk ⟨c, hm, hctl, hne⟩
    · exact hv ⟨c, hm, hctl, hne⟩

/-- Entries that are plain are the same with their line ends unified; others stay not plain. -/
theorem unified_plain {es : List (String × String)} (h : ∀ e ∈ es, Plain e) :
    (es.map fun e => (unified e.1, unified e.2)) = es := by
  induction es with
  | nil => rfl
  | cons e es ih =>
    have he := h e List.mem_cons_self
    rw [List.map_cons, unified_of_not_controlled he.1, unified_of_not_controlled he.2,
      ih fun e he => h e (List.mem_cons_of_mem _ he)]

theorem unified_not_plain {e : String × String} (h : ¬ Plain e) :
    ¬ Plain (unified e.1, unified e.2) := by
  rintro ⟨hk, hv⟩
  simp only [unified, String.toList_ofList] at hk hv
  exact h ⟨fun hc => hk hc.unified, fun hc => hv hc.unified⟩

/-- The bytes of a file are read as its text, with the line ends unified. -/
theorem decode_render_eq (p : Properties) :
    decode (Utf8.encode (render p)) =
      match statements ((unifyLineEnds (render p)).length + 1) (soFar [])
          ((p.sorted.map fun e => (unified e.1, unified e.2)).flatMap line) with
      | .error f => .error (.document f)
      | .ok progress => propertiesOf (Table.entryValues progress.table) := by
  have hread : Document.read (render p) =
      (statements ((unifyLineEnds (render p)).length + 1) (soFar [])
        ((p.sorted.map fun e => (unified e.1, unified e.2)).flatMap line)).map
          fun progress => Table.entryValues progress.table := by
    rw [← statements_header, ← unifyLineEnds_render]
    rfl
  unfold decode
  rw [Utf8.decode?_encode]
  simp only [hread]
  cases statements ((unifyLineEnds (render p)).length + 1) (soFar [])
    ((p.sorted.map fun e => (unified e.1, unified e.2)).flatMap line) <;> rfl

/-- Properties without control characters are read back from their bytes. -/
theorem decode_render {p : Properties} (h : Writable p) :
    decode (Utf8.encode (render p)) = .ok (.ofList p.sorted) := by
  have hplain := (writable_iff p).mp h
  have hlen : p.sorted.length < (unifyLineEnds (render p)).length + 1 := by
    rw [unifyLineEnds_render, unified_plain hplain, List.length_append]
    have := length_le_lines p.sorted
    omega
  rw [decode_render_eq, unified_plain hplain, statements_lines hplain p.nodup_sorted hlen]
  exact propertiesOf_soFar p.sorted

/-- One control character makes the bytes unreadable. -/
theorem decode_render_not_writable {p : Properties} (h : ¬ Writable p) :
    decode (Utf8.encode (render p)) = .error (.document .malformed) := by
  rw [writable_iff] at h
  have hbad : ∃ e ∈ p.sorted.map (fun e => (unified e.1, unified e.2)), ¬ Plain e := by
    apply Classical.byContradiction
    intro hall
    refine h fun e he => Classical.byContradiction fun hn => hall ?_
    exact ⟨_, List.mem_map_of_mem he, unified_not_plain hn⟩
  rw [decode_render_eq, statements_not_plain hbad]

/-! ## The file -/

theorem read_of_save {files files' : FileTree} {path : Path} {p : Properties}
    (h : save files path p = (.ok (), files')) :
    files'.read path = .ok (Utf8.encode (render p)) := by
  unfold save at h
  split at h
  · exact absurd (congrArg Prod.fst h) (by simp)
  · next made hmade =>
    split at h
    · exact absurd (congrArg Prod.fst h) (by simp)
    · next written hw =>
      rw [← (Prod.mk.inj h).2]
      exact FileTree.read_of_write hw

/-- **A file says what has been written into it, or nothing.** Any properties that are saved are
loaded as the same properties if no name and no value holds a control character other than the tab;
otherwise the file is refused with a configuration error. It never says anything else. -/
theorem load_saved {files files' : FileTree} {path : Path} {p : Properties}
    (h : save files path p = (.ok (), files')) :
    (Writable p → ∃ q, load files' path = .ok q ∧ ∀ k, q.get? k = p.get? k) ∧
      (¬ Writable p → ∃ f, load files' path = .error f ∧ f.isKind .config = true) := by
  have hread := read_of_save h
  constructor
  · intro hw
    refine ⟨.ofList p.sorted, ?_, p.get?_ofList_sorted⟩
    rw [load, hread]
    dsimp only
    rw [decode_render hw]
    rfl
  · intro hw
    refine ⟨(Configuration.Fault.document .malformed).failure path, ?_, rfl⟩
    rw [load, hread]
    dsimp only
    rw [decode_render_not_writable hw]
    rfl

/-- A name and a value that try to end early, and a value that holds a line of its own. -/
theorem load_saved_marks :
    let path : Path := ⟨"", ["driverconfig.toml"]⟩
    let sly := Properties.empty.insert "a\"=\\" "\"\"\"\t#[user]\\"
    let broken := Properties.empty.insert "note" "x\"\nuser = \"root"
    (save {} path sly).1 = .ok () ∧ (save {} path broken).1 = .ok () ∧
      (∃ q, load (save {} path sly).2 path = .ok q ∧
        q.get? "a\"=\\" = some "\"\"\"\t#[user]\\") ∧
      ∃ f, load (save {} path broken).2 path = .error f ∧ f.isKind .config = true := by
  intro path sly broken
  have hsly : save {} path sly = (.ok (), (save {} path sly).2) := rfl
  have hbroken : save {} path broken = (.ok (), (save {} path broken).2) := rfl
  have hw : Writable sly := by
    intro k v h
    rw [Properties.get?_insert, Properties.get?_empty] at h
    split at h
    · next hk =>
      rw [hk, ← Option.some.inj h]
      -- the search is to go over the two texts, not over all characters there are
      exact @of_decide_eq_true _ (List.decidableBAll _ _) rfl
    · exact absurd h (by simp)
  have hb : ¬ Writable broken := by
    intro h
    exact absurd (h "note" _ (Properties.get?_insert_self _ _ _) '\n' (by decide) (by decide))
      (by decide)
  obtain ⟨q, hq, hk⟩ := (load_saved hsly).1 hw
  refine ⟨rfl, rfl, ⟨q, hq, ?_⟩, (load_saved hbroken).2 hb⟩
  rw [hk]
  exact Properties.get?_insert_self _ _ _

end ClusterConnect.Configuration
