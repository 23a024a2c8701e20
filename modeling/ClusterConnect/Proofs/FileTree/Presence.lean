import ClusterConnect.FileTree

/-!
# Files that are there

Where a path names a file, the file can be read, the directories above it are there, and it can be
written again.

* `isFile_eq_true_iff`: a path names a file exactly if the file can be read.
* `makeDirectories_parent`: nothing is to be made above a file that is there.
* `exists_write`: a file that is there can be written again.
-/

namespace ClusterConnect

open Text

/-! ## Paths -/

theorem join_prefix_join_concat (sep : Char) (parts : List (List Char)) (last : List Char) :
    join sep parts <+: join sep (parts ++ [last]) := by
  unfold join
  induction parts with
  | nil => exact List.nil_prefix
  | cons part parts ih =>
    cases parts with
    | nil =>
      rw [List.intercalate_singleton, List.cons_append, List.nil_append, List.intercalate_cons_cons,
        List.append_assoc]
      exact List.prefix_append part _
    | cons next parts =>
      rw [List.cons_append, List.cons_append, List.intercalate_cons_cons,
        List.intercalate_cons_cons]
      exact (List.prefix_append_right_inj _).mpr ih

theorem utf8ByteSize_le_of_prefix {a b : List Char} (h : a <+: b) :
    (String.ofList a).utf8ByteSize ≤ (String.ofList b).utf8ByteSize := by
  obtain ⟨rest, rfl⟩ := h
  rw [String.ofList_append, String.utf8ByteSize_append]
  exact Nat.le_add_right _ _

variable {p : Path}

/-- The text of a path is not longer for its parent, unless it is the working directory. -/
theorem utf8ByteSize_text_parent (p : Path) :
    p.parent.text.utf8ByteSize ≤ max 1 p.text.utf8ByteSize := by
  have hjoin : join '/' (p.parts.dropLast.map String.toList) <+:
      join '/' (p.parts.map String.toList) := by
    rcases List.eq_nil_or_concat p.parts with hnil | ⟨init, last, hparts⟩
    · rw [hnil]
      exact List.prefix_rfl
    · rw [hparts, List.concat_eq_append, List.dropLast_concat, List.map_append]
      exact join_prefix_join_concat '/' _ _
  have hsize := utf8ByteSize_le_of_prefix hjoin
  unfold Path.text Path.parent
  dsimp only
  split
  · exact Nat.le_max_left 1 _
  · next hparent =>
    have hself : (p.root.isEmpty && p.parts.isEmpty) = false := by
      rw [Bool.and_eq_true, not_and] at hparent
      cases hroot : p.root.isEmpty with
      | false => rfl
      | true =>
        cases hparts : p.parts with
        | nil => exact absurd (by rw [hparts]; rfl) (hparent hroot)
        | cons => rfl
    rw [hself]
    simp only [Bool.false_eq_true, if_false, String.utf8ByteSize_append]
    omega

namespace FileTree

variable {t : FileTree} {bytes : List UInt8} {l : Location}

/-- The parent of a path that is not refused is not refused. -/
theorem refusal?_parent (h : refusal? p = none) : refusal? p.parent = none := by
  unfold refusal? at h
  split at h
  · exact absurd h (by simp)
  · next hnul =>
    split at h
    · exact absurd h (by simp)
    · next hlong =>
      have hparent : p.parent.hasNul = false := by
        rw [Bool.not_eq_true] at hnul
        unfold Path.hasNul at hnul ⊢
        rw [List.any_eq_false] at hnul ⊢
        exact fun part hpart => hnul part ((List.dropLast_sublist _).subset hpart)
      have hsize := utf8ByteSize_text_parent p
      have hbound : maxPathBytes = 4095 := rfl
      unfold refusal?
      rw [hparent, if_neg Bool.false_ne_true, if_neg (by omega)]

/-! ## Reading -/

/-- A file that can be read stands at its location. -/
theorem read_eq_ok_iff :
    t.read p = .ok bytes ↔ ∃ l, t.locate p = .ok l ∧ t.entry? l = some (.file bytes) := by
  unfold read
  cases t.locate p with
  | error f => simp
  | ok l =>
    dsimp only
    cases hentry : t.entry? l with
    | none => simp [hentry]
    | some e => cases e <;> simp [hentry]

/-- A path names a file exactly if the file can be read. -/
theorem isFile_eq_true_iff : t.isFile p = .ok true ↔ ∃ bytes, t.read p = .ok bytes := by
  have hcases : t.isFile p = .ok true ↔
      ∃ l bytes, t.locate p = .ok l ∧ t.entry? l = some (.file bytes) := by
    unfold isFile
    cases t.locate p with
    | error f => cases f <;> simp
    | ok l =>
      dsimp only
      cases hentry : t.entry? l with
      | none => simp [hentry]
      | some e => cases e <;> simp [hentry]
  simp only [hcases, read_eq_ok_iff]
  exact exists_comm

/-! ## Writing again -/

theorem foldlM_concat {names : List String} {last : String} {dir : Location} :
    (names ++ [last]).foldlM t.step dir = .ok l ↔
      ∃ l', names.foldlM t.step dir = .ok l' ∧ t.step l' last = .ok l := by
  rw [List.foldlM_append]
  cases names.foldlM t.step dir with
  | error f => exact ⟨nofun, fun ⟨_, h, _⟩ => nomatch h⟩
  | ok l' =>
    show (t.step l' last >>= pure) = .ok l ↔ _
    rw [bind_pure]
    simp

theorem directory_of_step {dir : Location} {part : String} (h : t.step dir part = .ok l) :
    t.entry? dir = some .directory := by
  unfold step at h
  split at h
  · exact absurd h (by simp)
  · exact absurd h (by simp)
  · assumption

/-- Directories that are there need not be made. -/
theorem makeAlong_of_directory {names : List String} {dir : Location} (start : Location)
    (levels : Nat) (hfound : names.reverse.foldlM t.step start = .ok dir)
    (hdir : t.entry? dir = some .directory) : t.makeAlong start levels names = (.ok dir, t) := by
  cases names with
  | nil =>
    obtain rfl := Except.ok.inj hfound
    unfold makeAlong
    rfl
  | cons part above =>
    rw [List.reverse_cons] at hfound
    obtain ⟨outer, houter, hstep⟩ := foldlM_concat.mp hfound
    have hmake : (above.reverse.foldlM t.step start >>= fun dir => t.makeIn dir part) =
        .ok (dir, t) := by
      rw [houter]
      show t.makeIn outer part = _
      unfold makeIn
      rw [hstep]
      simp only [hdir]
    unfold makeAlong
    rw [hmake]

/-- Nothing is to be made above a file that is there. -/
theorem makeDirectories_parent (h : t.read p = .ok bytes) :
    t.makeDirectories p.parent = (.ok (), t) := by
  obtain ⟨l, hlocate, -⟩ := read_eq_ok_iff.mp h
  unfold locate at hlocate
  cases hrefusal : refusal? p with
  | some f => simp [hrefusal] at hlocate
  | none =>
    simp only [hrefusal] at hlocate
    have hmade : ∃ dir,
        t.makeAlong (t.start p) maxNesting p.parts.dropLast.reverse = (.ok dir, t) := by
      rcases List.eq_nil_or_concat p.parts with hnil | ⟨init, last, hparts⟩
      · rw [hnil]
        exact ⟨t.start p, by unfold makeAlong; rfl⟩
      · rw [List.concat_eq_append] at hparts
        rw [hparts] at hlocate
        obtain ⟨dir, hdir, hstep⟩ := foldlM_concat.mp hlocate
        refine ⟨dir, ?_⟩
        rw [hparts, List.dropLast_concat]
        exact makeAlong_of_directory _ _ (by rwa [List.reverse_reverse]) (directory_of_step hstep)
    obtain ⟨dir, hdir⟩ := hmade
    have hstart : t.start p.parent = t.start p := rfl
    have hparts : p.parent.parts = p.parts.dropLast := rfl
    unfold makeDirectories
    rw [refusal?_parent hrefusal]
    simp only [hstart, hparts, hdir]
    rfl

/-- A file that is there can be written again. -/
theorem exists_write (h : t.read p = .ok bytes) (new : List UInt8) :
    ∃ t', t.write p new = .ok t' := by
  obtain ⟨l, hlocate, hentry⟩ := read_eq_ok_iff.mp h
  unfold write update
  rw [hlocate]
  simp only [hentry]
  exact ⟨_, rfl⟩

end FileTree

end ClusterConnect
