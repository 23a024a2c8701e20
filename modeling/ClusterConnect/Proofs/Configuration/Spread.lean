import ClusterConnect.Proofs.Configuration.RoundTrip

/-!
# Values over several lines

A configuration file can say more than the writer can write. A value between three apostrophes is
read as it stands, over as many lines as it takes.

* `spread`: an entry with such a value.
* `decode_spread`: a file that holds one is read as the entry. Only the apostrophe is left out here,
  since up to two of them would have to be told from the closing ones.
-/

namespace ClusterConnect.Configuration

open Text Document

/-- An entry whose value is written over several lines, each as it is. -/
def spread (e : String × String) : List Char :=
  mark e.1 ++ " = '''\n".toList ++ e.2.toList ++ "'''\n".toList

/-- An entry that can be written so: the name has no control character other than the tab, and the
value none but the tab and the line end, and no apostrophe. -/
structure Spreadable (e : String × String) : Prop where
  name : ¬ Controlled e.1.toList
  value : ∀ c ∈ e.2.toList, c ≠ '\'' ∧ (isForbidden c = true → c = '\n')

variable {e : String × String}

theorem spread_eq (e : String × String) :
    spread e =
      '"' :: (e.1.toList.flatMap escape ++ '"' :: ' ' :: '=' :: ' ' :: '\'' :: '\'' :: '\'' ::
        '\n' :: (e.2.toList ++ ['\'', '\'', '\'', '\n'])) := by
  simp [spread, mark]

/-- Each character of such a value stands for itself. -/
theorem multilineLiteral?_spread {cs : List Char}
    (h : ∀ c ∈ cs, c ≠ '\'' ∧ (isForbidden c = true → c = '\n')) :
    multilineLiteral? (cs ++ ['\'', '\'', '\'', '\n']) = some (cs, ['\n']) := by
  induction cs with
  | nil => rfl
  | cons c cs ih =>
    obtain ⟨hmark, hforbidden⟩ := h c List.mem_cons_self
    have hallowed : (isForbidden c && c != '\n') = false := by
      cases hc : isForbidden c with
      | false => rfl
      | true => rw [hforbidden hc]; rfl
    rw [List.cons_append, multilineLiteral?, hallowed,
      ih fun c hc => h c (List.mem_cons_of_mem _ hc)]
    · rfl
    · intro _ hc
      exact absurd hc hmark

theorem value_spread (h : Spreadable e) (limit room : Nat) :
    value (limit + 1) room
        ('\'' :: '\'' :: '\'' :: '\n' :: (e.2.toList ++ ['\'', '\'', '\'', '\n'])) =
      .ok (.text e.2, ['\n']) := by
  have htext : text? ('\'' :: '\'' :: '\'' :: '\n' :: (e.2.toList ++ ['\'', '\'', '\'', '\n'])) =
      some (some (e.2.toList, ['\n'])) :=
    congrArg some (multilineLiteral?_spread h.value)
  rw [value, scalar, htext]
  · show Except.ok (Value.text (String.ofList e.2.toList), ['\n']) = _
    rw [String.ofList_toList]
  -- neither a list nor a table starts with an apostrophe
  · exact Nat.succ_ne_zero limit
  · exact fun _ _ _ h => absurd (List.cons.inj h).1 (by decide)
  · exact fun _ _ _ h => absurd (List.cons.inj h).1 (by decide)

theorem statement_spread (h : Spreadable e) :
    statement (soFar []) (spread e) = .ok (soFar [e], ['\n']) := by
  have hpair : pair (stepLimit (spread e)) nestingRoom (spread e) =
      .ok ([e.1], .text e.2, ['\n']) := by
    show pair ((3 * (spread e).length + 1) + 2) nestingRoom (spread e) = _
    rw [spread_eq, pair, key?_marked h.name]
    show (value (_ + 1) nestingRoom ('\'' :: '\'' :: '\'' :: '\n' :: _) >>=
      fun r => .ok ([e.1], r.1, r.2)) = _
    rw [value_spread h]
    rfl
  have hassign : (soFar []).table.assign? 1 [tableName] [e.1] (.text e.2) = some (soFar [e]).table :=
    assign?_new List.not_mem_nil
  have hstatement : statement (soFar []) (spread e) =
      pair (stepLimit (spread e)) nestingRoom (spread e) >>= fun r =>
        orMalformed ((soFar []).table.assign? 1 [tableName] r.1 r.2.1) >>= fun t =>
          .ok ({ soFar [] with table := t }, r.2.2) := by
    rw [spread_eq]
    rfl
  rw [hstatement, hpair]
  show (orMalformed ((soFar []).table.assign? 1 [tableName] [e.1] (.text e.2)) >>= fun t =>
    .ok ({ soFar [] with table := t }, ['\n'])) = _
  rw [hassign]
  rfl

theorem not_mem_spread (h : Spreadable e) : '\r' ∉ "[properties]\n".toList ++ spread e := by
  have hname : '\r' ∉ e.1.toList := fun hr => h.name ⟨'\r', hr, by decide⟩
  have hvalue : '\r' ∉ e.2.toList := fun hr => absurd ((h.value '\r' hr).2 (by decide)) (by decide)
  have hescape : '\r' ∉ e.1.toList.flatMap escape := by
    intro hr
    obtain ⟨c, hc, hcr⟩ := List.mem_flatMap.mp hr
    have hne : '\r' ≠ c := fun h => hname (h ▸ hc)
    by_cases hs : c = '\\' ∨ c = '"'
    · rw [escape_of_special hs] at hcr
      simp [hne] at hcr
    · rw [escape_of_plain hs, List.mem_singleton] at hcr
      exact hne hcr
  rw [spread_eq]
  simp [hescape, hvalue]

/-- A file that holds one such entry is read as the entry. -/
theorem decode_spread (h : Spreadable e) :
    decode (Utf8.encode ("[properties]\n".toList ++ spread e)) = .ok (.ofList [e]) := by
  -- one step for the header, one for the entry, and one for the end of the text
  have hstatements : ∀ limit, statements (limit + 3) {} ("[properties]\n".toList ++ spread e) =
      .ok (soFar [e]) := by
    intro limit
    have hspread : statements (limit + 2) (soFar []) (spread e) =
        statement (soFar []) (spread e) >>= fun r =>
          orMalformed (endLine? r.2) >>= fun cs => statements (limit + 1) r.1 cs := by
      rw [spread_eq]
      rfl
    rw [statements_header, hspread, statement_spread h]
    rfl
  have hread : Document.read ("[properties]\n".toList ++ spread e) =
      .ok (Table.entryValues (soFar [e]).table) := by
    unfold Document.read
    rw [unifyLineEnds_of_not_mem (not_mem_spread h)]
    dsimp only
    have hlength : ("[properties]\n".toList ++ spread e).length = 12 + (spread e).length + 1 := by
      rw [List.length_append, Nat.add_right_comm]
      rfl
    rw [hlength, hstatements]
    rfl
  unfold decode
  rw [Utf8.decode?_encode]
  simp only [hread, propertiesOf_soFar]

end ClusterConnect.Configuration
