import ClusterConnect.Failure
import ClusterConnect.Text.Split

/-!
# Files and directories

The part of a file system that the driver sees: configuration files that it reads and writes, and
log files that it extends.

* `Path`: a path as written; `Path.ofText` and `Path.text`.
* `FileTree`: files and directories by location, and the working directory.
* `FileTree.read`, `isFile`, `write`, `append`: each fails with a `FileFault`; `read_of_write`: a
  file holds what has been written.
* `FileTree.makeDirectories`: what it has made before a fault stays.
-/

namespace ClusterConnect

/-- A path: the names between its slashes, without the empty ones and those that stay in place. -/
structure Path where
  /-- The slashes in front: none on a relative path, two if exactly two are written, else one. -/
  root : String
  parts : List String
deriving Repr, DecidableEq

namespace Path

/-- The path that a text says. -/
def ofText (s : String) : Path where
  root :=
    match (s.toList.takeWhile (· = '/')).length with
    | 0 => ""
    | 2 => "//"
    | _ => "/"
  parts := ((s.toList.splitOn '/').map String.ofList).filter fun part => part != "" && part != "."

/-- The shortest text of a path. -/
def text (p : Path) : String :=
  if p.root.isEmpty && p.parts.isEmpty then "."
  else p.root ++ String.ofList (Text.join '/' (p.parts.map String.toList))

/-- The path of the directory that holds what a path names. -/
def parent (p : Path) : Path := { p with parts := p.parts.dropLast }

/-- Whether a path holds the character that no path may hold. -/
def hasNul (p : Path) : Bool := p.parts.any (·.toList.contains '\x00')

end Path

/-- Why an operation on files fails. -/
inductive FileFault where
  | notFound
  | isDirectory
  | notDirectory
  | alreadyExists
  | nameTooLong
  /-- More directories are missing than can be made at once. -/
  | tooDeep
  /-- The path holds a character that no path may hold. -/
  | unusablePath
deriving Repr, DecidableEq

namespace FileFault

/-- The wording of a fault. -/
def message : FileFault → String
  | .notFound => "No such file or directory"
  | .isDirectory => "Is a directory"
  | .notDirectory => "Not a directory"
  | .alreadyExists => "File exists"
  | .nameTooLong => "File name too long"
  | .tooDeep => "too many missing directories"
  | .unusablePath => "embedded null byte"

/-- The kind of failure that a fault gives rise to. -/
def kind : FileFault → ForeignKind
  | .notFound => .system .notFound
  | .isDirectory => .system .isDirectory
  | .notDirectory => .system .notDirectory
  | .alreadyExists => .system .alreadyExists
  | .nameTooLong => .system .general
  | .tooDeep => .nestingTooDeep
  | .unusablePath => .unusableValue

/-- A fault as a failure. -/
def failure (f : FileFault) : Failure := .ofForeign f.kind f.message

/-- Whether the operating system reports the fault; the other ones never get that far. -/
def isSystem (f : FileFault) : Bool := f != .unusablePath && f != .tooDeep

end FileFault

/-- What stands at a location. -/
inductive FileEntry where
  | directory
  | file (bytes : List UInt8)
deriving Repr, DecidableEq

/-- A place in a file tree: the names from the root down. -/
abbrev Location := List String

/-- The path to a location. -/
def Path.ofLocation (l : Location) : Path := ⟨"/", l⟩

/-- Files and directories. The root is a directory without an entry. -/
structure FileTree where
  entries : List (Location × FileEntry) := []
  /-- The working directory, where relative paths start. -/
  here : Location := []

namespace FileTree

/-- The longest name of a file, in bytes. -/
def maxNameBytes : Nat := 255

/-- The longest text of a path, in bytes. -/
def maxPathBytes : Nat := 4095

/-- How many missing directories can be made at once. -/
def maxNesting : Nat := 985

/-- What stands at a location. -/
def entry? (t : FileTree) (l : Location) : Option FileEntry :=
  if l.isEmpty then some .directory else t.entries.lookup l

/-- Puts an entry at a location. -/
def put (t : FileTree) (l : Location) (e : FileEntry) : FileTree :=
  { t with entries := (l, e) :: t.entries.filter (·.1 != l) }

/-- The location that a name leads to from a directory. -/
def step (t : FileTree) (dir : Location) (part : String) : Except FileFault Location :=
  match t.entry? dir with
  | none => .error .notFound
  | some (.file _) => .error .notDirectory
  | some .directory =>
    if part = ".." then .ok dir.dropLast
    else if maxNameBytes < part.utf8ByteSize then .error .nameTooLong
    else .ok (dir ++ [part])

/-- Where a path starts. -/
def start (t : FileTree) (p : Path) : Location := if p.root.isEmpty then t.here else []

/-- The fault of a path that is refused whatever files there are. -/
def refusal? (p : Path) : Option FileFault :=
  if p.hasNul then some .unusablePath
  else if maxPathBytes < p.text.utf8ByteSize then some .nameTooLong
  else none

/-- The location that a path names. Every name but the last leads through a directory. -/
def locate (t : FileTree) (p : Path) : Except FileFault Location :=
  match refusal? p with
  | some f => .error f
  | none => p.parts.foldlM t.step (t.start p)

/-- The location that a path names when a name and a step up from it cancel. -/
def absoluteLocation (t : FileTree) (p : Path) : Location :=
  p.parts.foldl (fun dir part => if part = ".." then dir.dropLast else dir ++ [part]) (t.start p)

/-- The bytes of a file. -/
def read (t : FileTree) (p : Path) : Except FileFault (List UInt8) :=
  match t.locate p with
  | .error f => .error f
  | .ok l =>
    match t.entry? l with
    | none => .error .notFound
    | some .directory => .error .isDirectory
    | some (.file bytes) => .ok bytes

/-- Whether a path names a file. A path that leads nowhere does not. -/
def isFile (t : FileTree) (p : Path) : Except FileFault Bool :=
  match t.locate p with
  | .error .nameTooLong => .error .nameTooLong
  | .error _ => .ok false
  | .ok l =>
    match t.entry? l with
    | some (.file _) => .ok true
    | _ => .ok false

/-- Replaces the bytes of a file, which may be new, by what `f` makes of them. -/
def update (t : FileTree) (p : Path) (f : List UInt8 → List UInt8) : Except FileFault FileTree :=
  match t.locate p with
  | .error e => .error e
  | .ok l =>
    match t.entry? l with
    | some .directory => .error .isDirectory
    | some (.file bytes) => .ok (t.put l (.file (f bytes)))
    | none => .ok (t.put l (.file (f [])))

/-- Writes a file, which may be new. -/
def write (t : FileTree) (p : Path) (bytes : List UInt8) : Except FileFault FileTree :=
  t.update p fun _ => bytes

/-- Extends a file, which may be new. -/
def append (t : FileTree) (p : Path) (bytes : List UInt8) : Except FileFault FileTree :=
  t.update p (· ++ bytes)

/-! ### What has been written is there -/

theorem lookup_filter_ne {l d : Location} (h : d ≠ l) (es : List (Location × FileEntry)) :
    (es.filter (·.1 != l)).lookup d = es.lookup d := by
  induction es with
  | nil => rfl
  | cons e es ih =>
    obtain ⟨x, v⟩ := e
    by_cases hx : x = l
    · subst hx
      have hd : (d == x) = false := by simpa using h
      rw [List.filter_cons_of_neg (by simp), List.lookup_cons, hd]
      exact ih
    · rw [List.filter_cons_of_pos (by simpa using hx), List.lookup_cons, List.lookup_cons, ih]

theorem entry?_put_self (t : FileTree) {l : Location} (h : l ≠ []) (e : FileEntry) :
    FileTree.entry? (t.put l e) l = some e := by
  simp [ entry?, put, h]

theorem entry?_put_of_ne (t : FileTree) {l d : Location} (h : d ≠ l) (e : FileEntry) :
    FileTree.entry? (t.put l e) d = t.entry? d := by
  have hd : (d == l) = false := by simpa using h
  simp only [ entry?, put, List.lookup_cons, hd, lookup_filter_ne h]

/-- Where something other than a directory is put, no path has led through. -/
theorem foldlM_step_put {t : FileTree} {l : Location} (h : t.entry? l ≠ some .directory)
    (e : FileEntry) {parts : List String} {dir found : Location}
    (hf : parts.foldlM t.step dir = .ok found) :
    parts.foldlM (t.put l e).step dir = .ok found := by
  induction parts generalizing dir with
  | nil => exact hf
  | cons part parts ih =>
    rw [List.foldlM_cons] at hf ⊢
    -- The first name leads through the directory `dir`, which is not the changed entry.
    have hstep : (t.put l e).step dir part = t.step dir part := by
      by_cases hd : dir = l
      · subst hd
        have herr : ∃ f, t.step dir part = .error f := by
          unfold step
          split
          · exact ⟨_, rfl⟩
          · exact ⟨_, rfl⟩
          · next hdir => exact absurd hdir h
        obtain ⟨f, hs⟩ := herr
        rw [hs] at hf
        cases hf
      · unfold step
        rw [t.entry?_put_of_ne hd]
    rw [hstep]
    cases hs : t.step dir part with
    | error f =>
      rw [hs] at hf
      cases hf
    | ok next =>
      rw [hs] at hf
      exact ih hf

/-- A file that has been written holds what has been written. -/
theorem read_of_write {t t' : FileTree} {p : Path} {bytes : List UInt8}
    (h : t.write p bytes = .ok t') : t'.read p = .ok bytes := by
  unfold write update at h
  cases hl : t.locate p with
  | error f => simp [hl] at h
  | ok l =>
    rw [hl] at h
    have hput : t.entry? l ≠ some .directory ∧ t' = t.put l (.file bytes) := by
      cases he : t.entry? l with
      | none => simpa [he, eq_comm] using h
      | some entry =>
        cases entry with
        | directory => simp [he] at h
        | file old => simpa [he, eq_comm] using h
    obtain ⟨hdir, rfl⟩ := hput
    have hne : l ≠ [] := by
      rintro rfl
      exact hdir rfl
    have hlocate : (t.put l (.file bytes)).locate p = .ok l := by
      unfold locate at hl ⊢
      cases hr : refusal? p with
      | some f => simp [hr] at hl
      | none =>
        simp only [hr] at hl ⊢
        exact foldlM_step_put hdir _ hl
    unfold read
    rw [hlocate]
    simp only [t.entry?_put_self hne]

/-- Makes the directory that has a name in another directory, unless it is there already, and gives
its location. -/
def makeIn (t : FileTree) (dir : Location) (part : String) :
    Except FileFault (Location × FileTree) :=
  match t.step dir part with
  | .error f => .error f
  | .ok l =>
    match t.entry? l with
    | none => .ok (l, t.put l .directory)
    | some .directory => .ok (l, t)
    | some (.file _) => .error .alreadyExists

/-- Makes the directory that names lead to, the last name first, and gives its location. If one
above it is missing, that is made first, up to the given number of them. -/
def makeAlong (t : FileTree) (start : Location) :
    (levels : Nat) → (names : List String) → Except FileFault Location × FileTree
  | _, [] => (.ok start, t)
  | levels, part :: above =>
    match (above.reverse.foldlM t.step start) >>= fun dir => t.makeIn dir part with
    | .ok (l, t) => (.ok l, t)
    | .error .notFound =>
      if levels = 0 then (.error .tooDeep, t)
      else
        match t.makeAlong start (levels - 1) above with
        | (.error f, t) => (.error f, t)
        | (.ok dir, t) =>
          match t.makeIn dir part with
          | .ok (l, t) => (.ok l, t)
          | .error f => (.error f, t)
    | .error f => (.error f, t)

/-- Makes a directory and those above it, as far as they are missing. -/
def makeDirectories (t : FileTree) (p : Path) : Except FileFault Unit × FileTree :=
  match refusal? p with
  | some f => (.error f, t)
  | none =>
    let r := t.makeAlong (t.start p) maxNesting p.parts.reverse
    (r.1.map fun _ => (), r.2)

/-- Puts a file and the directories above it into the tree. A file that has no place is left out. -/
def install (t : FileTree) (p : Path) (bytes : List UInt8) : FileTree :=
  let t := (t.makeDirectories p.parent).2
  ((t.write p bytes).toOption).getD t

end FileTree

end ClusterConnect
