import ClusterConnect.Value

/-!
# Tables under construction

A document defines tables piece by piece: by headers, by dotted keys and by values. A table that has
been defined in one way cannot be defined again in another.

* `Node`: what stands at a key; `Table`: keys with their nodes, in the order of definition.
* `Table.open?`: a header for a table. `Table.append?`: a header for one more item of a list of
  tables. `Table.assign?`: a key with a value.
* `Table.nodeValue`, `Table.entryValues`, `Table.tableValues`: the finished value, entries and tables.

Each of the three gives `none` when the definition contradicts an earlier one.
-/

namespace ClusterConnect.Document

/-- How a table came into being. -/
inductive Origin where
  /-- It is on the way to a table that a header names. -/
  | implied
  /-- A header names it. -/
  | header
  /-- It is on the way to a key of the section with the given number. -/
  | dotted (section_ : Nat)
deriving Repr, DecidableEq

/-- What stands at a key. -/
inductive Node where
  /-- A value, which cannot be extended. -/
  | leaf (value : Value)
  | table (origin : Origin) (entries : List (String × Node))
  /-- A list of tables, of which the last can be extended. -/
  | tables (earlier : List (List (String × Node))) (last : List (String × Node))

instance : Inhabited Node := ⟨.leaf .null⟩

/-- Keys with their nodes. -/
abbrev Table := List (String × Node)

namespace Table

/-- Replaces the node at a key, or adds one at the end. -/
def update? (key : String) (f : Option Node → Option Node) : Table → Option Table
  | [] => (f none).map fun node => [(key, node)]
  | (k, node) :: rest =>
    if k = key then (f (some node)).map fun node => (k, node) :: rest
    else (update? key f rest).map ((k, node) :: ·)

/-- Changes the table at the end of a path. Missing tables on the way come into being, and a list of
tables stands for its last item. -/
def within? (f : Table → Option Table) : (path : List String) → Table → Option Table
  | [], t => f t
  | key :: path, t =>
    t.update? key fun
      | none => (within? f path []).map (.table .implied)
      | some (.table origin es) => (within? f path es).map (.table origin)
      | some (.tables earlier last) => (within? f path last).map (.tables earlier)
      | some (.leaf _) => none

/-- Names a table by a header. Only a table that is implied so far may exist already. -/
def open? (path : List String) (t : Table) : Option Table :=
  match path.getLast? with
  | none => none
  | some key =>
    within? (·.update? key fun
      | none => some (.table .header [])
      | some (.table .implied es) => some (.table .header es)
      | some _ => none) path.dropLast t

/-- Adds an empty table to a list of tables, which may be new. -/
def append? (path : List String) (t : Table) : Option Table :=
  match path.getLast? with
  | none => none
  | some key =>
    within? (·.update? key fun
      | none => some (.tables [] [])
      | some (.tables earlier last) => some (.tables (earlier ++ [last]) [])
      | some _ => none) path.dropLast t

/-- Sets a key in a table. The tables on the way are new, implied, or belong to the same section. -/
def set? (number : Nat) (value : Value) : (key : List String) → Table → Option Table
  | [], _ => none
  | [key], t =>
    t.update? key fun
      | none => some (.leaf value)
      | some _ => none
  | key :: more, t =>
    t.update? key fun
      | none => (set? number value more []).map (.table (.dotted number))
      | some (.table .implied es) => (set? number value more es).map (.table (.dotted number))
      | some (.table (.dotted n) es) =>
        if n = number then (set? number value more es).map (.table (.dotted number)) else none
      | some _ => none

/-- Sets a key in the table that the latest header names. -/
def assign? (number : Nat) (header key : List String) (value : Value) (t : Table) :
    Option Table :=
  within? (set? number value key) header t

mutual

/-- A node as a value. -/
def nodeValue : Node → Value
  | .leaf v => v
  | .table _ es => .table (entryValues es)
  | .tables earlier last => .list (tableValues earlier ++ [.table (entryValues last)])

/-- The entries of a table as values. -/
def entryValues : List (String × Node) → List (String × Value)
  | [] => []
  | (key, node) :: rest => (key, nodeValue node) :: entryValues rest

/-- The tables of a list as values. -/
def tableValues : List (List (String × Node)) → List Value
  | [] => []
  | es :: rest => .table (entryValues es) :: tableValues rest

end

end Table

end ClusterConnect.Document
