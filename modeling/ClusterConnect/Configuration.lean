import ClusterConnect.Document.Reader
import ClusterConnect.FileTree
import ClusterConnect.Properties.Catalogue

/-!
# Configuration files

A configuration file is a document whose table `properties` holds default properties. The driver
reads any number of such files and writes one.

* `Configuration.load`: the properties of a file.
* `Configuration.defaults`: the login name and the properties of several files, of which the first
  counts most.
* `Configuration.render`, `save`: the writing of a file.
-/

namespace ClusterConnect.Configuration

open Text

/-- The table of a configuration file that holds the properties. -/
def tableName : String := "properties"

/-! ## Reading -/

/-- What prevents the reading of a configuration file. -/
inductive Fault where
  | file (fault : FileFault)
  /-- The bytes are no text. -/
  | undecodable
  | document (fault : Document.Fault)
  /-- The document holds something other than a table of properties. -/
  | shape
  /-- A property nests too deeply to be written as a text. -/
  | tooDeep
deriving Repr, DecidableEq

/-- The failure that a configuration error reports as its cause. -/
def Fault.cause : Fault → Failure
  | .file f => f.failure
  | .undecodable => .ofForeign .undecodable "invalid byte in a text"
  | .document .malformed => .ofForeign .malformedDocument "the file is not a document"
  | .document .numberTooLong => .ofForeign .unusableValue "too many digits for an integer"
  | .document .tooDeep | .tooDeep => .ofForeign .nestingTooDeep "too many nested values"
  | .shape => .ofForeign .invalidDocument "the properties are not a table of texts"

/-- A fault as a failure. Bytes that are no text, numbers that are too long, values that nest too
deeply and unusable paths are not reported as configuration errors. -/
def Fault.failure (path : Path) (f : Fault) : Failure :=
  let report (start : String) : Failure :=
    .driver ((DriverError.ofKind .config (start ++ path.text ++ ": " ++ f.cause.text)).causedBy
      f.cause)
  match f with
  | .file fault =>
    if fault.isSystem then report "Error loading default settings from " else f.cause
  | .document .malformed => report "Error loading default settings from "
  | .shape => report "Invalid driver configuration in "
  | .undecodable | .document .numberTooLong | .document .tooDeep | .tooDeep => f.cause

/-- A value as the text of a property. -/
def propertyText : Value → String
  | .bool true => "true"
  | .bool false => "false"
  | v => v.asText

/-- Values as properties, up to the first one that cannot be written as a text. -/
def textEntries : List (String × Value) → Except Fault (List (String × String))
  | [] => .ok []
  | (key, v) :: rest =>
    if Value.maxWrittenDepth < v.depth then .error .tooDeep
    else if v.isWritable then (textEntries rest).map ((key, propertyText v) :: ·)
    else .error .shape

/-- The properties in the top-level entries of a document. -/
def propertiesOf (entries : List (String × Value)) : Except Fault Properties :=
  match entries.lookup tableName with
  | none => .ok .empty
  | some (.table es) => (textEntries es).map .ofList
  | some _ => .error .shape

/-- The properties in the bytes of a configuration file. -/
def decode (bytes : List UInt8) : Except Fault Properties :=
  match Utf8.decode? bytes with
  | none => .error .undecodable
  | some cs =>
    match Document.read cs with
    | .error f => .error (.document f)
    | .ok entries => propertiesOf entries

/-- The properties of a configuration file. -/
def load (files : FileTree) (path : Path) : Except Failure Properties :=
  match files.read path with
  | .error f => .error ((Fault.file f).failure path)
  | .ok bytes => (decode bytes).mapError (·.failure path)

/-- Lays the properties of a file over `base`, unless there is no such file. -/
def overlay (files : FileTree) (base : Properties) (path : Path) : Except Failure Properties :=
  match files.isFile path with
  | .error f => .error f.failure
  | .ok false => .ok base
  | .ok true => (load files path).map base.merge

/-- The default properties: the login name as user, if it is known, and the configuration files.
The last file is laid down first, so that an earlier one counts more. -/
def defaults (files : FileTree) (login : Option String) (paths : List Path) :
    Except Failure Properties :=
  let start := login.elim Properties.empty (Properties.empty.insert Property.user.name)
  paths.reverse.foldlM (overlay files) start

/-! ## Writing -/

/-- The backslash and the quotation mark are written with a backslash in front. -/
def escape (c : Char) : List Char := if c = '\\' ∨ c = '"' then ['\\', c] else [c]

/-- A text between quotation marks. -/
def mark (s : String) : List Char := '"' :: (s.toList.flatMap escape ++ ['"'])

/-- One entry, with the line end. -/
def line (e : String × String) : List Char := mark e.1 ++ " = ".toList ++ mark e.2 ++ ['\n']

/-- The text of a configuration file: a header, and the entries in the order of their names. -/
def render (p : Properties) : List Char := "[properties]\n".toList ++ p.sorted.flatMap line

/-- Writes a configuration file, and makes its directory if it is missing. The directory stays if
the file cannot be written. -/
def save (files : FileTree) (path : Path) (p : Properties) : Except Failure Unit × FileTree :=
  match files.makeDirectories path.parent with
  | (.error f, files) => (.error f.failure, files)
  | (.ok (), files) =>
    match files.write path (Utf8.encode (render p)) with
    | .error f => (.error f.failure, files)
    | .ok files => (.ok (), files)

/-- Values of any type as properties, unless one of them cannot be written. -/
def accept (values : List (String × Value)) : Except Failure Properties :=
  (propertiesOf [(tableName, .table values)]).mapError Fault.cause

end ClusterConnect.Configuration
