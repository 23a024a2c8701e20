import ClusterConnect.FileTree
import ClusterConnect.Properties.Catalogue
import ClusterConnect.Text.Utf8

/-!
# The driver's log

Two properties control the driver's log: its level, and the file it is written to. At any time at
most one handler of the driver is attached to the log, and it is replaced only when the file
changes.

* `Level`: the levels and their names.
* `Logging`: the settings of the log and the handler in use.
* `Logging.configure`: the effect of the two properties; `Logging.reset`: back to the start.
* `Logging.destinations`: where a record goes.
-/

namespace ClusterConnect

/-! ## Levels -/

/-- How urgent a record is; larger is more urgent. -/
abbrev Level := Nat

namespace Level

/-- The level of a log or handler that has none of its own. -/
def unset : Level := 0

def trace : Level := 5

def debug : Level := 10

def info : Level := 20

def warning : Level := 30

def error : Level := 40

def critical : Level := 50

/-- Above every level in use. -/
def silent : Level := critical + 1

/-- The levels that have a name. -/
def names : List (Level × String) :=
  [(unset, "NOTSET"), (trace, "TRACE"), (debug, "DEBUG"), (info, "INFO"), (warning, "WARNING"),
   (error, "ERROR"), (critical, "CRITICAL")]

/-- The name of a level. -/
def name (l : Level) : String := (names.lookup l).getD ("Level " ++ Text.integerText l)

end Level

/-- What the property for the level asks for. -/
inductive LevelRequest where
  /-- Silence the driver. -/
  | off
  | set (level : Level)
  /-- No level of that name; the level stays. -/
  | unknown
deriving Repr, DecidableEq

/-- The request that a text makes, in either letter case. -/
def LevelRequest.ofText (s : String) : LevelRequest :=
  let word := Text.uppercase s.toList
  if word = "OFF".toList then .off
  else if word = "DEBUG".toList then .set Level.debug
  else if word = "TRACE".toList then .set Level.trace
  else .unknown

/-! ## Handlers and settings -/

/-- Writes records to a file, or to the error output. -/
structure LogHandler where
  /-- Tells this handler from every other one. -/
  serial : Nat
  /-- The file, `none` for the error output. -/
  file : Option Location
  /-- Records below this level are left out. -/
  level : Level
deriving Repr, DecidableEq

/-- The settings of the driver's log. -/
structure Logging where
  level : Level := Level.unset
  /-- Whether records also go to the handlers of the surrounding program. -/
  propagates : Bool := true
  /-- The handlers attached to the log. -/
  attached : List LogHandler := []
  /-- The handler in use. -/
  current : Option LogHandler := none
  /-- The file of the handler in use, as the property named it. -/
  target : Option String := none
  /-- The handlers that have been closed, latest first. -/
  released : List Nat := []
  /-- The serial number of the next handler. -/
  next : Nat := 0
deriving Repr, DecidableEq

/-- What came of opening a log file. -/
inductive LogFile where
  | opened (location : Location)
  /-- The operating system refused. -/
  | refused
  /-- The attempt failed for another reason. -/
  | failed (failure : Failure)

namespace Logging

/-- Detaches and closes the handler in use. -/
def release (l : Logging) : Logging :=
  match l.current with
  | none => l
  | some h =>
    { l with
      attached := l.attached.filter (·.serial != h.serial)
      released := h.serial :: l.released
      current := none
      target := none }

/-- Attaches a new handler for a file or for the error output. It leaves out what the log leaves out
at present. -/
def attach (l : Logging) (file : Option Location) (target : Option String) : Logging :=
  let h : LogHandler := ⟨l.next, file, l.level⟩
  { l with
    attached := l.attached ++ [h]
    current := some h
    target := target
    propagates := false
    next := l.next + 1 }

/-- Sets the level that a request names. -/
def setLevel (l : Logging) (r : LevelRequest) : Logging :=
  match r with
  | .off => { l with level := Level.silent }
  | .set level => { l with level := level }
  | .unknown => l

/-- The file that a configuration opens. The file in use is not opened again. -/
def fileToOpen? (l : Logging) (request : Option LevelRequest) (file : Option String) :
    Option String :=
  match request with
  | none | some .off => none
  | some _ => file.filter (l.target != some ·)

/-- The effect of a configuration: the new settings, whether the fall back to the error output is
announced, and the failure, if any. Without a level nothing changes, and `OFF` changes the level
only. -/
def configure (l : Logging) (request : Option LevelRequest) (file : Option (String × LogFile)) :
    Logging × Bool × Except Failure Unit :=
  match request with
  | none => (l, false, .ok ())
  | some .off => (l.setLevel .off, false, .ok ())
  | some r =>
    let l := l.setLevel r
    match file with
    | none => (l.release.attach none none, false, .ok ())
    | some (name, outcome) =>
      if l.target = some name then (l, false, .ok ())
      else
        match outcome with
        | .opened location => (l.release.attach (some location) (some name), false, .ok ())
        | .refused => (l.release.attach none none, true, .ok ())
        | .failed f => (l.release, false, .error f)

/-- Removes the handler in use and undoes all settings. -/
def reset (l : Logging) : Logging :=
  { l.release with level := Level.unset, propagates := true, target := none }

/-! ## Records -/

/-- The name of the driver's log. -/
def rootName : String := "pgaws"

/-- Whether a log stands below another one; names are given from the last character on. The log
right above a name is the longest that is in use among the parts of the name in front of its dots.
Of two dots in a row only the second one counts, unless the part in front of it is in use. -/
def isBelow (top : List Char) (used : List (List Char)) : List Char → Bool
  | '.' :: c :: rest =>
    if c :: rest = top then true
    else if used.contains (c :: rest) then isBelow top used (c :: rest)
    else isBelow top used rest
  | _ :: rest => isBelow top used rest
  | [] => false

/-- Whether a log of the given name belongs to the driver, where logs of other names are in use. -/
def covers (used : List String) (name : String) : Bool :=
  name = rootName ||
    isBelow rootName.toList.reverse (used.map (·.toList.reverse)) name.toList.reverse

/-- The least level that is recorded at all. Where the driver's log has no level, that of the
surrounding program counts. -/
def threshold (l : Logging) : Level := if l.level = Level.unset then Level.warning else l.level

/-- Whether records of a level are recorded. -/
def isEnabled (l : Logging) (level : Level) : Bool := 0 < level && l.threshold ≤ level

/-- The handlers that write a record of the given level. -/
def destinations (l : Logging) (level : Level) : List LogHandler :=
  if l.isEnabled level then l.attached.filter (·.level ≤ level) else []

/-- Whether a record is shown bare on the error output, because no handler at all is attached. -/
def isShownBare (l : Logging) (level : Level) : Bool :=
  l.isEnabled level && l.attached.isEmpty && Level.warning ≤ level

/-- A record behind its time stamp. -/
def recordText (level : Level) (name message : String) : String :=
  level.name ++ " " ++ name ++ ": " ++ message

end Logging

/-! ## Log files -/

/-- Opens a log file, which may be new. A name and a step up from it in the path cancel. -/
def openLog (files : FileTree) (name : String) : LogFile × FileTree :=
  let location := files.absoluteLocation (Path.ofText name)
  match files.append (.ofLocation location) [] with
  | .ok files => (.opened location, files)
  | .error f => (if f.isSystem then .refused else .failed f.failure, files)

/-- Extends a log file by a line. A file that cannot be extended is left alone. -/
def writeLine (files : FileTree) (location : Location) (line : String) : FileTree :=
  let bytes := Text.Utf8.encode (line.toList ++ ['\n'])
  ((files.append (.ofLocation location) bytes).toOption).getD files

end ClusterConnect
