import ClusterConnect.Text.Digit
import ClusterConnect.Text.Split

/-!
# Command line arguments

Arguments are options, values of options and positional arguments. An option may be cut short as
long as no other option starts alike, its value may follow behind an equals sign, and a single
letter may stand together with its value. Two hyphens alone end the options; attached to an option
they leave it without a value. Releases of the reader of arguments differ in the last point: the older
ones do it, as release 3.11.2, and they are followed here; the newer ones take the two hyphens for the
value like any other text, as release 3.11.10.

* `Grammar`: the options and positional arguments of a command, as changes to a state.
* `Grammar.read`: the state that a list of arguments leads to, or an `Ending`.
-/

namespace ClusterConnect.CommandLine

/-- What an option does. -/
inductive Effect (σ : Type) where
  /-- Shows a help text, and nothing else. -/
  | help
  | switch (f : σ → σ)
  /-- Takes a value, which may be refused. The value is `none` if two hyphens stand in its place, as
  the older releases have it. -/
  | value (f : Option String → σ → Option σ)

/-- The arguments that a command takes. -/
structure Grammar (σ : Type) where
  /-- The options by name, hyphens included. -/
  options : List (String × Effect σ)
  /-- The positional arguments, all of them required. -/
  positionals : List (String → σ → σ) := []

/-- Why a list of arguments leads to no state. -/
inductive Ending where
  | help
  /-- The arguments break the grammar. -/
  | misused
deriving Repr, DecidableEq

/-- The exit code of a command that ends without being run. -/
def Ending.exitCode : Ending → Nat
  | .help => 0
  | .misused => 2

/-- The text that stands in one argument with an option. -/
inductive Attached where
  | none
  /-- Text behind the name of an option. -/
  | toName (text : List Char)
  /-- Text behind the letter of an option. -/
  | toLetter (text : List Char)

/-- The text as the value of the option. -/
def Attached.value? : Attached → Option String
  | .none => .none
  | .toName text | .toLetter text => some (String.ofList text)

/-- An argument with the role that it plays. -/
inductive Word (σ : Type) where
  /-- Ends the options. -/
  | separator
  /-- A positional argument or a value. -/
  | plain (text : String)
  /-- An option that exists. -/
  | option (effect : Effect σ) (attached : Attached)
  /-- Looks like an option and is none. -/
  | unknown

/-- Two hyphens. -/
def separatorText : String := "--"

variable {σ : Type}

/-! ## Roles -/

/-- The options that a name with two hyphens may stand for. -/
def longMatches (g : Grammar σ) (name : List Char) : List (Effect σ) :=
  (g.options.filter fun o => name.isPrefixOf o.1.toList).map Prod.snd

/-- A text without the line end at its end. -/
def withoutLineEnd (cs : List Char) : List Char :=
  if cs.getLast? = some '\n' then cs.dropLast else cs

/-- Whether a text is a negative number in positional notation. A line end may follow. -/
def isNegativeNumber (cs : List Char) : Bool :=
  let isDigit (c : Char) : Bool := (Text.digitValue? c).isSome
  match cs with
  | '-' :: rest =>
    match Text.cut '.' (withoutLineEnd rest) with
    | (whole, none) => !whole.isEmpty && whole.all isDigit
    | (whole, some part) => whole.all isDigit && !part.isEmpty && part.all isDigit
  | _ => false

/-- The role of an argument that no option is named like. Numbers and texts with a space are no
options. -/
def otherwise (s : String) : Word σ :=
  if isNegativeNumber s.toList || s.toList.contains ' ' then .plain s else .unknown

/-- The role of an argument that starts with two hyphens and names no option in full. -/
def classifyLong (g : Grammar σ) (s : String) : Except Ending (Word σ) :=
  let (name, value) := Text.cut '=' s.toList
  match longMatches g name with
  | [] => .ok (otherwise s)
  | [effect] => .ok (.option effect (value.elim .none .toName))
  | _ => .error .misused

/-- The role of an argument that starts with one hyphen and names no option in full: its first
letter may be an option that the rest is written together with. -/
def classifyShort (g : Grammar σ) (s : String) : Word σ :=
  match g.options.lookup (String.ofList (s.toList.take 2)) with
  | some effect => .option effect (.toLetter (s.toList.drop 2))
  | none => otherwise s

/-- The role of one argument in front of the separator. -/
def classify (g : Grammar σ) (s : String) : Except Ending (Word σ) :=
  match s.toList with
  | '-' :: second :: _ =>
    match g.options.lookup s with
    | some effect => .ok (.option effect .none)
    | none =>
      let (name, value) := Text.cut '=' s.toList
      match value, g.options.lookup (String.ofList name) with
      | some value, some effect =>
        .ok (.option effect (if second = '-' then .toName value else .toLetter value))
      | _, _ => if second = '-' then classifyLong g s else .ok (classifyShort g s)
  | _ => .ok (.plain s)

/-- The roles of all arguments. Behind the separator everything is plain. -/
def classifyAll (g : Grammar σ) : List String → Except Ending (List (Word σ))
  | [] => .ok []
  | s :: rest =>
    if s = separatorText then .ok (.separator :: rest.map .plain)
    else
      match classify g s with
      | .error e => .error e
      | .ok w => (classifyAll g rest).map (w :: ·)

/-! ## Effects -/

/-- What has been read so far. -/
structure Progress (σ : Type) where
  state : σ
  /-- The positional arguments that are still missing. -/
  missing : List (String → σ → σ)
  /-- Whether the latest argument was a positional one. -/
  placed : Bool := false
  /-- Whether there was an argument that has no place. -/
  surplus : Bool := false

/-- Takes a positional argument. -/
def Progress.place (p : Progress σ) (s : String) : Progress σ :=
  match p.missing with
  | f :: missing => { p with state := f s p.state, missing := missing, placed := true }
  | [] => { p with placed := false, surplus := true }

/-- What the options in one argument ask for. -/
structure Request (σ : Type) where
  effects : List (Effect σ)
  /-- The value for the last effect. -/
  value : Option String

/-- Puts an effect in front of the others. -/
def Request.cons (effect : Effect σ) (r : Request σ) : Request σ :=
  { r with effects := effect :: r.effects }

/-- Letters behind an option that takes no value: each is an option again, and the first one that
takes a value takes the rest, if there is any. -/
def readLetters (g : Grammar σ) : List Char → Except Ending (Request σ)
  | [] => .error .misused
  | c :: rest =>
    match g.options.lookup (String.ofList ['-', c]), rest with
    | none, _ => .error .misused
    | some effect, [] => .ok { effects := [effect], value := none }
    | some (.value f), text => .ok { effects := [.value f], value := some (String.ofList text) }
    | some effect, _ => (readLetters g rest).map (Request.cons effect)

/-- What an option and the text in its argument ask for. Nothing follows the name of an option that
takes no value. -/
def request (g : Grammar σ) (effect : Effect σ) (attached : Attached) :
    Except Ending (Request σ) :=
  match effect, attached with
  | .value f, attached => .ok { effects := [.value f], value := attached.value? }
  | effect, .none => .ok { effects := [effect], value := none }
  | _, .toName _ => .error .misused
  | effect, .toLetter text => (readLetters g text).map (Request.cons effect)

/-- Does the effects one after the other; the value goes to the one that takes a value. Two hyphens are
no value here; in the newer releases they would be one. -/
def perform (value : String) : List (Effect σ) → Progress σ → Except Ending (Progress σ)
  | [], p => .ok p
  | .help :: _, _ => .error .help
  | .switch f :: rest, p => perform value rest { p with state := f p.state }
  | .value f :: rest, p =>
    match f (if value = separatorText then none else some value) p.state with
    | none => .error .misused
    | some state => perform value rest { p with state := state }

/-- Does what the options in one argument ask for. -/
def Progress.grant (p : Progress σ) (r : Request σ) (value : String) :
    Except Ending (Progress σ) :=
  perform value r.effects { p with placed := false }

/-- Whether the last effect takes the next argument as its value. -/
def Request.wantsNext (r : Request σ) : Bool :=
  match r.effects.getLast?, r.value with
  | some (.value _), none => true
  | _, _ => false

/-- The effects of a list of words. The separator has a place only beside a positional argument. -/
def readWords (g : Grammar σ) : List (Word σ) → Progress σ → Except Ending (Progress σ)
  | [], p => .ok p
  | .separator :: rest, p =>
    let placed := p.placed || !rest.isEmpty && !p.missing.isEmpty
    readWords g rest { p with surplus := p.surplus || !placed }
  | .plain s :: rest, p => readWords g rest (p.place s)
  | .unknown :: rest, p => readWords g rest { p with placed := false, surplus := true }
  | .option effect attached :: rest, p =>
    match request g effect attached with
    | .error e => .error e
    | .ok r =>
      if r.wantsNext then
        match rest with
        | .plain s :: rest =>
          match p.grant r s with
          | .error e => .error e
          | .ok p => readWords g rest p
        | _ => .error .misused
      else
        match p.grant r (r.value.getD "") with
        | .error e => .error e
        | .ok p => readWords g rest p

/-- The state that a list of arguments leads to from a first state. -/
def Grammar.read (g : Grammar σ) (start : σ) (arguments : List String) : Except Ending σ :=
  match classifyAll g arguments with
  | .error e => .error e
  | .ok words =>
    match readWords g words { state := start, missing := g.positionals } with
    | .error e => .error e
    | .ok p => if p.missing.isEmpty && !p.surplus then .ok p.state else .error .misused

end ClusterConnect.CommandLine
