import ClusterConnect.Url
import ClusterConnect.Value

/-!
# Resolution of properties

The properties of a connection come from three layers: defaults, what the caller supplies, and the
URL. Later layers win name by name. What the caller supplies may hold values of any type and is
checked first.

* `Overrides`: what the caller supplies; `Overrides.check` admits texts only.
* `resolve`: the three layers together.
-/

namespace ClusterConnect

/-- What a caller supplies: keys and values of any type. -/
abbrev Overrides := List (Value × Value)

namespace Overrides

/-- Properties as what a caller supplies. -/
def ofProperties (p : Properties) : Overrides := p.entries.map fun e => (.text e.1, .text e.2)

/-- The names and values, if all of them are texts; else the first key that is no text or has no
text as its value, with that value. -/
def texts : Overrides → Except (Value × Value) (List (String × String))
  | [] => .ok []
  | (.text key, .text value) :: rest => (texts rest).map ((key, value) :: ·)
  | entry :: _ => .error entry

end Overrides

/-- Why the layers give no properties. -/
inductive ResolutionFault where
  /-- The caller supplies a key that is no text or has no text as its value. -/
  | override (key value : Value)
  | url (fault : UrlFault)

namespace ResolutionFault

/-- A fault as a failure. -/
def failure : ResolutionFault → Failure
  | .override key value => .driver (.invalidOverride key.asText value.typeName)
  | .url fault => fault.failure

/-- The line that the log shows about a fault, where it is worth a warning. -/
def warning? : ResolutionFault → Option String
  | .override .. => none
  | .url fault => fault.warning?

end ResolutionFault

/-- What a caller supplies as properties. -/
def Overrides.check (o : Overrides) : Except ResolutionFault Properties :=
  match o.texts with
  | .ok es => .ok (.ofList es)
  | .error (key, value) => .error (.override key value)

/-- The properties of a connection: `defaults`, then `overrides`, then the URL. `none` if the scheme
of the URL is not ours, whatever the caller supplies. -/
def resolve (url : Option String) (overrides : Overrides) (defaults : Properties) (strict : Bool) :
    Except ResolutionFault (Option Properties) :=
  match url with
  | none => .error (.url .missing)
  | some url =>
    if isOurs url then
      match overrides.check with
      | .error f => .error f
      | .ok given => (parseUrl (some url) (defaults.merge given) strict).mapError .url
    else .ok none

end ClusterConnect
