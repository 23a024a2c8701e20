import ClusterConnect.Failure

/-!
# Registries of drivers

A registry holds drivers in the order of their registration and offers a URL to each of them in
turn.

* `Registry`: the drivers and the time limit for all of them; `register`, `deregister`.
* `Registry.driverFor`: the first driver that accepts a URL.
* `Registry.connect`: the first connection that a driver gives.
* `Registrations`: several registries, and the one driver that registers itself.

Drivers are told apart by a type `δ`; what they do is an argument.
-/

namespace ClusterConnect

/-- Drivers in the order in which they are tried. -/
structure Registry (δ τ : Type) where
  drivers : List δ := []
  /-- The time limit for connections that set none, in seconds. -/
  loginTimeout : τ

/-- The error for a URL that no driver takes. -/
def noSuitableDriver (url : Option String) : Failure :=
  .driver (.ofKind .noSuitableDriver ("No suitable driver found for " ++ url.getD "None"))

namespace Registry

variable {δ τ : Type} [DecidableEq δ]

/-- Adds a driver behind the others, unless it is there already. -/
def register (r : Registry δ τ) (d : δ) : Registry δ τ :=
  if d ∈ r.drivers then r else { r with drivers := r.drivers ++ [d] }

/-- Adds drivers one after the other. -/
def registerMany (r : Registry δ τ) (ds : List δ) : Registry δ τ := ds.foldl register r

/-- Removes a driver. -/
def deregister (r : Registry δ τ) (d : δ) : Registry δ τ :=
  { r with drivers := r.drivers.filter (· ≠ d) }

/-- Whether a driver is registered. -/
def contains (r : Registry δ τ) (d : δ) : Bool := d ∈ r.drivers

end Registry

/-! ## Offering a URL -/

section

variable {m : Type → Type} [Monad m] {δ κ : Type}

/-- The first driver that accepts, in the order of the list. -/
def firstAccepting (accepts : δ → m (Except Failure Bool)) (noneAccepts : Failure) :
    List δ → m (Except Failure δ)
  | [] => pure (.error noneAccepts)
  | d :: ds => do
    match ← accepts d with
    | .ok true => pure (.ok d)
    | .ok false => firstAccepting accepts noneAccepts ds
    | .error f => pure (.error f)

/-- The first connection that a driver gives, in the order of the list. A driver that declines is
passed over, and one that fails with an error of the driver's own kinds is, too; the first such
error counts if no later driver gives a connection. Any other failure ends the search. -/
def firstConnecting (ask : δ → m (Except Failure (Option κ))) (noneConnects : Failure) :
    (earlier : Option Failure) → List δ → m (Except Failure κ)
  | earlier, [] => pure (.error (earlier.getD noneConnects))
  | earlier, d :: ds => do
    match ← ask d with
    | .ok (some c) => pure (.ok c)
    | .ok none => firstConnecting ask noneConnects earlier ds
    | .error (.driver e) =>
      firstConnecting ask noneConnects (earlier.or (some (.driver e))) ds
    | .error (.foreign e) => pure (.error (.foreign e))

namespace Registry

variable {τ : Type}

/-- The first driver that accepts a URL. -/
def driverFor (r : Registry δ τ) (accepts : δ → m (Except Failure Bool)) (url : Option String) :
    m (Except Failure δ) :=
  firstAccepting accepts (noSuitableDriver url) r.drivers

/-- The first connection that a driver gives for a URL. -/
def connect (r : Registry δ τ) (ask : δ → m (Except Failure (Option κ))) (url : Option String) :
    m (Except Failure κ) :=
  firstConnecting ask (noSuitableDriver url) none r.drivers

end Registry

end

/-! ## The driver that registers itself -/

/-- Registries by place, and the driver that has registered itself with its place. -/
structure Registrations (ι δ τ : Type) where
  registries : ι → Registry δ τ
  registered : Option (δ × ι) := none

namespace Registrations

variable {ι δ τ : Type} [DecidableEq ι] [DecidableEq δ]

/-- Changes the registry at one place. -/
def change (r : Registrations ι δ τ) (place : ι) (f : Registry δ τ → Registry δ τ) :
    Registrations ι δ τ :=
  { r with registries := fun p => if p = place then f (r.registries p) else r.registries p }

/-- Whether a driver has registered itself. -/
def isRegistered (r : Registrations ι δ τ) : Bool := r.registered.isSome

/-- A driver registers itself. There can be only one at a time. -/
def enroll (r : Registrations ι δ τ) (place : ι) (d : δ) : Except Failure (Registrations ι δ τ) :=
  match r.registered with
  | some _ =>
    .error (.ofForeign .wrongState
      "Driver is already registered. It can only be registered once.")
  | none => .ok { r.change place (·.register d) with registered := some (d, place) }

/-- The driver that has registered itself leaves its registry. -/
def withdraw (r : Registrations ι δ τ) : Except Failure (Registrations ι δ τ) :=
  match r.registered with
  | none =>
    .error (.ofForeign .wrongState ("Driver is not registered " ++
      "(or it has not been registered using Driver.register() method)."))
  | some (d, place) => .ok { r.change place (·.deregister d) with registered := none }

end Registrations

end ClusterConnect
