import ClusterConnect.Text.Quoted
import ClusterConnect.Value

/-!
# Failures

What can go wrong, seen from the application.

* `SqlState`: the five-character codes attached to the driver's own errors.
* `ErrorKind`: the driver's own kinds of error, with their default code and the kind each of them
  refines.
* `DriverError`: an error of the driver, with its message and, where another failure led to it,
  that failure.
* `ForeignError`: a failure of the operating system, the server or the surrounding program.
* `Failure`: one or the other.
-/

namespace ClusterConnect

/-- The codes attached to the driver's errors. -/
inductive SqlState where
  | unexpectedError
  | unableToConnect
  | connectionFailure
  | linkChanged
  | notImplemented
  | invalidParameterValue
  | queryCanceled
deriving Repr, DecidableEq

/-- The five characters of a code. -/
def SqlState.code : SqlState → String
  | .unexpectedError => "XX000"
  | .unableToConnect => "08001"
  | .connectionFailure => "08006"
  | .linkChanged => "08S02"
  | .notImplemented => "0A000"
  | .invalidParameterValue => "22023"
  | .queryCanceled => "57014"

/-- Every code. -/
def SqlState.all : List SqlState :=
  [.unexpectedError, .unableToConnect, .connectionFailure, .linkChanged, .notImplemented,
   .invalidParameterValue, .queryCanceled]

/-- The state with the given code. -/
def SqlState.ofCode? (code : String) : Option SqlState := SqlState.all.find? (·.code == code)

/-- The driver's own kinds of error. -/
inductive ErrorKind where
  /-- Any error that the driver raises on purpose. -/
  | general
  /-- A URL that belongs to the driver and breaks its grammar. -/
  | malformedUrl
  /-- A plain URL where only cluster URLs are accepted. -/
  | protocolRejected
  /-- A caller supplied property that is not text. -/
  | invalidOverride
  /-- A configuration file that cannot be read or has the wrong shape. -/
  | config
  /-- The link to the server cannot be opened, or is lost. -/
  | connectionFailed
  /-- The time limit of a connection attempt has passed. -/
  | connectionTimeout
  /-- The caller of a connection attempt has stopped waiting. -/
  | connectionCancelled
  /-- No registered driver takes a URL. -/
  | noSuitableDriver
  /-- A statement that fails on an open connection. -/
  | query
  /-- The connection has been replaced; the statement is lost and the handle works again. -/
  | failoverSucceeded
  /-- The connection is lost and could not be replaced. -/
  | failoverFailed
  /-- A failure outside the driver's own kinds. -/
  | unexpected
  /-- A method that is deliberately missing. -/
  | featureNotSupported
deriving Repr, DecidableEq

namespace ErrorKind

/-- The code of a kind unless a particular error states another. -/
def defaultState : ErrorKind → SqlState
  | .malformedUrl | .protocolRejected | .invalidOverride => .invalidParameterValue
  | .connectionFailed | .connectionTimeout | .noSuitableDriver => .unableToConnect
  | .connectionCancelled => .queryCanceled
  | .failoverSucceeded => .linkChanged
  | .failoverFailed => .connectionFailure
  | .featureNotSupported => .notImplemented
  | .general | .config | .query | .unexpected => .unexpectedError

/-- The kind that a kind refines, `none` for the most general one. -/
def refines? : ErrorKind → Option ErrorKind
  | .general => none
  | .protocolRejected => some .malformedUrl
  | _ => some .general

/-- The kinds that a kind refines, nearest first. -/
def ancestors (k : ErrorKind) : List ErrorKind :=
  match k.refines? with
  | none => []
  | some p => p :: (p.refines?).toList

/-- Whether an error of this kind reports a URL that breaks the grammar or is refused. -/
def isMalformedUrl (k : ErrorKind) : Bool := k = .malformedUrl || k = .protocolRejected

end ErrorKind

/-! ## Failures from outside the driver -/

/-- Faults of the operating system. -/
inductive SystemFault where
  | general
  | timedOut
  | notFound
  | isDirectory
  | notDirectory
  | alreadyExists
  | permissionDenied
  | connectionReset
  | connectionRefused
  | connectionAborted
  | brokenPipe
  | otherConnection
  /-- An operation that would have to wait. -/
  | wouldBlock
  /-- An operation on a child process. -/
  | childProcess
  /-- A signal in the middle of an operation. -/
  | interrupted
  /-- No process of the given number. -/
  | processLookup
deriving Repr, DecidableEq

/-- Faults that the database server reports. -/
inductive ServerFault where
  | general
  | connection
  | connectionGone
  | connectionFailure
  | connectionRejected
  | cannotConnectNow
  | adminShutdown
  | undefinedTable
  | uniqueViolation
  | queryCanceled
  | tooManyConnections
  | invalidPassword
deriving Repr, DecidableEq

/-- Whether a server fault means that the link to the server is lost. -/
def ServerFault.losesLink : ServerFault → Bool
  | .connection | .connectionGone | .connectionFailure | .connectionRejected => true
  | _ => false

/-- Kinds of failure that are not the driver's own. -/
inductive ForeignKind where
  /-- A value that cannot be used. -/
  | unusableValue
  /-- Bytes that are not well-formed text. -/
  | undecodable
  /-- A configuration file that is not a document. -/
  | malformedDocument
  /-- A document of the wrong shape. -/
  | invalidDocument
  /-- A key without entry. -/
  | missingKey
  | system (fault : SystemFault)
  | server (fault : ServerFault)
  /-- A session used in a way its library refuses. -/
  | misuse
  /-- A state of the program that does not allow the operation. -/
  | wrongState
  /-- A command that ended with an error code. -/
  | failedCommand
  /-- A member that an object does not have. -/
  | missingMember
  /-- An argument of the wrong type. -/
  | wrongType
  /-- The end of an iteration. -/
  | iterationEnd
  /-- The user has interrupted the program. -/
  | userInterrupt
  /-- The program is asked to end. -/
  | programExit
  /-- A number that is too large for what it is wanted for. -/
  | overflow
  /-- Something that is nested more deeply than can be handled. -/
  | nestingTooDeep
  /-- Any other failure, by name. -/
  | other (name : String)
  /-- Any other failure that ends the program, by name. -/
  | ends (name : String)
deriving Repr, DecidableEq

/-- Whether a failure of this kind ends the program rather than being handled by it. -/
def ForeignKind.endsProgram : ForeignKind → Bool
  | .userInterrupt | .programExit | .ends _ => true
  | _ => false

/-- A failure of the operating system, the server or the surrounding program. -/
structure ForeignError where
  kind : ForeignKind
  message : String
deriving Repr, DecidableEq

mutual

/-- Any failure. -/
inductive Failure where
  | driver (error : DriverError)
  | foreign (error : ForeignError)

/-- An error of the driver. -/
structure DriverError where
  kind : ErrorKind
  message : String
  state : SqlState
  /-- The URL, the property key or the statement that the error is about. -/
  subject : Option Value
  /-- The failure that led to this one. -/
  cause : Option Failure

end

/-- The message of an error that nothing more is known about. -/
def unexpectedMessage : String :=
  "Something unusual has occurred to cause the driver to fail. Please report this exception."

namespace DriverError

/-- An error of a kind with its default code. -/
def ofKind (kind : ErrorKind) (message : String) : DriverError :=
  ⟨kind, message, kind.defaultState, none, none⟩

/-- The same error about a URL, a key or a statement. -/
def about (e : DriverError) (subject : Value) : DriverError := { e with subject := some subject }

/-- The same error, led to by another failure. -/
def causedBy (e : DriverError) (cause : Failure) : DriverError := { e with cause := some cause }

/-- A failure outside the driver's kinds, with a default message in place of an empty one. -/
def unexpected (message : String) : DriverError :=
  ofKind .unexpected (if message.isEmpty then unexpectedMessage else message)

/-- A caller supplied property that is not text. -/
def invalidOverride (key typeName : String) : DriverError :=
  (ofKind .invalidOverride ("Properties for the driver contains a non-string value for the key " ++
    key ++ " (" ++ typeName ++ ")")).about (.text key)

/-- A statement on a connection that the application has closed. -/
def connectionClosed (query : Value) : DriverError :=
  (ofKind .query "This connection has been closed.").about query

/-- A method that is deliberately missing. -/
def notImplemented (owner method : String) : DriverError :=
  ofKind .featureNotSupported ("Method " ++ owner ++ "." ++ method ++ " is not yet implemented.")

end DriverError

/-- The text of a foreign error inside another message. A missing key is shown in quotes. -/
def ForeignError.text (e : ForeignError) : String :=
  match e.kind with
  | .missingKey => Text.quoted e.message
  | _ => e.message

namespace Failure

/-- A foreign failure. -/
def ofForeign (kind : ForeignKind) (message : String) : Failure := .foreign ⟨kind, message⟩

/-- The text of a failure inside another message. -/
def text : Failure → String
  | .driver e => e.message
  | .foreign e => e.text

/-- Whether a failure ends the program rather than being handled by it. -/
def endsProgram : Failure → Bool
  | .driver _ => false
  | .foreign e => e.kind.endsProgram

/-- The driver error, if the failure is one. -/
def driver? : Failure → Option DriverError
  | .driver e => some e
  | .foreign _ => none

/-- Whether a failure is a driver error of exactly the given kind. -/
def isKind (f : Failure) (kind : ErrorKind) : Bool :=
  match f with
  | .driver e => e.kind = kind
  | .foreign _ => false

/-- A failure as the driver reports it: its own errors unchanged, everything else as unexpected. -/
def reported : Failure → Failure
  | .driver e => .driver e
  | .foreign e =>
    if e.kind.endsProgram then .foreign e
    else .driver ((DriverError.unexpected "").causedBy (.foreign e))

/-- What has been reported once is not wrapped again. -/
@[simp] theorem reported_reported (f : Failure) : f.reported.reported = f.reported := by
  cases f with
  | driver e => rfl
  | foreign e =>
    unfold reported
    cases h : e.kind.endsProgram <;> simp [h]

end Failure

/-! ## Answers with another failure -/

theorem mapError_eq_ok_iff {ε ε' α : Type} {r : Except ε α} {f : ε → ε'} {x : α} :
    r.mapError f = .ok x ↔ r = .ok x := by
  cases r with
  | ok y => exact ⟨fun h => congrArg _ (Except.ok.inj h), fun h => congrArg _ (Except.ok.inj h)⟩
  | error e => exact ⟨nofun, nofun⟩

theorem mapError_eq_error_iff {ε ε' α : Type} {r : Except ε α} {f : ε → ε'} {e' : ε'} :
    r.mapError f = .error e' ↔ ∃ e, r = .error e ∧ f e = e' := by
  cases r with
  | ok y => exact ⟨nofun, fun ⟨_, h, _⟩ => nomatch h⟩
  | error e =>
    constructor
    · exact fun h => ⟨e, rfl, Except.error.inj h⟩
    · rintro ⟨_, h, rfl⟩
      obtain rfl := Except.error.inj h
      rfl

/-! ## Answers in pairs -/

/-- Two answers that are both failures or both values, with `E` between the failures or `S` between
the values. -/
inductive Paired {ε α : Type} (E : ε → ε → Prop) (S : α → α → Prop) :
    Except ε α → Except ε α → Prop where
  | error {e e' : ε} (h : E e e') : Paired E S (.error e) (.error e')
  | ok {x x' : α} (h : S x x') : Paired E S (.ok x) (.ok x')

namespace Paired

variable {ε α β : Type} {E : ε → ε → Prop} {S : α → α → Prop} {T : β → β → Prop} {r r' : Except ε α}

theorem cases (h : Paired E S r r') :
    (∃ e e', r = .error e ∧ r' = .error e' ∧ E e e') ∨
      ∃ x x', r = .ok x ∧ r' = .ok x' ∧ S x x' := by
  cases h with
  | error he => exact .inl ⟨_, _, rfl, rfl, he⟩
  | ok hx => exact .inr ⟨_, _, rfl, rfl, hx⟩

theorem map {f f' : α → β} (h : Paired E S r r') (hf : ∀ x x', S x x' → T (f x) (f' x')) :
    Paired E T (r.map f) (r'.map f') := by
  cases h with
  | error he => exact .error he
  | ok hx => exact .ok (hf _ _ hx)

/-- Two answers that are gone on with, each in its own way. -/
theorem bind {k k' : α → Except ε β} (h : Paired E S r r')
    (hk : ∀ x x', S x x' → Paired E T (k x) (k' x')) : Paired E T (r.bind k) (r'.bind k') := by
  cases h with
  | error he => exact .error he
  | ok hx => exact hk _ _ hx

end Paired

end ClusterConnect
