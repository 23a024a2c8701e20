/-!
# The loop behind the built-in connector

All links of the built-in connector are served by one background loop. It is started when it is
first needed, and again when it has been stopped in the meantime.
-/

namespace ClusterConnect

/-- The loops started so far. -/
structure SharedLoop where
  /-- The number of loops that have been started. -/
  started : Nat := 0
  /-- Whether the latest of them runs. -/
  running : Bool := false
deriving Repr, DecidableEq

namespace SharedLoop

/-- The latest loop, if any has been started. -/
def latest? (s : SharedLoop) : Option Nat := if s.started = 0 then none else some (s.started - 1)

/-- The loop to use, as its number, after one has been started if none runs. -/
def acquire (s : SharedLoop) : Nat × SharedLoop :=
  if s.running && s.started != 0 then (s.started - 1, s) else (s.started, ⟨s.started + 1, true⟩)

/-- Stops the latest loop, whether it runs or not; `none` if none has been started. -/
def shutdown? (s : SharedLoop) : Option SharedLoop :=
  if s.started = 0 then none else some { s with running := false }

end SharedLoop

end ClusterConnect
