/-!
# Faults

A bare store never fails.  The layers around it can: a lock that a writer left
poisoned, a queue whose worker is gone, a configuration that cannot be used.
`Outcome` is how a call through such a layer ends.
-/

namespace Keyring

inductive Fault where
  /-- A write was not applied. -/
  | insertionFailed (detail : String)
  /-- The lock was left by a writer that crashed. -/
  | lockPoisoned (detail : String)
  /-- The worker behind a client is gone. -/
  | clientClosed
  | configuration (detail : String)
  deriving DecidableEq, Repr

namespace Fault

/-- What is reported of a lock that was left poisoned. -/
def poisonDetail : String := "poisoned lock: another task failed inside"

def message : Fault → String
  | .insertionFailed detail => "Insertion failed: " ++ detail
  | .lockPoisoned detail => "Lock poisoned: " ++ detail
  | .clientClosed => "Credential cache client closed"
  | .configuration detail => "Configuration error: " ++ detail

end Fault

/-- How a call ends: answered, refused, or broken off by a crash of its caller. -/
inductive Outcome (α : Type) where
  | done (answer : α)
  | failed (fault : Fault)
  | crashed
  deriving DecidableEq, Repr

namespace Outcome

def map {α β : Type} (f : α → β) : Outcome α → Outcome β
  | .done answer => .done (f answer)
  | .failed fault => .failed fault
  | .crashed => .crashed

end Outcome
end Keyring
