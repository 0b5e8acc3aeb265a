import Keyring.Store.Operation

/-!
# The shared store

A store behind one lock, for any number of handles.  A writer that crashes
while it holds the lock leaves it poisoned for good: writes are refused from
then on, while reads recover the store and say so.
-/

namespace Keyring

structure SharedStore where
  store : Store := {}
  poisoned : Bool := false
  deriving DecidableEq

namespace SharedStore

def new : SharedStore := {}

def ofStore (store : Store) : SharedStore := { store }

def ofConfig (config : Config) : Reply SharedStore Unit :=
  let reply := Store.ofConfig config
  ⟨(), .ofStore reply.next, reply.events⟩

/-- The fault of a write that meets a poisoned lock. -/
def refusal : Operation → Fault
  | .put .. => .insertionFailed Fault.poisonDetail
  | _ => .lockPoisoned Fault.poisonDetail

/-- One call, which takes the lock once. -/
def perform (shared : SharedStore) (operation : Operation) :
    Reply SharedStore (Outcome Answer) :=
  if operation.isRead then
    let reply := shared.store.perform operation
    ⟨reply.answer, { shared with store := reply.next },
      if shared.poisoned then .recoveredForRead :: reply.events else reply.events⟩
  else if shared.poisoned then
    ⟨.failed (refusal operation), shared, []⟩
  else
    let reply := shared.store.perform operation
    ⟨reply.answer, { store := reply.next, poisoned := reply.answer == .crashed }, reply.events⟩

def run (shared : SharedStore) : List Operation → Reply SharedStore (List (Outcome Answer))
  | [] => ⟨[], shared, []⟩
  | operation :: rest =>
    let first := shared.perform operation
    let others := first.next.run rest
    ⟨first.answer :: others.answer, others.next, first.events ++ others.events⟩

end SharedStore
end Keyring
