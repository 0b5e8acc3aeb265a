import Keyring.Shared

/-!
# The calls of a shared store

Every call takes the lock once, either to look at the store or to change it.  A
put that always replaces goes through a put under a policy and drops its answer;
a put by default asks the store behind the lock for the policy.

`serve` makes a call by its own function.  It does what `perform` does, which
tells the calls apart by little more than whether they read.
-/

namespace Keyring

/-- A put whose key is still to be converted. -/
def Store.putFrom (store : Store) (policy : WritePolicy) (source : KeySource)
    (credential : Credential) : Reply Store (Outcome Bool) :=
  match source with
  | .crashing => ⟨.crashed, store, []⟩
  | .text key =>
    let reply := store.put policy key credential
    ⟨.done reply.answer, reply.next, reply.events⟩

namespace SharedStore

variable {α β : Type}

/-- Looks at the store.  A poisoned lock is recovered, and the log says so. -/
def look (shared : SharedStore) (reading : Store → Reply Store α) :
    Reply SharedStore (Outcome α) :=
  let reply := reading shared.store
  ⟨.done reply.answer, { shared with store := reply.next },
    if shared.poisoned then .recoveredForRead :: reply.events else reply.events⟩

/-- Changes the store, unless the lock is poisoned.  A crash on the way poisons it. -/
def change (shared : SharedStore) (refusal : String → Fault)
    (writing : Store → Reply Store (Outcome α)) : Reply SharedStore (Outcome α) :=
  if shared.poisoned then ⟨.failed (refusal Fault.poisonDetail), shared, []⟩
  else
    let reply := writing shared.store
    let crashed := match reply.answer with
      | .crashed => true
      | _ => false
    ⟨reply.answer, { store := reply.next, poisoned := crashed }, reply.events⟩

def command (shared : SharedStore) (writing : Store → Reply Store Unit) :
    Reply SharedStore (Outcome Unit) :=
  shared.change .lockPoisoned fun store =>
    let reply := writing store
    ⟨.done reply.answer, reply.next, reply.events⟩

def retold (reply : Reply SharedStore (Outcome α)) (answer : α → β) :
    Reply SharedStore (Outcome β) :=
  ⟨reply.answer.map answer, reply.next, reply.events⟩

def putUnder (shared : SharedStore) (policy : WritePolicy) (source : KeySource)
    (credential : Credential) : Reply SharedStore (Outcome Bool) :=
  shared.change .insertionFailed fun store => store.putFrom policy source credential

def put (shared : SharedStore) (source : KeySource) (credential : Credential) :
    Reply SharedStore (Outcome Unit) :=
  retold (shared.putUnder .overwrite source credential) fun _ => ()

def putByDefault (shared : SharedStore) (source : KeySource) (credential : Credential) :
    Reply SharedStore (Outcome Bool) :=
  shared.change .insertionFailed fun store =>
    store.putFrom store.defaultPolicy source credential

/-- A call, made by the function that is there for it. -/
def serve (shared : SharedStore) : Operation → Reply SharedStore (Outcome Answer)
  | .get key => retold (shared.look fun store => store.get key) .credential
  | .lookup key => retold (shared.look fun store => ⟨store.lookup key, store, []⟩) .optional
  | .contains key => retold (shared.look fun store => ⟨store.contains key, store, []⟩) .flag
  | .count => retold (shared.look fun store => ⟨store.count, store, []⟩) .count
  | .isEmpty => retold (shared.look fun store => ⟨store.isEmpty, store, []⟩) .flag
  | .mode => retold (shared.look fun store => ⟨store.mode, store, []⟩) .mode
  | .isTemporary => retold (shared.look fun store => ⟨store.mode.isTemporary, store, []⟩) .flag
  | .defaultPolicy => retold (shared.look fun store => ⟨store.defaultPolicy, store, []⟩) .policy
  | .put .replace source credential => retold (shared.put source credential) fun _ => .nothing
  | .put .byDefault source credential => retold (shared.putByDefault source credential) .flag
  | .put (.under policy) source credential =>
    retold (shared.putUnder policy source credential) .flag
  | .remove key => retold (shared.command fun store => store.remove key) fun _ => .nothing
  | .setMode mode => retold (shared.command fun store => store.setMode mode) fun _ => .nothing
  | .clearTemporary => retold (shared.command fun store => store.clearTemporary) fun _ => .nothing

theorem serve_eq_perform (shared : SharedStore) (operation : Operation) :
    shared.serve operation = shared.perform operation := by
  obtain ⟨store, poisoned⟩ := shared
  cases operation with
  | put rule source credential =>
      cases rule <;> cases source <;> cases poisoned <;> rfl
  | remove key => cases poisoned <;> rfl
  | setMode mode => cases poisoned <;> rfl
  | clearTemporary => cases poisoned <;> rfl
  | _ => rfl

end SharedStore
end Keyring
