import Keyring.Store

/-!
# Operations on a store

The calls of a store as data, with their answers, so that whole runs can be
spoken about.  A put takes its key from the caller as a conversion that may
crash; the crash comes before anything is stored or reported.
-/

namespace Keyring

inductive KeySource where
  | text (key : String)
  /-- The caller's own conversion crashes before it yields a key. -/
  | crashing
  deriving DecidableEq, Repr

inductive PutRule where
  /-- The entry is replaced, and nothing is answered. -/
  | replace
  /-- The policy of the store. -/
  | byDefault
  | under (policy : WritePolicy)
  deriving DecidableEq, Repr

namespace PutRule

def policy (rule : PutRule) (default : WritePolicy) : WritePolicy :=
  match rule with
  | .replace => .overwrite
  | .byDefault => default
  | .under policy => policy

end PutRule

inductive Operation where
  | get (key : String)
  | lookup (key : String)
  | contains (key : String)
  | count
  | isEmpty
  | mode
  | isTemporary
  | defaultPolicy
  | put (rule : PutRule) (key : KeySource) (credential : Credential)
  | remove (key : String)
  | setMode (mode : Mode)
  | clearTemporary
  deriving DecidableEq, Repr

namespace Operation

def setTemporary (temp : Bool) : Operation :=
  .setMode (.ofTemp temp)

def isRead : Operation → Bool
  | .put .. | .remove _ | .setMode _ | .clearTemporary => false
  | _ => true

end Operation

inductive Answer where
  | nothing
  | flag (value : Bool)
  | count (value : Nat)
  | mode (value : Mode)
  | policy (value : WritePolicy)
  | credential (value : Credential)
  | optional (value : Option Credential)
  deriving DecidableEq, Repr

namespace Answer

/-- What a put answers: one that always replaces has nothing to tell. -/
def ofPut (rule : PutRule) (stored : Bool) : Answer :=
  match rule with
  | .replace => .nothing
  | _ => .flag stored

end Answer

namespace Store

def perform (store : Store) : Operation → Reply Store (Outcome Answer)
  | .get key =>
    let reply := store.get key
    ⟨.done (.credential reply.answer), reply.next, reply.events⟩
  | .lookup key => ⟨.done (.optional (store.lookup key)), store, []⟩
  | .contains key => ⟨.done (.flag (store.contains key)), store, []⟩
  | .count => ⟨.done (.count store.count), store, []⟩
  | .isEmpty => ⟨.done (.flag store.isEmpty), store, []⟩
  | .mode => ⟨.done (.mode store.mode), store, []⟩
  | .isTemporary => ⟨.done (.flag store.mode.isTemporary), store, []⟩
  | .defaultPolicy => ⟨.done (.policy store.defaultPolicy), store, []⟩
  | .put _ .crashing _ => ⟨.crashed, store, []⟩
  | .put rule (.text key) credential =>
    let reply := store.put (rule.policy store.defaultPolicy) key credential
    ⟨.done (.ofPut rule reply.answer), reply.next, reply.events⟩
  | .remove key =>
    let reply := store.remove key
    ⟨.done .nothing, reply.next, reply.events⟩
  | .setMode mode =>
    let reply := store.setMode mode
    ⟨.done .nothing, reply.next, reply.events⟩
  | .clearTemporary =>
    let reply := store.clearTemporary
    ⟨.done .nothing, reply.next, reply.events⟩

theorem next_perform_of_isRead {operation : Operation} (h : operation.isRead = true)
    (store : Store) : (store.perform operation).next = store := by
  cases operation <;> simp_all [Operation.isRead, perform, get]
  split <;> rfl

def run (store : Store) : List Operation → Reply Store (List (Outcome Answer))
  | [] => ⟨[], store, []⟩
  | operation :: rest =>
    let first := store.perform operation
    let others := first.next.run rest
    ⟨first.answer :: others.answer, others.next, first.events ++ others.events⟩

end Store
end Keyring
