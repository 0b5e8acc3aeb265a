import Keyring.Config
import Keyring.Credential
import Keyring.Event

/-!
# The credential store

A store holds a persistent and a temporary set of credentials and directs
every call to the set that its mode selects.  Switching modes neither copies
nor clears anything; clearing empties the temporary set in either mode.
-/

namespace Keyring

structure Store where
  persistent : Entries := ∅
  temporary : Entries := ∅
  mode : Mode := .persistent
  defaultPolicy : WritePolicy := .overwrite
  deriving DecidableEq

namespace Store

def new : Store := {}

def ofConfig (config : Config) : Reply Store Unit where
  answer := ()
  next := { mode := config.initialMode, defaultPolicy := config.defaultPolicy }
  events := [.storeOpened config.initialMode config.defaultPolicy]

def entries (store : Store) : Mode → Entries
  | .persistent => store.persistent
  | .temporary => store.temporary

/-- The set that calls address. -/
def active (store : Store) : Entries :=
  store.entries store.mode

/-- The set that calls leave alone. -/
def inactive (store : Store) : Entries :=
  store.entries store.mode.other

def modifyActive (store : Store) (change : Entries → Entries) : Store :=
  match store.mode with
  | .persistent => { store with persistent := change store.persistent }
  | .temporary => { store with temporary := change store.temporary }

@[simp] theorem mode_modifyActive (store : Store) (change : Entries → Entries) :
    (store.modifyActive change).mode = store.mode := by
  unfold modifyActive; split <;> rfl

@[simp] theorem defaultPolicy_modifyActive (store : Store) (change : Entries → Entries) :
    (store.modifyActive change).defaultPolicy = store.defaultPolicy := by
  unfold modifyActive; split <;> rfl

theorem entries_modifyActive (store : Store) (change : Entries → Entries) (mode : Mode) :
    (store.modifyActive change).entries mode =
      if mode = store.mode then change (store.entries mode) else store.entries mode := by
  unfold modifyActive
  cases hmode : store.mode <;> cases mode <;> simp [entries]

@[simp] theorem active_modifyActive (store : Store) (change : Entries → Entries) :
    (store.modifyActive change).active = change store.active := by
  simp [active, entries_modifyActive]

/-- The entry of a key, if the active set has one. -/
def lookup (store : Store) (key : String) : Option Credential :=
  store.active[key]?

def contains (store : Store) (key : String) : Bool :=
  store.active.contains key

def count (store : Store) : Nat :=
  store.active.size

def isEmpty (store : Store) : Bool :=
  store.active.isEmpty

/-- The entry of a key, or the empty credential. -/
def get (store : Store) (key : String) : Reply Store Credential :=
  match store.lookup key with
  | some credential => ⟨credential, store, [.found key store.mode]⟩
  | none => ⟨.empty, store, [.missed key store.mode]⟩

/-- Writes under a policy and answers whether the credential was stored. -/
def put (store : Store) (policy : WritePolicy) (key : String) (credential : Credential) :
    Reply Store Bool :=
  let storing := Event.storing key store.mode policy
  if policy = .insertIfAbsent ∧ store.contains key then
    ⟨false, store, [storing, .keptExisting key store.mode]⟩
  else
    ⟨true, store.modifyActive (·.insert key credential), [storing]⟩

/-- Deletes a key from the active set; an absent key is passed over in silence. -/
def remove (store : Store) (key : String) : Reply Store Unit :=
  if store.contains key then
    ⟨(), store.modifyActive (·.erase key), [.removed key store.mode]⟩
  else
    ⟨(), store, []⟩

def setMode (store : Store) (mode : Mode) : Reply Store Unit :=
  ⟨(), { store with mode },
    if store.mode = mode then [] else [.switching store.mode mode]⟩

/-- Empties the temporary set, whichever mode is active. -/
def clearTemporary (store : Store) : Reply Store Unit :=
  ⟨(), { store with temporary := ∅ }, [.clearedTemporary store.temporary.size]⟩

end Store
end Keyring
