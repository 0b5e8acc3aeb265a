import Keyring.Figure
import Keyring.Shared
import Keyring.Text.Quoted

/-!
# Diagnostic texts

How credentials, stores, configurations and faults are shown for diagnosis.
Names and keys are quoted; a secret is its placeholder, without quotes.
-/

namespace Keyring

def Figure.quoted (text : String) : Figure :=
  .plain (Text.quote text)

def Figure.ofBool (value : Bool) : Figure :=
  .plain (if value then "true" else "false")

def Mode.figure (mode : Mode) : Figure :=
  .plain mode.label

def WritePolicy.figure (policy : WritePolicy) : Figure :=
  .plain policy.label

def Secret.figure (secret : Secret) : Figure :=
  .plain secret.render

def Credential.figure (credential : Credential) : Figure :=
  .record "CredentialTuple"
    [("username", .quoted credential.username), ("domain", .quoted credential.domain),
      ("secret", credential.secret.figure)]
    false

/-- The entries of a set, in the order of their keys. -/
def Entries.figure (entries : Entries) : Figure :=
  .mapping (entries.toList.map fun entry => (Text.quote entry.1, entry.2.figure))

def Store.figure (store : Store) : Figure :=
  .record "CredentialStore"
    [("persistent", Entries.figure store.persistent), ("temporary", Entries.figure store.temporary),
      ("mode", store.mode.figure), ("default_policy", store.defaultPolicy.figure)]
    false

/-- The lock around the store is shown with its state, and as an open record. -/
def SharedStore.figure (shared : SharedStore) : Figure :=
  .record "SharedCredentialStore"
    [("inner", .record "RwLock"
      [("data", shared.store.figure), ("poisoned", .ofBool shared.poisoned)] true)]
    false

def Config.figure (config : Config) : Figure :=
  .record "CacheConfig"
    [("start_in_temp_mode", .ofBool config.startTemporary),
      ("default_policy", config.defaultPolicy.figure),
      ("client_queue_capacity", .plain (toString config.queueCapacity.toNat))]
    false

def Fault.figure : Fault → Figure
  | .insertionFailed detail => .wrapper "InsertionFailed" [.quoted detail]
  | .lockPoisoned detail => .wrapper "LockPoisoned" [.quoted detail]
  | .clientClosed => .plain "ClientClosed"
  | .configuration detail => .wrapper "Configuration" [.quoted detail]

end Keyring
