import Std.Data.ExtTreeMap

/-!
# Credentials

A credential names an account and its domain and holds a secret.  The secret
is a type of its own, and every rendering of it is the same placeholder, so a
credential can be shown without being disclosed.
-/

namespace Keyring

/-- A password or token. -/
structure Secret where
  /-- The value itself, for the one caller that has to present it. -/
  expose : String
  deriving DecidableEq

namespace Secret

def placeholder : String := "[REDACTED]"

def empty : Secret := ⟨""⟩

def isEmpty (secret : Secret) : Bool :=
  secret.expose.isEmpty

/-- Every rendering of a secret. -/
def render (_secret : Secret) : String := placeholder

end Secret

instance : Inhabited Secret := ⟨.empty⟩
instance : ToString Secret := ⟨Secret.render⟩
instance : Repr Secret := ⟨fun secret _ => Std.Format.text secret.render⟩

/-- Access data for a server or share. -/
structure Credential where
  username : String
  domain : String
  secret : Secret
  deriving DecidableEq, Repr

namespace Credential

/-- The credential without content, which answers a lookup that finds nothing. -/
def empty : Credential := ⟨"", "", .empty⟩

def isEmpty (credential : Credential) : Bool :=
  credential.username.isEmpty && credential.domain.isEmpty && credential.secret.isEmpty

theorem isEmpty_iff (credential : Credential) :
    credential.isEmpty = true ↔ credential = empty := by
  obtain ⟨username, domain, ⟨secret⟩⟩ := credential
  simp [isEmpty, Secret.isEmpty, empty, Secret.empty, and_assoc]

end Credential

instance : Inhabited Credential := ⟨.empty⟩

/-- One set of credentials, by key.  Two sets with the same entries are equal. -/
abbrev Entries := Std.ExtTreeMap String Credential

/-- The conventional key of a share.  Keys are never normalized. -/
def shareKey (server share : String) : String :=
  server ++ "\\" ++ share

end Keyring
