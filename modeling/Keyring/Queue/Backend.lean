import Keyring.Shared

/-!
# Backends of a worker

A worker writes to a backend, which is any state with four write operations.
Each may answer, refuse or crash.  A worker reports what became of a request
and goes on with the next, unless the backend crashed under it.
-/

namespace Keyring
namespace Queue

structure Backend (σ : Type) where
  /-- Answers whether the credential was stored. -/
  put : σ → String → Credential → WritePolicy → Reply σ (Outcome Bool)
  remove : σ → String → Reply σ (Outcome Unit)
  setTemporary : σ → Bool → Reply σ (Outcome Unit)
  clearTemporary : σ → Reply σ (Outcome Unit)

inductive Request where
  | put (key : String) (credential : Credential) (policy : WritePolicy)
  | remove (key : String)
  | setTemporary (temp : Bool)
  | clearTemporary
  /-- Tell me when all that was accepted before this has been applied. -/
  | flush
  deriving DecidableEq, Repr

namespace Request

/-- The put that a share's address and account data stand for. -/
def putCredential (address workgroup username password : String) (overwrite : Bool) : Request :=
  .put address ⟨username, workgroup, ⟨password⟩⟩ (.ofOverwrite overwrite)

/-- The call on a store that does directly what the request asks for. -/
def operation? : Request → Option Operation
  | .put key credential policy => some (.put (.under policy) (.text key) credential)
  | .remove key => some (.remove key)
  | .setTemporary temp => some (.setTemporary temp)
  | .clearTemporary => some .clearTemporary
  | .flush => none

/-- What the worker itself reports of an outcome. -/
def report : Request → Outcome Bool → List Event
  | .put key _ _, .done stored => if stored then [] else [.queuedNotStored key]
  | .put key _ _, .failed fault => [.putFailed key fault]
  | .remove key, .failed fault => [.removeFailed key fault]
  | .setTemporary temp, .failed fault => [.switchFailed temp fault]
  | .clearTemporary, .failed fault => [.clearFailed fault]
  | _, _ => []

end Request

namespace Backend

/-- The backend's part in a request; a flush does not reach it. -/
def perform {σ : Type} (backend : Backend σ) (state : σ) : Request → Reply σ (Outcome Bool)
  | .put key credential policy => backend.put state key credential policy
  | .remove key =>
    let reply := backend.remove state key
    ⟨reply.answer.map fun _ => true, reply.next, reply.events⟩
  | .setTemporary temp =>
    let reply := backend.setTemporary state temp
    ⟨reply.answer.map fun _ => true, reply.next, reply.events⟩
  | .clearTemporary =>
    let reply := backend.clearTemporary state
    ⟨reply.answer.map fun _ => true, reply.next, reply.events⟩
  | .flush => ⟨.done true, state, []⟩

/-- A request applied: the outcome, and the events of backend and worker. -/
def apply {σ : Type} (backend : Backend σ) (state : σ) (request : Request) :
    Reply σ (Outcome Bool) :=
  let reply := backend.perform state request
  ⟨reply.answer, reply.next, reply.events ++ request.report reply.answer⟩

/-- A backend on the first part of a pair of states. -/
def onFirst {σ τ : Type} (backend : Backend σ) : Backend (σ × τ) where
  put state key credential policy :=
    let reply := backend.put state.1 key credential policy
    ⟨reply.answer, (reply.next, state.2), reply.events⟩
  remove state key :=
    let reply := backend.remove state.1 key
    ⟨reply.answer, (reply.next, state.2), reply.events⟩
  setTemporary state temp :=
    let reply := backend.setTemporary state.1 temp
    ⟨reply.answer, (reply.next, state.2), reply.events⟩
  clearTemporary state :=
    let reply := backend.clearTemporary state.1
    ⟨reply.answer, (reply.next, state.2), reply.events⟩

/-- A backend on the second part of a pair of states. -/
def onSecond {σ τ : Type} (backend : Backend τ) : Backend (σ × τ) where
  put state key credential policy :=
    let reply := backend.put state.2 key credential policy
    ⟨reply.answer, (state.1, reply.next), reply.events⟩
  remove state key :=
    let reply := backend.remove state.2 key
    ⟨reply.answer, (state.1, reply.next), reply.events⟩
  setTemporary state temp :=
    let reply := backend.setTemporary state.2 temp
    ⟨reply.answer, (state.1, reply.next), reply.events⟩
  clearTemporary state :=
    let reply := backend.clearTemporary state.2
    ⟨reply.answer, (state.1, reply.next), reply.events⟩

/-- Whether a put was answered with yes. -/
def stored : Answer → Bool
  | .flag value => value
  | _ => true

def shared : Backend SharedStore where
  put state key credential policy :=
    let reply := state.perform (.put (.under policy) (.text key) credential)
    ⟨reply.answer.map stored, reply.next, reply.events⟩
  remove state key :=
    let reply := state.perform (.remove key)
    ⟨reply.answer.map fun _ => (), reply.next, reply.events⟩
  setTemporary state temp :=
    let reply := state.perform (.setTemporary temp)
    ⟨reply.answer.map fun _ => (), reply.next, reply.events⟩
  clearTemporary state :=
    let reply := state.perform .clearTemporary
    ⟨reply.answer.map fun _ => (), reply.next, reply.events⟩

end Backend
end Queue
end Keyring
