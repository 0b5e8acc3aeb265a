import Keyring.Proofs.QueueWork
import Keyring.Proofs.SharedRuns

/-!
# Clients and direct callers on one store

The store behind a worker is shared: while clients put their requests into the
queue, others who hold a handle on the store call it at once.  All handles lead
to the same store behind the same lock, so a direct call is told apart by what
it asks only.  To the exchange it is a change from outside.
-/

namespace Keyring
namespace Queue

/-- A request does to a shared store what its operation does directly. -/
theorem Backend.perform_shared
    (cache : SharedStore) {request : Request} {operation : Operation}
    (hoperation : request.operation? = some operation) :
    shared.perform cache request =
      ⟨(cache.perform operation).answer.map stored, (cache.perform operation).next,
        (cache.perform operation).events⟩ := by
  -- Whatever has nothing to answer is reported as done.
  have hsilent : ∀ operation : Operation,
      (∀ store : Store, (store.perform operation).answer = .done .nothing) →
      ((cache.perform operation).answer.map fun _ => ()).map (fun _ => true) =
        (cache.perform operation).answer.map stored := by
    intro operation hnothing
    simp only [SharedStore.perform, hnothing]
    split
    · rfl
    · split <;> rfl
  cases request with
  | put key credential policy =>
      cases hoperation
      rfl
  | remove key =>
      cases hoperation
      have hremove := hsilent (.remove key) fun _ => rfl
      simp only [perform, shared, hremove]
  | setTemporary temp =>
      cases hoperation
      have hswitch := hsilent (.setTemporary temp) fun _ => rfl
      simp only [perform, shared, hswitch]
  | clearTemporary =>
      cases hoperation
      have hclear := hsilent .clearTemporary fun _ => rfl
      simp only [perform, shared, hclear]
  | flush => cases hoperation

theorem Request.eq_flush_of_operation? {request : Request} (hnone : request.operation? = none) :
    request = .flush := by
  cases request with
  | flush => rfl
  | _ => cases hnone

/-- No request makes the store crash: its key has been converted by the client. -/
theorem Request.calm_of_operation? {request : Request} {operation : Operation}
    (hoperation : request.operation? = some operation) : operation.crashes = false := by
  cases request <;> cases hoperation <;> rfl

theorem Backend.shared_returns : shared.Returns := by
  intro cache request
  cases hoperation : request.operation? with
  | none =>
      obtain rfl := Request.eq_flush_of_operation? hoperation
      simp [apply, perform]
  | some operation =>
      have hcalm := Request.calm_of_operation? hoperation
      have hanswer := cache.answer_perform_ne_crashed hcalm
      simp only [apply, perform_shared cache hoperation]
      cases houtcome : (cache.perform operation).answer with
      | crashed => exact absurd houtcome hanswer
      | done answer => simp [Outcome.map]
      | failed fault => simp [Outcome.map]

/-- The requests that are applied to a shared store do what direct calls do. -/
theorem Backend.applyAll_shared (cache : SharedStore) (requests : List Request) :
    shared.applyAll cache requests =
      (cache.run (requests.filterMap Request.operation?)).next := by
  induction requests generalizing cache with
  | nil => rfl
  | cons request rest ih =>
      cases hoperation : request.operation? with
      | none =>
          obtain rfl := Request.eq_flush_of_operation? hoperation
          exact ih cache
      | some operation =>
          have hnext : (shared.apply cache request).next = (cache.perform operation).next := by
            simp only [apply, perform_shared cache hoperation]
          rw [List.filterMap_cons_some hoperation, applyAll, List.foldl_cons, hnext]
          exact ih _

/-- A move of clients, worker and direct callers together. -/
inductive Deed where
  | queued (action : Action SharedStore)
  | direct (operation : Operation)

/-- The number of a call that is answered, with its answer. -/
def Occurrence.answer? : Occurrence → Option (Nat × Except Fault Unit)
  | .answered call result => some (call.id, result)
  | _ => none

/-- What callers are told in a move. -/
structure Told where
  /-- The answers to calls of clients. -/
  results : List (Nat × Except Fault Unit) := []
  /-- The answer to a direct call. -/
  outcome : Option (Outcome Answer) := none

namespace Exchange

/-- A move as callers and readers of the log meet it. -/
def report (moved : Exchange SharedStore × List Occurrence)
    (outcome : Option (Outcome Answer)) : Reply (Exchange SharedStore) Told :=
  ⟨⟨moved.2.filterMap Occurrence.answer?, outcome⟩, moved.1,
    moved.2.filterMap Occurrence.event?⟩

def perform (x : Exchange SharedStore) : Deed → Reply (Exchange SharedStore) Told
  | .queued action => report (x.step .shared action) none
  | .direct operation =>
    let reply := x.cache.perform operation
    report (x.step .shared (.outside reply.next reply.events)) (some reply.answer)

/-- Deeds in order. -/
def performAll (x : Exchange SharedStore) (deeds : List Deed) :
    Reply (Exchange SharedStore) (List Told) :=
  Reply.sequence perform x deeds

end Exchange
end Queue
end Keyring
