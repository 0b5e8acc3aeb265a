import Keyring.Proofs.StoreRuns
import Keyring.Shared

/-!
# Runs of a shared store

All handles lead to one store behind one lock, so a run is a list of calls,
whichever handles they come through.  A run has two parts.  Up to the first put
whose key crashes the lock is sound.  That put stores nothing and leaves the lock
poisoned, and from then on the store is frozen: writes are refused, and reads
answer from the store as it was.
-/

namespace Keyring

/-- Whether the caller's key crashes before it can be stored under. -/
def Operation.crashes : Operation → Bool
  | .put _ .crashing _ => true
  | _ => false

/-- What a call on a frozen store answers. -/
def Store.answerFrozen (store : Store) : Operation → Outcome Answer
  | .put .. => .failed (.insertionFailed Fault.poisonDetail)
  | .remove _ | .setMode _ | .clearTemporary => .failed (.lockPoisoned Fault.poisonDetail)
  | operation => (store.perform operation).answer

/-- What a call on a frozen store reports. -/
def Store.eventsFrozen (store : Store) : Operation → List Event
  | .put .. | .remove _ | .setMode _ | .clearTemporary => []
  | operation => .recoveredForRead :: (store.perform operation).events

namespace SharedStore

/-- The ways to open a shared store. -/
inductive Opening where
  | plain
  | configured (config : Config)
  | around (store : Store)

namespace Opening

def reply : Opening → Reply SharedStore Unit
  | .plain => ⟨(), .new, []⟩
  | .configured config => SharedStore.ofConfig config
  | .around store => ⟨(), .ofStore store, []⟩

def shared (opening : Opening) : SharedStore :=
  opening.reply.next

theorem poisoned_shared (opening : Opening) : opening.shared.poisoned = false := by
  cases opening <;> rfl

end Opening

theorem run_eq_sequence (shared : SharedStore) (operations : List Operation) :
    shared.run operations = Reply.sequence perform shared operations :=
  Reply.eq_sequence perform (fun _ => rfl) (fun _ _ _ => rfl) shared operations

theorem run_append (shared : SharedStore) (before after : List Operation) :
    shared.run (before ++ after) =
      let first := shared.run before
      let others := first.next.run after
      ⟨first.answer ++ others.answer, others.next, first.events ++ others.events⟩ := by
  simp only [run_eq_sequence, Reply.sequence_append]

theorem answer_eq_crashed_iff (store : Store) (operation : Operation) :
    ((store.perform operation).answer == .crashed) = operation.crashes := by
  cases operation with
  | put rule source credential => cases source <;> rfl
  | _ => rfl

theorem next_perform_of_isRead {operation : Operation} (hread : operation.isRead = true)
    (shared : SharedStore) : (shared.perform operation).next = shared := by
  have hstore := Store.next_perform_of_isRead hread shared.store
  simp only [perform, hread, if_true, hstore]

theorem answer_perform_ne_crashed {operation : Operation} (hcalm : operation.crashes = false)
    (shared : SharedStore) : (shared.perform operation).answer ≠ .crashed := by
  have hbare : (shared.store.perform operation).answer ≠ .crashed := by
    intro hcrashed
    have hcrashes := answer_eq_crashed_iff shared.store operation
    rw [hcrashed, hcalm] at hcrashes
    simp at hcrashes
  unfold perform
  split
  · exact hbare
  · split
    · simp
    · exact hbare

theorem poisoned_perform (shared : SharedStore) (operation : Operation) :
    (shared.perform operation).next.poisoned =
      (shared.poisoned || operation.crashes) := by
  have hcrash := answer_eq_crashed_iff shared.store operation
  unfold perform
  split
  next hread =>
    have hcalm : operation.crashes = false := by
      cases operation <;> simp_all [Operation.isRead, Operation.crashes]
    simp [hcalm]
  next hwrite =>
    split
    next hpoisoned => simp [hpoisoned]
    next hsound => simp [hcrash, hsound]

/-- A lock is poisoned by the first crash in a run, and for good. -/
theorem poisoned_run (shared : SharedStore) (operations : List Operation) :
    (shared.run operations).next.poisoned =
      (shared.poisoned || operations.any Operation.crashes) := by
  induction operations generalizing shared with
  | nil => simp [run]
  | cons operation rest ih =>
      simp only [run, ih, poisoned_perform, List.any_cons, Bool.or_assoc]

/-- While the lock is sound a call is told what the store in it tells, even the call
that poisons it. -/
theorem told_sound (store : Store) (operation : Operation) :
    let reply := perform ⟨store, false⟩ operation
    reply.answer = (store.perform operation).answer ∧
      reply.next.store = (store.perform operation).next ∧
      reply.events = (store.perform operation).events := by
  unfold perform
  split <;> exact ⟨rfl, rfl, rfl⟩

theorem perform_sound (store : Store) {operation : Operation}
    (hcalm : operation.crashes = false) :
    perform ⟨store, false⟩ operation =
      ⟨(store.perform operation).answer, ⟨(store.perform operation).next, false⟩,
        (store.perform operation).events⟩ := by
  obtain ⟨hanswer, hstore, hevents⟩ := told_sound store operation
  have hpoisoned : (perform ⟨store, false⟩ operation).next.poisoned = false := by
    rw [poisoned_perform, hcalm]
    rfl
  have hnext : (perform ⟨store, false⟩ operation).next = ⟨(store.perform operation).next, false⟩ :=
    hstore ▸ congrArg (SharedStore.mk _) hpoisoned
  rw [← hanswer, ← hnext, ← hevents]

theorem perform_frozen (store : Store) (operation : Operation) :
    perform ⟨store, true⟩ operation =
      ⟨store.answerFrozen operation, ⟨store, true⟩, store.eventsFrozen operation⟩ := by
  cases operation with
  | get key =>
      have hnext : (store.get key).next = store := store.next_get key
      simp only [perform, Operation.isRead, Store.perform, hnext]
      rfl
  | _ => rfl

theorem run_frozen (store : Store) (operations : List Operation) :
    run ⟨store, true⟩ operations =
      ⟨operations.map store.answerFrozen, ⟨store, true⟩,
        operations.flatMap store.eventsFrozen⟩ := by
  induction operations with
  | nil => rfl
  | cons operation rest ih => simp only [run, perform_frozen, ih, List.map_cons, List.flatMap_cons]

theorem run_crash (store : Store) (rule : PutRule) (credential : Credential)
    (after : List Operation) :
    run ⟨store, false⟩ (.put rule .crashing credential :: after) =
      ⟨.crashed :: after.map store.answerFrozen, ⟨store, true⟩,
        after.flatMap store.eventsFrozen⟩ := by
  have hcrash : perform ⟨store, false⟩ (.put rule .crashing credential) =
      ⟨.crashed, ⟨store, true⟩, []⟩ := rfl
  simp only [run, hcrash, run_frozen, List.nil_append]

theorem any_crashes_iff (operations : List Operation) :
    operations.any Operation.crashes = true ↔
      ∃ rule credential, .put rule .crashing credential ∈ operations := by
  rw [List.any_eq_true]
  constructor
  · rintro ⟨operation, hmem, hcrashes⟩
    cases operation with
    | put rule source credential =>
        cases source with
        | crashing => exact ⟨rule, credential, hmem⟩
        | text key => cases hcrashes
    | _ => cases hcrashes
  · rintro ⟨rule, credential, hmem⟩
    exact ⟨_, hmem, rfl⟩

theorem Opening.poisoned_run_iff (opening : Opening) (operations : List Operation) :
    (opening.shared.run operations).next.poisoned = true ↔
      ∃ rule credential, .put rule .crashing credential ∈ operations := by
  rw [poisoned_run, opening.poisoned_shared, Bool.false_or, any_crashes_iff]

/-- A lock is poisoned exactly by a put whose key crashes.  The first such put
stores and reports nothing, and every call after it meets the store as it was. -/
theorem crash_freezes_store (opening : Opening) :
    (∀ operations, (opening.shared.run operations).next.poisoned = true ↔
      ∃ rule credential, .put rule .crashing credential ∈ operations) ∧
    ∀ before rule credential after,
      (∀ rule credential, .put rule .crashing credential ∉ before) →
        let reached := opening.shared.run before
        let crash := reached.next.perform (.put rule .crashing credential)
        let whole := opening.shared.run (before ++ .put rule .crashing credential :: after)
        let store := reached.next.store
        crash = ⟨.crashed, ⟨store, true⟩, []⟩ ∧
          whole.answer = reached.answer ++ .crashed :: after.map store.answerFrozen ∧
          whole.next = ⟨store, true⟩ ∧
          whole.events = reached.events ++ after.flatMap store.eventsFrozen := by
  refine ⟨opening.poisoned_run_iff, ?_⟩
  intro before rule credential after hcalm reached crash whole store
  have hsound : reached.next = ⟨store, false⟩ := by
    have hpoisoned : reached.next.poisoned = false := by
      rw [← Bool.not_eq_true, opening.poisoned_run_iff]
      rintro ⟨rule, credential, hmem⟩
      exact hcalm rule credential hmem
    rw [← hpoisoned]
  have hwhole : whole =
      ⟨reached.answer ++ .crashed :: after.map store.answerFrozen, ⟨store, true⟩,
        reached.events ++ after.flatMap store.eventsFrozen⟩ := by
    have hrest := run_crash store rule credential after
    rw [← hsound] at hrest
    simp only [whole, run_append]
    rw [hrest]
  refine ⟨?_, ?_, ?_, ?_⟩
  · simp only [crash, hsound]
    rfl
  · rw [hwhole]
  · rw [hwhole]
  · rw [hwhole]

/-- After the crash a put whose key would crash as well is refused like any other. -/
theorem crash_then_crash_refused :
    let ann : Credential := ⟨"ann", "home", ⟨"first"⟩⟩
    let before : List Operation := [.put .replace (.text "share") ann]
    let after : List Operation := [.put .byDefault .crashing ann, .setMode .temporary, .count]
    (∀ rule credential, Operation.put rule .crashing credential ∉ before) ∧
      (SharedStore.new.run
          (before ++ .put (.under .insertIfAbsent) .crashing ann :: after)).answer =
        [.done .nothing, .crashed, .failed (.insertionFailed Fault.poisonDetail),
          .failed (.lockPoisoned Fault.poisonDetail), .done (.count 1)] := by
  intro ann before after
  have hcalm : ∀ rule credential, Operation.put rule .crashing credential ∉ before := by
    simp [before]
  exact ⟨hcalm,
    ((crash_freezes_store .plain).2 before (.under .insertIfAbsent) ann after hcalm).2.1⟩

end SharedStore
end Keyring
