import Keyring.Proofs.StoreRuns

/-!
# Two sets that do not notice each other

A store holds two sets, and each operation has to do with one of them.  Take a
run and delete from it whatever had to do with the other set only.  What is left
runs as if nothing had been deleted: every operation answers and reports what it
did before, and the set ends as before.

Mode switches have to do with both sets and always stay.  Clearing has to do
with the temporary set, whichever mode it is performed in.

The two runs are of different lengths, and their stores may differ in the other
set at every step.  `Store.AgreeOn` is what they have in common: an operation
that stays is told alike by both, and one that is deleted changes nothing that
counts.
-/

namespace Keyring

/-- An operation as it was performed in a run. -/
structure Performed where
  mode : Mode
  operation : Operation
  answer : Outcome Answer
  events : List Event

/-- Whether what was performed had to do with a set. -/
def Performed.concerns (set : Mode) (performed : Performed) : Bool :=
  match performed.operation with
  | .setMode _ => true
  | .clearTemporary => set == .temporary
  | _ => performed.mode == set

namespace Store

def record (store : Store) (operation : Operation) : Performed :=
  let reply := store.perform operation
  ⟨store.mode, operation, reply.answer, reply.events⟩

/-- A run, operation by operation. -/
def transcript (store : Store) : List Operation → List Performed
  | [] => []
  | operation :: rest =>
    store.record operation :: (store.perform operation).next.transcript rest

theorem run_eq_transcript (store : Store) (operations : List Operation) :
    (store.run operations).answer = (store.transcript operations).map Performed.answer ∧
      (store.run operations).events =
        (store.transcript operations).flatMap Performed.events := by
  induction operations generalizing store with
  | nil => exact ⟨rfl, rfl⟩
  | cons operation rest ih =>
      obtain ⟨hanswers, hevents⟩ := ih (store.perform operation).next
      simp [run, transcript, record, hanswers, hevents]

/-- Two stores that differ in the other set at most. -/
structure AgreeOn (set : Mode) (one two : Store) : Prop where
  mode : one.mode = two.mode
  policy : one.defaultPolicy = two.defaultPolicy
  entries : one.entries set = two.entries set

namespace AgreeOn

variable {set : Mode} {one two : Store}

theorem refl (set : Mode) (store : Store) : AgreeOn set store store :=
  ⟨rfl, rfl, rfl⟩

theorem perform (h : AgreeOn set one two) (operation : Operation) :
    AgreeOn set (one.perform operation).next (two.perform operation).next := by
  constructor
  · rw [mode_perform, mode_perform, h.mode]
  · rw [defaultPolicy_perform, defaultPolicy_perform, h.policy]
  · apply Std.ExtTreeMap.ext_getElem?
    intro key
    rw [entry_perform, entry_perform, h.mode, h.policy, h.entries]

/-- An operation that has to do with the other set only keeps the agreement. -/
theorem perform_unconcerned (h : AgreeOn set one two) {operation : Operation}
    (hother : (one.record operation).concerns set = false) :
    AgreeOn set (one.perform operation).next two := by
  have hmode : operation.modeAfter one.mode = one.mode := by
    cases operation with
    | setMode mode => simp [record, Performed.concerns] at hother
    | _ => rfl
  -- What is deleted leaves no mark on the set that counts, whatever its key.
  have hmark : ∀ key, operation.mark? set key one.defaultPolicy one.mode = none := by
    intro key
    cases operation with
    | put rule source credential =>
        have hset : one.mode ≠ set := by simpa [record, Performed.concerns] using hother
        cases source with
        | crashing => exact Operation.mark?_put_crashing ..
        | text name => simp [hset]
    | remove name =>
        have hset : one.mode ≠ set := by simpa [record, Performed.concerns] using hother
        simp [Operation.mark?, hset]
    | clearTemporary =>
        have hset : set ≠ .temporary := by simpa [record, Performed.concerns] using hother
        simp [Operation.mark?, hset]
    | _ => rfl
  constructor
  · rw [mode_perform, hmode, h.mode]
  · rw [defaultPolicy_perform, h.policy]
  · apply Std.ExtTreeMap.ext_getElem?
    intro key
    rw [entry_perform, hmark key, h.entries]
    rfl

theorem record_here (h : AgreeOn set one two) (hset : one.mode = set)
    {operation : Operation} (hclear : operation ≠ .clearTemporary) :
    two.record operation = one.record operation := by
  have hactive : two.active = one.active := by
    have hsetTwo : two.mode = set := h.mode ▸ hset
    rw [active, active, hset, hsetTwo, h.entries]
  cases operation with
  | clearTemporary => exact absurd rfl hclear
  | put rule source credential =>
      cases source with
      | crashing => simp only [record, Store.perform, h.mode]
      | text key =>
          simp only [record, Store.perform, put, contains, hactive, h.mode, h.policy]
          split <;> rfl
  | get key =>
      simp only [record, Store.perform, get, lookup, hactive, h.mode]
      split <;> rfl
  | remove key =>
      simp only [record, Store.perform, remove, contains, hactive, h.mode]
      split <;> rfl
  | _ =>
      simp only [record, Store.perform, setMode, lookup, contains, count, isEmpty, hactive,
        h.mode, h.policy]

theorem record_concerned (h : AgreeOn set one two) {operation : Operation}
    (hconcerns : (one.record operation).concerns set = true) :
    two.record operation = one.record operation := by
  cases operation with
  | setMode mode => simp only [record, Store.perform, setMode, h.mode]
  | clearTemporary =>
      have hset : set = .temporary := by
        simpa [record, Performed.concerns] using hconcerns
      have htemporary : one.entries .temporary = two.entries .temporary := hset ▸ h.entries
      have hcount : one.temporary = two.temporary := htemporary
      simp only [record, Store.perform, clearTemporary, h.mode, hcount]
  | _ =>
      have hset : one.mode = set := by
        simpa [record, Performed.concerns] using hconcerns
      exact h.record_here hset (by simp)

/-- What is left of a run after the deletion runs on the other store as before. -/
theorem transcript (h : AgreeOn set one two) (operations : List Operation) :
    let kept := (one.transcript operations).filter (Performed.concerns set)
    let left := kept.map Performed.operation
    two.transcript left = kept ∧
      AgreeOn set (one.run operations).next (two.run left).next := by
  -- Either both stores take a step, or the first does so alone.
  induction operations generalizing one two with
  | nil => exact ⟨rfl, h⟩
  | cons operation rest ih =>
      cases hconcerns : (one.record operation).concerns set with
      | true =>
          obtain ⟨htold, hend⟩ := ih (h.perform operation)
          have hrecord := h.record_concerned hconcerns
          have hoperation : (one.record operation).operation = operation := rfl
          simp only [Store.transcript, run, List.filter_cons, hconcerns, if_true,
            List.map_cons, hoperation, hrecord, htold, true_and]
          exact hend
      | false =>
          obtain ⟨htold, hend⟩ := ih (h.perform_unconcerned hconcerns)
          simp only [Store.transcript, run, List.filter_cons, hconcerns]
          exact ⟨htold, hend⟩

end AgreeOn

/-- Deleting what was done to the other set goes unnoticed. -/
theorem deletion_unnoticed (store : Store) (operations : List Operation) (set : Mode) :
    let kept := (store.transcript operations).filter (Performed.concerns set)
    let left := kept.map Performed.operation
    store.transcript left = kept ∧
      (store.run left).answer = kept.map Performed.answer ∧
      (store.run left).events = kept.flatMap Performed.events ∧
      (store.run left).next.mode = (store.run operations).next.mode ∧
      (store.run left).next.entries set = (store.run operations).next.entries set := by
  intro kept left
  obtain ⟨htold, hend⟩ := (AgreeOn.refl set store).transcript operations
  obtain ⟨hanswers, hevents⟩ := store.run_eq_transcript left
  have hkept : store.transcript left = kept := htold
  rw [hkept] at hanswers hevents
  exact ⟨hkept, hanswers, hevents, hend.mode.symm, hend.entries.symm⟩

end Store
end Keyring
