import Keyring.Proofs.Sequence
import Keyring.Store.Operation

/-!
# Runs of a store

This file collects what every statement about whole runs starts from: the ways
to open a store, how a run splits, and which answer stands at which place.  The
effect of one operation on a set is told once, key by key, through `Mark`.
-/

namespace Keyring

/-- The ways to open a store. -/
inductive Opening where
  | plain
  | configured (config : Config)

namespace Opening

def reply : Opening → Reply Store Unit
  | .plain => ⟨(), .new, []⟩
  | .configured config => Store.ofConfig config

def store (opening : Opening) : Store :=
  opening.reply.next

def events (opening : Opening) : List Event :=
  opening.reply.events

/-- The policy of puts that name none. -/
def policy : Opening → WritePolicy
  | .plain => .overwrite
  | .configured config => config.defaultPolicy

/-- The mode that a store starts in. -/
def mode : Opening → Mode
  | .plain => .persistent
  | .configured config => if config.startTemporary then .temporary else .persistent

@[simp] theorem defaultPolicy_store (opening : Opening) :
    opening.store.defaultPolicy = opening.policy := by
  cases opening <;> rfl

@[simp] theorem mode_store (opening : Opening) : opening.store.mode = opening.mode := by
  cases opening <;> rfl

@[simp] theorem entries_store (opening : Opening) (set : Mode) :
    opening.store.entries set = ∅ := by
  cases opening <;> cases set <;> rfl

end Opening

/-- The mode after an operation, from the operation alone. -/
def Operation.modeAfter (mode : Mode) : Operation → Mode
  | .setMode target => target
  | _ => mode

/-- What an operation means for one key of one set. -/
inductive Mark where
  | put (policy : WritePolicy) (credential : Credential)
  | wipe
  deriving DecidableEq

namespace Mark

/-- The entry of a key after a mark. -/
def apply (entry : Option Credential) : Mark → Option Credential
  | .put .overwrite credential => some credential
  | .put .insertIfAbsent credential => entry.or (some credential)
  | .wipe => none

end Mark

namespace Operation

/-- The mark of an operation on a key of a set, when the operation is performed
in `mode` by a store with the policy `standard`. -/
def mark? (set : Mode) (key : String) (standard : WritePolicy) (mode : Mode) :
    Operation → Option Mark
  | .put .replace (.text other) credential =>
    if other = key ∧ mode = set then some (.put .overwrite credential) else none
  | .put .byDefault (.text other) credential =>
    if other = key ∧ mode = set then some (.put standard credential) else none
  | .put (.under policy) (.text other) credential =>
    if other = key ∧ mode = set then some (.put policy credential) else none
  | .remove other => if other = key ∧ mode = set then some .wipe else none
  | .clearTemporary => if set = .temporary then some .wipe else none
  | _ => none

section MarkOfPut

variable (set : Mode) (key : String) (standard : WritePolicy) (mode : Mode)
  (rule : PutRule) (credential : Credential)

@[simp] theorem mark?_put (other : String) :
    (put rule (.text other) credential).mark? set key standard mode =
      if other = key ∧ mode = set then some (.put (rule.policy standard) credential)
      else none := by
  cases rule <;> rfl

@[simp] theorem mark?_put_crashing :
    (put rule .crashing credential).mark? set key standard mode = none := by
  cases rule <;> rfl

end MarkOfPut

end Operation

namespace Store

section OneOperation

variable (store : Store)

@[simp] theorem entries_setMode (mode set : Mode) :
    (store.setMode mode).next.entries set = store.entries set := by
  cases set <;> rfl

theorem entries_clearTemporary (set : Mode) :
    store.clearTemporary.next.entries set =
      if set = .temporary then ∅ else store.entries set := by
  cases set <;> rfl

@[simp] theorem next_get (key : String) : (store.get key).next = store := by
  unfold get
  split <;> rfl

theorem contains_eq_isSome (key : String) :
    store.contains key = (store.entries store.mode)[key]?.isSome := by
  simp [contains, active]

theorem contains_eq_isSome_lookup (key : String) :
    store.contains key = (store.lookup key).isSome :=
  store.contains_eq_isSome key

theorem entry_put
    (policy : WritePolicy) (key : String) (credential : Credential)
    (set : Mode) (other : String) :
    ((store.put policy key credential).next.entries set)[other]? =
      if key = other ∧ store.mode = set then
        (Mark.put policy credential).apply (store.entries set)[other]?
      else (store.entries set)[other]? := by
  by_cases hhere : key = other ∧ store.mode = set
  · obtain ⟨rfl, rfl⟩ := hhere
    cases policy with
    | overwrite => simp [put, entries_modifyActive, Mark.apply]
    | insertIfAbsent =>
        have hcontains := store.contains_eq_isSome key
        cases hentry : (store.entries store.mode)[key]? with
        | none =>
            rw [hentry] at hcontains
            simp [put, hcontains, entries_modifyActive, Mark.apply]
        | some old =>
            rw [hentry] at hcontains
            simp [put, hcontains, hentry, Mark.apply]
  · have hinsert :
        ((store.modifyActive (·.insert key credential)).entries set)[other]? =
          (store.entries set)[other]? := by
      rw [entries_modifyActive]
      split
      next hset =>
        have hkey : key ≠ other := fun hkey => hhere ⟨hkey, hset.symm⟩
        simp [Std.ExtTreeMap.getElem?_insert, hkey]
      next => rfl
    rw [if_neg hhere]
    unfold put
    split
    · rfl
    · exact hinsert

theorem entry_remove (key : String) (set : Mode) (other : String) :
    ((store.remove key).next.entries set)[other]? =
      if key = other ∧ store.mode = set then none else (store.entries set)[other]? := by
  unfold remove
  split
  next hcontains =>
    simp only [entries_modifyActive, eq_comm (a := set)]
    by_cases hset : store.mode = set
    · simp [hset, Std.ExtTreeMap.getElem?_erase]
    · simp [hset]
  next hcontains =>
    split
    next hhere =>
      obtain ⟨rfl, rfl⟩ := hhere
      simpa [contains_eq_isSome] using hcontains
    next => rfl

/-- What one operation does to one key of one set. -/
theorem entry_perform (operation : Operation) (set : Mode) (key : String) :
    ((store.perform operation).next.entries set)[key]? =
      (operation.mark? set key store.defaultPolicy store.mode).elim
        (store.entries set)[key]? (Mark.apply (store.entries set)[key]?) := by
  cases operation with
  | put rule source credential =>
      cases source with
      | crashing =>
          rw [Operation.mark?_put_crashing]
          rfl
      | text name =>
          simp only [perform, entry_put, Operation.mark?_put]
          split <;> rfl
  | remove name =>
      simp only [perform, entry_remove, Operation.mark?]
      split <;> rfl
  | clearTemporary =>
      simp only [perform, entries_clearTemporary, Operation.mark?]
      split <;> simp [Mark.apply]
  | setMode mode => simp [perform, Operation.mark?]
  | get name => simp [perform, Operation.mark?]
  | _ => rfl

theorem mode_perform (operation : Operation) :
    (store.perform operation).next.mode = operation.modeAfter store.mode := by
  cases operation with
  | put rule source credential =>
      cases source with
      | crashing => rfl
      | text name =>
          simp only [perform, put, Operation.modeAfter]
          split <;> simp
  | remove name =>
      simp only [perform, remove, Operation.modeAfter]
      split <;> simp
  | get name => simp [perform, Operation.modeAfter]
  | _ => rfl

theorem defaultPolicy_perform (operation : Operation) :
    (store.perform operation).next.defaultPolicy = store.defaultPolicy := by
  cases operation with
  | put rule source credential =>
      cases source with
      | crashing => rfl
      | text name =>
          simp only [perform, put]
          split <;> simp
  | remove name =>
      simp only [perform, remove]
      split <;> simp
  | get name => simp [perform]
  | _ => rfl

end OneOperation

/-! ## Runs in pieces -/

theorem run_eq_sequence (store : Store) (operations : List Operation) :
    store.run operations = Reply.sequence perform store operations :=
  Reply.eq_sequence perform (fun _ => rfl) (fun _ _ _ => rfl) store operations

theorem run_append (store : Store) (before after : List Operation) :
    store.run (before ++ after) =
      let first := store.run before
      let others := first.next.run after
      ⟨first.answer ++ others.answer, others.next, first.events ++ others.events⟩ := by
  simp only [run_eq_sequence, Reply.sequence_append]

/-- The answer to an operation stands at its place in the run. -/
theorem answer_run_at
    (store : Store) (before : List Operation) (operation : Operation)
    (after : List Operation) :
    (store.run (before ++ operation :: after)).answer[before.length]? =
      some ((store.run before).next.perform operation).answer := by
  simp only [run_eq_sequence, Reply.answer_sequence_at]

theorem mode_run (store : Store) (operations : List Operation) :
    (store.run operations).next.mode =
      operations.foldl Operation.modeAfter store.mode := by
  induction operations generalizing store with
  | nil => rfl
  | cons operation rest ih => simp only [run, ih, mode_perform, List.foldl_cons]

theorem defaultPolicy_run (store : Store) (operations : List Operation) :
    (store.run operations).next.defaultPolicy = store.defaultPolicy := by
  induction operations generalizing store with
  | nil => rfl
  | cons operation rest ih => simp only [run, ih, defaultPolicy_perform]

end Store
end Keyring
