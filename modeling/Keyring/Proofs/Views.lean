import Keyring.Proofs.SharedRuns

/-!
# Stores seen through a view

A view replaces every credential by what may be seen of it.  A store never looks
into a credential, so it does the same to credentials and to their views: each
operation commutes with every view that keeps the empty credential, which is the
one credential that a store makes up itself.
-/

namespace Keyring

variable (view : Credential → Credential)

namespace Entries

def through (entries : Entries) : Entries :=
  entries.map fun _ credential => view credential

@[simp] theorem getElem?_through (entries : Entries) (key : String) :
    (through view entries)[key]? = entries[key]?.map view := by
  simp [through]

@[simp] theorem through_empty : through view ∅ = ∅ := by
  apply Std.ExtTreeMap.ext_getElem?
  intro key
  simp

theorem through_insert (entries : Entries) (key : String) (credential : Credential) :
    through view (entries.insert key credential) =
      (through view entries).insert key (view credential) := by
  apply Std.ExtTreeMap.ext_getElem?
  intro other
  rw [getElem?_through, Std.ExtTreeMap.getElem?_insert, Std.ExtTreeMap.getElem?_insert,
    getElem?_through]
  split <;> rfl

theorem through_erase (entries : Entries) (key : String) :
    through view (entries.erase key) = (through view entries).erase key := by
  apply Std.ExtTreeMap.ext_getElem?
  intro other
  rw [getElem?_through, Std.ExtTreeMap.getElem?_erase, Std.ExtTreeMap.getElem?_erase,
    getElem?_through]
  split <;> rfl

@[simp] theorem size_through (entries : Entries) :
    (through view entries).size = entries.size :=
  Std.ExtTreeMap.size_map

@[simp] theorem contains_through (entries : Entries) (key : String) :
    (through view entries).contains key = entries.contains key :=
  Std.ExtTreeMap.contains_map

@[simp] theorem isEmpty_through (entries : Entries) :
    (through view entries).isEmpty = entries.isEmpty := by
  rw [Std.ExtTreeMap.isEmpty_eq_size_beq_zero, size_through,
    Std.ExtTreeMap.isEmpty_eq_size_beq_zero]

theorem toList_through (entries : Entries) :
    (through view entries).toList =
      entries.toList.map fun entry => (entry.1, view entry.2) :=
  Std.ExtTreeMap.toList_map

end Entries

def Operation.through : Operation → Operation
  | .put rule key credential => .put rule key (view credential)
  | operation => operation

def Answer.through : Answer → Answer
  | .credential value => .credential (view value)
  | .optional value => .optional (value.map view)
  | answer => answer

/-- The outcome of a call, with the credential in it seen through a view. -/
def Outcome.through (outcome : Outcome Answer) : Outcome Answer :=
  outcome.map (Answer.through view)

@[simp] theorem Outcome.through_done (answer : Answer) :
    Outcome.through view (.done answer) = .done (answer.through view) := rfl

@[simp] theorem Outcome.crashed_through (outcome : Outcome Answer) :
    (outcome.through view == .crashed) = (outcome == .crashed) := by
  cases outcome <;> rfl

@[simp] theorem Operation.isRead_through (operation : Operation) :
    (operation.through view).isRead = operation.isRead := by
  cases operation <;> rfl

@[simp] theorem SharedStore.refusal_through (operation : Operation) :
    refusal (operation.through view) = refusal operation := by
  cases operation <;> rfl

namespace Store

def through (store : Store) : Store :=
  { store with
    persistent := Entries.through view store.persistent
    temporary := Entries.through view store.temporary }

@[simp] theorem mode_through (store : Store) : (store.through view).mode = store.mode := rfl

@[simp] theorem entries_through (store : Store) (set : Mode) :
    (store.through view).entries set = Entries.through view (store.entries set) := by
  cases set <;> rfl

@[simp] theorem lookup_through (store : Store) (key : String) :
    (store.through view).lookup key = (store.lookup key).map view := by
  simp [lookup, active]

@[simp] theorem contains_through (store : Store) (key : String) :
    (store.through view).contains key = store.contains key := by
  simp [contains, active]

theorem through_modifyActive
    (store : Store) (change changeView : Entries → Entries)
    (h : ∀ entries, Entries.through view (change entries) =
      changeView (Entries.through view entries)) :
    (store.modifyActive change).through view =
      (store.through view).modifyActive changeView := by
  unfold modifyActive
  cases hmode : store.mode <;> simp [through, hmode, h]

variable {view} (hempty : view .empty = .empty)
include hempty

/-- What a store does to credentials it does to their views. -/
theorem perform_through (store : Store) (operation : Operation) :
    (store.through view).perform (operation.through view) =
      ⟨(store.perform operation).answer.through view,
        (store.perform operation).next.through view,
        (store.perform operation).events⟩ := by
  cases operation with
  | get key =>
      simp only [perform, Operation.through, get, lookup_through]
      cases store.lookup key with
      | none => simp [Answer.through, hempty]
      | some credential => rfl
  | lookup key => simp [perform, Operation.through, Answer.through]
  | contains key => simp [perform, Operation.through, Answer.through]
  | count => simp [perform, Operation.through, Answer.through, count, active]
  | isEmpty => simp [perform, Operation.through, Answer.through, isEmpty, active]
  | put rule source credential =>
      cases source with
      | crashing => rfl
      | text key =>
          have hinsert := store.through_modifyActive view
            (·.insert key credential) (·.insert key (view credential))
            (fun entries => Entries.through_insert view entries key credential)
          have hpolicy : (store.through view).defaultPolicy = store.defaultPolicy := rfl
          simp only [perform, Operation.through, put, contains_through, hpolicy]
          split
          · cases rule <;> rfl
          · rw [hinsert]
            cases rule <;> rfl
  | remove key =>
      have herase := store.through_modifyActive view (·.erase key) (·.erase key)
        (fun entries => Entries.through_erase view entries key)
      simp only [perform, Operation.through, remove, contains_through]
      split
      · rw [herase]
        rfl
      · rfl
  | clearTemporary => simp [perform, Operation.through, Answer.through, clearTemporary, through]
  | _ => rfl

end Store

namespace SharedStore

def through (shared : SharedStore) : SharedStore :=
  { shared with store := shared.store.through view }

variable {view} (hempty : view .empty = .empty)
include hempty

/-- A lock in front of the store looks at credentials no more than the store does. -/
theorem perform_through (shared : SharedStore) (operation : Operation) :
    (shared.through view).perform (operation.through view) =
      ⟨(shared.perform operation).answer.through view,
        (shared.perform operation).next.through view,
        (shared.perform operation).events⟩ := by
  have hstore := shared.store.perform_through hempty operation
  have hinner : (shared.through view).store = shared.store.through view := rfl
  have hlock : (shared.through view).poisoned = shared.poisoned := rfl
  unfold perform
  rw [Operation.isRead_through, SharedStore.refusal_through, hinner, hlock, hstore]
  by_cases hread : operation.isRead = true
  · rw [if_pos hread, if_pos hread]
    rfl
  · rw [if_neg hread, if_neg hread]
    by_cases hpoisoned : shared.poisoned = true
    · rw [if_pos hpoisoned, if_pos hpoisoned]
      rfl
    · rw [if_neg hpoisoned, if_neg hpoisoned]
      simp only [through, Outcome.crashed_through]

end SharedStore
end Keyring
