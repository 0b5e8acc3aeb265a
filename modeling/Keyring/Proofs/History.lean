import Keyring.Proofs.StoreRuns
import Mathlib.Data.List.DropRight

/-!
# The closed form of a store

A store is changed step by step, yet what a set holds under a key can be read
off the operations alone.  Only the marks on that key of that set count, of
these only the puts after the last wipe, and of these the last one that
overwrites, or else the first.

The marks depend on the mode at each past step, which is again read off the
operations.  The proof adds one operation at the end of a run: the closed form
then changes by exactly that operation's mark.
-/

namespace Keyring
namespace History

/-- The marks that operations leave on a key of a set, in order. -/
def marks (set : Mode) (key : String) (standard : WritePolicy) :
    Mode → List Operation → List Mark
  | _, [] => []
  | mode, operation :: rest =>
    (operation.mark? set key standard mode).toList ++
      marks set key standard (operation.modeAfter mode) rest

def put? : Mark → Option (WritePolicy × Credential)
  | .put policy credential => some (policy, credential)
  | .wipe => none

/-- The puts after the last wipe. -/
def livePuts (history : List Mark) : List (WritePolicy × Credential) :=
  (history.rtakeWhile fun mark => (put? mark).isSome).filterMap put?

/-- The last put that overwrites, or else the first put. -/
def settled (puts : List (WritePolicy × Credential)) : Option Credential :=
  match (puts.filter fun put => put.1 = .overwrite).getLast? with
  | some put => some put.2
  | none => puts.head?.map Prod.snd

theorem marks_append
    (set : Mode) (key : String) (standard : WritePolicy) (mode : Mode)
    (before after : List Operation) :
    marks set key standard mode (before ++ after) =
      marks set key standard mode before ++
        marks set key standard (before.foldl Operation.modeAfter mode) after := by
  induction before generalizing mode with
  | nil => rfl
  | cons operation rest ih =>
      simp only [List.cons_append, marks, ih, List.append_assoc, List.foldl_cons]

@[simp] theorem livePuts_append_put
    (history : List Mark) (policy : WritePolicy) (credential : Credential) :
    livePuts (history ++ [.put policy credential]) =
      livePuts history ++ [(policy, credential)] := by
  simp [livePuts, put?]

@[simp] theorem livePuts_append_wipe (history : List Mark) :
    livePuts (history ++ [.wipe]) = [] := by
  simp [livePuts, put?]

theorem settled_eq_none_iff (puts : List (WritePolicy × Credential)) :
    settled puts = none ↔ puts = [] := by
  unfold settled
  cases hlast : (puts.filter fun put => put.1 = .overwrite).getLast? with
  | some put =>
      have hne : puts ≠ [] := by
        rintro rfl
        simp at hlast
      simp [hne]
  | none => cases puts <;> simp

theorem settled_append_overwrite
    (puts : List (WritePolicy × Credential)) (credential : Credential) :
    settled (puts ++ [(.overwrite, credential)]) = some credential := by
  simp [settled]

theorem settled_append_insertIfAbsent
    (puts : List (WritePolicy × Credential)) (credential : Credential) :
    settled (puts ++ [(.insertIfAbsent, credential)]) =
      (settled puts).or (some credential) := by
  have hfilter :
      (puts ++ [(WritePolicy.insertIfAbsent, credential)]).filter
          (fun put => put.1 = .overwrite) =
        puts.filter fun put => put.1 = .overwrite := by
    simp
  unfold settled
  rw [hfilter]
  cases (puts.filter fun put => put.1 = .overwrite).getLast? with
  | some put => rfl
  | none => cases puts <;> rfl

/-- One more mark changes the closed form as the mark itself says. -/
theorem settled_livePuts_append (history : List Mark) (mark : Mark) :
    settled (livePuts (history ++ [mark])) =
      mark.apply (settled (livePuts history)) := by
  cases mark with
  | wipe => rw [livePuts_append_wipe]; rfl
  | put policy credential =>
      rw [livePuts_append_put]
      cases policy with
      | overwrite => exact settled_append_overwrite _ _
      | insertIfAbsent => exact settled_append_insertIfAbsent _ _

end History

open History

/-- The marks of a whole run on a key of a set. -/
def Opening.history (opening : Opening) (set : Mode) (key : String)
    (operations : List Operation) : List Mark :=
  marks set key opening.policy opening.mode operations

theorem Opening.history_append_singleton
    (opening : Opening) (set : Mode) (key : String)
    (operations : List Operation) (operation : Operation) :
    opening.history set key (operations ++ [operation]) =
      opening.history set key operations ++
        (operation.mark? set key opening.policy
          (opening.store.run operations).next.mode).toList := by
  unfold Opening.history
  rw [marks_append, Store.mode_run, Opening.mode_store]
  simp [marks]

theorem Opening.defaultPolicy_run (opening : Opening) (operations : List Operation) :
    (opening.store.run operations).next.defaultPolicy = opening.policy := by
  rw [Store.defaultPolicy_run, opening.defaultPolicy_store]

/-- The entry of a key after a run is the closed form of its history. -/
theorem Opening.entry_run
    (opening : Opening) (operations : List Operation) (set : Mode) (key : String) :
    ((opening.store.run operations).next.entries set)[key]? =
      settled (livePuts (opening.history set key operations)) := by
  induction operations using List.reverseRecOn with
  | nil => simp [Store.run, Opening.history, marks, livePuts, settled]
  | append_singleton operations operation ih =>
      have hentry := Store.entry_perform
        (opening.store.run operations).next operation set key
      rw [Store.run_append, Opening.history_append_singleton]
      simp only [Store.run]
      rw [hentry, opening.defaultPolicy_run, ih]
      cases operation.mark? set key opening.policy
          (opening.store.run operations).next.mode with
      | none => simp
      | some mark => exact (settled_livePuts_append _ mark).symm

theorem Opening.mem_run_iff
    (opening : Opening) (operations : List Operation) (set : Mode) (key : String) :
    key ∈ (opening.store.run operations).next.entries set ↔
      livePuts (opening.history set key operations) ≠ [] := by
  rw [← Std.ExtTreeMap.isSome_getElem?_iff_mem, opening.entry_run,
    Option.isSome_iff_ne_none, ne_eq, settled_eq_none_iff]

theorem Store.answer_perform_put
    (store : Store) (rule : PutRule) (key : String) (credential : Credential) :
    ∃ stored,
      (store.perform (.put rule (.text key) credential)).answer =
          .done (.ofPut rule stored) ∧
        (stored = false ↔
          rule.policy store.defaultPolicy = .insertIfAbsent ∧
            store.contains key = true) := by
  refine ⟨_, rfl, ?_⟩
  unfold Store.put
  split
  next hlost => simp [hlost]
  next hwon => simp [hwon]

/-- What a set holds under a key after a run, and what each kind of put answers
in a run, by the puts since the last wipe. -/
theorem Opening.run_settles_history (opening : Opening) :
    (∀ operations,
      let store := (opening.store.run operations).next
      store.defaultPolicy = opening.policy ∧
        ∀ set key,
          let puts := livePuts (opening.history set key operations)
          (key ∈ store.entries set ↔ puts ≠ []) ∧
            (store.entries set)[key]? = settled puts) ∧
    ∀ before key credential after,
      let mode := before.foldl Operation.modeAfter opening.mode
      let puts := livePuts (opening.history mode key before)
      let answer := fun rule =>
        (opening.store.run
          (before ++ .put rule (.text key) credential :: after)).answer[before.length]?
      answer .replace = some (.done .nothing) ∧
        (∃ stored, answer .byDefault = some (.done (.flag stored)) ∧
          (stored = false ↔ opening.policy = .insertIfAbsent ∧ puts ≠ [])) ∧
        ∀ policy, ∃ stored, answer (.under policy) = some (.done (.flag stored)) ∧
          (stored = false ↔ policy = .insertIfAbsent ∧ puts ≠ []) := by
  refine ⟨fun operations => ⟨opening.defaultPolicy_run operations, fun set key =>
      ⟨opening.mem_run_iff operations set key, opening.entry_run operations set key⟩⟩, ?_⟩
  intro before key credential after mode puts answer
  have hmode : (opening.store.run before).next.mode = mode := by
    rw [Store.mode_run, opening.mode_store]
  have hcontains : (opening.store.run before).next.contains key = true ↔ puts ≠ [] := by
    rw [← opening.mem_run_iff, ← hmode]
    rfl
  have hput : ∀ rule, ∃ stored, answer rule = some (.done (.ofPut rule stored)) ∧
      (stored = false ↔ rule.policy opening.policy = .insertIfAbsent ∧ puts ≠ []) := by
    intro rule
    obtain ⟨stored, hanswer, hstored⟩ :=
      (opening.store.run before).next.answer_perform_put rule key credential
    refine ⟨stored, ?_, ?_⟩
    · simp only [answer, Store.answer_run_at, hanswer]
    · rw [hstored, opening.defaultPolicy_run, hcontains]
  refine ⟨?_, hput .byDefault, fun policy => hput (.under policy)⟩
  obtain ⟨stored, hanswer, -⟩ := hput .replace
  exact hanswer

end Keyring
