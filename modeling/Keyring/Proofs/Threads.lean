import Keyring.Proofs.Audit
import Keyring.Proofs.SharedRuns

/-!
# Threads on keys of their own

Threads call one shared store, each in its own order, and the lock puts all the
calls into one order.  When no two threads use the same key, that order does not
matter: each thread is told what it would be told alone, and every key ends as
its thread alone would leave it.

No two calls have to be exchanged for this.  A thread alone and all threads
together are compared directly, on the keys of that thread: a call of the thread
does the same to both stores, and any other call leaves those keys as they are.
-/

namespace Keyring

namespace Operation

/-- The key of a call that has to do with one key only. -/
def key? : Operation → Option String
  | .get key | .lookup key | .contains key | .remove key | .put _ (.text key) _ => some key
  | _ => none

def keysOf (operations : List Operation) : List String :=
  operations.filterMap key?

variable {operation : Operation} {key : String}

theorem mem_keysOf {operations : List Operation} (hmem : operation ∈ operations)
    (hkey : operation.key? = some key) : key ∈ keysOf operations :=
  List.mem_filterMap.mpr ⟨operation, hmem, hkey⟩

theorem crashes_of_key? (hkey : operation.key? = some key) : operation.crashes = false := by
  cases operation with
  | put rule source credential =>
      cases source with
      | crashing => cases hkey
      | text name => rfl
  | _ => rfl

theorem modeAfter_of_key? (hkey : operation.key? = some key) (mode : Mode) :
    operation.modeAfter mode = mode := by
  cases operation with
  | setMode target => cases hkey
  | _ => rfl

theorem mark?_of_key? (hkey : operation.key? = some key) {set mode : Mode} {other : String}
    (helsewhere : set = mode → other ≠ key) (policy : WritePolicy) :
    operation.mark? set other policy mode = none := by
  cases operation with
  | put rule source credential =>
      cases source with
      | crashing => exact mark?_put_crashing ..
      | text name =>
          cases hkey
          simp only [mark?_put, ite_eq_right_iff]
          rintro ⟨rfl, rfl⟩
          exact absurd rfl (helsewhere rfl)
  | remove name =>
      cases hkey
      simp only [mark?, ite_eq_right_iff]
      rintro ⟨rfl, rfl⟩
      exact absurd rfl (helsewhere rfl)
  | clearTemporary => cases hkey
  | _ => rfl

end Operation

namespace Store

/-- Two stores that agree on some keys. -/
structure AgreeAt (keys : List String) (one two : Store) : Prop where
  mode : one.mode = two.mode
  policy : one.defaultPolicy = two.defaultPolicy
  lookup : ∀ key ∈ keys, one.lookup key = two.lookup key

section OneCall

variable {keys : List String} {one two : Store} {operation : Operation} {key : String}

theorem lookup_perform (store : Store) (hkey : operation.key? = some key) (other : String) :
    (store.perform operation).next.lookup other =
      (operation.mark? store.mode other store.defaultPolicy store.mode).elim
        (store.lookup other) (Mark.apply (store.lookup other)) := by
  have hmode : (store.perform operation).next.mode = store.mode := by
    rw [mode_perform, Operation.modeAfter_of_key? hkey]
  rw [lookup, active, hmode, entry_perform]
  rfl

namespace AgreeAt

theorem refl (keys : List String) (store : Store) : AgreeAt keys store store :=
  ⟨rfl, rfl, fun _ _ => rfl⟩

theorem perform (h : AgreeAt keys one two) (hkey : operation.key? = some key) :
    AgreeAt keys (one.perform operation).next (two.perform operation).next := by
  constructor
  · rw [mode_perform, mode_perform, h.mode]
  · rw [defaultPolicy_perform, defaultPolicy_perform, h.policy]
  · intro other hother
    rw [lookup_perform one hkey, lookup_perform two hkey, h.mode, h.policy, h.lookup other hother]

theorem perform_elsewhere (h : AgreeAt keys one two) (hkey : operation.key? = some key)
    (helsewhere : key ∉ keys) : AgreeAt keys (one.perform operation).next two := by
  constructor
  · rw [mode_perform, Operation.modeAfter_of_key? hkey, h.mode]
  · rw [defaultPolicy_perform, h.policy]
  · intro other hother
    have hne : other ≠ key := fun heq => helsewhere (heq ▸ hother)
    rw [lookup_perform one hkey, Operation.mark?_of_key? hkey fun _ => hne, ← h.lookup other hother]
    rfl

theorem told (h : AgreeAt keys one two) (hkey : operation.key? = some key)
    (hmem : key ∈ keys) :
    (one.perform operation).answer = (two.perform operation).answer ∧
      (one.perform operation).events = (two.perform operation).events := by
  have hlookup := h.lookup key hmem
  have hcontains : one.contains key = two.contains key := by
    rw [contains_eq_isSome_lookup, contains_eq_isSome_lookup, hlookup]
  cases operation with
  | get name =>
      cases hkey
      simp only [Store.perform, get, hlookup, h.mode]
      split <;> exact ⟨rfl, rfl⟩
  | put rule source credential =>
      cases source with
      | crashing => cases hkey
      | text name =>
          cases hkey
          simp only [Store.perform, put, hcontains, h.mode, h.policy]
          split <;> exact ⟨rfl, rfl⟩
  | remove name =>
      cases hkey
      simp only [Store.perform, remove, hcontains, h.mode, true_and]
      split <;> rfl
  | lookup name =>
      cases hkey
      simp only [Store.perform, hlookup, and_self]
  | contains name =>
      cases hkey
      simp only [Store.perform, hcontains, and_self]
  | _ => cases hkey

end AgreeAt
end OneCall

/-! ## What a run leaves as it was -/

theorem modeAfter_keyed {operations : List Operation}
    (hkeyed : ∀ operation ∈ operations, ∃ key, operation.key? = some key) (mode : Mode) :
    operations.foldl Operation.modeAfter mode = mode := by
  induction operations with
  | nil => rfl
  | cons operation rest ih =>
      obtain ⟨key, hkey⟩ := hkeyed operation List.mem_cons_self
      rw [List.foldl_cons, Operation.modeAfter_of_key? hkey]
      exact ih fun other hother => hkeyed other (List.mem_cons_of_mem _ hother)

/-- A run of calls with keys changes no other key, and nothing in the inactive set. -/
theorem entry_run_kept (store : Store) {operations : List Operation} {set : Mode}
    {other : String}
    (hkeyed : ∀ operation ∈ operations, ∃ key, operation.key? = some key)
    (hfree : set = store.mode → other ∉ Operation.keysOf operations) :
    ((store.run operations).next.entries set)[other]? = (store.entries set)[other]? := by
  induction operations generalizing store with
  | nil => rfl
  | cons operation rest ih =>
      obtain ⟨key, hkey⟩ := hkeyed operation List.mem_cons_self
      have hmode : (store.perform operation).next.mode = store.mode := by
        rw [mode_perform, Operation.modeAfter_of_key? hkey]
      have hne : set = store.mode → other ≠ key := by
        rintro hset rfl
        exact hfree hset (Operation.mem_keysOf List.mem_cons_self hkey)
      have hrest := ih (store.perform operation).next
        (fun later hlater => hkeyed later (List.mem_cons_of_mem _ hlater))
        (by
          rw [hmode]
          intro hset hmem
          apply hfree hset
          simp only [Operation.keysOf, List.filterMap_cons, hkey]
          exact List.mem_cons_of_mem _ hmem)
      rw [run, hrest, entry_perform, Operation.mark?_of_key? hkey hne]
      rfl

theorem eq_of_lookup {one two : Store} (hmode : one.mode = two.mode)
    (hpolicy : one.defaultPolicy = two.defaultPolicy) (hinactive : one.inactive = two.inactive)
    (hlookup : ∀ key, one.lookup key = two.lookup key) : one = two := by
  have hactive : one.active = two.active := Std.ExtTreeMap.ext_getElem? fun key => hlookup key
  obtain ⟨persistent, temporary, mode, policy⟩ := one
  obtain ⟨persistent', temporary', mode', policy'⟩ := two
  cases hmode
  cases hpolicy
  cases mode
  · cases (hactive : persistent = persistent')
    cases (hinactive : temporary = temporary')
    rfl
  · cases (hactive : temporary = temporary')
    cases (hinactive : persistent = persistent')
    rfl

end Store

/-! ## Puts only -/

def OnlyPuts (operations : List Operation) : Prop :=
  ∀ operation ∈ operations, ∃ rule key credential,
    operation = .put rule (.text key) credential

namespace OnlyPuts

variable {operations : List Operation}

theorem length_keysOf (hputs : OnlyPuts operations) :
    (Operation.keysOf operations).length = operations.length := by
  rw [Operation.keysOf, List.length_filterMap_eq_countP, List.countP_eq_length]
  intro operation hmem
  obtain ⟨rule, key, credential, rfl⟩ := hputs operation hmem
  rfl

theorem contains_run (hputs : OnlyPuts operations) (store : Store) (key : String) :
    (store.run operations).next.contains key = true ↔
      store.contains key = true ∨ key ∈ Operation.keysOf operations := by
  induction operations generalizing store with
  | nil => simp [Store.run, Operation.keysOf]
  | cons operation rest ih =>
      obtain ⟨rule, name, credential, rfl⟩ := hputs operation List.mem_cons_self
      have hrest := ih (fun other hother => hputs other (List.mem_cons_of_mem _ hother))
        (store.perform (.put rule (.text name) credential)).next
      have hfirst : (store.perform (.put rule (.text name) credential)).next.contains key = true ↔
          store.contains key = true ∨ key = name := by
        rw [Store.contains_eq_isSome_lookup, Store.contains_eq_isSome_lookup,
          Store.lookup_perform store rfl, Operation.mark?_put]
        by_cases hname : name = key
        · cases rule.policy store.defaultPolicy <;> simp [hname, Mark.apply]
        · simp [hname, Ne.symm hname]
      have hkeys : Operation.keysOf (.put rule (.text name) credential :: rest) =
          name :: Operation.keysOf rest := rfl
      rw [Store.run, hrest, hfirst, hkeys, List.mem_cons, or_assoc]

end OnlyPuts

/-! ## Schedules -/

structure ThreadCall (ι : Type) where
  thread : ι
  operation : Operation
  deriving DecidableEq

structure ThreadTold (ι : Type) where
  thread : ι
  answer : Outcome Answer
  events : List Event

/-- Every thread uses keys, and no other thread uses them. -/
structure Apart {ι : Type} (threads : ι → List Operation) : Prop where
  keyed : ∀ thread, ∀ operation ∈ threads thread, ∃ key, operation.key? = some key
  disjoint : ∀ one two, one ≠ two →
    ∀ key ∈ Operation.keysOf (threads one), key ∉ Operation.keysOf (threads two)

/-- The calls of all threads in one order, in which those of each thread stand in
the order of the thread. -/
def Interleaves {ι : Type} [DecidableEq ι] (threads : ι → List Operation)
    (schedule : List (ThreadCall ι)) : Prop :=
  ∀ thread, schedule.filter (fun call => call.thread = thread) =
    (threads thread).map (ThreadCall.mk thread)

namespace SharedStore

variable {ι : Type}

def attend (shared : SharedStore) (call : ThreadCall ι) : Reply SharedStore (ThreadTold ι) :=
  let reply := shared.perform call.operation
  ⟨⟨call.thread, reply.answer, reply.events⟩, reply.next, reply.events⟩

def attendAll (shared : SharedStore) (schedule : List (ThreadCall ι)) :
    Reply SharedStore (List (ThreadTold ι)) :=
  Reply.sequence attend shared schedule

/-- A thread that has the store to itself. -/
def alone (shared : SharedStore) (threads : ι → List Operation) (thread : ι) :
    Reply SharedStore (List (ThreadTold ι)) :=
  shared.attendAll ((threads thread).map (ThreadCall.mk thread))

theorem next_attendAll (store : Store) {schedule : List (ThreadCall ι)}
    (hkeyed : ∀ call ∈ schedule, ∃ key, call.operation.key? = some key) :
    (attendAll ⟨store, false⟩ schedule).next =
      ⟨(store.run (schedule.map ThreadCall.operation)).next, false⟩ := by
  induction schedule generalizing store with
  | nil => rfl
  | cons call rest ih =>
      obtain ⟨key, hkey⟩ := hkeyed call List.mem_cons_self
      have hsound := perform_sound store (Operation.crashes_of_key? hkey)
      have hrest := ih (store.perform call.operation).next
        fun other hother => hkeyed other (List.mem_cons_of_mem _ hother)
      have hfirst : (attend ⟨store, false⟩ call).next =
          ⟨(store.perform call.operation).next, false⟩ := by
        rw [attend, hsound]
      have hall : (attendAll ⟨store, false⟩ (call :: rest)).next =
          (attendAll (attend ⟨store, false⟩ call).next rest).next := rfl
      rw [hall, hfirst, hrest]
      rfl

variable [DecidableEq ι]

def toldTo (thread : ι) (told : List (ThreadTold ι)) : List (ThreadTold ι) :=
  told.filter fun one => one.thread = thread

/-- A thread among others is told what it would be told alone, when it alone uses
its keys. -/
theorem told_of_agreeAt {thread : ι} {keys : List String} {schedule : List (ThreadCall ι)}
    (hkeys : ∀ call ∈ schedule, ∃ key, call.operation.key? = some key ∧
      (call.thread = thread ↔ key ∈ keys))
    {one two : Store} (h : Store.AgreeAt keys one two) :
    let own := schedule.filter fun call => call.thread = thread
    toldTo thread (attendAll ⟨one, false⟩ schedule).answer =
        (attendAll ⟨two, false⟩ own).answer ∧
      Store.AgreeAt keys (one.run (schedule.map ThreadCall.operation)).next
        (two.run (own.map ThreadCall.operation)).next := by
  -- Both stores take a call of the thread; any other call only the first one takes.
  induction schedule generalizing one two with
  | nil => exact ⟨rfl, h⟩
  | cons call rest ih =>
      obtain ⟨key, hkey, hthread⟩ := hkeys call List.mem_cons_self
      have hrest := @ih fun other hother => hkeys other (List.mem_cons_of_mem _ hother)
      have hcalm := Operation.crashes_of_key? hkey
      have hone := perform_sound one hcalm
      have htwo := perform_sound two hcalm
      by_cases hown : call.thread = thread
      · have hmem := hthread.mp hown
        obtain ⟨hanswer, hevents⟩ := h.told hkey hmem
        obtain ⟨htold, hend⟩ := hrest (h.perform hkey)
        simp only [attendAll, toldTo] at htold ⊢
        simp only [List.filter_cons, hown, decide_true, if_true, Reply.sequence, attend, hone, htwo,
          hanswer, hevents, htold, List.map_cons, Store.run, true_and]
        exact hend
      · have hmem : key ∉ keys := fun hmem => hown (hthread.mpr hmem)
        obtain ⟨htold, hend⟩ := hrest (h.perform_elsewhere hkey hmem)
        simp only [attendAll, toldTo] at htold ⊢
        simp only [List.filter_cons, hown, decide_false, Bool.false_eq_true, if_false,
          Reply.sequence, attend, hone, htold, List.map_cons, Store.run, true_and]
        exact hend

end SharedStore

/-! ## What the threads make of a store -/

section Threads

variable {ι : Type} {threads : ι → List Operation} {store final : Store}

/-- Every thread has done its work on its own keys, and nothing else has changed. -/
structure SettledBy (threads : ι → List Operation) (store final : Store) : Prop where
  mode : final.mode = store.mode
  policy : final.defaultPolicy = store.defaultPolicy
  inactive : final.inactive = store.inactive
  used : ∀ thread, ∀ key ∈ Operation.keysOf (threads thread),
    final.lookup key = (store.run (threads thread)).next.lookup key
  unused : ∀ key, (∀ thread, key ∉ Operation.keysOf (threads thread)) →
    final.lookup key = store.lookup key

namespace SettledBy

theorem unique {other : Store} (hfinal : SettledBy threads store final)
    (hother : SettledBy threads store other) : final = other := by
  apply Store.eq_of_lookup
  · rw [hfinal.mode, hother.mode]
  · rw [hfinal.policy, hother.policy]
  · rw [hfinal.inactive, hother.inactive]
  · intro key
    by_cases hused : ∃ thread, key ∈ Operation.keysOf (threads thread)
    · obtain ⟨thread, hmem⟩ := hused
      rw [hfinal.used thread key hmem, hother.used thread key hmem]
    · have hunused : ∀ thread, key ∉ Operation.keysOf (threads thread) :=
        fun thread hmem => hused ⟨thread, hmem⟩
      rw [hfinal.unused key hunused, hother.unused key hunused]

theorem count [Fintype ι] [DecidableEq ι] (hfinal : SettledBy threads store final)
    (hapart : Apart threads) (hempty : store.isEmpty = true)
    (hputs : ∀ thread, OnlyPuts (threads thread))
    (hdistinct : ∀ thread, (Operation.keysOf (threads thread)).Nodup) :
    final.count = ∑ thread, (threads thread).length := by
  have hnone : ∀ key, store.contains key = false := by
    intro key
    have hactive : store.active = ∅ := Std.ExtTreeMap.isEmpty_iff.mp hempty
    rw [Store.contains, hactive, Std.ExtTreeMap.contains_empty]
  have hcontains : ∀ key, final.contains key = true ↔
      ∃ thread, key ∈ Operation.keysOf (threads thread) := by
    intro key
    rw [Store.contains_eq_isSome_lookup]
    by_cases hused : ∃ thread, key ∈ Operation.keysOf (threads thread)
    · obtain ⟨thread, hmem⟩ := hused
      rw [hfinal.used thread key hmem, ← Store.contains_eq_isSome_lookup,
        (hputs thread).contains_run]
      exact ⟨fun _ => ⟨thread, hmem⟩, fun _ => .inr hmem⟩
    · have hunused : ∀ thread, key ∉ Operation.keysOf (threads thread) :=
        fun thread hmem => hused ⟨thread, hmem⟩
      rw [hfinal.unused key hunused, ← Store.contains_eq_isSome_lookup, hnone]
      simp [hused]
  -- The keys that are present at the end are those of the threads, which are disjoint.
  have hkeys : Entries.keySet final.active =
      Finset.univ.biUnion fun thread => (Operation.keysOf (threads thread)).toFinset := by
    ext key
    have hkey := hcontains key
    simp only [Entries.mem_keySet, Finset.mem_biUnion, Finset.mem_univ, true_and,
      List.mem_toFinset]
    exact hkey
  calc
    final.count = (Entries.keySet final.active).card := (Entries.card_keySet _).symm
    _ = ∑ thread, (Operation.keysOf (threads thread)).toFinset.card := by
      rw [hkeys, Finset.card_biUnion]
      intro one _ two _ hne
      apply Finset.disjoint_left.mpr
      intro key hone htwo
      exact hapart.disjoint one two hne key (List.mem_toFinset.mp hone) (List.mem_toFinset.mp htwo)
    _ = ∑ thread, (threads thread).length := by
      apply Finset.sum_congr rfl
      intro thread _
      rw [List.toFinset_card_of_nodup (hdistinct thread), (hputs thread).length_keysOf]

end SettledBy

variable [DecidableEq ι] {schedule : List (ThreadCall ι)}

theorem Interleaves.mem_thread (hschedule : Interleaves threads schedule) {call : ThreadCall ι}
    (hcall : call ∈ schedule) : call.operation ∈ threads call.thread := by
  have hmem : call ∈ schedule.filter fun other => other.thread = call.thread := by
    simp [hcall]
  rw [hschedule call.thread] at hmem
  obtain ⟨operation, hoperation, heq⟩ := List.mem_map.mp hmem
  rw [← heq]
  exact hoperation

theorem Interleaves.keyed (hschedule : Interleaves threads schedule) (hapart : Apart threads) :
    ∀ operation ∈ schedule.map ThreadCall.operation, ∃ key, operation.key? = some key := by
  intro operation hmem
  obtain ⟨call, hcall, rfl⟩ := List.mem_map.mp hmem
  exact hapart.keyed call.thread call.operation (hschedule.mem_thread hcall)

/-- A call uses a key of a thread just when it is a call of that thread. -/
theorem Interleaves.thread_iff_mem_keysOf (hschedule : Interleaves threads schedule)
    (hapart : Apart threads) (thread : ι) :
    ∀ call ∈ schedule, ∃ key, call.operation.key? = some key ∧
      (call.thread = thread ↔ key ∈ Operation.keysOf (threads thread)) := by
  intro call hcall
  have hoperation := hschedule.mem_thread hcall
  obtain ⟨key, hkey⟩ := hapart.keyed call.thread call.operation hoperation
  have hown : key ∈ Operation.keysOf (threads call.thread) :=
    Operation.mem_keysOf hoperation hkey
  refine ⟨key, hkey, ?_, ?_⟩
  · rintro rfl
    exact hown
  · intro hmem
    by_contra hne
    exact hapart.disjoint call.thread thread hne key hown hmem

theorem Interleaves.operations_alone (hschedule : Interleaves threads schedule) (thread : ι) :
    (schedule.filter fun call => call.thread = thread).map ThreadCall.operation =
      threads thread := by
  rw [hschedule thread, List.map_map]
  exact List.map_id (threads thread)

theorem Interleaves.told_alone (hschedule : Interleaves threads schedule)
    (hapart : Apart threads) (store : Store) (thread : ι) :
    SharedStore.toldTo thread (SharedStore.attendAll ⟨store, false⟩ schedule).answer =
      (SharedStore.alone ⟨store, false⟩ threads thread).answer := by
  have htold := (SharedStore.told_of_agreeAt
    (hschedule.thread_iff_mem_keysOf hapart thread) (.refl _ store)).1
  rw [hschedule thread] at htold
  exact htold

theorem Interleaves.settled (hschedule : Interleaves threads schedule)
    (hapart : Apart threads) (store : Store) :
    SettledBy threads store (store.run (schedule.map ThreadCall.operation)).next := by
  have hkeyed := hschedule.keyed hapart
  have hmode : (store.run (schedule.map ThreadCall.operation)).next.mode = store.mode := by
    rw [Store.mode_run, Store.modeAfter_keyed hkeyed]
  constructor
  · exact hmode
  · exact Store.defaultPolicy_run store _
  · apply Std.ExtTreeMap.ext_getElem?
    intro key
    rw [Store.inactive, hmode, store.entry_run_kept hkeyed]
    · rfl
    · intro hset
      cases hstore : store.mode <;> simp [hstore, Mode.other] at hset
  · intro thread key hmem
    have hend := (SharedStore.told_of_agreeAt
      (hschedule.thread_iff_mem_keysOf hapart thread) (.refl _ store)).2
    rw [hschedule.operations_alone thread] at hend
    exact hend.lookup key hmem
  · intro key hunused
    rw [Store.lookup, Store.active, hmode, store.entry_run_kept hkeyed]
    · rfl
    · intro _ hmem
      obtain ⟨operation, hoperation, hkey⟩ := List.mem_filterMap.mp hmem
      obtain ⟨call, hcall, rfl⟩ := List.mem_map.mp hoperation
      exact hunused call.thread
        (Operation.mem_keysOf (hschedule.mem_thread hcall) hkey)

/-- The order into which the lock puts the calls of threads on keys of their own
is noticed by none of them, and leaves no trace in the store. -/
theorem interleavings_agree [Fintype ι] (hapart : Apart threads)
    {shared : SharedStore} (hsound : shared.poisoned = false)
    {one two : List (ThreadCall ι)}
    (hone : Interleaves threads one) (htwo : Interleaves threads two) :
    let first := shared.attendAll one
    let second := shared.attendAll two
    let final := first.next.store
    first.next = second.next ∧
      (∀ thread, SharedStore.toldTo thread first.answer = SharedStore.toldTo thread second.answer ∧
        SharedStore.toldTo thread first.answer = (shared.alone threads thread).answer) ∧
      first.next.poisoned = false ∧
      final.mode = shared.store.mode ∧
      final.inactive = shared.store.inactive ∧
      (∀ thread, ∀ key ∈ Operation.keysOf (threads thread),
        final.lookup key = (shared.alone threads thread).next.store.lookup key) ∧
      (∀ key, (∀ thread, key ∉ Operation.keysOf (threads thread)) →
        final.lookup key = shared.store.lookup key) ∧
      (shared.store.isEmpty = true → (∀ thread, OnlyPuts (threads thread)) →
        (∀ thread, (Operation.keysOf (threads thread)).Nodup) →
        final.count = ∑ thread, (threads thread).length) := by
  obtain ⟨store, poisoned⟩ := shared
  cases hsound
  intro first second final
  have hkeyed : ∀ schedule, Interleaves threads schedule →
      ∀ call ∈ schedule, ∃ key, call.operation.key? = some key :=
    fun schedule hschedule call hcall =>
      hapart.keyed call.thread call.operation (hschedule.mem_thread hcall)
  have hfirst : first.next = ⟨(store.run (one.map ThreadCall.operation)).next, false⟩ :=
    SharedStore.next_attendAll store (hkeyed one hone)
  have hsecond : second.next = ⟨(store.run (two.map ThreadCall.operation)).next, false⟩ :=
    SharedStore.next_attendAll store (hkeyed two htwo)
  have hfinal : final = (store.run (one.map ThreadCall.operation)).next := by
    simp only [final, hfirst]
  have halone : ∀ thread, (SharedStore.alone ⟨store, false⟩ threads thread).next.store =
      (store.run (threads thread)).next := by
    intro thread
    rw [SharedStore.alone, SharedStore.next_attendAll store]
    · simp [List.map_map, Function.comp_def]
    · intro call hcall
      obtain ⟨operation, hoperation, rfl⟩ := List.mem_map.mp hcall
      exact hapart.keyed thread operation hoperation
  have hsettled : SettledBy threads store final := hfinal ▸ hone.settled hapart store
  have hother := htwo.settled hapart store
  refine ⟨?_, ?_, ?_, hsettled.mode, hsettled.inactive, ?_, hsettled.unused, ?_⟩
  · rw [hfirst, hsecond, ← hfinal, hsettled.unique hother]
  · intro thread
    have htold := hone.told_alone hapart store thread
    exact ⟨htold.trans (htwo.told_alone hapart store thread).symm, htold⟩
  · rw [hfirst]
  · intro thread key hmem
    rw [halone thread]
    exact hsettled.used thread key hmem
  · intro hempty hputs hdistinct
    exact hsettled.count hapart hempty hputs hdistinct

end Threads

/-- The first thread comes first, or in the middle of the second; three puts are
three entries in either case. -/
theorem two_threads_fill_temporary_set :
    let ann : Credential := ⟨"ann", "home", ⟨"first"⟩⟩
    let threads : Fin 2 → List Operation := fun thread =>
      if thread = 0 then [.put .byDefault (.text "share") ann]
      else [.put .replace (.text "disk") ann, .put (.under .insertIfAbsent) (.text "tape") .empty]
    let calls := fun thread => (threads thread).map (ThreadCall.mk thread)
    let one := calls 0 ++ calls 1
    let two := (calls 1).take 1 ++ calls 0 ++ (calls 1).drop 1
    let shared := SharedStore.ofStore { mode := .temporary, defaultPolicy := .insertIfAbsent }
    Apart threads ∧ shared.poisoned = false ∧ Interleaves threads one ∧ Interleaves threads two ∧
      (shared.store.isEmpty = true ∧ (∀ thread, OnlyPuts (threads thread)) ∧
        ∀ thread, (Operation.keysOf (threads thread)).Nodup) ∧
      (shared.attendAll one).next = (shared.attendAll two).next ∧
      (shared.attendAll one).next.store.count = 3 := by
  intro ann threads calls one two shared
  have hapart : Apart threads := by
    constructor
    · intro thread operation hmem
      fin_cases thread
      · obtain rfl := List.mem_singleton.mp hmem
        exact ⟨_, rfl⟩
      · rcases List.mem_pair.mp hmem with rfl | rfl
        · exact ⟨_, rfl⟩
        · exact ⟨_, rfl⟩
    · decide
  have hone : Interleaves threads one := by
    intro thread
    fin_cases thread <;> rfl
  have htwo : Interleaves threads two := by
    intro thread
    fin_cases thread <;> rfl
  have hputs : ∀ thread, OnlyPuts (threads thread) := by
    intro thread operation hmem
    fin_cases thread
    · obtain rfl := List.mem_singleton.mp hmem
      exact ⟨_, _, _, rfl⟩
    · rcases List.mem_pair.mp hmem with rfl | rfl
      · exact ⟨_, _, _, rfl⟩
      · exact ⟨_, _, _, rfl⟩
  have hdistinct : ∀ thread, (Operation.keysOf (threads thread)).Nodup := by decide
  have hempty : shared.store.isEmpty = true := rfl
  have hsound : shared.poisoned = false := rfl
  obtain ⟨hnext, -, -, -, -, -, -, hcount⟩ := interleavings_agree hapart hsound hone htwo
  refine ⟨hapart, hsound, hone, htwo, ⟨hempty, hputs, hdistinct⟩, hnext, ?_⟩
  exact (hcount hempty hputs hdistinct).trans (by decide)

end Keyring
