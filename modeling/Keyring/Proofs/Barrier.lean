import Keyring.Proofs.Handles
import Keyring.Queue.Recorder

/-!
# A flush is a barrier

Clients, the worker and direct callers move in any order.  When a flush is
answered, everything that any client had accepted before it has been applied,
once and in order.  A backend that nobody else writes to has received one call
of a method for each of these requests, whatever it answered.

Others may call a shared store meanwhile.  It is then as if there were direct
calls only, one for each request and those that were made, one by one; if the
direct calls only read, the store is what the requests have made of it.
-/

namespace Keyring

namespace Queue

/-- Something that is done to the store behind a worker. -/
inductive Touch where
  | applied (call : Call)
  | direct (operation : Operation)

/-- The direct calls on a store that do what calls of clients ask for. -/
def directly (calls : List Call) : List Operation :=
  calls.filterMap fun call => call.request.operation?

theorem directly_cons (call : Call) (rest : List Call) :
    directly (call :: rest) = call.request.operation?.toList ++ directly rest := by
  cases hasked : call.request.operation? <;> simp [directly, hasked]

namespace Touch

def call? : Touch → Option Call
  | .applied call => some call
  | .direct _ => none

def direct? : Touch → Option Operation
  | .applied _ => none
  | .direct operation => some operation

/-- The direct call that does the same to the store. -/
def operation? : Touch → Option Operation
  | .applied call => call.request.operation?
  | .direct operation => some operation

theorem operations_cons_applied (call : Call) (rest : List Touch) :
    (applied call :: rest).filterMap operation? =
      call.request.operation?.toList ++ rest.filterMap operation? := by
  cases hasked : call.request.operation? <;> simp [operation?, hasked]

/-- Requests never crash, so only direct calls can. -/
theorem any_crashes (touches : List Touch) :
    (touches.filterMap operation?).any Operation.crashes =
      (touches.filterMap direct?).any Operation.crashes := by
  induction touches with
  | nil => rfl
  | cons touch rest ih =>
      cases touch with
      | applied call =>
          have hcalm : call.request.operation?.toList.any Operation.crashes = false := by
            cases hasked : call.request.operation? with
            | none => rfl
            | some operation => simp [Request.calm_of_operation? hasked]
          rw [operations_cons_applied, List.any_append, hcalm, Bool.false_or, ih]
          rfl
      | direct operation => simp [operation?, direct?, ih]

/-- Calls that only read leave nothing but the requests. -/
theorem run_of_reads {touches : List Touch}
    (hreads : ∀ operation, .direct operation ∈ touches → operation.isRead = true)
    (cache : SharedStore) :
    (cache.run (touches.filterMap operation?)).next =
      (cache.run (directly (touches.filterMap call?))).next := by
  induction touches generalizing cache with
  | nil => rfl
  | cons touch rest ih =>
      have hrest : ∀ operation, .direct operation ∈ rest → operation.isRead = true :=
        fun operation hmem => hreads operation (List.mem_cons_of_mem _ hmem)
      cases touch with
      | applied call =>
          have hcalls : (applied call :: rest).filterMap call? = call :: rest.filterMap call? := rfl
          rw [operations_cons_applied, hcalls, directly_cons, SharedStore.run_append,
            SharedStore.run_append]
          exact ih hrest _
      | direct operation =>
          have hnext : (cache.perform operation).next = cache :=
            SharedStore.next_perform_of_isRead (hreads operation List.mem_cons_self) cache
          change ((cache.perform operation).next.run (rest.filterMap operation?)).next = _
          rw [hnext]
          exact ih hrest cache

end Touch

namespace Deed

/-- The action that a deed comes to. -/
def action (cache : SharedStore) : Deed → Action SharedStore
  | .queued action => action
  | .direct operation =>
    let reply := cache.perform operation
    .outside reply.next reply.events

def operation? : Deed → Option Operation
  | .queued _ => none
  | .direct operation => some operation

/-- Whether the deed comes to the store through its lock, as every handle does. -/
def keepsLock : Deed → Bool
  | .queued action => !action.isOutside
  | .direct _ => true

/-- Whether the deed leaves it to the worker to write. -/
def leavesStore : Deed → Bool
  | .queued action => !action.isOutside
  | .direct operation => operation.isRead

theorem keepsLock_of_leavesStore {deed : Deed} (h : deed.leavesStore = true) :
    deed.keepsLock = true := by
  cases deed with
  | queued action => exact h
  | direct operation => rfl

end Deed

namespace Exchange

open Occurrence

def act (x : Exchange SharedStore) (deed : Deed) : Exchange SharedStore × List Occurrence :=
  x.step .shared (deed.action x.cache)

/-- The actions that deeds in order come to. -/
def script (x : Exchange SharedStore) : List Deed → List (Action SharedStore)
  | [] => []
  | deed :: rest => deed.action x.cache :: (x.act deed).1.script rest

def actAll (x : Exchange SharedStore) (deeds : List Deed) :
    Exchange SharedStore × List Occurrence :=
  x.run .shared (x.script deeds)

/-- What a deed does to the store. -/
def touched (x : Exchange SharedStore) (deed : Deed) : List Touch :=
  (appliedCalls (x.act deed).2).map .applied ++ deed.operation?.toList.map .direct

def touches (x : Exchange SharedStore) : List Deed → List Touch
  | [] => []
  | deed :: rest => x.touched deed ++ (x.act deed).1.touches rest

theorem actAll_cons (x : Exchange SharedStore) (deed : Deed) (rest : List Deed) :
    x.actAll (deed :: rest) =
      (((x.act deed).1.actAll rest).1, (x.act deed).2 ++ ((x.act deed).1.actAll rest).2) :=
  rfl

theorem script_concat (x : Exchange SharedStore) (deeds : List Deed) (last : Deed) :
    x.script (deeds ++ [last]) = x.script deeds ++ [last.action (x.actAll deeds).1.cache] := by
  induction deeds generalizing x with
  | nil => rfl
  | cons deed rest ih => simp only [List.cons_append, script, ih, actAll_cons]

theorem cache_act (x : Exchange SharedStore) {deed : Deed} (hlock : deed.keepsLock = true) :
    (x.act deed).1.cache = (x.cache.run ((x.touched deed).filterMap Touch.operation?)).next := by
  cases deed with
  | queued action =>
      have hinside : action.isOutside = false := by simpa [Deed.keepsLock] using hlock
      have hcache := cache_of_move Backend.shared_returns hinside (move_step .shared x action)
      have htouched : (x.touched (.queued action)).filterMap Touch.operation? =
          (appliedRequests (x.step .shared action).2).filterMap Request.operation? := by
        simp [touched, act, Deed.action, Deed.operation?, appliedRequests, List.filterMap_map,
          Function.comp_def, Touch.operation?]
      rw [htouched, ← Backend.applyAll_shared]
      exact hcache
  | direct operation =>
      simp [touched, act, Deed.action, step, Deed.operation?, Touch.operation?, SharedStore.run]

theorem cache_actAll (x : Exchange SharedStore) {deeds : List Deed}
    (hlock : ∀ deed ∈ deeds, deed.keepsLock = true) :
    (x.actAll deeds).1.cache =
      (x.cache.run ((x.touches deeds).filterMap Touch.operation?)).next := by
  induction deeds generalizing x with
  | nil => rfl
  | cons deed rest ih =>
      have hfirst := x.cache_act (hlock deed List.mem_cons_self)
      have hrest := ih (x.act deed).1 fun other hmem => hlock other (List.mem_cons_of_mem _ hmem)
      rw [actAll_cons, hrest, hfirst, touches, List.filterMap_append, SharedStore.run_append]

theorem calls_touches (x : Exchange SharedStore) (deeds : List Deed) :
    (x.touches deeds).filterMap Touch.call? = appliedCalls (x.actAll deeds).2 := by
  induction deeds generalizing x with
  | nil => rfl
  | cons deed rest ih =>
      have hfirst : (x.touched deed).filterMap Touch.call? = appliedCalls (x.act deed).2 := by
        simp [touched, List.filterMap_map, Function.comp_def, Touch.call?]
      rw [touches, List.filterMap_append, hfirst, ih, actAll_cons, appliedCalls_append]

theorem directs_touches (x : Exchange SharedStore) (deeds : List Deed) :
    (x.touches deeds).filterMap Touch.direct? = deeds.filterMap Deed.operation? := by
  induction deeds generalizing x with
  | nil => rfl
  | cons deed rest ih =>
      have hfirst : (x.touched deed).filterMap Touch.direct? = deed.operation?.toList := by
        simp [touched, List.filterMap_map, Function.comp_def, Touch.direct?]
      rw [touches, List.filterMap_append, hfirst, ih]
      cases deed <;> rfl

theorem isRead_of_mem_touches {x : Exchange SharedStore} {deeds : List Deed}
    (hleave : ∀ deed ∈ deeds, deed.leavesStore = true) {operation : Operation}
    (hmem : .direct operation ∈ x.touches deeds) : operation.isRead = true := by
  have hmade : operation ∈ deeds.filterMap Deed.operation? := by
    rw [← x.directs_touches]
    exact List.mem_filterMap.mpr ⟨_, hmem, rfl⟩
  obtain ⟨deed, hdeed, hoperation⟩ := List.mem_filterMap.mp hmade
  cases deed with
  | queued action => cases hoperation
  | direct other =>
      cases hoperation
      exact hleave _ hdeed

/-- The requests up to a flush, as a log tells of them when the flush is answered. -/
structure Reached (flush : Call) (earlier later : List Call) (log : List Occurrence) : Prop where
  accepted : acceptedCalls log = earlier ++ flush :: later
  once : (acceptedCalls log).Nodup
  applied : appliedCalls log = earlier ++ [flush]

theorem reached_of_flush_answered {σ : Type} {backend : Backend σ} {cache : σ} {capacity : Nat}
    {start : Exchange σ} (hstart : spawn cache capacity = some start)
    {actions : List (Action σ)} {last : Action σ} {flush : Call}
    (hflush : flush.request = .flush)
    (hanswer : .answered flush (.ok ()) ∈ ((start.run backend actions).1.step backend last).2) :
    let whole := start.run backend (actions ++ [last])
    ∃ earlier later, Reached flush earlier later whole.2 ∧
      ((∀ action ∈ actions ++ [last], action.isOutside = false) →
        whole.1.cache = (backend.callAll cache (earlier.map Call.request)).2) := by
  intro whole
  obtain ⟨earlier, later, haccepted, happlied, hrunning⟩ :=
    order_of_flush_answered hstart hflush hanswer
  have honce : (acceptedCalls whole.2).Nodup := (inOrder_run hstart backend _).once
  exact ⟨earlier, later, ⟨haccepted, honce, happlied⟩, fun hinside =>
    cache_of_flush_applied hstart hinside hflush happlied hrunning⟩

/-- When a flush is answered, what was accepted before it has been applied.  Whatever
backend the worker has, it has received these requests as calls of its methods; and a
shared store is what these requests and the direct calls have made of it. -/
theorem flush_is_barrier :
    (∀ {σ : Type} {cache : σ} {capacity : Nat} {start : Exchange σ},
      spawn cache capacity = some start →
        ∀ (backend : Backend σ) (actions : List (Action σ)) (last : Action σ) (flush : Call),
          flush.request = .flush →
          .answered flush (.ok ()) ∈ ((start.run backend actions).1.step backend last).2 →
            let whole := start.run backend (actions ++ [last])
            ∃ earlier later, Reached flush earlier later whole.2 ∧
              ((∀ action ∈ actions ++ [last], action.isOutside = false) →
                whole.1.cache = (backend.callAll cache (earlier.map Call.request)).2)) ∧
    ∀ {cache : SharedStore} {capacity : Nat} {start : Exchange SharedStore},
      spawn cache capacity = some start →
        ∀ (deeds : List Deed) (last : Deed) (flush : Call), flush.request = .flush →
          .answered flush (.ok ()) ∈ ((start.actAll deeds).1.act last).2 →
            let whole := start.actAll (deeds ++ [last])
            let touches := start.touches (deeds ++ [last])
            ∃ earlier later, Reached flush earlier later whole.2 ∧
              touches.filterMap Touch.call? = earlier ++ [flush] ∧
              touches.filterMap Touch.direct? = (deeds ++ [last]).filterMap Deed.operation? ∧
              ((∀ deed ∈ deeds ++ [last], deed.keepsLock = true) →
                whole.1.cache = (cache.run (touches.filterMap Touch.operation?)).next) ∧
              ((∀ deed ∈ deeds ++ [last], deed.leavesStore = true) →
                whole.1.cache = (cache.run (directly earlier)).next ∧
                  (later = [] →
                    whole.1.cache = (cache.run (directly (acceptedCalls whole.2))).next)) := by
  refine ⟨fun hstart _ _ _ _ hflush hanswer =>
    reached_of_flush_answered hstart hflush hanswer, ?_⟩
  intro cache capacity start hstart deeds last flush hflush hanswer whole touches
  have hwhole : whole = start.run .shared
      (start.script deeds ++ [last.action (start.actAll deeds).1.cache]) := by
    simp only [whole, actAll, script_concat]
  have hcache : start.cache = cache := by rw [eq_of_spawn hstart]
  obtain ⟨earlier, later, hreached, -⟩ := reached_of_flush_answered hstart hflush hanswer
  rw [← hwhole] at hreached
  have hcalls : touches.filterMap Touch.call? = earlier ++ [flush] := by
    rw [← hreached.applied]
    exact start.calls_touches _
  have hstore : (∀ deed ∈ deeds ++ [last], deed.keepsLock = true) →
      whole.1.cache = (cache.run (touches.filterMap Touch.operation?)).next := by
    intro hlock
    rw [← hcache]
    exact start.cache_actAll hlock
  refine ⟨earlier, later, hreached, hcalls, start.directs_touches _, hstore, ?_⟩
  intro hleave
  -- The flush itself asks nothing of the store.
  have hflushless : directly (earlier ++ [flush]) = directly earlier := by
    simp [directly, hflush, Request.operation?]
  have hrequests : whole.1.cache = (cache.run (directly earlier)).next := by
    rw [hstore fun deed hmem => Deed.keepsLock_of_leavesStore (hleave deed hmem),
      Touch.run_of_reads fun operation hmem => isRead_of_mem_touches hleave hmem, hcalls,
      hflushless]
  refine ⟨hrequests, fun hnone => ?_⟩
  rw [hrequests, hreached.accepted, hnone, hflushless]

/-- A put that fails and a flush whose caller does not stay, before the flush that is
answered: at a backend that keeps a record, and at a store whose lock is poisoned. -/
theorem barrier_behind_failed_put :
    let ann : Credential := ⟨"ann", "home", ⟨"first"⟩⟩
    let recording : Exchange Recorder := { capacity := 1, cache := { failPut := true } }
    let actions : List (Action Recorder) :=
      [.call 0 (.put "share" ann .overwrite), .enter 0, .work, .clone 0, .work,
        .call 1 .flush, .enter 1, .giveUp 1, .work, .call 1 .flush, .enter 2]
    let start : Exchange SharedStore := { capacity := 1, cache := .new }
    let deeds : List Deed :=
      [.queued (.call 0 (.put "share" ann .overwrite)), .queued (.enter 0), .queued .work,
        .queued .work, .queued (.clone 0), .queued (.call 0 (.put "other" ann .overwrite)),
        .queued (.enter 1), .direct (.put .replace .crashing ann), .queued .work,
        .queued (.call 1 .flush), .queued (.enter 2), .queued (.giveUp 2), .queued .work,
        .queued (.call 1 .flush), .queued (.enter 3)]
    let recorded := recording.run Recorder.backend (actions ++ [.work])
    let whole := start.actAll (deeds ++ [.queued .work])
    spawn ({ failPut := true } : Recorder) 0 = some recording ∧
      .answered ⟨2, 1, .flush⟩ (.ok ()) ∈
        ((recording.run Recorder.backend actions).1.step Recorder.backend .work).2 ∧
      spawn SharedStore.new 0 = some start ∧
      .answered ⟨3, 1, .flush⟩ (.ok ()) ∈ ((start.actAll deeds).1.act (.queued .work)).2 ∧
      recorded.1.cache.calls = [.put "share" ann .overwrite] ∧
      (∃ earlier later, Reached ⟨2, 1, .flush⟩ earlier later recorded.2) ∧
      whole.1.cache.store.lookup "share" = some ann ∧
      whole.1.cache.store.lookup "other" = none ∧
      whole.1.cache.poisoned = true ∧
      ∃ earlier later, Reached ⟨3, 1, .flush⟩ earlier later whole.2 := by
  intro ann recording actions start deeds recorded whole
  have hspawned : spawn ({ failPut := true } : Recorder) 0 = some recording := rfl
  have hspawn : spawn SharedStore.new 0 = some start := rfl
  have htold : .answered ⟨2, 1, .flush⟩ (.ok ()) ∈
      ((recording.run Recorder.backend actions).1.step Recorder.backend .work).2 := by
    have hlast : ((recording.run Recorder.backend actions).1.step Recorder.backend .work).2 =
        [.applied ⟨2, 1, .flush⟩, .answered ⟨2, 1, .flush⟩ (.ok ())] := by cbv
    simp [hlast]
  have hanswer : .answered ⟨3, 1, .flush⟩ (.ok ()) ∈
      ((start.actAll deeds).1.act (.queued .work)).2 := by
    have hlast : ((start.actAll deeds).1.act (.queued .work)).2 =
        [.applied ⟨3, 1, .flush⟩, .answered ⟨3, 1, .flush⟩ (.ok ())] := by cbv
    simp [hlast]
  obtain ⟨earlier, later, hrecorded, hcalls⟩ :=
    flush_is_barrier.1 hspawned Recorder.backend actions .work ⟨2, 1, .flush⟩ rfl htold
  obtain ⟨others, rest, hreached, -, -, hstore, -⟩ :=
    flush_is_barrier.2 hspawn deeds (.queued .work) ⟨3, 1, .flush⟩ rfl hanswer
  have hasked : earlier = [⟨0, 0, .put "share" ann .overwrite⟩, ⟨1, 1, .flush⟩] := by
    refine List.append_cancel_right (hrecorded.applied.symm.trans ?_)
    cbv
  have htouches : (start.touches (deeds ++ [.queued .work])).filterMap Touch.operation? =
      [.put (.under .overwrite) (.text "share") ann, .put .replace .crashing ann,
        .put (.under .overwrite) (.text "other") ann] := by cbv
  have hcache := hstore (by simp [deeds, Deed.keepsLock, Action.isOutside])
  rw [htouches] at hcache
  refine ⟨hspawned, htold, hspawn, hanswer, ?_, ⟨earlier, later, hrecorded⟩, ?_, ?_, ?_,
    others, rest, hreached⟩
  · rw [hcalls (by simp [actions, Action.isOutside]), hasked]
    rfl
  · rw [hcache]
    cbv
  · rw [hcache]
    cbv
  · rw [hcache]
    rfl

end Exchange
end Queue
end Keyring
