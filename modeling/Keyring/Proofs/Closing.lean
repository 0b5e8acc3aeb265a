import Keyring.Proofs.Answers
import Keyring.Proofs.Barrier

/-!
# An aborted worker closes its clients

A worker may be aborted while requests are queued, callers wait for room and
flushes wait for their answers.  What the store has received by then is all it
will receive, and everybody who is without an answer is told that the client is
closed, as is everybody who calls later.

Once the worker has ended, clients can only be refused: `Shut` says so of the rest
of a run.  Whoever holds a handle on the store itself is not concerned.
-/

namespace Keyring
namespace Queue
namespace Exchange

open Occurrence

variable {σ : Type} {backend : Backend σ} {x next : Exchange σ} {action : Action σ}
  {log occurrences : List Occurrence}

/-! ## After the end of the worker -/

/-- An exchange whose worker has ended, and what has been observed since. -/
structure Shut (x : Exchange σ) (log : List Occurrence) : Prop where
  closed : x.isClosed = true
  waiting : x.waiting = []
  accepted : acceptedCalls log = []
  applied : appliedCalls log = []
  refused : ∀ call, .answered call (.ok ()) ∉ log

theorem not_running_of_closed (hclosed : x.isClosed = true) : x.worker ≠ .running := by
  intro hworker
  rw [isClosed_of_running hworker] at hclosed
  contradiction

theorem shut_of_move (hmove : Move backend x action next occurrences) (h : Shut x log) :
    Shut next (log ++ occurrences) := by
  have hclosed := h.closed
  have hwaiting := h.waiting
  have hrunning := not_running_of_closed hclosed
  -- A move that answers nobody with success.
  have hquiet : next.isClosed = true → next.waiting = [] → acceptedCalls occurrences = [] →
      appliedCalls occurrences = [] → (∀ call, .answered call (.ok ()) ∉ occurrences) →
      Shut next (log ++ occurrences) := by
    intro hshut hnone haccepted happlied hrefused
    refine ⟨hshut, hnone, by simp [h.accepted, haccepted], by simp [h.applied, happlied], ?_⟩
    intro call hmem
    rcases List.mem_append.mp hmem with hold | hnew
    · exact h.refused call hold
    · exact hrefused call hnew
  cases hmove with
  | idle hcall => exact hquiet hclosed hwaiting rfl rfl (by simp)
  | refused hlive hend => exact hquiet hclosed hwaiting rfl rfl (by simp)
  | asked hlive hopen => exact absurd (hclosed.symm.trans hopen) (by simp)
  | entered hwaits hroom => simp [hwaiting] at hwaits
  | gaveUp => exact hquiet hclosed (by simp [hwaiting]) rfl rfl (by simp)
  | counted hcall => exact hquiet hclosed hwaiting rfl rfl (by simp)
  | started hready => simp [isClosed, hready] at hclosed
  | applied hrun hqueue hanswer => exact absurd hrun hrunning
  | broken hrun hqueue hanswer => exact absurd hrun hrunning
  | finished hrun hqueue hclients => exact absurd hrun hrunning
  | aborted hopen => exact absurd (hclosed.symm.trans hopen) (by simp)
  | replaced => exact hquiet hclosed hwaiting (by simp) (by simp) (by simp)

theorem shut_run (h : Shut x []) (backend : Backend σ) (actions : List (Action σ)) :
    Shut (x.run backend actions).1 (x.run backend actions).2 := by
  simpa using run_of_move backend shut_of_move h actions

theorem step_call_of_closed (backend : Backend σ) {client : Nat} {request : Request}
    (hlive : x.isLive client = true) (hclosed : x.isClosed = true) :
    x.step backend (.call client request) =
      ({ x with nextId := x.nextId + 1 },
        [.answered ⟨x.nextId, client, request⟩ (.error .clientClosed)]) := by
  simp only [step, hlive, if_true]
  exact if_pos (by simpa [isClosed] using hclosed)

/-- Clients whose worker has ended cannot reach the store. -/
theorem cache_of_shut (hmove : Move backend x action next occurrences) (h : Shut x log)
    (hinside : action.isOutside = false) : next.cache = x.cache := by
  have hrunning := not_running_of_closed h.closed
  have hnone : appliedCalls (log ++ occurrences) = [] := (shut_of_move hmove h).applied
  have hcache := cache_of_sound_move hinside (fun hrun => absurd hrun hrunning) hmove
  rw [appliedCalls_append, List.append_eq_nil_iff] at hnone
  rw [hcache, appliedRequests, hnone.2]
  rfl

theorem cache_run_of_shut (h : Shut x log) {actions : List (Action σ)}
    (hinside : ∀ action ∈ actions, action.isOutside = false) :
    (x.run backend actions).1.cache = x.cache := by
  induction actions generalizing x log with
  | nil => rfl
  | cons action rest ih =>
      obtain ⟨hfirst, hrest⟩ := List.forall_mem_cons.mp hinside
      have hmove := move_step backend x action
      exact (ih (shut_of_move hmove h) hrest).trans (cache_of_shut hmove h hfirst)

/-- Direct callers find the store as the worker left it, and nobody else changes it. -/
theorem cache_actAll_of_shut {x : Exchange SharedStore} (h : Shut x log) {deeds : List Deed}
    (hlock : ∀ deed ∈ deeds, deed.keepsLock = true) :
    (x.actAll deeds).1.cache = (x.cache.run (deeds.filterMap Deed.operation?)).next := by
  induction deeds generalizing x log with
  | nil => rfl
  | cons deed rest ih =>
      obtain ⟨hfirst, hrest⟩ := List.forall_mem_cons.mp hlock
      have hmove := move_step .shared x (deed.action x.cache)
      have hothers : ((x.act deed).1.actAll rest).1.cache =
          ((x.act deed).1.cache.run (rest.filterMap Deed.operation?)).next :=
        ih (shut_of_move hmove h) hrest
      rw [actAll_cons, hothers]
      cases deed with
      | queued action =>
          have hinside : action.isOutside = false := by simpa [Deed.keepsLock] using hfirst
          have hcache : (x.act (.queued action)).1.cache = x.cache :=
            cache_of_shut hmove h hinside
          rw [hcache]
          rfl
      | direct operation => rfl

/-! ## The abort -/

variable {cache : σ} {capacity : Nat} {start : Exchange σ}

/-- Whatever the state of the exchange, an abort leaves the worker ended. -/
theorem shut_abort {room : Nat} (h : InOrder room x log) : Shut (x.step backend .abort).1 [] := by
  cases hclosed : x.isClosed with
  | false =>
      simp only [step, hclosed]
      exact ⟨rfl, rfl, rfl, rfl, by simp⟩
  | true =>
      simp only [step, hclosed, if_true]
      exact ⟨hclosed, (h.closed hclosed).2.1, rfl, rfl, by simp⟩

theorem abort_moves_nothing (backend : Backend σ) (x : Exchange σ) :
    let moved := x.step backend .abort
    acceptedCalls moved.2 = [] ∧ appliedCalls moved.2 = [] ∧
      (∀ call, .answered call (.ok ()) ∉ moved.2) ∧ moved.1.cache = x.cache := by
  cases hclosed : x.isClosed <;> simp [step, hclosed, close]

theorem results_abort {calls : List Call} {left : List Nat} {room : Nat}
    (horder : InOrder room x log) (h : Accounted x log calls left) {call : Call}
    (hcall : call ∈ calls) (hnone : results call.id log = []) (hstays : call.id ∉ left) :
    results call.id (x.step backend .abort).2 = [.error .clientClosed] := by
  have hpending : call ∈ x.pending := (h.settled call hcall hnone).resolve_right hstays
  cases hclosed : x.isClosed with
  | true =>
      obtain ⟨-, hwaiting, hlistening⟩ := horder.closed hclosed
      simp [pending, hwaiting, hlistening] at hpending
  | false =>
      have hpart : (x.listening ++ x.waiting).Perm x.pending := List.perm_append_comm
      have hapart : ((x.listening ++ x.waiting).map Call.id).Nodup :=
        (hpart.map Call.id).nodup_iff.mpr h.apart
      simp only [step, hclosed, close]
      exact results_answered_of_mem _ hapart (hpart.symm.subset hpending)

/-- An occurrence of a run is due to one of its actions. -/
theorem exists_step_of_mem_run {occurrence : Occurrence} {actions : List (Action σ)}
    (hmem : occurrence ∈ (x.run backend actions).2) :
    ∃ before last after, actions = before ++ last :: after ∧
      occurrence ∈ ((x.run backend before).1.step backend last).2 := by
  induction actions generalizing x with
  | nil => simp [run] at hmem
  | cons action rest ih =>
      rcases List.mem_append.mp hmem with hfirst | hrest
      · exact ⟨[], action, rest, rfl, hfirst⟩
      · obtain ⟨before, last, after, rfl, hlast⟩ := ih hrest
        exact ⟨action :: before, last, after, rfl, hlast⟩

/-- A flush that is answered in a run has been reached in that run. -/
theorem order_of_flush_answered_in_run (hstart : spawn cache capacity = some start)
    {actions : List (Action σ)} {flush : Call} (hflush : flush.request = .flush)
    (hanswer : .answered flush (.ok ()) ∈ (start.run backend actions).2) :
    let whole := start.run backend actions
    ∃ earlier later, acceptedCalls whole.2 = earlier ++ flush :: later ∧
      earlier ++ [flush] <+: appliedCalls whole.2 := by
  intro whole
  obtain ⟨before, last, after, rfl, hlast⟩ := exists_step_of_mem_run hanswer
  obtain ⟨earlier, later, haccepted, happlied, -⟩ :=
    order_of_flush_answered hstart hflush hlast
  have hwhole : whole = start.run backend ((before ++ [last]) ++ after) := by
    simp [whole]
  set reached := start.run backend (before ++ [last])
  set others := reached.1.run backend after
  have hlog : whole.2 = reached.2 ++ others.2 := by rw [hwhole, run_append]
  refine ⟨earlier, later ++ acceptedCalls others.2, ?_, ?_⟩
  · rw [hlog, acceptedCalls_append, haccepted, List.append_assoc, List.cons_append]
  · rw [hlog, appliedCalls_append, happlied]
    exact List.prefix_append _ _

/-- A run up to an abort, and the same run with the abort and what comes after it. -/
structure ClosedByAbort (backend : Backend σ) (initial : σ) (before after : List (Action σ))
    (calls : List Call) (closing whole : Exchange σ × List Occurrence) : Prop where
  accepted : acceptedCalls whole.2 = acceptedCalls closing.2
  applied : appliedCalls whole.2 = appliedCalls closing.2
  inOrder : appliedCalls whole.2 <+: acceptedCalls whole.2
  /-- The backend has received the applied requests, as calls of its methods. -/
  received : (∀ action ∈ before, action.isOutside = false) → closing.1.worker ≠ .ended .panicked →
    closing.1.cache = (backend.callAll initial (appliedRequests closing.2)).2
  untouched : (∀ action ∈ after, action.isOutside = false) → whole.1.cache = closing.1.cache
  /-- Whoever has no answer yet, and stays for it, is refused. -/
  refused : ∀ call ∈ calls, results call.id closing.2 = [] → .giveUp call.id ∉ before →
    results call.id whole.2 = [.error .clientClosed]
  /-- A flush is never answered with success but by a worker that has come to it. -/
  barrier : ∀ flush : Call, flush.request = .flush → .answered flush (.ok ()) ∈ whole.2 →
    .answered flush (.ok ()) ∈ closing.2 ∧
      ∃ earlier later, acceptedCalls closing.2 = earlier ++ flush :: later ∧
        earlier ++ [flush] <+: appliedCalls closing.2
  closed : whole.1.isClosed = true
  /-- Every later call of every client is refused at once. -/
  later : ∀ client request, whole.1.isLive client = true →
    let moved := whole.1.step backend (.call client request)
    moved.2 = [.answered ⟨whole.1.nextId, client, request⟩ (.error .clientClosed)] ∧
      moved.1.cache = whole.1.cache

theorem closedByAbort_run (hstart : spawn cache capacity = some start) (backend : Backend σ)
    (before after : List (Action σ)) :
    ClosedByAbort backend cache before after (start.made backend before)
      (start.run backend before) (start.run backend (before ++ .abort :: after)) := by
  set closing := start.run backend before with hclosing
  set aborted := closing.1.step backend .abort with haborted
  set ended := aborted.1.run backend after with hended
  set whole := start.run backend (before ++ .abort :: after) with hwhole
  have horder : InOrder (max capacity 1) closing.1 closing.2 := inOrder_run hstart backend before
  have hshut : Shut ended.1 ended.2 := shut_run (shut_abort horder) backend after
  have hstate : whole.1 = ended.1 := by
    rw [hwhole, run_append]
    rfl
  have hlog : whole.2 = closing.2 ++ (aborted.2 ++ ended.2) := by
    rw [hwhole, run_append]
    rfl
  obtain ⟨hnoneAccepted, hnoneApplied, hnoneAnswered, hcache⟩ :=
    abort_moves_nothing backend closing.1
  have haccepted : acceptedCalls whole.2 = acceptedCalls closing.2 := by
    simp [hlog, hnoneAccepted, hshut.accepted, haborted]
  have happlied : appliedCalls whole.2 = appliedCalls closing.2 := by
    simp [hlog, hnoneApplied, hshut.applied, haborted]
  constructor
  · exact haccepted
  · exact happlied
  · obtain ⟨lost, hsplit, -⟩ := horder.order
    rw [haccepted, happlied, hsplit, List.append_assoc]
    exact List.prefix_append _ _
  · intro hinside hsound
    rw [← backend.applyAll_eq_callAll]
    exact received_run hstart hinside hsound
  · intro hinside
    rw [hstate, cache_run_of_shut (shut_abort horder) hinside, hcache]
  · intro call hcall hnone hstays
    have hanswered : results call.id aborted.2 = [.error .clientClosed] :=
      results_abort horder (accounted_run hstart backend before) hcall hnone
        (fun hmem => hstays (mem_givenUp.mp hmem))
    -- No call is answered twice, so nothing is added to this answer.
    have honce := (accounted_run hstart backend (before ++ .abort :: after)).once call.id
    rw [← hwhole, hlog] at honce
    have hnothing : results call.id ended.2 = [] := by simpa [hnone, hanswered] using honce
    simp [hlog, hnone, hanswered, hnothing]
  · intro flush hflush hanswer
    rw [hlog] at hanswer
    have hbefore : .answered flush (.ok ()) ∈ closing.2 := by
      rcases List.mem_append.mp hanswer with hold | hnew
      · exact hold
      · rcases List.mem_append.mp hnew with habort | hafter
        · exact absurd habort (hnoneAnswered flush)
        · exact absurd hafter (hshut.refused flush)
    exact ⟨hbefore, order_of_flush_answered_in_run hstart hflush hbefore⟩
  · rw [hstate]
    exact hshut.closed
  · intro client request hlive
    have hclosed : whole.1.isClosed = true := hstate ▸ hshut.closed
    rw [step_call_of_closed backend hlive hclosed]
    exact ⟨rfl, rfl⟩

theorem actAll_append (x : Exchange SharedStore) (before after : List Deed) :
    x.actAll (before ++ after) =
      let first := x.actAll before
      let others := first.1.actAll after
      (others.1, first.2 ++ others.2) := by
  induction before generalizing x with
  | nil => rfl
  | cons deed rest ih => simp only [List.cons_append, actAll_cons, ih, List.append_assoc]

/-- After an abort the store is in the hands of the direct callers, and only they
can have poisoned its lock. -/
theorem cache_actAll_abort {cache : SharedStore} {start : Exchange SharedStore}
    (hstart : spawn cache capacity = some start) {before after : List Deed}
    (hlock : ∀ deed ∈ before ++ after, deed.keepsLock = true) :
    let closing := start.actAll before
    let whole := start.actAll (before ++ .queued .abort :: after)
    whole.1.cache = (closing.1.cache.run (after.filterMap Deed.operation?)).next ∧
      whole.1.cache.poisoned = (cache.poisoned ||
        ((before ++ after).filterMap Deed.operation?).any Operation.crashes) := by
  intro closing whole
  obtain ⟨hbefore, hafter⟩ := List.forall_mem_append.mp hlock
  have hfirst : start.cache = cache := by rw [eq_of_spawn hstart]
  have horder : InOrder (max capacity 1) closing.1 closing.2 :=
    inOrder_run hstart .shared (start.script before)
  have hshut : Shut (closing.1.act (.queued .abort)).1 [] := shut_abort horder
  have hkept : (closing.1.act (.queued .abort)).1.cache = closing.1.cache :=
    (abort_moves_nothing .shared closing.1).2.2.2
  have hstate : whole.1 = ((closing.1.act (.queued .abort)).1.actAll after).1 := by
    simp only [whole, actAll_append, actAll_cons, closing]
  have hall : ∀ deed ∈ before ++ .queued .abort :: after, deed.keepsLock = true :=
    List.forall_mem_append.mpr ⟨hbefore, List.forall_mem_cons.mpr ⟨rfl, hafter⟩⟩
  constructor
  · rw [hstate, cache_actAll_of_shut hshut hafter, hkept]
  · have hcache : whole.1.cache = (start.cache.run
        ((start.touches (before ++ .queued .abort :: after)).filterMap Touch.operation?)).next :=
      start.cache_actAll hall
    rw [hcache, SharedStore.poisoned_run, Touch.any_crashes, start.directs_touches, hfirst]
    simp [Deed.operation?]

/-- An abort, whenever it comes, ends what clients can do, tells everybody so, and
leaves the store as the applied requests have made it. -/
theorem abort_closes_cleanly :
    (∀ {σ : Type} {cache : σ} {capacity : Nat} {start : Exchange σ},
      spawn cache capacity = some start →
        ∀ (backend : Backend σ) (before after : List (Action σ)),
          ClosedByAbort backend cache before after (start.made backend before)
            (start.run backend before) (start.run backend (before ++ .abort :: after))) ∧
    ∀ {cache : SharedStore} {capacity : Nat} {start : Exchange SharedStore},
      spawn cache capacity = some start →
        ∀ before after : List Deed, (∀ deed ∈ before ++ after, deed.keepsLock = true) →
          let closing := start.actAll before
          let whole := start.actAll (before ++ .queued .abort :: after)
          whole.1.cache = (closing.1.cache.run (after.filterMap Deed.operation?)).next ∧
            whole.1.cache.poisoned = (cache.poisoned ||
              ((before ++ after).filterMap Deed.operation?).any Operation.crashes) :=
  ⟨fun hstart backend before after => closedByAbort_run hstart backend before after,
    fun hstart _ _ hlock => cache_actAll_abort hstart hlock⟩

/-- A queued request, a flush that waits for its answer and a caller who waits for
room; then a clone of a client of a worker that is gone. -/
theorem abort_refuses_flush_and_sender :
    let start : Exchange Recorder := { capacity := 2, cache := {} }
    let before : List (Action Recorder) :=
      [.work, .call 0 (.remove "one"), .enter 0, .work, .clone 0, .call 0 (.remove "two"),
        .enter 1, .call 1 .flush, .enter 2, .clone 1, .call 2 .clearTemporary, .enter 3]
    let whole := start.run Recorder.backend (before ++ .abort :: [.work, .clone 2])
    let moved := whole.1.step Recorder.backend (.call 3 (.setTemporary true))
    spawn ({} : Recorder) 2 = some start ∧
      results 2 whole.2 = [.error .clientClosed] ∧ results 3 whole.2 = [.error .clientClosed] ∧
      moved.2 = [.answered ⟨4, 3, .setTemporary true⟩ (.error .clientClosed)] ∧
      moved.1.cache.calls = [.remove "one"] := by
  intro start before whole moved
  have hspawn : spawn ({} : Recorder) 2 = some start := rfl
  have hclosed := abort_closes_cleanly.1 hspawn Recorder.backend before [.work, .clone 2]
  have hmade : start.made Recorder.backend before =
      [⟨0, 0, .remove "one"⟩, ⟨1, 0, .remove "two"⟩, ⟨2, 1, .flush⟩, ⟨3, 2, .clearTemporary⟩] := by
    cbv
  have hunanswered : results 2 (start.run Recorder.backend before).2 = [] ∧
      results 3 (start.run Recorder.backend before).2 = [] := by cbv
  have hlive : whole.1.isLive 3 = true := by cbv
  have hnext : whole.1.nextId = 4 := by cbv
  have hcalls : (start.run Recorder.backend before).1.cache.calls = [.remove "one"] := by cbv
  obtain ⟨hmoved, hcache⟩ := hclosed.later 3 (.setTemporary true) hlive
  refine ⟨hspawn, ?_, ?_, hnext ▸ hmoved, ?_⟩
  · exact hclosed.refused ⟨2, 1, .flush⟩ (by simp [hmade]) hunanswered.1 (by simp [before])
  · exact hclosed.refused ⟨3, 2, .clearTemporary⟩ (by simp [hmade]) hunanswered.2
      (by simp [before])
  · rw [hcache, hclosed.untouched (by simp [Action.isOutside]), hcalls]

end Exchange
end Queue
end Keyring
