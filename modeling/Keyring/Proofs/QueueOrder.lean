import Keyring.Proofs.QueueMoves

/-!
# The order of the queue

Whatever clients and worker do, and in whatever order they do it, the calls that
were accepted are those that were applied, followed by those in the queue.  Only
a worker that is killed loses calls, and then those at the end.

The invariant `InOrder` ties the state of an exchange to all that was observed
so far.  It also keeps a waiting call apart from the accepted ones, which is why
no call is accepted twice, and a pending flush among the queued ones, which is
why a flush that a worker's own end refuses would still have to be queued.
-/

namespace Keyring
namespace Queue
namespace Exchange

open Occurrence

variable {σ : Type} {room : Nat} {x next : Exchange σ} {log occurrences : List Occurrence}

/-- The answer that a call gets when the worker is gone. -/
def IsRefusal (call : Call) (log : List Occurrence) : Prop :=
  .answered call (.error .clientClosed) ∈ log

structure InOrder (room : Nat) (x : Exchange σ) (log : List Occurrence) : Prop where
  capacity : x.capacity = room
  bounded : x.queue.length ≤ room
  order : ∃ lost, acceptedCalls log = appliedCalls log ++ lost ++ x.queue ∧
    (x.worker.isKilled = false → lost = [])
  numbered : ∀ call ∈ acceptedCalls log, call.id < x.nextId
  once : (acceptedCalls log).Nodup
  waiting : ∀ call ∈ x.waiting,
    call.id < x.nextId ∧ ∀ other ∈ acceptedCalls log, other.id ≠ call.id
  listening : ∀ call ∈ x.listening, call ∈ x.queue ∧ call.request = .flush
  closed : x.isClosed = true → x.queue = [] ∧ x.waiting = [] ∧ x.listening = []
  refused : ∀ call, IsRefusal call log →
    x.isClosed = true ∧ call ∉ appliedCalls log ∧
      (call ∈ acceptedCalls log →
        x.worker.isKilled = true ∧ call.request = .flush)

theorem isKilled_of_open (hopen : x.isClosed = false) : x.worker.isKilled = false := by
  unfold isClosed at hopen
  split at hopen
  next hworker => simp at hopen
  next hworker =>
    cases hstate : x.worker with
    | ended ending => exact absurd hstate (hworker ending)
    | ready => rfl
    | running => rfl

theorem isClosed_of_running (hrunning : x.worker = .running) : x.isClosed = false := by
  simp [isClosed, hrunning]

namespace InOrder

theorem not_refused (h : InOrder room x log) (hopen : x.isClosed = false) (call : Call) :
    ¬ IsRefusal call log := by
  intro hrefused
  have hclosed := (h.refused call hrefused).1
  rw [hopen] at hclosed
  contradiction

theorem order_of_open (h : InOrder room x log) (hopen : x.isClosed = false) :
    acceptedCalls log = appliedCalls log ++ x.queue := by
  obtain ⟨lost, horder, hlost⟩ := h.order
  rw [hlost (isKilled_of_open hopen)] at horder
  simpa using horder

theorem mem_accepted_of_applied (h : InOrder room x log) {call : Call}
    (happlied : call ∈ appliedCalls log) : call ∈ acceptedCalls log := by
  obtain ⟨lost, horder, -⟩ := h.order
  rw [horder]
  simp [happlied]

/-- A move that neither accepts nor applies a call, and refuses none that was
accepted. -/
theorem quiet (h : InOrder room x log)
    (hcapacity : next.capacity = x.capacity) (hqueue : next.queue = x.queue)
    (hclosed : next.isClosed = x.isClosed)
    (hkilled : next.worker.isKilled = x.worker.isKilled)
    (hnumber : x.nextId ≤ next.nextId)
    (hwaiting : ∀ call ∈ next.waiting, call ∈ x.waiting)
    (hlistening : ∀ call ∈ next.listening, call ∈ x.listening)
    (haccepted : acceptedCalls occurrences = [])
    (happlied : appliedCalls occurrences = [])
    (hrefused : ∀ call, IsRefusal call occurrences →
      x.isClosed = true ∧ call ∉ acceptedCalls log) :
    InOrder room next (log ++ occurrences) := by
  have hacceptedLog : acceptedCalls (log ++ occurrences) = acceptedCalls log := by
    simp [haccepted]
  have happliedLog : appliedCalls (log ++ occurrences) = appliedCalls log := by
    simp [happlied]
  constructor
  · rw [hcapacity]
    exact h.capacity
  · rw [hqueue]
    exact h.bounded
  · rw [hacceptedLog, happliedLog, hqueue, hkilled]
    exact h.order
  · intro call hcall
    rw [hacceptedLog] at hcall
    exact Nat.lt_of_lt_of_le (h.numbered call hcall) hnumber
  · rw [hacceptedLog]
    exact h.once
  · intro call hcall
    have hold := h.waiting call (hwaiting call hcall)
    rw [hacceptedLog]
    exact ⟨Nat.lt_of_lt_of_le hold.1 hnumber, hold.2⟩
  · intro call hcall
    rw [hqueue]
    exact h.listening call (hlistening call hcall)
  · intro hend
    rw [hclosed] at hend
    obtain ⟨hnoQueue, hnoWaiting, hnoListening⟩ := h.closed hend
    refine ⟨hqueue.trans hnoQueue, ?_, ?_⟩
    · exact List.eq_nil_iff_forall_not_mem.mpr fun call hcall => by
        simpa [hnoWaiting] using hwaiting call hcall
    · exact List.eq_nil_iff_forall_not_mem.mpr fun call hcall => by
        simpa [hnoListening] using hlistening call hcall
  · intro call hcall
    rw [hacceptedLog, happliedLog, hclosed, hkilled]
    rcases List.mem_append.mp hcall with hold | hnew
    · exact h.refused call hold
    · obtain ⟨hend, hfresh⟩ := hrefused call hnew
      exact ⟨hend, fun hmem => hfresh (h.mem_accepted_of_applied hmem),
        fun hmem => absurd hmem hfresh⟩

theorem asked (h : InOrder room x log) (hopen : x.isClosed = false)
    (client : Nat) (request : Request) :
    InOrder room
      { x with
        nextId := x.nextId + 1
        waiting := x.waiting ++ [⟨x.nextId, client, request⟩] } log := by
  constructor
  · exact h.capacity
  · exact h.bounded
  · exact h.order
  · intro call hcall
    exact Nat.lt_succ_of_lt (h.numbered call hcall)
  · exact h.once
  · intro call hcall
    rcases List.mem_append.mp hcall with hold | hnew
    · have hwaiting := h.waiting call hold
      exact ⟨Nat.lt_succ_of_lt hwaiting.1, hwaiting.2⟩
    · have heq : call = ⟨x.nextId, client, request⟩ := by simpa using hnew
      subst heq
      refine ⟨Nat.lt_succ_self _, fun other hother => ?_⟩
      exact Nat.ne_of_lt (h.numbered other hother)
  · exact h.listening
  · intro hclosed
    exact absurd (hopen.symm.trans hclosed) (by simp)
  · intro call hcall
    exact absurd hcall (h.not_refused hopen call)

theorem refusedCall (h : InOrder room x log) (hclosed : x.isClosed = true)
    (client : Nat) (request : Request) :
    InOrder room { x with nextId := x.nextId + 1 }
      (log ++ [.answered ⟨x.nextId, client, request⟩ (.error .clientClosed)]) := by
  refine h.quiet rfl rfl rfl rfl (Nat.le_succ _) (fun _ hcall => hcall)
    (fun _ hcall => hcall) rfl rfl fun call hcall => ?_
  have heq : call = ⟨x.nextId, client, request⟩ := by
    simpa [IsRefusal] using hcall
  refine ⟨hclosed, fun hmem => ?_⟩
  have hlt := h.numbered call hmem
  rw [heq] at hlt
  exact Nat.lt_irrefl _ hlt

/-- A waiting call goes to the end of the queue. -/
theorem entered (h : InOrder room x log) {call : Call}
    (hwaiting : call ∈ x.waiting) (hroom : x.queue.length < x.capacity) :
    InOrder room (x.accept call).1 (log ++ (x.accept call).2) := by
  have hopen : x.isClosed = false := by
    by_contra hclosed
    have hnone := (h.closed (by simpa using hclosed)).2.1
    simp [hnone] at hwaiting
  have hopenNext : (x.accept call).1.isClosed = false := by
    simpa [isClosed] using hopen
  have haccepted :
      acceptedCalls (log ++ (x.accept call).2) = acceptedCalls log ++ [call] := by
    simp
  have happlied : appliedCalls (log ++ (x.accept call).2) = appliedCalls log := by
    simp
  have hfresh := h.waiting call hwaiting
  constructor
  · rw [capacity_accept]
    exact h.capacity
  · have hcapacity := h.capacity
    rw [queue_accept, List.length_append, List.length_singleton]
    omega
  · refine ⟨[], ?_, fun _ => rfl⟩
    rw [haccepted, happlied, queue_accept, h.order_of_open hopen]
    simp
  · intro other hother
    rw [haccepted] at hother
    rw [nextId_accept]
    rcases List.mem_append.mp hother with hold | hnew
    · exact h.numbered other hold
    · exact List.mem_singleton.mp hnew ▸ hfresh.1
  · rw [haccepted]
    have hnew : call ∉ acceptedCalls log := fun hmem => hfresh.2 call hmem rfl
    exact List.nodup_append.mpr ⟨h.once, List.nodup_singleton call,
      fun other hother last hlast heq =>
        hnew (List.mem_singleton.mp hlast ▸ heq ▸ hother)⟩
  · intro other hother
    rw [waiting_accept] at hother
    obtain ⟨hmem, hne⟩ := List.mem_filter.mp hother
    have hold := h.waiting other hmem
    rw [haccepted, nextId_accept]
    refine ⟨hold.1, fun earlier hearlier => ?_⟩
    rcases List.mem_append.mp hearlier with hbefore | hnow
    · exact hold.2 earlier hbefore
    · rw [List.mem_singleton.mp hnow]
      exact fun hid => by simp [hid] at hne
  · intro other hother
    rw [queue_accept]
    rcases x.mem_listening_accept call hother with hold | ⟨rfl, hflush⟩
    · obtain ⟨hqueued, hflush⟩ := h.listening other hold
      exact ⟨List.mem_append_left _ hqueued, hflush⟩
    · exact ⟨by simp, hflush⟩
  · intro hclosed
    rw [hopenNext] at hclosed
    contradiction
  · intro other hother
    rcases List.mem_append.mp hother with hold | hnew
    · exact absurd hold (h.not_refused hopen other)
    · unfold accept at hnew
      split at hnew <;> simp at hnew

/-- The worker applies the call at the head of the queue. -/
theorem served (h : InOrder room x log) (backend : Backend σ)
    {call : Call} {rest : List Call} (events : List Event)
    (hrunning : x.worker = .running) (hqueue : x.queue = call :: rest) :
    InOrder room (x.served backend call rest)
      (log ++ (events.map .logged ++ .applied call ::
        (x.listening.filter fun other => other.id == call.id).map
          fun listener => .answered listener (.ok ()))) := by
  set answers := (x.listening.filter fun other => other.id == call.id).map
    fun listener => Occurrence.answered listener (.ok ()) with hanswers
  have hopen := isClosed_of_running hrunning
  have hopenNext : (x.served backend call rest).isClosed = false :=
    isClosed_of_running hrunning
  have haccepted :
      acceptedCalls (log ++ (events.map .logged ++ .applied call :: answers)) =
        acceptedCalls log := by
    simp [hanswers]
  have happlied :
      appliedCalls (log ++ (events.map .logged ++ .applied call :: answers)) =
        appliedCalls log ++ [call] := by
    simp [hanswers]
  constructor
  · exact h.capacity
  · have hbounded := h.bounded
    rw [hqueue, List.length_cons] at hbounded
    exact Nat.le_of_succ_le hbounded
  · refine ⟨[], ?_, fun _ => rfl⟩
    rw [haccepted, happlied, h.order_of_open hopen, hqueue]
    simp [Exchange.served]
  · rw [haccepted]
    exact h.numbered
  · rw [haccepted]
    exact h.once
  · rw [haccepted]
    exact h.waiting
  · intro other hother
    obtain ⟨hmem, hne⟩ := List.mem_filter.mp hother
    obtain ⟨hqueued, hflush⟩ := h.listening other hmem
    rw [hqueue] at hqueued
    rcases List.mem_cons.mp hqueued with heq | hrest
    · simp [heq] at hne
    · exact ⟨hrest, hflush⟩
  · intro hclosed
    rw [hopenNext] at hclosed
    contradiction
  · intro other hother
    rcases List.mem_append.mp hother with hold | hnew
    · exact absurd hold (h.not_refused hopen other)
    · simp [hanswers] at hnew

theorem mem_close_refusals (x : Exchange σ) (ending : Ending) (call : Call) :
    IsRefusal call (x.close ending).2 ↔ call ∈ x.listening ∨ call ∈ x.waiting := by
  simp [IsRefusal, close]

/-- The end of the worker.  What is in the queue is lost, which only a killed
worker may do. -/
theorem closed_of_open (h : InOrder room x log) (ending : Ending)
    (hopen : x.isClosed = false)
    (hgentle : (Worker.ended ending).isKilled = false → x.queue = []) :
    InOrder room (x.close ending).1 (log ++ (x.close ending).2) := by
  have haccepted : acceptedCalls (log ++ (x.close ending).2) = acceptedCalls log := by
    simp
  have happlied : appliedCalls (log ++ (x.close ending).2) = appliedCalls log := by
    simp
  have horder := h.order_of_open hopen
  constructor
  · exact h.capacity
  · exact Nat.zero_le _
  · refine ⟨x.queue, ?_, hgentle⟩
    rw [haccepted, happlied, horder]
    simp [close]
  · rw [haccepted]
    exact h.numbered
  · rw [haccepted]
    exact h.once
  · intro call hcall
    simp [close] at hcall
  · intro call hcall
    simp [close] at hcall
  · intro _
    exact ⟨rfl, rfl, rfl⟩
  · intro call hcall
    rw [haccepted, happlied]
    refine ⟨rfl, ?_⟩
    rcases List.mem_append.mp hcall with hold | hnew
    · exact absurd hold (h.not_refused hopen call)
    · rcases (mem_close_refusals x ending call).mp hnew with hlistening | hwaiting
      · obtain ⟨hqueued, hflush⟩ := h.listening call hlistening
        have honce := h.once
        rw [horder] at honce
        refine ⟨fun hmem => ?_, fun _ => ⟨?_, hflush⟩⟩
        · exact List.disjoint_of_nodup_append honce hmem hqueued
        · by_contra hkilled
          rw [hgentle (Bool.eq_false_iff.mpr hkilled)] at hqueued
          contradiction
      · have hfresh := (h.waiting call hwaiting).2
        have hnew : call ∉ acceptedCalls log := fun hmem => hfresh call hmem rfl
        exact ⟨fun hmem => hnew (h.mem_accepted_of_applied hmem),
          fun hmem => absurd hmem hnew⟩

/-- The state of the cache and the events of a backend play no part. -/
theorem replaced (h : InOrder room x log) (cache : σ) (events : List Event) :
    InOrder room { x with cache } (log ++ events.map .logged) := by
  refine h.quiet rfl rfl rfl rfl le_rfl (fun _ hcall => hcall) (fun _ hcall => hcall)
    (acceptedCalls_logged events) (appliedCalls_logged events) fun call hcall => ?_
  simp [IsRefusal] at hcall

end InOrder

/-- Every move keeps the order. -/
theorem inOrder_of_move {backend : Backend σ} {action : Action σ}
    (hmove : Move backend x action next occurrences) (h : InOrder room x log) :
    InOrder room next (log ++ occurrences) := by
  cases hmove with
  | idle hcall => simpa using h
  | refused hlive hclosed => exact h.refusedCall hclosed _ _
  | asked hlive hopen => simpa using h.asked hopen _ _
  | entered hwaiting hroom => exact h.entered hwaiting hroom
  | gaveUp =>
      refine h.quiet rfl rfl rfl rfl le_rfl (fun _ hcall => List.mem_of_mem_filter hcall)
        (fun _ hcall => List.mem_of_mem_filter hcall) rfl rfl fun call hcall => ?_
      simp [IsRefusal] at hcall
  | counted hcall =>
      refine h.quiet rfl rfl rfl rfl le_rfl (fun _ hcall => hcall)
        (fun _ hcall => hcall) rfl rfl fun call hcall => ?_
      simp [IsRefusal] at hcall
  | started hready =>
      refine h.quiet rfl rfl ?_ ?_ le_rfl (fun _ hcall => hcall)
        (fun _ hcall => hcall) rfl rfl fun call hcall => ?_
      · simp [isClosed, hready]
      · simp [Worker.isKilled, hready]
      · simp [IsRefusal] at hcall
  | applied hrunning hqueue hanswer => exact h.served backend _ hrunning hqueue
  | broken hrunning hqueue hanswer =>
      rw [← List.append_assoc]
      exact (h.replaced _ _).closed_of_open .panicked (isClosed_of_running hrunning)
        (by simp [Worker.isKilled])
  | finished hrunning hqueue hclients =>
      have hstopped := h.replaced x.cache [.workerStopped]
      rw [← List.singleton_append, ← List.append_assoc]
      exact hstopped.closed_of_open .finished (isClosed_of_running hrunning)
        (fun _ => hqueue)
  | aborted hopen => exact h.closed_of_open .cancelled hopen (by simp [Worker.isKilled])
  | replaced => exact h.replaced _ _

theorem inOrder_run {cache : σ} {capacity : Nat} {start : Exchange σ}
    (hstart : spawn cache capacity = some start) (backend : Backend σ)
    (actions : List (Action σ)) :
    InOrder (max capacity 1) (start.run backend actions).1
      (start.run backend actions).2 := by
  have hempty : InOrder (max capacity 1) start [] := by
    obtain rfl := eq_of_spawn hstart
    constructor <;> simp [acceptedCalls, appliedCalls, IsRefusal, isClosed]
  simpa using run_of_move backend inOrder_of_move hempty actions

end Exchange
end Queue
end Keyring
