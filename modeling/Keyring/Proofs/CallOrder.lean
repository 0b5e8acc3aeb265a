import Keyring.Proofs.QueueOrder
import Keyring.Queue.Recorder

/-!
# Calls in their order

A client that waits for each answer before its next call has its calls accepted
in the order in which it makes them, however the calls of other clients come in
between.  With the order of the queue itself this says that a queue neither
loses nor repeats nor reorders what it has accepted.
-/

namespace Keyring
namespace Queue
namespace Exchange

open Occurrence

variable {σ : Type} {x next : Exchange σ} {log occurrences : List Occurrence}

/-- The call that an action makes, if it makes one. -/
def issued (x : Exchange σ) : Action σ → List Call
  | .call client request =>
    if x.isLive client then [⟨x.nextId, client, request⟩] else []
  | _ => []

theorem issued_eq_nil {action : Action σ}
    (hcall : ∀ client request, action = .call client request → x.isLive client = false) :
    x.issued action = [] := by
  cases action with
  | call client request => simp [issued, hcall client request rfl]
  | _ => rfl

/-- The calls of a run, in the order in which they are made. -/
def made (backend : Backend σ) (x : Exchange σ) : List (Action σ) → List Call
  | [] => []
  | action :: rest => x.issued action ++ made backend (x.step backend action).1 rest

/-- A client makes a call only when none of its calls waits for an answer. -/
def Awaits (backend : Backend σ) (client : Nat) (x : Exchange σ) :
    List (Action σ) → Prop
  | [] => True
  | action :: rest =>
    ((∃ request, action = .call client request) → x.isBusy client = false) ∧
      Awaits backend client (x.step backend action).1 rest

/-- The part of a list of calls that one client made. -/
def ofClient (client : Nat) (calls : List Call) : List Call :=
  calls.filter fun call => call.client == client

theorem ofClient_append (client : Nat) (first second : List Call) :
    ofClient client (first ++ second) = ofClient client first ++ ofClient client second :=
  List.filter_append ..

theorem ofClient_waiting_of_not_busy {client : Nat} (h : x.isBusy client = false) :
    ofClient client x.waiting = [] := by
  simp only [isBusy, List.any_append, Bool.or_eq_false_iff, List.any_eq_false] at h
  exact List.filter_eq_nil_iff.mpr h.1

/-- The accepted calls of a client and the one that waits, if any, come in the
order in which the client made them. -/
structure Paced (client : Nat) (x : Exchange σ) (log : List Occurrence)
    (calls : List Call) : Prop where
  single : (ofClient client x.waiting).length ≤ 1
  order : (ofClient client (acceptedCalls log) ++ ofClient client x.waiting).Sublist
    (ofClient client calls)

namespace Paced

variable {client : Nat} {calls : List Call}

/-- A move that makes and accepts no call of the client. -/
theorem quiet (h : Paced client x log calls)
    (hwaiting : next.waiting.Sublist x.waiting)
    (haccepted : acceptedCalls occurrences = []) {more : List Call} :
    Paced client next (log ++ occurrences) (calls ++ more) := by
  have hleft : (ofClient client next.waiting).Sublist (ofClient client x.waiting) :=
    hwaiting.filter _
  constructor
  · exact hleft.length_le.trans h.single
  · rw [acceptedCalls_append, haccepted, List.append_nil, ofClient_append client calls]
    exact ((hleft.append_left _).trans h.order).trans (List.sublist_append_left ..)

theorem asked (h : Paced client x log calls) (caller : Nat) (request : Request)
    (hpace : caller = client → x.isBusy client = false) :
    Paced client
      { x with
        nextId := x.nextId + 1
        waiting := x.waiting ++ [⟨x.nextId, caller, request⟩] }
      log (calls ++ [⟨x.nextId, caller, request⟩]) := by
  by_cases hcaller : caller = client
  · have hnone := ofClient_waiting_of_not_busy (hpace hcaller)
    have hone : ofClient client [⟨x.nextId, caller, request⟩] =
        [⟨x.nextId, caller, request⟩] := by
      simp [ofClient, hcaller]
    have horder := h.order
    rw [hnone, List.append_nil] at horder
    constructor
    · simp [ofClient_append, hnone, hone]
    · rw [ofClient_append, ofClient_append, hnone, hone, List.nil_append]
      exact horder.append (List.Sublist.refl _)
  · have hnone : ofClient client [⟨x.nextId, caller, request⟩] = [] := by
      simp [ofClient, hcaller]
    constructor
    · simpa [ofClient_append, hnone] using h.single
    · simpa [ofClient_append, hnone] using h.order

theorem entered (h : Paced client x log calls) {call : Call} (hwaiting : call ∈ x.waiting) :
    Paced client (x.accept call).1 (log ++ (x.accept call).2) calls := by
  have hsublist : (ofClient client (x.accept call).1.waiting).Sublist
      (ofClient client x.waiting) := by
    rw [waiting_accept]
    exact List.filter_sublist.filter _
  constructor
  · exact hsublist.length_le.trans h.single
  · rw [acceptedCalls_append, acceptedCalls_accept, ofClient_append]
    by_cases hcaller : call.client = client
    · have hmine : call ∈ ofClient client x.waiting := by
        simp [ofClient, hwaiting, hcaller]
      obtain ⟨only, honly⟩ := List.length_eq_one_iff.mp
        (Nat.le_antisymm h.single (List.length_pos_of_mem hmine))
      have heq : only = call := by
        rw [honly] at hmine
        exact (List.mem_singleton.mp hmine).symm
      have hnone : ofClient client (x.accept call).1.waiting = [] := by
        rw [waiting_accept, ofClient, List.filter_comm, ← ofClient, honly, heq]
        simp
      have hone : ofClient client [call] = [call] := by simp [ofClient, hcaller]
      have horder := h.order
      rw [honly, heq] at horder
      rw [hnone, hone, List.append_nil]
      exact horder
    · have hnone : ofClient client [call] = [] := by simp [ofClient, hcaller]
      rw [hnone, List.append_nil]
      exact (hsublist.append_left _).trans h.order

end Paced

theorem paced_of_move {client : Nat} {calls : List Call} {backend : Backend σ}
    {action : Action σ} (hmove : Move backend x action next occurrences)
    (h : Paced client x log calls)
    (hpace : (∃ request, action = .call client request) → x.isBusy client = false) :
    Paced client next (log ++ occurrences) (calls ++ x.issued action) := by
  cases hmove with
  | idle hcall =>
      apply h.quiet
      · exact List.Sublist.refl _
      · rfl
  | refused hlive hclosed =>
      apply h.quiet
      · exact List.Sublist.refl _
      · rfl
  | @asked caller request hlive hopen =>
      have hasked := h.asked caller request fun hcaller => hpace ⟨request, by rw [hcaller]⟩
      simpa [issued, hlive] using hasked
  | entered hwaiting hroom => simpa [issued] using h.entered hwaiting
  | gaveUp =>
      apply h.quiet
      · exact List.filter_sublist
      · rfl
  | counted hcall =>
      apply h.quiet
      · exact List.Sublist.refl _
      · rfl
  | started hready =>
      apply h.quiet
      · exact List.Sublist.refl _
      · rfl
  | applied hrunning hqueue hanswer =>
      apply h.quiet
      · exact List.Sublist.refl _
      · simp
  | broken hrunning hqueue hanswer =>
      apply h.quiet
      · exact List.nil_sublist _
      · simp
  | finished hrunning hqueue hclients =>
      apply h.quiet
      · exact List.nil_sublist _
      · simp
  | aborted hopen =>
      apply h.quiet
      · exact List.nil_sublist _
      · simp
  | replaced =>
      apply h.quiet
      · exact List.Sublist.refl _
      · simp

theorem paced_run {client : Nat} {backend : Backend σ} {actions : List (Action σ)}
    {calls : List Call} (h : Paced client x log calls)
    (hawaits : x.Awaits backend client actions) :
    Paced client (x.run backend actions).1 (log ++ (x.run backend actions).2)
      (calls ++ x.made backend actions) := by
  induction actions generalizing x log calls with
  | nil => simpa [run, made] using h
  | cons action rest ih =>
      obtain ⟨hpace, hrest⟩ := hawaits
      have hnext := paced_of_move (move_step backend x action) h hpace
      simpa [run, made, List.append_assoc] using ih hnext hrest

/-! ## The queue as a whole -/

/-- Only an abort or a crash of the backend kills a worker. -/
theorem isKilled_of_move {backend : Backend σ} {action : Action σ}
    (hmove : Move backend x action next occurrences) (hreturns : backend.Returns)
    (haction : action ≠ .abort) (halive : x.worker.isKilled = false) :
    next.worker.isKilled = false := by
  cases hmove with
  | started hready => rfl
  | entered hwaiting hroom => simpa using halive
  | broken hrunning hqueue hanswer => exact absurd hanswer (hreturns _ _)
  | finished hrunning hqueue hclients => rfl
  | aborted hopen => exact absurd rfl haction
  | _ => exact halive

theorem isKilled_run {backend : Backend σ} (hreturns : backend.Returns)
    {actions : List (Action σ)} (hactions : .abort ∉ actions)
    (halive : x.worker.isKilled = false) :
    (x.run backend actions).1.worker.isKilled = false := by
  induction actions generalizing x with
  | nil => exact halive
  | cons action rest ih =>
      have haction : action ≠ .abort := fun heq => hactions (heq ▸ List.mem_cons_self)
      have hrest : .abort ∉ rest := fun hmem => hactions (List.mem_cons_of_mem _ hmem)
      exact ih hrest (isKilled_of_move (move_step backend x action) hreturns haction halive)

/-- What is accepted is applied once and in order, or still queued.  A worker
that comes to its own end has applied everything. -/
theorem queue_loses_repeats_reorders_nothing
    {cache : σ} {capacity : Nat} {start : Exchange σ}
    (hstart : spawn cache capacity = some start)
    (backend : Backend σ) (actions : List (Action σ)) :
    let x := (start.run backend actions).1
    let log := (start.run backend actions).2
    (x.worker.isKilled = false →
      acceptedCalls log = appliedCalls log ++ x.queue) ∧
    appliedCalls log <+: acceptedCalls log ∧
    (acceptedCalls log).Nodup ∧
    x.queue.length ≤ max capacity 1 ∧
    (∀ client, start.Awaits backend client actions →
      (ofClient client (acceptedCalls log)).Sublist
        (ofClient client (start.made backend actions))) ∧
    (∀ call, IsRefusal call log →
      call ∉ appliedCalls log ∧
        (x.worker.isKilled = false ∨ call.request ≠ .flush →
          call ∉ acceptedCalls log)) ∧
    (x.worker = .ended .finished → appliedCalls log = acceptedCalls log) ∧
    (backend.Returns → .abort ∉ actions → x.worker.isKilled = false) := by
  intro x log
  have h : InOrder (max capacity 1) x log := inOrder_run hstart backend actions
  obtain ⟨lost, horder, hlost⟩ := h.order
  have hopen : x.worker.isKilled = false →
      acceptedCalls log = appliedCalls log ++ x.queue := by
    intro halive
    rw [horder, hlost halive, List.append_nil]
  have hfirst : start.waiting = [] ∧ start.worker = .ready := by
    obtain rfl := eq_of_spawn hstart
    exact ⟨rfl, rfl⟩
  refine ⟨hopen, ?_, h.once, h.bounded, ?_, ?_, ?_, ?_⟩
  · exact ⟨lost ++ x.queue, by rw [horder, List.append_assoc]⟩
  · intro client hawaits
    have hpaced : Paced client start [] [] := by
      constructor <;> simp [ofClient, acceptedCalls, hfirst.1]
    have horder := (paced_run hpaced hawaits).order
    exact (List.sublist_append_left _ _).trans horder
  · intro call hrefused
    obtain ⟨-, happlied, haccepted⟩ := h.refused call hrefused
    refine ⟨happlied, fun hkind hmem => ?_⟩
    obtain ⟨hkilled, hflush⟩ := haccepted hmem
    rcases hkind with halive | hother
    · rw [halive] at hkilled
      contradiction
    · exact hother hflush
  · intro hfinished
    have hqueue : x.queue = [] := (h.closed (by simp [isClosed, hfinished])).1
    rw [hopen (by rw [hfinished]; rfl), hqueue, List.append_nil]
  · intro hreturns hactions
    exact isKilled_run hreturns hactions (by rw [hfirst.2]; rfl)

/-- A queue without room, a flush whose caller does not stay for the answer, and
a client that leaves before the worker is through. -/
theorem queue_of_room_one_drains :
    let actions : List (Action Recorder) :=
      [.call 0 (.remove "share"), .enter 0, .call 0 .flush, .enter 1, .work, .work,
        .enter 1, .giveUp 1, .drop 0, .work, .work]
    let log := (Exchange.run Recorder.backend ⟨1, {}, [], [], [], .ready, [true], 0⟩ actions).2
    spawn ({} : Recorder) 0 = some ⟨1, {}, [], [], [], .ready, [true], 0⟩ ∧
      (acceptedCalls log).map Call.id = [0, 1] ∧ appliedCalls log = acceptedCalls log := by
  intro actions log
  have hspawn : spawn ({} : Recorder) 0 =
      some ⟨1, {}, [], [], [], .ready, [true], 0⟩ := rfl
  exact ⟨hspawn, rfl,
    (queue_loses_repeats_reorders_nothing hspawn Recorder.backend actions).2.2.2.2.2.2.1 rfl⟩

end Exchange
end Queue
end Keyring
