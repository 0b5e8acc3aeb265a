import Keyring.Proofs.QueueOrder

/-!
# What a worker does to its backend

The worker alone changes the state behind it, as long as nobody else does.  That
state is then the result of the applied requests in their order, and the log
tells of each of them in turn: the events that it makes, and that the worker is
through with it.

`callAll` makes the same calls without a worker.  A backend may keep a record of
its calls, so two different orders of calls would lead some backend to different
states.

A flush is answered by the turn of the worker that comes to it, so whatever was
accepted before the flush has been applied by then.
-/

namespace Keyring
namespace Queue

variable {σ : Type}

/-- An action by which somebody else changes what the worker writes to. -/
def Action.isOutside : Action σ → Bool
  | .outside _ _ => true
  | _ => false

/-- What a worker is seen to do. -/
inductive Work where
  | logged (event : Event)
  | through (request : Request)

namespace Occurrence

def work? : Occurrence → Option Work
  | .logged event => some (.logged event)
  | .applied call => some (.through call.request)
  | _ => none

def work (log : List Occurrence) : List Work :=
  log.filterMap work?

def appliedRequests (log : List Occurrence) : List Request :=
  (appliedCalls log).map Call.request

@[simp] theorem work_nil : work [] = [] := rfl

@[simp] theorem work_append (first second : List Occurrence) :
    work (first ++ second) = work first ++ work second :=
  List.filterMap_append

@[simp] theorem appliedRequests_append (first second : List Occurrence) :
    appliedRequests (first ++ second) = appliedRequests first ++ appliedRequests second := by
  simp [appliedRequests]

@[simp] theorem work_cons_applied (call : Call) (log : List Occurrence) :
    work (.applied call :: log) = .through call.request :: work log := rfl

@[simp] theorem work_cons_logged (event : Event) (log : List Occurrence) :
    work (.logged event :: log) = .logged event :: work log := rfl

@[simp] theorem work_cons_answered
    (call : Call) (result : Except Fault Unit) (log : List Occurrence) :
    work (.answered call result :: log) = work log := rfl

@[simp] theorem work_logged (events : List Event) :
    work (events.map .logged) = events.map .logged := by
  simp [work, List.filterMap_map, Function.comp_def, work?]

@[simp] theorem work_answered (calls : List Call) (result : Except Fault Unit) :
    work (calls.map fun call => answered call result) = [] := by
  simp [work, List.filterMap_eq_nil_iff, work?]

end Occurrence

open Occurrence

/-- A call of a method of a backend: what it was to do, how it ended, and the events
that the backend itself made. -/
structure Receipt where
  request : Request
  answer : Outcome Bool
  events : List Event

namespace Backend

/-- The state after requests are applied in order. -/
def applyAll (backend : Backend σ) (state : σ) (requests : List Request) : σ :=
  requests.foldl (fun state request => (backend.apply state request).next) state

def work (backend : Backend σ) (state : σ) : List Request → List Work
  | [] => []
  | request :: rest =>
    let reply := backend.apply state request
    reply.events.map .logged ++ .through request :: backend.work reply.next rest

variable (backend : Backend σ)

theorem applyAll_append (state : σ) (first second : List Request) :
    backend.applyAll state (first ++ second) =
      backend.applyAll (backend.applyAll state first) second := by
  simp [applyAll]

theorem applyAll_concat (state : σ) (requests : List Request) (request : Request) :
    backend.applyAll state (requests ++ [request]) =
      (backend.apply (backend.applyAll state requests) request).next := by
  simp [applyAll]

theorem applyAll_concat_flush (state : σ) (requests : List Request) :
    backend.applyAll state (requests ++ [.flush]) = backend.applyAll state requests := by
  rw [applyAll_concat]
  rfl

theorem work_concat (state : σ) (requests : List Request) (request : Request) :
    backend.work state (requests ++ [request]) =
      backend.work state requests ++
        ((backend.apply (backend.applyAll state requests) request).events.map .logged ++
          [.through request]) := by
  induction requests generalizing state with
  | nil => rfl
  | cons first rest ih => simp [work, applyAll, ih]

/-- The methods that requests ask for, called one after the other. -/
def callAll (state : σ) : List Request → List Receipt × σ
  | [] => ([], state)
  | .put key credential policy :: rest =>
    let reply := backend.put state key credential policy
    let others := callAll reply.next rest
    (⟨.put key credential policy, reply.answer, reply.events⟩ :: others.1, others.2)
  | .remove key :: rest =>
    let reply := backend.remove state key
    let others := callAll reply.next rest
    (⟨.remove key, reply.answer.map fun _ => true, reply.events⟩ :: others.1, others.2)
  | .setTemporary temp :: rest =>
    let reply := backend.setTemporary state temp
    let others := callAll reply.next rest
    (⟨.setTemporary temp, reply.answer.map fun _ => true, reply.events⟩ :: others.1, others.2)
  | .clearTemporary :: rest =>
    let reply := backend.clearTemporary state
    let others := callAll reply.next rest
    (⟨.clearTemporary, reply.answer.map fun _ => true, reply.events⟩ :: others.1, others.2)
  | .flush :: rest => callAll state rest

theorem callAll_cons (state : σ) {request : Request} (hcall : request ≠ .flush)
    (rest : List Request) :
    backend.callAll state (request :: rest) =
      let reply := backend.perform state request
      let others := backend.callAll reply.next rest
      (⟨request, reply.answer, reply.events⟩ :: others.1, others.2) := by
  cases request with
  | flush => exact absurd rfl hcall
  | _ => rfl

theorem requests_callAll (state : σ) (requests : List Request) :
    (backend.callAll state requests).1.map Receipt.request =
      requests.filter fun request => request ≠ .flush := by
  induction requests generalizing state with
  | nil => rfl
  | cons request rest ih =>
      by_cases hcall : request = .flush
      · subst hcall
        exact ih state
      · rw [callAll_cons backend state hcall, List.map_cons, ih,
          List.filter_cons_of_pos (by simpa using hcall)]

theorem applyAll_eq_callAll (state : σ) (requests : List Request) :
    backend.applyAll state requests = (backend.callAll state requests).2 := by
  induction requests generalizing state with
  | nil => rfl
  | cons request rest ih =>
      by_cases hcall : request = .flush
      · subst hcall
        exact ih state
      · rw [callAll_cons backend state hcall, applyAll, List.foldl_cons]
        exact ih _

end Backend

namespace Exchange

variable {backend : Backend σ} {x next : Exchange σ} {action : Action σ}
  {log occurrences : List Occurrence}

@[simp] theorem work_close (x : Exchange σ) (ending : Ending) :
    work (x.close ending).2 = [] :=
  work_answered _ _

@[simp] theorem work_accept (x : Exchange σ) (call : Call) : work (x.accept call).2 = [] := by
  unfold accept
  split <;> rfl

@[simp] theorem cache_accept (x : Exchange σ) (call : Call) :
    (x.accept call).1.cache = x.cache := by
  unfold accept
  split <;> rfl

/-- Unless somebody else writes or the backend crashes, a move changes the state by
what it applies. -/
theorem cache_of_sound_move (hinside : action.isOutside = false)
    (hsound : x.worker = .running → next.worker ≠ .ended .panicked)
    (hmove : Move backend x action next occurrences) :
    next.cache = backend.applyAll x.cache (appliedRequests occurrences) := by
  have hquiet : appliedCalls occurrences = [] →
      backend.applyAll x.cache (appliedRequests occurrences) = x.cache := by
    intro hnone
    rw [appliedRequests, hnone]
    rfl
  cases hmove with
  | entered hwaiting hroom => rw [hquiet (by simp), cache_accept]
  | @applied call rest hrunning hqueue hanswer => simp [served, appliedRequests, Backend.applyAll]
  | broken hrunning hqueue hanswer => exact absurd rfl (hsound hrunning)
  | replaced => cases hinside
  | _ => exact (hquiet (by simp)).symm

theorem cache_of_move (hreturns : backend.Returns) (hinside : action.isOutside = false)
    (hmove : Move backend x action next occurrences) :
    next.cache = backend.applyAll x.cache (appliedRequests occurrences) := by
  refine cache_of_sound_move hinside (fun hrunning => ?_) hmove
  cases hmove with
  | entered hwaiting hroom => simp [hrunning]
  | broken hrunning hqueue hanswer => exact absurd hanswer (hreturns _ _)
  | _ => simp_all [close, served]

/-- The state behind a worker that nobody else writes to, and what was seen. -/
structure Worked (backend : Backend σ) (initial : σ) (x : Exchange σ)
    (log : List Occurrence) : Prop where
  cache : x.cache = backend.applyAll initial (appliedRequests log)
  ready : x.worker = .ready → appliedRequests log = [] ∧ work log = []
  running : x.worker = .running →
    work log = .logged .workerStarted :: backend.work initial (appliedRequests log)

theorem worked_of_move {initial : σ} (hreturns : backend.Returns)
    (hinside : action.isOutside = false) (hmove : Move backend x action next occurrences)
    (h : Worked backend initial x log) : Worked backend initial next (log ++ occurrences) := by
  have hcache : next.cache =
      backend.applyAll initial (appliedRequests (log ++ occurrences)) := by
    rw [cache_of_move hreturns hinside hmove, h.cache, appliedRequests_append,
      backend.applyAll_append]
  -- A move in which the worker has no part.
  have hquiet : next.worker = x.worker → appliedCalls occurrences = [] →
      work occurrences = [] → Worked backend initial next (log ++ occurrences) := by
    intro hworker happlied hwork
    have hrequests : appliedRequests (log ++ occurrences) = appliedRequests log := by
      simp [appliedRequests, happlied]
    have hseen : work (log ++ occurrences) = work log := by
      simp [hwork]
    refine ⟨hcache, ?_, ?_⟩
    · rw [hworker, hrequests, hseen]
      exact h.ready
    · rw [hworker, hrequests, hseen]
      exact h.running
  cases hmove with
  | started hready =>
      obtain ⟨hrequests, hwork⟩ := h.ready hready
      refine ⟨hcache, by simp, fun _ => ?_⟩
      rw [appliedRequests_append, hrequests, work_append, hwork]
      rfl
  | @applied call rest hrunning hqueue hanswer =>
      refine ⟨hcache, fun hready => ?_, fun _ => ?_⟩
      · have hworker : x.worker = .ready := hready
        simp [hrunning] at hworker
      · simp [h.running hrunning, h.cache, appliedRequests, backend.work_concat]
  | broken hrunning hqueue hanswer => exact absurd hanswer (hreturns _ _)
  | finished hrunning hqueue hclients => exact ⟨hcache, by simp [close], by simp [close]⟩
  | aborted hopen => exact ⟨hcache, by simp [close], by simp [close]⟩
  | replaced => cases hinside
  | _ => exact hquiet (by simp) (by simp) (by simp)

theorem worked_run {cache : σ} {capacity : Nat} {start : Exchange σ}
    (hstart : spawn cache capacity = some start) (hreturns : backend.Returns)
    {actions : List (Action σ)} (hinside : ∀ action ∈ actions, action.isOutside = false) :
    Worked backend cache (start.run backend actions).1 (start.run backend actions).2 := by
  have hempty : Worked backend cache start [] := by
    obtain rfl := eq_of_spawn hstart
    constructor <;> simp [appliedRequests, Backend.applyAll]
  simpa using run_of_move_among backend
    (fun hmem hmove => worked_of_move hreturns (hinside _ hmem) hmove) hempty

/-- A backend that has not crashed has received exactly the applied requests. -/
def Received (backend : Backend σ) (initial : σ) (x : Exchange σ) (log : List Occurrence) : Prop :=
  x.worker ≠ .ended .panicked → x.cache = backend.applyAll initial (appliedRequests log)

theorem received_of_move {initial : σ} (hmove : Move backend x action next occurrences)
    (hinside : action.isOutside = false) (h : Received backend initial x log) :
    Received backend initial next (log ++ occurrences) := by
  intro hsound
  have hbefore : x.worker ≠ .ended .panicked := by
    intro hpanicked
    have hclosed : x.isClosed = true := by simp [isClosed, hpanicked]
    cases hmove with
    | entered hwaiting hroom => exact hsound (by simpa using hpanicked)
    | _ => simp_all
  rw [cache_of_sound_move hinside (fun _ => hsound) hmove, h hbefore, appliedRequests_append,
    backend.applyAll_append]

theorem received_run {cache : σ} {capacity : Nat} {start : Exchange σ}
    (hstart : spawn cache capacity = some start) {actions : List (Action σ)}
    (hinside : ∀ action ∈ actions, action.isOutside = false) :
    Received backend cache (start.run backend actions).1 (start.run backend actions).2 := by
  have hempty : Received backend cache start [] := by
    obtain rfl := eq_of_spawn hstart
    intro _
    rfl
  simpa using run_of_move_among backend
    (fun hmem hmove => received_of_move hmove (hinside _ hmem)) hempty

/-! ## When a flush is answered -/

/-- The order of the queue, where no two accepted calls have the same number. -/
structure Numbered (room : Nat) (x : Exchange σ) (log : List Occurrence) : Prop where
  order : InOrder room x log
  distinct : ((acceptedCalls log).map Call.id).Nodup

theorem numbered_of_move {room : Nat} (hmove : Move backend x action next occurrences)
    (h : Numbered room x log) : Numbered room next (log ++ occurrences) := by
  have hquiet : acceptedCalls occurrences = [] →
      ((acceptedCalls (log ++ occurrences)).map Call.id).Nodup := by
    intro hnone
    rw [acceptedCalls_append, hnone, List.append_nil]
    exact h.distinct
  refine ⟨inOrder_of_move hmove h.order, ?_⟩
  cases hmove with
  | @entered call hwaiting hroom =>
      have hfresh := (h.order.waiting call hwaiting).2
      rw [acceptedCalls_append, acceptedCalls_accept, List.map_append, List.map_singleton,
        List.nodup_append]
      refine ⟨h.distinct, List.nodup_singleton _, ?_⟩
      intro id hid last hlast
      obtain ⟨other, hother, rfl⟩ := List.mem_map.mp hid
      rw [List.mem_singleton.mp hlast]
      exact hfresh other hother
  | _ => exact hquiet (by simp)

theorem numbered_run {cache : σ} {capacity : Nat} {start : Exchange σ}
    (hstart : spawn cache capacity = some start) (backend : Backend σ)
    (actions : List (Action σ)) :
    Numbered (max capacity 1) (start.run backend actions).1 (start.run backend actions).2 := by
  have hempty : Numbered (max capacity 1) start [] :=
    ⟨inOrder_run hstart backend [], List.nodup_nil⟩
  simpa using run_of_move backend numbered_of_move hempty actions

/-- The turn of the worker that answers a flush is the turn that comes to it. -/
theorem Move.of_flush_answered {room : Nat} {flush : Call}
    (hmove : Move backend x action next occurrences) (h : Numbered room x log)
    (hflush : flush.request = .flush) (hanswer : .answered flush (.ok ()) ∈ occurrences) :
    ∃ later, acceptedCalls log = appliedCalls log ++ flush :: later ∧
      acceptedCalls occurrences = [] ∧ appliedCalls occurrences = [flush] ∧
      next.worker = .running := by
  cases hmove with
  | entered hwaiting hroom =>
      unfold accept at hanswer
      split at hanswer
      next hrequest => simp at hanswer
      next hrequest =>
        simp only [List.mem_cons, reduceCtorEq, Occurrence.answered.injEq, List.not_mem_nil,
          or_false, false_or, and_true] at hanswer
        exact absurd (hanswer ▸ hflush) hrequest
  | @applied call rest hrunning hqueue hreturns =>
      have horder := h.order.order_of_open (isClosed_of_running hrunning)
      have hlistens : flush ∈ x.listening ∧ flush.id = call.id := by
        simpa using hanswer
      have hqueued : flush ∈ x.queue := (h.order.listening flush hlistens.1).1
      -- Numbers tell accepted calls apart, so the one who listens made this very call.
      have hsame : flush = call := by
        apply List.inj_on_of_nodup_map h.distinct _ _ hlistens.2
        · rw [horder]
          exact List.mem_append_right _ hqueued
        · rw [horder, hqueue]
          simp
      rw [hqueue, ← hsame] at horder
      exact ⟨rest, horder, by simp, by simp [hsame], hrunning⟩
  | _ => simp [close] at hanswer

/-- Once a flush is answered, everything accepted before it has been applied, and
nothing after it. -/
theorem order_of_flush_answered {cache : σ} {capacity : Nat} {start : Exchange σ}
    (hstart : spawn cache capacity = some start)
    {actions : List (Action σ)} {last : Action σ} {flush : Call}
    (hflush : flush.request = .flush)
    (hanswer : .answered flush (.ok ()) ∈ ((start.run backend actions).1.step backend last).2) :
    let whole := start.run backend (actions ++ [last])
    ∃ earlier later, acceptedCalls whole.2 = earlier ++ flush :: later ∧
      appliedCalls whole.2 = earlier ++ [flush] ∧ whole.1.worker = .running := by
  intro whole
  set before := start.run backend actions with hbefore
  have hnumbered : Numbered (max capacity 1) before.1 before.2 :=
    numbered_run hstart backend actions
  have hmove := move_step backend before.1 last
  obtain ⟨later, haccepted, hnone, happlied, hrunning⟩ :=
    hmove.of_flush_answered hnumbered hflush hanswer
  have hwhole : whole = ((before.1.step backend last).1,
      before.2 ++ (before.1.step backend last).2) := by
    simp [whole, run_append, run, hbefore]
  rw [hwhole]
  refine ⟨appliedCalls before.2, later, ?_, ?_, hrunning⟩
  · rw [acceptedCalls_append, hnone, List.append_nil, haccepted]
  · rw [appliedCalls_append, happlied]

/-- If nobody else writes, a backend whose worker has just come to a flush has received
the calls before the flush and no others. -/
theorem cache_of_flush_applied {cache : σ} {capacity : Nat} {start : Exchange σ}
    (hstart : spawn cache capacity = some start) {actions : List (Action σ)}
    (hinside : ∀ action ∈ actions, action.isOutside = false)
    {earlier : List Call} {flush : Call} (hflush : flush.request = .flush)
    (happlied : appliedCalls (start.run backend actions).2 = earlier ++ [flush])
    (hrunning : (start.run backend actions).1.worker = .running) :
    (start.run backend actions).1.cache =
      (backend.callAll cache (earlier.map Call.request)).2 := by
  have hsound : (start.run backend actions).1.worker ≠ .ended .panicked := by simp [hrunning]
  rw [received_run hstart hinside hsound, appliedRequests, happlied, List.map_append,
    List.map_singleton, hflush, backend.applyAll_concat_flush, backend.applyAll_eq_callAll]

end Exchange
end Queue
end Keyring
