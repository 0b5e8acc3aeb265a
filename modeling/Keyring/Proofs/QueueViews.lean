import Keyring.Proofs.Handles
import Keyring.Proofs.Views

/-!
# An exchange seen through a view

Credentials reach an exchange inside requests and inside the store behind the
worker.  Nothing in between depends on them: a move of the exchange seen through
a view is the move of the exchange, seen through the view.
-/

namespace Keyring
namespace Queue

variable (view : Credential → Credential)

def Request.through : Request → Request
  | .put key credential policy => .put key (view credential) policy
  | request => request

def Call.through (call : Call) : Call :=
  { call with request := call.request.through view }

def Action.through : Action SharedStore → Action SharedStore
  | .call client request => .call client (request.through view)
  | .outside cache events => .outside (cache.through view) events
  | action => action

def Deed.through : Deed → Deed
  | .queued action => .queued (action.through view)
  | .direct operation => .direct (operation.through view)

def Occurrence.through : Occurrence → Occurrence
  | .accepted call => .accepted (call.through view)
  | .applied call => .applied (call.through view)
  | .answered call result => .answered (call.through view) result
  | occurrence => occurrence

def Told.through (told : Told) : Told :=
  { told with outcome := told.outcome.map (Outcome.through view) }

namespace Exchange

def through (x : Exchange SharedStore) : Exchange SharedStore :=
  { x with
    cache := x.cache.through view
    queue := x.queue.map (Call.through view)
    waiting := x.waiting.map (Call.through view)
    listening := x.listening.map (Call.through view) }

/-- What a move led to, seen through a view. -/
def seen (moved : Exchange SharedStore × List Occurrence) :
    Exchange SharedStore × List Occurrence :=
  (moved.1.through view, moved.2.map (Occurrence.through view))

end Exchange

/-! ## What a view leaves alone -/

@[simp] theorem Call.id_through (call : Call) : (call.through view).id = call.id := rfl

@[simp] theorem Call.request_through (call : Call) :
    (call.through view).request = call.request.through view := rfl

@[simp] theorem Request.through_eq_flush (request : Request) :
    request.through view = .flush ↔ request = .flush := by
  cases request <;> simp [Request.through]

theorem Request.operation?_through (request : Request) :
    (request.through view).operation? = request.operation?.map (Operation.through view) := by
  cases request <;> rfl

@[simp] theorem Occurrence.event?_through (occurrence : Occurrence) :
    (occurrence.through view).event? = occurrence.event? := by
  cases occurrence <;> rfl

@[simp] theorem Occurrence.answer?_through (occurrence : Occurrence) :
    (occurrence.through view).answer? = occurrence.answer? := by
  cases occurrence <;> rfl

theorem Occurrence.through_logged (events : List Event) :
    (events.map Occurrence.logged).map (Occurrence.through view) =
      events.map Occurrence.logged := by
  simp [Occurrence.through]

namespace Exchange

variable (x : Exchange SharedStore)

@[simp] theorem cache_through : (x.through view).cache = x.cache.through view := rfl

@[simp] theorem queue_through : (x.through view).queue = x.queue.map (Call.through view) := rfl

@[simp] theorem waiting_through :
    (x.through view).waiting = x.waiting.map (Call.through view) := rfl

@[simp] theorem worker_through : (x.through view).worker = x.worker := rfl

@[simp] theorem clients_through : (x.through view).clients = x.clients := rfl

@[simp] theorem isClosed_through : (x.through view).isClosed = x.isClosed := rfl

@[simp] theorem isLive_through (client : Nat) :
    (x.through view).isLive client = x.isLive client := rfl

@[simp] theorem hasRoom_through : (x.through view).hasRoom = x.hasRoom := by
  simp [hasRoom, through]

@[simp] theorem isBusy_through (client : Nat) :
    (x.through view).isBusy client = x.isBusy client := by
  simp [isBusy, through, Call.through, Function.comp_def]

theorem close_through (ending : Ending) :
    (x.through view).close ending = seen view (x.close ending) := by
  simp [close, seen, through, Occurrence.through, Function.comp_def]

theorem accept_through (call : Call) :
    (x.through view).accept (call.through view) = seen view (x.accept call) := by
  by_cases hflush : call.request = .flush
  · simp [accept, hflush, seen, through, Occurrence.through, List.filter_map, Function.comp_def]
  · simp [accept, hflush, seen, through, Occurrence.through, List.filter_map, Function.comp_def]

end Exchange

namespace Backend

theorem report_through (request : Request) (outcome : Outcome Bool) :
    (request.through view).report outcome = request.report outcome := by
  cases request <;> cases outcome <;> rfl

theorem map_stored_through (outcome : Outcome Answer) :
    (outcome.through view).map stored = outcome.map stored := by
  cases outcome with
  | done answer => cases answer <;> rfl
  | _ => rfl

variable {view} (hempty : view .empty = .empty)
include hempty

/-- A worker makes the same of a request and of its view. -/
theorem apply_through (cache : SharedStore) (request : Request) :
    shared.apply (cache.through view) (request.through view) =
      ⟨(shared.apply cache request).answer, (shared.apply cache request).next.through view,
        (shared.apply cache request).events⟩ := by
  have hperform : shared.perform (cache.through view) (request.through view) =
      ⟨(shared.perform cache request).answer, (shared.perform cache request).next.through view,
        (shared.perform cache request).events⟩ := by
    cases hoperation : request.operation? with
    | none =>
        cases request with
        | flush => rfl
        | _ => cases hoperation
    | some operation =>
        have hview : (request.through view).operation? = some (operation.through view) := by
          rw [Request.operation?_through, hoperation, Option.map_some]
        have hcache := cache.perform_through hempty operation
        rw [perform_shared _ hview, perform_shared _ hoperation, hcache, map_stored_through]
  simp only [apply, hperform, report_through]

end Backend

namespace Exchange

variable {view} (hempty : view .empty = .empty) (x : Exchange SharedStore)
include hempty

theorem serve_through (call : Call) :
    serve .shared (x.through view) (call.through view) = seen view (serve .shared x call) := by
  have happly := Backend.apply_through hempty x.cache call.request
  simp only [serve, cache_through, Call.request_through, happly]
  by_cases hcrashed : (Backend.shared.apply x.cache call.request).answer = .crashed
  · rw [if_pos hcrashed, if_pos hcrashed]
    have hclose := close_through view
      { x with cache := (Backend.shared.apply x.cache call.request).next } .panicked
    simp only [through, seen] at hclose ⊢
    rw [hclose, List.map_append, Occurrence.through_logged]
  · rw [if_neg hcrashed, if_neg hcrashed]
    simp [seen, through, Occurrence.through, List.filter_map, Function.comp_def]

theorem turn_through : turn .shared (x.through view) = seen view (turn .shared x) := by
  cases hworker : x.worker with
  | ready => simp [turn, hworker, seen, through, Occurrence.through]
  | ended ending => simp [turn, hworker, seen]
  | running =>
      cases hqueue : x.queue with
      | nil =>
          have hclose := close_through view x .finished
          simp only [turn, worker_through, hworker, queue_through, hqueue, clients_through,
            List.map_nil, hclose]
          split <;> simp [seen, Occurrence.through]
      | cons call rest =>
          have hserve := serve_through hempty { x with queue := rest, worker := .running } call
          simp only [turn, worker_through, hworker, queue_through, hqueue, List.map_cons]
          exact hserve

theorem step_through (action : Action SharedStore) :
    step .shared (x.through view) (action.through view) = seen view (step .shared x action) := by
  cases action with
  | call client request =>
      simp only [step, Action.through, apply_ite (seen view)]
      refine if_congr Iff.rfl ?_ rfl
      refine if_congr Iff.rfl rfl ?_
      simp [seen, through, Call.through]
  | enter id =>
      have hfind : (x.waiting.map (Call.through view)).find? (fun call => call.id == id) =
          (x.waiting.find? fun call => call.id == id).map (Call.through view) := by
        simp [List.find?_map, Function.comp_def]
      simp only [step, Action.through, waiting_through, hfind, hasRoom_through]
      cases hfound : x.waiting.find? fun call => call.id == id with
      | none => rfl
      | some call =>
          simp only [Option.map_some]
          split
          · exact accept_through view x call
          · rfl
  | giveUp id => simp [step, Action.through, seen, through, List.filter_map, Function.comp_def]
  | clone client =>
      simp only [step, Action.through, isLive_through, apply_ite (seen view)]
      rfl
  | drop client =>
      simp only [step, Action.through, isLive_through, isBusy_through, apply_ite (seen view)]
      rfl
  | work => exact turn_through hempty x
  | abort =>
      have hclose := close_through view x .cancelled
      simp only [step, Action.through, isClosed_through, apply_ite (seen view), hclose]
      rfl
  | outside cache events =>
      simp [step, Action.through, seen, through, Occurrence.through]

/-- What an exchange and direct callers do to credentials they do to their views. -/
theorem perform_through (deed : Deed) :
    (x.through view).perform (deed.through view) =
      ⟨(x.perform deed).answer.through view, (x.perform deed).next.through view,
        (x.perform deed).events⟩ := by
  have hreport : ∀ moved outcome,
      report (seen view moved) (outcome.map (Outcome.through view)) =
        ⟨(report moved outcome).answer.through view, (report moved outcome).next.through view,
          (report moved outcome).events⟩ := by
    intro moved outcome
    simp [report, seen, Told.through, List.filterMap_map]
  cases deed with
  | queued action =>
      have hstep := step_through hempty x action
      simp only [perform, Deed.through]
      rw [hstep]
      exact hreport (x.step .shared action) none
  | direct operation =>
      have hcache := x.cache.perform_through hempty operation
      have hstep := step_through hempty x
        (.outside (x.cache.perform operation).next (x.cache.perform operation).events)
      simp only [Action.through] at hstep
      simp only [perform, Deed.through, cache_through]
      rw [hcache, hstep]
      exact hreport _ (some (x.cache.perform operation).answer)

end Exchange
end Queue
end Keyring
