import Keyring.Queue.Exchange
import Mathlib.Tactic

/-!
# What a move of an exchange can do

`Move` lists everything that an action can do to an exchange, with the
conditions under which it does it.  Every action is such a move, so a property
of all runs needs one short case for each constructor and never opens the
definition of a step.
-/

namespace Keyring
namespace Queue

variable {σ : Type}

/-- A worker that did not come to its end by itself. -/
def Worker.isKilled : Worker → Bool
  | .ended .cancelled => true
  | .ended .panicked => true
  | _ => false

/-- No call of the backend crashes. -/
def Backend.Returns (backend : Backend σ) : Prop :=
  ∀ state request, (backend.apply state request).answer ≠ .crashed

namespace Occurrence

def acceptedCalls (log : List Occurrence) : List Call :=
  log.filterMap accepted?

def appliedCalls (log : List Occurrence) : List Call :=
  log.filterMap applied?

@[simp] theorem acceptedCalls_nil : acceptedCalls [] = [] := rfl

@[simp] theorem appliedCalls_nil : appliedCalls [] = [] := rfl

@[simp] theorem acceptedCalls_append (first second : List Occurrence) :
    acceptedCalls (first ++ second) = acceptedCalls first ++ acceptedCalls second :=
  List.filterMap_append

@[simp] theorem appliedCalls_append (first second : List Occurrence) :
    appliedCalls (first ++ second) = appliedCalls first ++ appliedCalls second :=
  List.filterMap_append

@[simp] theorem acceptedCalls_cons_accepted (call : Call) (log : List Occurrence) :
    acceptedCalls (.accepted call :: log) = call :: acceptedCalls log := rfl

@[simp] theorem acceptedCalls_cons_applied (call : Call) (log : List Occurrence) :
    acceptedCalls (.applied call :: log) = acceptedCalls log := rfl

@[simp] theorem acceptedCalls_cons_answered
    (call : Call) (result : Except Fault Unit) (log : List Occurrence) :
    acceptedCalls (.answered call result :: log) = acceptedCalls log := rfl

@[simp] theorem acceptedCalls_cons_logged (event : Event) (log : List Occurrence) :
    acceptedCalls (.logged event :: log) = acceptedCalls log := rfl

@[simp] theorem acceptedCalls_cons_ended (ending : Ending) (log : List Occurrence) :
    acceptedCalls (.ended ending :: log) = acceptedCalls log := rfl

@[simp] theorem appliedCalls_cons_accepted (call : Call) (log : List Occurrence) :
    appliedCalls (.accepted call :: log) = appliedCalls log := rfl

@[simp] theorem appliedCalls_cons_applied (call : Call) (log : List Occurrence) :
    appliedCalls (.applied call :: log) = call :: appliedCalls log := rfl

@[simp] theorem appliedCalls_cons_answered
    (call : Call) (result : Except Fault Unit) (log : List Occurrence) :
    appliedCalls (.answered call result :: log) = appliedCalls log := rfl

@[simp] theorem appliedCalls_cons_logged (event : Event) (log : List Occurrence) :
    appliedCalls (.logged event :: log) = appliedCalls log := rfl

@[simp] theorem appliedCalls_cons_ended (ending : Ending) (log : List Occurrence) :
    appliedCalls (.ended ending :: log) = appliedCalls log := rfl

@[simp] theorem acceptedCalls_logged (events : List Event) :
    acceptedCalls (events.map logged) = [] := by
  simp [acceptedCalls, List.filterMap_eq_nil_iff, accepted?]

@[simp] theorem appliedCalls_logged (events : List Event) :
    appliedCalls (events.map logged) = [] := by
  simp [appliedCalls, List.filterMap_eq_nil_iff, applied?]

@[simp] theorem acceptedCalls_answered (calls : List Call) (result : Except Fault Unit) :
    acceptedCalls (calls.map fun call => answered call result) = [] := by
  simp [acceptedCalls, List.filterMap_eq_nil_iff, accepted?]

@[simp] theorem appliedCalls_answered (calls : List Call) (result : Except Fault Unit) :
    appliedCalls (calls.map fun call => answered call result) = [] := by
  simp [appliedCalls, List.filterMap_eq_nil_iff, applied?]

end Occurrence

namespace Exchange

/-- The worker applies the call that it has taken from the queue. -/
def served (backend : Backend σ) (x : Exchange σ) (call : Call) (rest : List Call) :
    Exchange σ :=
  { x with
    queue := rest
    cache := (backend.apply x.cache call.request).next
    listening := x.listening.filter fun other => other.id != call.id }

section Parts

variable (x : Exchange σ) (call : Call) (ending : Ending)

@[simp] theorem acceptedCalls_close :
    Occurrence.acceptedCalls (x.close ending).2 = [] := by
  rw [close, Occurrence.acceptedCalls_cons_ended, Occurrence.acceptedCalls_answered]

@[simp] theorem appliedCalls_close :
    Occurrence.appliedCalls (x.close ending).2 = [] := by
  rw [close, Occurrence.appliedCalls_cons_ended, Occurrence.appliedCalls_answered]

@[simp] theorem acceptedCalls_accept :
    Occurrence.acceptedCalls (x.accept call).2 = [call] := by
  unfold accept
  split <;> rfl

@[simp] theorem appliedCalls_accept :
    Occurrence.appliedCalls (x.accept call).2 = [] := by
  unfold accept
  split <;> rfl

@[simp] theorem queue_accept : (x.accept call).1.queue = x.queue ++ [call] := by
  unfold accept
  split <;> rfl

@[simp] theorem waiting_accept :
    (x.accept call).1.waiting = x.waiting.filter fun other => other.id != call.id := by
  unfold accept
  split <;> rfl

@[simp] theorem worker_accept : (x.accept call).1.worker = x.worker := by
  unfold accept
  split <;> rfl

@[simp] theorem capacity_accept : (x.accept call).1.capacity = x.capacity := by
  unfold accept
  split <;> rfl

@[simp] theorem nextId_accept : (x.accept call).1.nextId = x.nextId := by
  unfold accept
  split <;> rfl

theorem mem_listening_accept {other : Call} (h : other ∈ (x.accept call).1.listening) :
    other ∈ x.listening ∨ other = call ∧ call.request = .flush := by
  unfold accept at h
  split at h
  next hflush =>
    rcases List.mem_append.mp h with hold | hnew
    · exact .inl hold
    · exact .inr ⟨List.mem_singleton.mp hnew, hflush⟩
  next hflush => exact .inl h

end Parts

theorem eq_of_spawn {cache : σ} {capacity : Nat} {start : Exchange σ}
    (hstart : spawn cache capacity = some start) :
    start = { capacity := max capacity 1, cache } := by
  unfold spawn at hstart
  split at hstart
  next hcapacity => exact (Option.some.inj hstart).symm
  next hcapacity => contradiction

/-- Everything that an action can do. -/
inductive Move (backend : Backend σ) (x : Exchange σ) :
    Action σ → Exchange σ → List Occurrence → Prop
  | idle {action : Action σ}
      (hcall : ∀ client request,
        action = .call client request → x.isLive client = false) :
      Move backend x action x []
  | refused {client : Nat} {request : Request}
      (hlive : x.isLive client = true) (hclosed : x.isClosed = true) :
      Move backend x (.call client request) { x with nextId := x.nextId + 1 }
        [.answered ⟨x.nextId, client, request⟩ (.error .clientClosed)]
  | asked {client : Nat} {request : Request}
      (hlive : x.isLive client = true) (hopen : x.isClosed = false) :
      Move backend x (.call client request)
        { x with
          nextId := x.nextId + 1
          waiting := x.waiting ++ [⟨x.nextId, client, request⟩] }
        []
  | entered {call : Call}
      (hwaiting : call ∈ x.waiting) (hroom : x.queue.length < x.capacity) :
      Move backend x (.enter call.id) (x.accept call).1 (x.accept call).2
  | gaveUp {id : Nat} :
      Move backend x (.giveUp id)
        { x with
          waiting := x.waiting.filter fun call => call.id != id
          listening := x.listening.filter fun call => call.id != id }
        []
  | counted {action : Action σ} {clients : List Bool}
      (hcall : ∀ client request, action ≠ .call client request) :
      Move backend x action { x with clients } []
  | started (hready : x.worker = .ready) :
      Move backend x .work { x with worker := .running } [.logged .workerStarted]
  | applied {call : Call} {rest : List Call}
      (hrunning : x.worker = .running) (hqueue : x.queue = call :: rest)
      (hanswer : (backend.apply x.cache call.request).answer ≠ .crashed) :
      Move backend x .work (x.served backend call rest)
        ((backend.apply x.cache call.request).events.map .logged ++
          .applied call ::
            (x.listening.filter fun other => other.id == call.id).map
              fun listener => .answered listener (.ok ()))
  | broken {call : Call} {rest : List Call}
      (hrunning : x.worker = .running) (hqueue : x.queue = call :: rest)
      (hanswer : (backend.apply x.cache call.request).answer = .crashed) :
      Move backend x .work
        (close { x with cache := (backend.apply x.cache call.request).next } .panicked).1
        ((backend.apply x.cache call.request).events.map .logged ++
          (close x .panicked).2)
  | finished (hrunning : x.worker = .running) (hqueue : x.queue = [])
      (hclients : x.clients.any id = false) :
      Move backend x .work (close x .finished).1
        (.logged .workerStopped :: (close x .finished).2)
  | aborted (hopen : x.isClosed = false) :
      Move backend x .abort (close x .cancelled).1 (close x .cancelled).2
  | replaced {cache : σ} {events : List Event} :
      Move backend x (.outside cache events) { x with cache } (events.map .logged)

theorem move_turn (backend : Backend σ) (x : Exchange σ) :
    Move backend x .work (turn backend x).1 (turn backend x).2 := by
  unfold turn
  cases hworker : x.worker with
  | ready => exact .started hworker
  | ended ending => exact .idle (by simp)
  | running =>
      cases hqueue : x.queue with
      | nil =>
          by_cases hclients : x.clients.any id = true
          · simp only [hclients, if_true]
            exact .idle (by simp)
          · have hgone : x.clients.any id = false := by simpa using hclients
            simp only [hgone]
            exact .finished hworker hqueue hgone
      | cons call rest =>
          by_cases hanswer : (backend.apply x.cache call.request).answer = .crashed
          · have hmove := Move.broken hworker hqueue hanswer
            simpa [serve, hanswer, close] using hmove
          · have hmove := Move.applied hworker hqueue hanswer
            simpa [serve, hanswer, served, hworker] using hmove

/-- Every action is a move. -/
theorem move_step (backend : Backend σ) (x : Exchange σ) (action : Action σ) :
    Move backend x action (step backend x action).1 (step backend x action).2 := by
  cases action with
  | call client request =>
      simp only [step]
      cases hlive : x.isLive client with
      | false => exact .idle (by rintro _ _ ⟨⟩; exact hlive)
      | true =>
          cases hclosed : x.isClosed with
          | false =>
              simp only [if_true]
              rw [if_neg (by simpa [isClosed] using hclosed)]
              exact .asked hlive hclosed
          | true =>
              simp only [if_true]
              rw [if_pos (by simpa [isClosed] using hclosed)]
              exact .refused hlive hclosed
  | enter id =>
      simp only [step]
      cases hfound : x.waiting.find? fun call => call.id == id with
      | none => exact .idle (by simp)
      | some call =>
          have hwaiting := List.mem_of_find?_eq_some hfound
          have hid : call.id = id := by
            simpa using List.find?_some hfound
          by_cases hroom : x.hasRoom = true
          · simp only [hroom, if_true]
            subst id
            exact .entered hwaiting (by simpa [hasRoom] using hroom)
          · simp only [hroom]
            exact .idle (by simp)
  | giveUp id => exact .gaveUp
  | clone client =>
      simp only [step]
      split
      · exact .counted (by simp)
      · exact .idle (by simp)
  | drop client =>
      simp only [step]
      split
      · exact .counted (by simp)
      · exact .idle (by simp)
  | work => exact move_turn backend x
  | abort =>
      simp only [step]
      cases hclosed : x.isClosed with
      | false => exact .aborted hclosed
      | true => exact .idle (by simp)
  | outside cache events => exact .replaced

theorem run_append (backend : Backend σ) (x : Exchange σ) (before after : List (Action σ)) :
    x.run backend (before ++ after) =
      let first := x.run backend before
      let others := first.1.run backend after
      (others.1, first.2 ++ others.2) := by
  induction before generalizing x with
  | nil => rfl
  | cons action rest ih => simp [run, ih]

/-- What every move of a run keeps of an exchange and the log so far, the run keeps. -/
theorem run_of_move_among {kept : Exchange σ → List Occurrence → Prop}
    (backend : Backend σ) {actions : List (Action σ)}
    (hmove : ∀ {x action next occurrences log}, action ∈ actions →
      Move backend x action next occurrences → kept x log → kept next (log ++ occurrences))
    {x : Exchange σ} {log : List Occurrence} (hstart : kept x log) :
    kept (x.run backend actions).1 (log ++ (x.run backend actions).2) := by
  induction actions generalizing x log with
  | nil => simpa [run] using hstart
  | cons action rest ih =>
      have hnext := hmove List.mem_cons_self (move_step backend x action) hstart
      have hrest := ih (fun hmem => hmove (List.mem_cons_of_mem _ hmem)) hnext
      simpa [run, List.append_assoc] using hrest

/-- What every move keeps, every run keeps. -/
theorem run_of_move {kept : Exchange σ → List Occurrence → Prop}
    (backend : Backend σ)
    (hmove : ∀ {x action next occurrences log},
      Move backend x action next occurrences → kept x log → kept next (log ++ occurrences))
    {x : Exchange σ} {log : List Occurrence} (hstart : kept x log)
    (actions : List (Action σ)) :
    kept (x.run backend actions).1 (log ++ (x.run backend actions).2) :=
  run_of_move_among backend (fun _ => hmove) hstart

end Exchange
end Queue
end Keyring
