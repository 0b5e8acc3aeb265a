import Keyring.Proofs.CallOrder
import Keyring.Proofs.Handles
import Keyring.Proofs.QueueWork

/-!
# Queued calls are direct calls

A caller who writes through a client instead of the store itself gets the same
store in the end, and the same events.  The worker adds one event to those of a
call when the credential was not stored or the call was refused, since nobody
waits for the answer.

The calls come one after the other, through any of the clients, and the worker
has its turns whenever it likes.  A final flush says that it is through.  Calls
can always be delivered so: the simplest way gives the worker a turn after each.
-/

namespace Keyring
namespace Queue

open Occurrence

def Action.isCall {σ : Type} : Action σ → Bool
  | .call _ _ => true
  | _ => false

/-- A write as it is asked of a client. -/
inductive ClientCall where
  | putCredential (address workgroup username password : String) (overwrite : Bool)
  | put (key : String) (credential : Credential) (policy : WritePolicy)
  | remove (address : String)
  | setTemporary (temp : Bool)
  | clearTemporary

namespace ClientCall

/-- What the client puts into the queue. -/
def request : ClientCall → Request
  | .putCredential address workgroup username password overwrite =>
    .putCredential address workgroup username password overwrite
  | .put key credential policy => .put key credential policy
  | .remove address => .remove address
  | .setTemporary temp => .setTemporary temp
  | .clearTemporary => .clearTemporary

/-- The same write as it is asked of the store. -/
def direct : ClientCall → Operation
  | .putCredential address workgroup username password overwrite =>
    .put (.under (if overwrite then .overwrite else .insertIfAbsent)) (.text address)
      { username := username, domain := workgroup, secret := ⟨password⟩ }
  | .put key credential policy => .put (.under policy) (.text key) credential
  | .remove address => .remove address
  | .setTemporary temp => .setMode (.ofTemp temp)
  | .clearTemporary => .clearTemporary

def putKey? : ClientCall → Option String
  | .putCredential address .. => some address
  | .put key .. => some key
  | _ => none

/-- The warning that a write was refused. -/
def warning (fault : Fault) : ClientCall → Event
  | .putCredential address .. => .putFailed address fault
  | .put key .. => .putFailed key fault
  | .remove address => .removeFailed address fault
  | .setTemporary temp => .switchFailed temp fault
  | .clearTemporary => .clearFailed fault

/-- What the worker adds when the store has answered. -/
def remark (call : ClientCall) : Outcome Answer → List Event
  | .done (.flag false) => call.putKey?.toList.map .queuedNotStored
  | .failed fault => [call.warning fault]
  | _ => []

theorem operation?_request (call : ClientCall) : call.request.operation? = some call.direct := by
  cases call <;> rfl

theorem request_ne_flush (call : ClientCall) : call.request ≠ .flush := by
  cases call <;> simp [request, Request.putCredential]

theorem report_request (call : ClientCall) (outcome : Outcome Answer) :
    call.request.report (outcome.map Backend.stored) = call.remark outcome := by
  cases outcome with
  | done answer =>
      cases answer with
      | flag value => cases call <;> cases value <;> rfl
      | _ => cases call <;> rfl
  | failed fault => cases call <;> rfl
  | crashed => cases call <;> rfl

theorem warning_tells_fault (call : ClientCall) (fault : Fault) :
    (call.warning fault).level = .warn ∧
      ("error", .text fault.message) ∈ (call.warning fault).fields := by
  cases call <;> simp [warning, Event.level, Event.fields]

end ClientCall

/-- Direct calls in order, each with the events that it makes and those that a
worker would add. -/
def directWork (shared : SharedStore) : List ClientCall → List Work
  | [] => []
  | call :: rest =>
    let reply := shared.perform call.direct
    (reply.events ++ call.remark reply.answer).map .logged ++
      .through call.request :: directWork reply.next rest

theorem Backend.apply_request (shared : SharedStore) (call : ClientCall) :
    let reply := shared.perform call.direct
    (Backend.shared.apply shared call.request).next = reply.next ∧
      (Backend.shared.apply shared call.request).events =
        reply.events ++ call.remark reply.answer := by
  have hperform := perform_shared shared call.operation?_request
  simp only [apply, hperform, call.report_request]
  exact ⟨trivial, trivial⟩

theorem ClientCall.operations_requests (calls : List ClientCall) :
    (calls.map request).filterMap Request.operation? = calls.map direct := by
  rw [List.filterMap_map, ← List.filterMap_eq_map]
  exact congrArg (calls.filterMap ·) (funext operation?_request)

/-- Applied requests are logged as direct calls are. -/
theorem Backend.work_requests (shared : SharedStore) (calls : List ClientCall) :
    Backend.shared.work shared (calls.map ClientCall.request) = directWork shared calls := by
  induction calls generalizing shared with
  | nil => rfl
  | cons call rest ih =>
      obtain ⟨hnext, hevents⟩ := apply_request shared call
      simp only [List.map_cons, work, directWork, hnext, hevents, ih]

namespace Exchange

variable {σ : Type} {x next : Exchange σ} {log occurrences : List Occurrence}

/-- Whether each call is made only when no other waits for its answer. -/
def oneByOne (backend : Backend σ) (x : Exchange σ) : List (Action σ) → Bool
  | [] => true
  | action :: rest =>
    (!action.isCall || (x.waiting ++ x.listening).isEmpty) &&
      oneByOne backend (x.step backend action).1 rest

/-- As long as the worker lives, all calls made so far have been accepted, in their
order, but for the last one. -/
structure InTurn (x : Exchange σ) (log : List Occurrence) (calls : List Call) : Prop where
  single : x.waiting.length ≤ 1
  order : x.isClosed = false → acceptedCalls log ++ x.waiting = calls

namespace InTurn

variable {calls : List Call}

/-- A move that makes and accepts no call. -/
theorem quiet (h : InTurn x log calls) (hwaiting : next.waiting = x.waiting)
    (hclosed : next.isClosed = x.isClosed) (haccepted : acceptedCalls occurrences = []) :
    InTurn next (log ++ occurrences) calls := by
  constructor
  · rw [hwaiting]
    exact h.single
  · rw [hclosed, hwaiting, acceptedCalls_append, haccepted, List.append_nil]
    exact h.order

theorem closed (hsingle : next.waiting.length ≤ 1) (hclosed : next.isClosed = true) :
    InTurn next log calls := by
  constructor
  · exact hsingle
  · intro hopen
    rw [hclosed] at hopen
    contradiction

theorem asked (h : InTurn x log calls) (hopen : x.isClosed = false)
    (hnone : x.waiting = []) (call : Call) :
    InTurn { x with nextId := x.nextId + 1, waiting := x.waiting ++ [call] } log
      (calls ++ [call]) := by
  constructor
  · simp [hnone]
  · intro _
    have horder := h.order hopen
    rw [hnone, List.append_nil] at horder
    simp [hnone, horder]

theorem entered (h : InTurn x log calls) {call : Call} (hwaiting : call ∈ x.waiting) :
    InTurn (x.accept call).1 (log ++ (x.accept call).2) calls := by
  -- No more than one call waits, so it is the one that enters.
  obtain ⟨only, honly⟩ := List.length_eq_one_iff.mp
    (Nat.le_antisymm h.single (List.length_pos_of_mem hwaiting))
  have hcall : call = only := by simpa [honly] using hwaiting
  have hnone : (x.accept call).1.waiting = [] := by
    rw [waiting_accept, honly, hcall]
    simp
  constructor
  · rw [hnone]
    exact Nat.zero_le _
  · intro hopen
    have hsame : (x.accept call).1.isClosed = x.isClosed := by simp [isClosed]
    have horder := h.order (hsame ▸ hopen)
    rw [hnone, acceptedCalls_append, acceptedCalls_accept, List.append_nil, ← horder, honly,
      hcall]

end InTurn

theorem inTurn_of_move {calls : List Call} {backend : Backend σ} {action : Action σ}
    (hmove : Move backend x action next occurrences) (h : InTurn x log calls)
    (hstay : ∀ id, action ≠ .giveUp id)
    (hturn : action.isCall = true → x.waiting = []) :
    InTurn next (log ++ occurrences) (calls ++ x.issued action) := by
  have hsilent : (∀ client request, action ≠ .call client request) → x.issued action = [] :=
    fun hcall => issued_eq_nil fun client request heq => absurd heq (hcall client request)
  cases hmove with
  | idle hcall =>
      rw [issued_eq_nil hcall, List.append_nil calls]
      exact h.quiet rfl rfl (by simp)
  | refused hlive hclosed => exact .closed h.single hclosed
  | @asked client request hlive hopen =>
      have hasked := h.asked hopen (hturn rfl) ⟨x.nextId, client, request⟩
      simpa [issued, hlive] using hasked
  | entered hwaiting hroom => simpa [issued] using h.entered hwaiting
  | gaveUp => exact absurd rfl (hstay _)
  | counted hcall =>
      rw [hsilent hcall, List.append_nil calls]
      exact h.quiet rfl rfl (by simp)
  | started hready =>
      rw [hsilent (by simp), List.append_nil calls]
      exact h.quiet rfl (by simp [isClosed, hready]) rfl
  | applied hrunning hqueue hanswer =>
      rw [hsilent (by simp), List.append_nil calls]
      exact h.quiet rfl rfl (by simp)
  | broken hrunning hqueue hanswer => exact .closed (Nat.zero_le _) rfl
  | finished hrunning hqueue hclients => exact .closed (Nat.zero_le _) rfl
  | aborted hopen => exact .closed (Nat.zero_le _) rfl
  | replaced =>
      rw [hsilent (by simp), List.append_nil calls]
      exact h.quiet rfl rfl (by simp)

theorem inTurn_run {calls : List Call} {backend : Backend σ} {actions : List (Action σ)}
    (h : InTurn x log calls) (hstay : ∀ id, .giveUp id ∉ actions)
    (hturn : x.oneByOne backend actions = true) :
    InTurn (x.run backend actions).1 (log ++ (x.run backend actions).2)
      (calls ++ x.made backend actions) := by
  induction actions generalizing x log calls with
  | nil => simpa [run, made] using h
  | cons action rest ih =>
      obtain ⟨hfirst, hrest⟩ := Bool.and_eq_true_iff.mp hturn
      have hidle : action.isCall = true → x.waiting = [] := by
        intro hcall
        simp only [hcall, Bool.not_true, Bool.false_or, List.isEmpty_iff,
          List.append_eq_nil_iff] at hfirst
        exact hfirst.1
      have hstayFirst : ∀ id, action ≠ .giveUp id := by
        rintro id rfl
        exact hstay id List.mem_cons_self
      have hstayRest : ∀ id, .giveUp id ∉ rest :=
        fun id hmem => hstay id (List.mem_cons_of_mem _ hmem)
      have hnext := inTurn_of_move (move_step backend x action) h hstayFirst hidle
      simpa [run, made, List.append_assoc] using ih hnext hstayRest hrest

/-- Requests end with the first flush among them if they end with a flush. -/
theorem eq_of_append_flush_eq {earlier later writes : List Request} (hwrites : .flush ∉ writes)
    (h : earlier ++ .flush :: later = writes ++ [.flush]) : earlier = writes := by
  rcases List.append_eq_append_iff.mp h with ⟨middle, hsplit, hrest⟩ | ⟨middle, hsplit, hrest⟩
  · cases middle with
    | nil => simpa using hsplit.symm
    | cons first more =>
        have hfirst : first = .flush := (List.cons.inj hrest).1.symm
        rw [hsplit, hfirst] at hwrites
        simp at hwrites
  · cases middle with
    | nil => simpa using hsplit
    | cons first more => simp at hrest

/-- A run in which calls and then a flush are made through the clients, one after
the other, by callers who stay for the answers, with nobody else at the store.
The last action answers the flush. -/
structure Delivers (start : Exchange SharedStore) (calls : List ClientCall)
    (actions : List (Action SharedStore)) (last : Action SharedStore) : Prop where
  alone : ∀ action ∈ actions ++ [last], action.isOutside = false
  stays : ∀ id, .giveUp id ∉ actions ++ [last]
  inTurn : start.oneByOne .shared (actions ++ [last]) = true
  made : (start.made .shared (actions ++ [last])).map Call.request =
    calls.map ClientCall.request ++ [.flush]
  answered : ∃ flush : Call, flush.request = .flush ∧
    .answered flush (.ok ()) ∈ ((start.run .shared actions).1.step .shared last).2

theorem Delivers.applied {cache : SharedStore} {capacity : Nat} {start : Exchange SharedStore}
    (hstart : spawn cache capacity = some start) {calls : List ClientCall}
    {actions : List (Action SharedStore)} {last : Action SharedStore}
    (h : start.Delivers calls actions last) :
    let whole := start.run .shared (actions ++ [last])
    whole.1.worker = .running ∧
      appliedRequests whole.2 = calls.map ClientCall.request ++ [.flush] := by
  intro whole
  obtain ⟨flush, hflush, hanswer⟩ := h.answered
  obtain ⟨earlier, later, haccepted, happlied, hrunning⟩ :=
    order_of_flush_answered hstart hflush hanswer
  have hinTurn : InTurn whole.1 whole.2 (start.made .shared (actions ++ [last])) := by
    have hfirst : InTurn start [] [] := by
      obtain rfl := eq_of_spawn hstart
      constructor <;> simp
    simpa using inTurn_run hfirst h.stays h.inTurn
  have hwrites : earlier.map Call.request = calls.map ClientCall.request := by
    have horder := congrArg (List.map Call.request)
      (hinTurn.order (isClosed_of_running hrunning))
    rw [haccepted, h.made, List.append_assoc, List.cons_append, List.map_append, List.map_cons,
      hflush] at horder
    -- The flush that is answered is the only one, since the writes contain none.
    refine eq_of_append_flush_eq ?_ horder
    intro hmem
    obtain ⟨call, -, hcall⟩ := List.mem_map.mp hmem
    exact call.request_ne_flush hcall
  refine ⟨hrunning, ?_⟩
  rw [appliedRequests, happlied, List.map_append, hwrites, List.map_singleton, hflush]

/-- An exchange with one client in which nothing is going on. -/
def resting (capacity : Nat) (cache : σ) (count : Nat) : Exchange σ :=
  { capacity, cache, worker := .running, nextId := count }

/-- The same exchange with a request in its queue. -/
def holding (capacity : Nat) (cache : σ) (count : Nat) (request : Request) : Exchange σ :=
  { resting capacity cache (count + 1) with
    queue := [⟨count, 0, request⟩]
    listening := if request = .flush then [⟨count, 0, request⟩] else [] }

/-- Requests of the first client, each with a turn of the worker. -/
def turns (count : Nat) : List Request → List (Action σ)
  | [] => []
  | request :: rest => .call 0 request :: .enter count :: .work :: turns (count + 1) rest

theorem turns_concat (count : Nat) (requests : List Request) (request : Request) :
    (turns count (requests ++ [request]) : List (Action σ)) =
      turns count requests ++
        [.call 0 request, .enter (count + requests.length)] ++ [.work] := by
  induction requests generalizing count with
  | nil => rfl
  | cons first rest ih =>
      have hcount : count + 1 + rest.length = count + (rest.length + 1) := by omega
      simp [turns, ih, hcount]

theorem isOutside_of_mem_turns {count : Nat} {requests : List Request} {action : Action σ}
    (hmem : action ∈ turns count requests) :
    action.isOutside = false ∧ ∀ id, action ≠ .giveUp id := by
  induction requests generalizing count with
  | nil => simp [turns] at hmem
  | cons request rest ih =>
      simp only [turns, List.mem_cons] at hmem
      rcases hmem with rfl | rfl | rfl | hrest
      · exact ⟨rfl, by simp⟩
      · exact ⟨rfl, by simp⟩
      · exact ⟨rfl, by simp⟩
      · exact ih hrest

section Turns

variable {capacity : Nat} {backend : Backend σ} (hroom : 0 < capacity)
  (hreturns : backend.Returns)
include hroom

theorem run_entered (backend : Backend σ) (cache : σ) (count : Nat) (request : Request) :
    ((resting capacity cache count).run backend [.call 0 request, .enter count]).1 =
      holding capacity cache count request := by
  by_cases hflush : request = .flush
  · simp [run, step, resting, holding, isLive, isClosed, hasRoom, accept, hroom, hflush]
  · simp [run, step, resting, holding, isLive, isClosed, hasRoom, accept, hroom, hflush]

include hreturns

theorem run_served (cache : σ) (count : Nat) (request : Request) :
    ((resting capacity cache count).run backend [.call 0 request, .enter count, .work]).1 =
      resting capacity (backend.apply cache request).next (count + 1) := by
  have hanswer := hreturns cache request
  have hturn : (step backend (holding capacity cache count request) .work).1 =
      resting capacity (backend.apply cache request).next (count + 1) := by
    by_cases hflush : request = .flush
    · subst hflush
      simp [step, turn, serve, resting, holding, hanswer]
    · simp [step, turn, serve, resting, holding, hanswer, hflush]
  have hentered := run_entered hroom backend cache count request
  simp only [run] at hentered ⊢
  rw [hentered]
  exact hturn

theorem run_turns (cache : σ) (count : Nat) (requests : List Request) :
    ((resting capacity cache count).run backend (turns count requests)).1 =
      resting capacity (backend.applyAll cache requests) (count + requests.length) := by
  induction requests generalizing cache count with
  | nil => rfl
  | cons request rest ih =>
      have hserved := run_served hroom hreturns cache count request
      have hrest := ih (backend.apply cache request).next (count + 1)
      have hcount : count + 1 + rest.length = count + (rest.length + 1) := by omega
      rw [← hserved] at hrest
      simpa [turns, run, Backend.applyAll, hcount] using hrest

theorem run_turns_entered (cache : σ) (count : Nat) (requests : List Request)
    (request : Request) :
    ((resting capacity cache count).run backend (turns count requests ++
        [.call 0 request, .enter (count + requests.length)])).1 =
      holding capacity (backend.applyAll cache requests) (count + requests.length) request := by
  rw [run_append, ← run_entered hroom backend, ← run_turns hroom hreturns]

theorem made_turns (cache : σ) (count : Nat) (requests : List Request) :
    ((resting capacity cache count).made backend (turns count requests)).map Call.request =
        requests ∧
      (resting capacity cache count).oneByOne backend (turns count requests) = true := by
  induction requests generalizing cache count with
  | nil => exact ⟨rfl, rfl⟩
  | cons request rest ih =>
      have hserved := run_served hroom hreturns cache count request
      obtain ⟨hmade, hturn⟩ := ih (backend.apply cache request).next (count + 1)
      rw [← hserved] at hmade hturn
      constructor
      · simpa [turns, made, issued, isLive, resting, run] using hmade
      · simpa [turns, oneByOne, Action.isCall, resting, run] using hturn

end Turns

theorem exists_delivery {cache : SharedStore} {capacity : Nat} {start : Exchange SharedStore}
    (hstart : spawn cache capacity = some start) (calls : List ClientCall) :
    ∃ actions last, start.Delivers calls actions last := by
  obtain rfl := eq_of_spawn hstart
  have hroom : 0 < max capacity 1 := by omega
  let requests := calls.map ClientCall.request
  let actions : List (Action SharedStore) :=
    .work :: (turns 0 requests ++ [.call 0 .flush, .enter (0 + requests.length)])
  have hwhole : actions ++ [.work] = .work :: turns 0 (requests ++ [.flush]) := by
    rw [turns_concat]
    rfl
  have hpart : ∀ action ∈ actions ++ [.work],
      action.isOutside = false ∧ ∀ id, action ≠ .giveUp id := by
    intro action hmem
    rw [hwhole] at hmem
    rcases List.mem_cons.mp hmem with rfl | hturns
    · exact ⟨rfl, by simp⟩
    · exact isOutside_of_mem_turns hturns
  obtain ⟨hmade, hturn⟩ :=
    made_turns hroom Backend.shared_returns cache 0 (requests ++ [.flush])
  refine ⟨actions, .work, ?_, ?_, ?_, ?_, ⟨0 + requests.length, 0, .flush⟩, rfl, ?_⟩
  · exact fun action hmem => (hpart action hmem).1
  · exact fun id hmem => (hpart _ hmem).2 id rfl
  · rw [hwhole, oneByOne]
    exact hturn
  · rw [hwhole, made]
    exact hmade
  · have hentered :=
      run_turns_entered hroom Backend.shared_returns cache 0 requests .flush
    change .answered _ (.ok ()) ∈ (step .shared ((resting (max capacity 1) cache 0).run .shared
      (turns 0 requests ++ [.call 0 .flush, .enter (0 + requests.length)])).1 .work).2
    rw [hentered]
    simp [step, turn, serve, resting, holding, Backend.apply, Backend.perform]

/-- Calls can be delivered, and however they are, they leave the store and the
events that direct calls leave. -/
theorem queued_calls_are_direct {cache : SharedStore} {capacity : Nat}
    {start : Exchange SharedStore} (hstart : spawn cache capacity = some start)
    (calls : List ClientCall) :
    (∃ actions last, start.Delivers calls actions last) ∧
      ∀ actions last, start.Delivers calls actions last →
        let whole := start.run .shared (actions ++ [last])
        whole.1.cache = (cache.run (calls.map ClientCall.direct)).next ∧
          work whole.2 =
            .logged .workerStarted :: (directWork cache calls ++ [.through .flush]) ∧
          ∀ call ∈ calls, ∀ fault,
            (call.warning fault).level = .warn ∧
              ("error", .text fault.message) ∈ (call.warning fault).fields := by
  refine ⟨exists_delivery hstart calls, ?_⟩
  intro actions last h whole
  obtain ⟨hrunning, hrequests⟩ := h.applied hstart
  have hworked := worked_run hstart Backend.shared_returns h.alone
  have hwork := Backend.work_requests cache calls
  refine ⟨?_, ?_, fun call _ fault => call.warning_tells_fault fault⟩
  · rw [hworked.cache, hrequests, Backend.applyAll_concat_flush, Backend.applyAll_shared,
      ClientCall.operations_requests]
  · rw [hworked.running hrunning, hrequests, Backend.work_concat, hwork]
    rfl

/-- A queue of room one, two clients, and a put that comes too late. -/
theorem queued_put_keeps_existing :
    let calls : List ClientCall :=
      [.putCredential "share" "home" "ann" "first" true,
        .putCredential "share" "home" "bob" "second" false, .setTemporary true]
    let start : Exchange SharedStore := { capacity := 1, cache := .new }
    let actions : List (Action SharedStore) :=
      [.call 0 (.putCredential "share" "home" "ann" "first" true), .enter 0, .work, .clone 0,
        .call 1 (.putCredential "share" "home" "bob" "second" false), .enter 1, .work, .enter 1,
        .work, .call 0 (.setTemporary true), .enter 2, .work, .call 1 .flush, .enter 3]
    let whole := start.run .shared (actions ++ [.work])
    spawn SharedStore.new 0 = some start ∧
      start.Delivers calls actions .work ∧
      whole.1.cache = (SharedStore.new.run (calls.map ClientCall.direct)).next ∧
      work whole.2 =
        .logged .workerStarted :: (directWork .new calls ++ [.through .flush]) := by
  intro calls start actions whole
  have hspawn : spawn SharedStore.new 0 = some start := rfl
  have hlast : ((start.run .shared actions).1.step .shared .work).2 =
      [.applied ⟨3, 1, .flush⟩, .answered ⟨3, 1, .flush⟩ (.ok ())] := by cbv
  have hdelivers : start.Delivers calls actions .work := by
    constructor
    · simp [actions, Action.isOutside]
    · simp [actions]
    · cbv
    · cbv
    · refine ⟨⟨3, 1, .flush⟩, rfl, ?_⟩
      rw [hlast]
      simp
  obtain ⟨-, hdelivered⟩ := queued_calls_are_direct hspawn calls
  obtain ⟨hstore, hwork, -⟩ := hdelivered actions .work hdelivers
  exact ⟨hspawn, hdelivers, hstore, hwork⟩

end Exchange
end Queue
end Keyring
