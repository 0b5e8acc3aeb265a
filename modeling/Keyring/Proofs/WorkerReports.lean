import Keyring.Proofs.Answers
import Keyring.Proofs.QueuedCalls

/-!
# A worker outlives the faults of its backend

Whatever a backend answers, its worker goes on with the next request.  Each request
but a flush is one call of a method of the backend, with the arguments of the
request and in the order of the queue.  The log tells when the worker started and
stopped, and in between what became of each call, unless it went well.

`Backend.callAll` makes the calls without a worker, so it says what a backend has to
have received, and its receipts say what the log has to tell.
-/

namespace Keyring
namespace Queue

variable {σ : Type}

/-- What a log tells of a call that did not go well. -/
def Receipt.remarks (receipt : Receipt) : List LogRecord :=
  match receipt.request, receipt.answer with
  | .put key _ _, .done false =>
    [⟨.debug, "Queued credential not stored, key present", [("key", .text key)]⟩]
  | .put key _ _, .failed fault =>
    [⟨.warn, "Failed to store queued credential",
      [("key", .text key), ("error", .text fault.message)]⟩]
  | .remove key, .failed fault =>
    [⟨.warn, "Failed to remove queued credential",
      [("key", .text key), ("error", .text fault.message)]⟩]
  | .setTemporary temp, .failed fault =>
    [⟨.warn, "Failed to switch credential cache mode",
      [("temp", .flag temp), ("error", .text fault.message)]⟩]
  | .clearTemporary, .failed fault =>
    [⟨.warn, "Failed to clear temporary credentials", [("error", .text fault.message)]⟩]
  | _, _ => []

/-- The event in a piece of work, if it is one. -/
def Work.event? : Work → Option Event
  | .logged event => some event
  | .through _ => none

theorem Occurrence.filterMap_event?_work (log : List Occurrence) :
    (work log).filterMap Work.event? = log.filterMap event? := by
  rw [work, List.filterMap_filterMap]
  congr 1
  funext occurrence
  cases occurrence <;> rfl

theorem Receipt.record_report (receipt : Receipt) :
    (receipt.request.report receipt.answer).map Event.record = receipt.remarks := by
  obtain ⟨request, answer, events⟩ := receipt
  cases request <;> cases answer with
  | done stored => cases stored <;> rfl
  | _ => rfl

/-- The events of a worker's requests, call by call. -/
theorem Backend.events_work (backend : Backend σ) (state : σ) (requests : List Request) :
    ((backend.work state requests).filterMap Work.event?).map Event.record =
      (backend.callAll state requests).1.flatMap fun receipt =>
        receipt.events.map Event.record ++ receipt.remarks := by
  have hlogged : ∀ events : List Event,
      (events.map Work.logged).filterMap Work.event? = events := by
    intro events
    simp [List.filterMap_map, Function.comp_def, Work.event?]
  induction requests generalizing state with
  | nil => rfl
  | cons request rest ih =>
      have hrest := ih (backend.apply state request).next
      simp only [work, List.filterMap_append, List.filterMap_cons, Work.event?, hlogged,
        List.map_append, hrest]
      by_cases hcall : request = .flush
      · subst hcall
        rfl
      · rw [callAll_cons backend state hcall, List.flatMap_cons, ← Receipt.record_report]
        simp only [apply, List.map_append]

namespace Exchange

open Occurrence

variable {backend : Backend σ} {x next : Exchange σ} {action : Action σ}
  {log occurrences : List Occurrence}

/-- What was seen of a worker that came to its own end. -/
structure Concluded (backend : Backend σ) (initial : σ) (x : Exchange σ)
    (log : List Occurrence) : Prop where
  worked : Worked backend initial x log
  finished : x.worker = .ended .finished →
    work log = .logged .workerStarted ::
      (backend.work initial (appliedRequests log) ++ [.logged .workerStopped])

theorem concluded_of_move {initial : σ} (hreturns : backend.Returns)
    (hinside : action.isOutside = false) (hmove : Move backend x action next occurrences)
    (h : Concluded backend initial x log) :
    Concluded backend initial next (log ++ occurrences) := by
  refine ⟨worked_of_move hreturns hinside hmove h.worked, ?_⟩
  intro hfinished
  -- A move in which the worker has no part.
  have hquiet : next.worker = x.worker → appliedCalls occurrences = [] → work occurrences = [] →
      work (log ++ occurrences) = .logged .workerStarted ::
        (backend.work initial (appliedRequests (log ++ occurrences)) ++
          [.logged .workerStopped]) := by
    intro hworker happlied hwork
    have hlog := h.finished (hworker.symm.trans hfinished)
    simpa [appliedRequests, happlied, hwork] using hlog
  cases hmove with
  | started hready => simp at hfinished
  | applied hrunning hqueue hanswer =>
      have hworker : x.worker = .ended .finished := hfinished
      simp [hrunning] at hworker
  | broken hrunning hqueue hanswer => simp [close] at hfinished
  | finished hrunning hqueue hclients =>
      simp [h.worked.running hrunning, appliedRequests]
  | aborted hopen => simp [close] at hfinished
  | replaced => cases hinside
  | _ => exact hquiet (by simp) (by simp) (by simp)

theorem work_of_finished {cache : σ} {capacity : Nat} {start : Exchange σ}
    (hstart : spawn cache capacity = some start) (hreturns : backend.Returns)
    {actions : List (Action σ)} (hinside : ∀ action ∈ actions, action.isOutside = false)
    (hfinished : (start.run backend actions).1.worker = .ended .finished) :
    work (start.run backend actions).2 = .logged .workerStarted ::
      (backend.work cache (appliedRequests (start.run backend actions).2) ++
        [.logged .workerStopped]) := by
  have hempty : Concluded backend cache start [] := by
    have hnone : ∀ action ∈ ([] : List (Action σ)), action.isOutside = false := by simp
    refine ⟨worked_run hstart hreturns hnone, ?_⟩
    obtain rfl := eq_of_spawn hstart
    simp
  have hconcluded := run_of_move_among backend
    (fun hmem hmove => concluded_of_move hreturns (hinside _ hmem) hmove) hempty
  exact hconcluded.finished hfinished

/-! ## The worker comes to its end -/

theorem run_work_of_ended {ending : Ending} (hended : x.worker = .ended ending) (turns : Nat) :
    x.run backend (List.replicate turns .work) = (x, []) := by
  induction turns with
  | zero => rfl
  | succ turns ih =>
      have hturn : x.step backend .work = (x, []) := by simp [step, turn, hended]
      rw [List.replicate_succ, run, hturn, ih]
      rfl

/-- With every client gone, a worker needs a turn for each request and one to stop. -/
theorem finished_of_running (hreturns : backend.Returns) (hgone : x.clients.any id = false)
    (hrunning : x.worker = .running) (more : Nat) :
    (x.run backend (List.replicate (x.queue.length + 1 + more) .work)).1.worker =
      .ended .finished := by
  induction hqueue : x.queue generalizing x with
  | nil =>
      have hturn : (x.step backend .work).1.worker = .ended .finished := by
        simp [step, turn, hrunning, hqueue, hgone, close]
      rw [List.length_nil, Nat.zero_add, Nat.add_comm, List.replicate_succ, run,
        run_work_of_ended hturn]
      exact hturn
  | cons call rest ih =>
      have hturn : (x.step backend .work).1 = x.served backend call rest := by
        have hanswer := hreturns x.cache call.request
        simp [step, turn, hrunning, hqueue, serve, served, hanswer]
      have hlength : (call :: rest).length + 1 + more = rest.length + 1 + more + 1 := by
        rw [List.length_cons]
        omega
      rw [hlength, List.replicate_succ, run, hturn]
      exact @ih (x.served backend call rest) hgone hrunning rfl

theorem finished_of_gone (hreturns : backend.Returns) (hgone : x.clients.any id = false)
    (hkilled : x.worker.isKilled = false) :
    (x.run backend (List.replicate (x.queue.length + 2) .work)).1.worker = .ended .finished := by
  cases hworker : x.worker with
  | ready =>
      have hturn : (x.step backend .work).1 = { x with worker := .running } := by
        simp [step, turn, hworker]
      rw [List.replicate_succ, run, hturn]
      exact @finished_of_running σ backend { x with worker := .running } hreturns hgone rfl 0
  | running => exact finished_of_running hreturns hgone hworker 1
  | ended ending =>
      rw [run_work_of_ended hworker]
      cases ending with
      | finished => exact hworker
      | cancelled => simp [hworker, Worker.isKilled] at hkilled
      | panicked => simp [hworker, Worker.isKilled] at hkilled

/-! ## From the first request to the last -/

variable {cache : σ} {capacity : Nat} {start : Exchange σ}

/-- Requests are accepted, by whatever moves, until every client is dropped. -/
structure Feeds (start : Exchange σ) (backend : Backend σ) (actions : List (Action σ))
    (requests : List Request) : Prop where
  alone : ∀ action ∈ actions, action.isOutside = false
  unaborted : .abort ∉ actions
  accepted : (acceptedCalls (start.run backend actions).2).map Call.request = requests
  dropped : (start.run backend actions).1.clients.any id = false

theorem abort_not_mem_turns (count : Nat) (requests : List Request) :
    (.abort : Action σ) ∉ turns count requests := by
  induction requests generalizing count with
  | nil => simp [turns]
  | cons request rest ih => simp [turns, ih]

/-- Any requests can be fed to a worker. -/
theorem exists_feed (hstart : spawn cache capacity = some start) (hreturns : backend.Returns)
    (requests : List Request) : ∃ actions, Feeds start backend actions requests := by
  obtain rfl := eq_of_spawn hstart
  set start : Exchange σ := { capacity := max capacity 1, cache } with hfirst
  have hroom : 0 < max capacity 1 := by omega
  let served : List (Action σ) := .work :: turns 0 requests
  have hrest := run_turns hroom hreturns cache 0 requests
  obtain ⟨hmade, hinTurn⟩ := made_turns hroom hreturns cache 0 requests
  have hserved : (start.run backend served).1 =
      resting (max capacity 1) (backend.applyAll cache requests) (0 + requests.length) := hrest
  have hpart : ∀ action ∈ served ++ [.drop 0],
      action.isOutside = false ∧ ∀ id, action ≠ .giveUp id := by
    intro action hmem
    rcases List.mem_append.mp hmem with hserve | hdrop
    · rcases List.mem_cons.mp hserve with rfl | hturns
      · exact ⟨rfl, by simp⟩
      · exact isOutside_of_mem_turns hturns
    · rw [List.mem_singleton.mp hdrop]
      exact ⟨rfl, by simp⟩
  have hlog : InTurn (start.run backend served).1 (start.run backend served).2
      (start.made backend served) := by
    have hempty : InTurn start [] [] := by constructor <;> simp [hfirst]
    have hstays : ∀ id, .giveUp id ∉ served :=
      fun id hmem => (hpart _ (List.mem_append_left _ hmem)).2 id rfl
    simpa using inTurn_run hempty hstays hinTurn
  have haccepted : acceptedCalls (start.run backend served).2 = start.made backend served := by
    have horder := hlog.order (by rw [hserved]; rfl)
    simpa [hserved, resting] using horder
  refine ⟨served ++ [.drop 0], fun action hmem => (hpart action hmem).1, ?_, ?_, ?_⟩
  · simp [served, abort_not_mem_turns]
  · have hdrop : acceptedCalls ((start.run backend served).1.run backend [.drop 0]).2 = [] := by
      rw [hserved]
      rfl
    rw [run_append, acceptedCalls_append, hdrop, List.append_nil, haccepted]
    exact hmade
  · have hgone : ((start.run backend served).1.run backend [.drop 0]).1.clients.any id = false := by
      rw [hserved]
      rfl
    rwa [run_append]

/-- Every accepted flush is answered with success by a worker that came to its own
end, if its caller stays. -/
theorem results_flush_of_finished (hstart : spawn cache capacity = some start)
    {actions : List (Action σ)}
    (hfinished : (start.run backend actions).1.worker = .ended .finished)
    {flush : Call} (haccepted : flush ∈ acceptedCalls (start.run backend actions).2)
    (hstays : .giveUp flush.id ∉ actions) :
    results flush.id (start.run backend actions).2 = [.ok ()] := by
  set whole := start.run backend actions with hwhole
  have horder : InOrder (max capacity 1) whole.1 whole.2 := inOrder_run hstart backend actions
  have haddressed := addressed_run hstart backend actions
  have hmade := haddressed.accepted flush haccepted
  obtain ⟨-, hwaiting, hlistening⟩ := horder.closed (by simp [isClosed, hfinished])
  cases hresults : results flush.id whole.2 with
  | nil =>
      rcases haddressed.accounted.settled flush hmade hresults with hpending | hleft
      · simp [pending, ← hwhole, hwaiting, hlistening] at hpending
      · exact absurd (mem_givenUp.mp hleft) hstays
  | cons result others =>
      have honce := haddressed.accounted.once flush.id
      rw [← hwhole, hresults, List.length_cons] at honce
      have hothers : others = [] := List.length_eq_zero_iff.mp (by omega)
      have hmem : result ∈ results flush.id whole.2 := by simp [hresults]
      obtain ⟨call, hid, hanswer⟩ := mem_results_iff.mp hmem
      obtain ⟨hcall, hresult⟩ := haddressed.answered call result hanswer
      obtain rfl : call = flush := List.inj_on_of_nodup_map haddressed.distinct hcall hmade hid
      rcases hresult with rfl | rfl
      · rw [hothers]
      · -- Only a killed worker refuses what it has accepted.
        have hkilled := ((horder.refused call hanswer).2.2 haccepted).1
        simp [hfinished, Worker.isKilled] at hkilled

/-! ## The whole run -/

theorem InOrder.applied_of_finished {room : Nat} (h : InOrder room x log)
    (hfinished : x.worker = .ended .finished) : appliedCalls log = acceptedCalls log := by
  obtain ⟨lost, horder, hlost⟩ := h.order
  have hqueue : x.queue = [] := (h.closed (by simp [isClosed, hfinished])).1
  rw [horder, hlost (by simp [hfinished, Worker.isKilled]), hqueue, List.append_nil,
    List.append_nil]

theorem Move.acceptedCalls_work (hmove : Move backend x .work next occurrences) :
    acceptedCalls occurrences = [] := by
  cases hmove <;> simp

theorem acceptedCalls_run_work (turns : Nat) :
    acceptedCalls (x.run backend (List.replicate turns .work)).2 = [] := by
  induction turns generalizing x with
  | zero => rfl
  | succ turns ih =>
      rw [List.replicate_succ, run, acceptedCalls_append, ih,
        (move_step backend x .work).acceptedCalls_work, List.append_nil]

/-- What is seen of a worker that attends to requests and comes to its own end. -/
structure Attends (backend : Backend σ) (initial : σ) (start : Exchange σ)
    (actions : List (Action σ)) (requests : List Request) : Prop where
  finished : (start.run backend actions).1.worker = .ended .finished
  applied : appliedRequests (start.run backend actions).2 = requests
  /-- The calls that the backend has received. -/
  cache : (start.run backend actions).1.cache = (backend.callAll initial requests).2
  events : ((start.run backend actions).2.filterMap event?).map Event.record =
    ⟨.debug, "Credential cache worker started", []⟩ ::
      ((backend.callAll initial requests).1.flatMap fun receipt =>
        receipt.events.map Event.record ++ receipt.remarks) ++
      [⟨.debug, "Credential cache worker stopped", []⟩]
  /-- A flush has its answer, if its caller stays for it. -/
  acknowledged : ∀ flush ∈ acceptedCalls (start.run backend actions).2,
    flush.request = .flush → .giveUp flush.id ∉ actions →
      results flush.id (start.run backend actions).2 = [.ok ()]
  /-- At that moment the backend has received the calls before the flush and no others. -/
  barrier : ∀ before last after, actions = before ++ last :: after →
    ∀ flush : Call, flush.request = .flush →
      .answered flush (.ok ()) ∈ ((start.run backend before).1.step backend last).2 →
        ∃ earlier later,
          acceptedCalls (start.run backend actions).2 = earlier ++ flush :: later ∧
            (start.run backend (before ++ [last])).1.cache =
              (backend.callAll initial (earlier.map Call.request)).2

theorem attends_of_finished (hstart : spawn cache capacity = some start)
    (hreturns : backend.Returns) {actions : List (Action σ)}
    (hinside : ∀ action ∈ actions, action.isOutside = false)
    (hfinished : (start.run backend actions).1.worker = .ended .finished) :
    Attends backend cache start actions
      ((acceptedCalls (start.run backend actions).2).map Call.request) := by
  have horder : InOrder (max capacity 1) (start.run backend actions).1
      (start.run backend actions).2 := inOrder_run hstart backend actions
  have hworked := worked_run hstart hreturns hinside
  have happlied : appliedRequests (start.run backend actions).2 =
      (acceptedCalls (start.run backend actions).2).map Call.request := by
    rw [appliedRequests, horder.applied_of_finished hfinished]
  constructor
  · exact hfinished
  · exact happlied
  · rw [hworked.cache, happlied, Backend.applyAll_eq_callAll]
  · have hends : ∀ between : List Work,
        (.logged .workerStarted :: (between ++ [.logged .workerStopped])).filterMap Work.event? =
          .workerStarted :: (between.filterMap Work.event? ++ [.workerStopped]) := by
      simp [Work.event?]
    rw [← filterMap_event?_work, work_of_finished hstart hreturns hinside hfinished, happlied,
      hends, List.map_cons, List.map_append, Backend.events_work]
    rfl
  · intro flush haccepted _ hstays
    exact results_flush_of_finished hstart hfinished haccepted hstays
  · intro before last after hactions flush hflush hanswer
    obtain ⟨earlier, later, haccepted, hdone, hrunning⟩ :=
      order_of_flush_answered hstart hflush hanswer
    have hpart : ∀ action ∈ before ++ [last], action.isOutside = false := by
      intro action hmem
      refine hinside action ?_
      rw [hactions, List.append_cons]
      exact List.mem_append_left _ hmem
    refine ⟨earlier, ?_⟩
    have hcache := cache_of_flush_applied hstart hpart hflush hdone hrunning
    have hlog := run_append backend start (before ++ [last]) after
    rw [List.append_assoc, List.singleton_append, ← hactions] at hlog
    rw [hlog, acceptedCalls_append, haccepted, List.append_assoc, List.cons_append]
    exact ⟨_, rfl, hcache⟩

/-- A worker gets through any requests, whatever its backend answers, and tells what
became of each of them.  To answer a flush that nobody waits for does nothing. -/
theorem worker_survives_any_backend (hstart : spawn cache capacity = some start)
    (hreturns : backend.Returns) :
    (∀ requests, ∃ actions, Feeds start backend actions requests) ∧
    (∀ actions requests, Feeds start backend actions requests →
      let turns := List.replicate ((start.run backend actions).1.queue.length + 2) .work
      Attends backend cache start (actions ++ turns) requests ∧
        (backend.callAll cache requests).1.map Receipt.request =
          requests.filter fun request => request ≠ .flush) ∧
    ∀ (y : Exchange σ) (flush : Call) (rest : List Call),
      y.worker = .running → y.queue = flush :: rest → flush.request = .flush →
        (∀ other ∈ y.listening, other.id ≠ flush.id) →
          y.step backend .work = ({ y with queue := rest }, [.applied flush]) := by
  refine ⟨exists_feed hstart hreturns, ?_, ?_⟩
  · intro actions requests hfeeds turns
    have hfirst : start.worker.isKilled = false := by
      rw [eq_of_spawn hstart]
      rfl
    have hwhole := run_append backend start actions turns
    have hfinished : (start.run backend (actions ++ turns)).1.worker = .ended .finished := by
      rw [hwhole]
      exact finished_of_gone hreturns hfeeds.dropped
        (isKilled_run hreturns hfeeds.unaborted hfirst)
    have hinside : ∀ action ∈ actions ++ turns, action.isOutside = false := by
      intro action hmem
      rcases List.mem_append.mp hmem with hfed | hturn
      · exact hfeeds.alone action hfed
      · rw [List.eq_of_mem_replicate hturn]
        rfl
    have hrequests : (acceptedCalls (start.run backend (actions ++ turns)).2).map Call.request =
        requests := by
      rw [hwhole, acceptedCalls_append, acceptedCalls_run_work, List.append_nil]
      exact hfeeds.accepted
    refine ⟨?_, Backend.requests_callAll backend cache requests⟩
    rw [← hrequests]
    exact attends_of_finished hstart hreturns hinside hfinished
  · intro y flush rest hrunning hqueue hflush hgone
    have hnobody : y.listening.filter (fun other => other.id == flush.id) = [] :=
      List.filter_eq_nil_iff.mpr fun other hother => by simpa using hgone other hother
    have hothers : y.listening.filter (fun other => other.id != flush.id) = y.listening :=
      List.filter_eq_self.mpr fun other hother => by simpa using hgone other hother
    simp [step, turn, hrunning, hqueue, serve, hflush, Backend.apply, Backend.perform,
      Request.report, hnobody, hothers]

/-- It writes down its calls, keeps nothing that it has and does nothing new. -/
def reluctant : Backend (List Request) where
  put calls key credential policy :=
    ⟨match policy with
      | .overwrite => .failed (.insertionFailed "backend full")
      | .insertIfAbsent => .done false,
      calls ++ [.put key credential policy], []⟩
  remove calls key := ⟨.done (), calls ++ [.remove key], [.removed key .persistent]⟩
  setTemporary calls temp :=
    ⟨.failed (.configuration "mode refused"), calls ++ [.setTemporary temp], []⟩
  clearTemporary calls := ⟨.failed .clientClosed, calls ++ [.clearTemporary], []⟩

/-- Faults of three kinds, and a flush between them whose caller leaves. -/
theorem worker_outlives_reluctant_backend :
    let start : Exchange (List Request) := { capacity := 1, cache := [] }
    let credential : Credential := ⟨"ann", "home", ⟨"first"⟩⟩
    let requests : List Request :=
      [.put "share" credential .overwrite, .flush, .put "share" credential .insertIfAbsent,
        .remove "share", .setTemporary true]
    let actions : List (Action (List Request)) :=
      [.call 0 (.put "share" credential .overwrite), .enter 0, .work, .clone 0, .work,
        .call 1 .flush, .enter 1, .giveUp 1, .call 0 (.put "share" credential .insertIfAbsent),
        .work, .enter 2, .work, .call 1 (.remove "share"), .enter 3, .drop 1, .work,
        .call 0 (.setTemporary true), .enter 4, .drop 0]
    let whole := start.run reluctant (actions ++ List.replicate 3 .work)
    spawn ([] : List Request) 0 = some start ∧ reluctant.Returns ∧
      Feeds start reluctant actions requests ∧
      whole.1.worker = .ended .finished ∧
      whole.1.cache = requests.filter (fun request => request ≠ .flush) ∧
      (whole.2.filterMap event?).map Event.record =
        [⟨.debug, "Credential cache worker started", []⟩,
          ⟨.warn, "Failed to store queued credential",
            [("key", .text "share"), ("error", .text "Insertion failed: backend full")]⟩,
          ⟨.debug, "Queued credential not stored, key present", [("key", .text "share")]⟩,
          ⟨.debug, "Removed credential", [("key", .text "share"), ("mode", .text "persistent")]⟩,
          ⟨.warn, "Failed to switch credential cache mode",
            [("temp", .flag true), ("error", .text "Configuration error: mode refused")]⟩,
          ⟨.debug, "Credential cache worker stopped", []⟩] := by
  intro start credential requests actions whole
  have hspawn : spawn ([] : List Request) 0 = some start := rfl
  have hreturns : reluctant.Returns := by
    intro calls request
    cases request with
    | put key credential policy => cases policy <;> simp [Backend.apply, Backend.perform, reluctant]
    | _ => simp [Backend.apply, Backend.perform, reluctant, Outcome.map]
  have hfeeds : Feeds start reluctant actions requests := by
    constructor
    · simp [actions, Action.isOutside]
    · simp [actions]
    · cbv
    · cbv
  have hqueue : (start.run reluctant actions).1.queue.length = 1 := by cbv
  obtain ⟨-, hruns, -⟩ := worker_survives_any_backend hspawn hreturns
  have hattends : Attends reluctant [] start (actions ++ List.replicate 3 .work) requests := by
    have hrun := (hruns actions requests hfeeds).1
    rwa [hqueue] at hrun
  refine ⟨hspawn, hreturns, hfeeds, hattends.finished, ?_, ?_⟩
  · exact hattends.cache.trans (by cbv)
  · have hfull : (Fault.insertionFailed "backend full").message =
        "Insertion failed: backend full" := by decide
    have hrefused : (Fault.configuration "mode refused").message =
        "Configuration error: mode refused" := by decide
    rw [← hfull, ← hrefused]
    exact hattends.events

end Exchange
end Queue
end Keyring
