import Keyring.Proofs.CallOrder

/-!
# Every call is answered once

A call waits to be accepted, and a flush then listens for its answer.  Whoever
waits or listens has no answer yet, and nobody is ever answered twice.  A call
that has no answer and neither waits nor listens was given up by its caller.

The invariant `Accounted` says so of all the calls of a run.  Most moves take some
callers out of those who are without an answer and give all of them the same one,
so one lemma serves for these moves.
-/

namespace Keyring
namespace Queue

variable {σ : Type}

namespace Occurrence

/-- The answers to the call of a number, in the order in which they come. -/
def results (id : Nat) (log : List Occurrence) : List (Except Fault Unit) :=
  log.filterMap (result? id)

@[simp] theorem results_nil (id : Nat) : results id [] = [] := rfl

@[simp] theorem results_append (id : Nat) (first second : List Occurrence) :
    results id (first ++ second) = results id first ++ results id second :=
  List.filterMap_append

@[simp] theorem results_cons_accepted (id : Nat) (call : Call) (log : List Occurrence) :
    results id (.accepted call :: log) = results id log := rfl

@[simp] theorem results_cons_applied (id : Nat) (call : Call) (log : List Occurrence) :
    results id (.applied call :: log) = results id log := rfl

@[simp] theorem results_cons_logged (id : Nat) (event : Event) (log : List Occurrence) :
    results id (.logged event :: log) = results id log := rfl

@[simp] theorem results_cons_ended (id : Nat) (ending : Ending) (log : List Occurrence) :
    results id (.ended ending :: log) = results id log := rfl

theorem results_cons_answered (id : Nat) (call : Call) (result : Except Fault Unit)
    (log : List Occurrence) :
    results id (.answered call result :: log) =
      if call.id = id then result :: results id log else results id log := by
  by_cases hid : call.id = id
  · simp [results, result?, hid]
  · simp [results, result?, hid]

@[simp] theorem results_logged (id : Nat) (events : List Event) :
    results id (events.map .logged) = [] := by
  simp [results, List.filterMap_eq_nil_iff, result?]

theorem results_answered_eq_nil {id : Nat} {calls : List Call} (result : Except Fault Unit)
    (hothers : ∀ call ∈ calls, call.id ≠ id) :
    results id (calls.map fun call => .answered call result) = [] := by
  rw [results, List.filterMap_eq_nil_iff]
  intro occurrence hmem
  obtain ⟨call, hcall, rfl⟩ := List.mem_map.mp hmem
  simp [result?, hothers call hcall]

/-- One answer for each of several calls that are told apart by their numbers. -/
theorem results_answered_of_mem {calls : List Call} (result : Except Fault Unit)
    (hapart : (calls.map Call.id).Nodup) {call : Call} (hcall : call ∈ calls) :
    results call.id (calls.map fun call => .answered call result) = [result] := by
  induction calls with
  | nil => simp at hcall
  | cons first rest ih =>
      obtain ⟨hfirst, hrest⟩ := List.nodup_cons.mp hapart
      rw [List.map_cons, results_cons_answered]
      rcases List.mem_cons.mp hcall with rfl | hmem
      · have hothers : ∀ other ∈ rest, other.id ≠ call.id :=
          fun other hother heq => hfirst (heq ▸ List.mem_map_of_mem hother)
        rw [if_pos rfl, results_answered_eq_nil result hothers]
      · have hne : first.id ≠ call.id := fun heq => hfirst (heq ▸ List.mem_map_of_mem hmem)
        rw [if_neg hne, ih hrest hmem]

theorem mem_results_iff {id : Nat} {log : List Occurrence} {result : Except Fault Unit} :
    result ∈ results id log ↔ ∃ call, call.id = id ∧ .answered call result ∈ log := by
  simp only [results, List.mem_filterMap]
  constructor
  · rintro ⟨occurrence, hmem, hresult⟩
    cases occurrence with
    | answered call answer =>
        simp only [result?, Option.ite_none_right_eq_some, Option.some.injEq] at hresult
        obtain ⟨hid, rfl⟩ := hresult
        exact ⟨call, hid, hmem⟩
    | _ => cases hresult
  · rintro ⟨call, hid, hmem⟩
    exact ⟨_, hmem, by simp [result?, hid]⟩

end Occurrence

open Occurrence

/-- The number of the call that its caller gives up. -/
def Action.givenUp? : Action σ → Option Nat
  | .giveUp id => some id
  | _ => none

def givenUp (actions : List (Action σ)) : List Nat :=
  actions.filterMap Action.givenUp?

theorem mem_givenUp {actions : List (Action σ)} {id : Nat} :
    id ∈ givenUp actions ↔ .giveUp id ∈ actions := by
  simp only [givenUp, List.mem_filterMap]
  constructor
  · rintro ⟨action, hmem, hid⟩
    cases action with
    | giveUp other =>
        cases hid
        exact hmem
    | _ => cases hid
  · intro hmem
    exact ⟨_, hmem, rfl⟩

namespace Exchange

variable {backend : Backend σ} {x next : Exchange σ} {action : Action σ}
  {log occurrences : List Occurrence} {calls : List Call} {left : List Nat}

/-- The calls that have no answer and whose callers stay. -/
def pending (x : Exchange σ) : List Call :=
  x.waiting ++ x.listening

/-- The answers to all calls made so far, and who is still without one. -/
structure Accounted (x : Exchange σ) (log : List Occurrence) (calls : List Call)
    (left : List Nat) : Prop where
  numbered : ∀ call ∈ calls, call.id < x.nextId
  fresh : ∀ id, x.nextId ≤ id → results id log = []
  known : ∀ call ∈ x.pending, call ∈ calls
  apart : (x.pending.map Call.id).Nodup
  unanswered : ∀ call ∈ x.pending, results call.id log = []
  once : ∀ id, (results id log).length ≤ 1
  settled : ∀ call ∈ calls, results call.id log = [] → call ∈ x.pending ∨ call.id ∈ left

namespace Accounted

/-- Some callers get the same answer, and the others still wait for theirs. -/
theorem answered (h : Accounted x log calls left) (told : List Call)
    (result : Except Fault Unit) (hnumber : next.nextId = x.nextId)
    (hpending : (told ++ next.pending).Perm x.pending)
    (hresults : ∀ id, results id occurrences =
      results id (told.map fun call => .answered call result)) :
    Accounted next (log ++ occurrences) calls left := by
  have hbefore : ∀ call ∈ told ++ next.pending, call ∈ x.pending :=
    fun call hcall => hpending.subset hcall
  have hapart : ((told ++ next.pending).map Call.id).Nodup :=
    (hpending.map Call.id).nodup_iff.mpr h.apart
  rw [List.map_append, List.nodup_append] at hapart
  obtain ⟨htold, hnext, hdisjoint⟩ := hapart
  -- Who is not among those that are told gets nothing.
  have hsilent : ∀ id, (∀ call ∈ told, call.id ≠ id) →
      results id (log ++ occurrences) = results id log := by
    intro id hothers
    rw [results_append, hresults, results_answered_eq_nil result hothers, List.append_nil]
  have hspoken : ∀ call ∈ told, results call.id (log ++ occurrences) = [result] := by
    intro call hcall
    have hnone := h.unanswered call (hbefore call (List.mem_append_left _ hcall))
    rw [results_append, hresults, hnone, results_answered_of_mem result htold hcall]
    rfl
  constructor
  · rw [hnumber]
    exact h.numbered
  · intro id hid
    rw [hnumber] at hid
    rw [hsilent id, h.fresh id hid]
    intro call hcall
    have hlt := h.numbered call (h.known call (hbefore call (List.mem_append_left _ hcall)))
    omega
  · intro call hcall
    exact h.known call (hbefore call (List.mem_append_right _ hcall))
  · exact hnext
  · intro call hcall
    rw [hsilent call.id, h.unanswered call (hbefore call (List.mem_append_right _ hcall))]
    intro other hother
    exact hdisjoint _ (List.mem_map_of_mem hother) _ (List.mem_map_of_mem hcall)
  · intro id
    by_cases hothers : ∀ call ∈ told, call.id ≠ id
    · rw [hsilent id hothers]
      exact h.once id
    · push Not at hothers
      obtain ⟨call, hcall, rfl⟩ := hothers
      rw [hspoken call hcall]
      rfl
  · intro call hcall hnone
    by_cases hothers : ∀ other ∈ told, other.id ≠ call.id
    · rw [hsilent call.id hothers] at hnone
      rcases h.settled call hcall hnone with hmem | hleft
      · rcases List.mem_append.mp (hpending.symm.subset hmem) with hnow | hlater
        · exact absurd rfl (hothers call hnow)
        · exact .inl hlater
      · exact .inr hleft
    · push Not at hothers
      obtain ⟨other, hother, heq⟩ := hothers
      rw [← heq, hspoken other hother] at hnone
      simp at hnone

/-- A move that answers nobody. -/
theorem quiet (h : Accounted x log calls left) (hnumber : next.nextId = x.nextId)
    (hpending : next.pending.Perm x.pending) (hresults : ∀ id, results id occurrences = []) :
    Accounted next (log ++ occurrences) calls left :=
  h.answered [] (.ok ()) hnumber hpending hresults

/-- The end of the worker answers everybody. -/
theorem closed (h : Accounted x log calls left) (ending : Ending) :
    Accounted (x.close ending).1 (log ++ (x.close ending).2) calls left := by
  refine h.answered (x.listening ++ x.waiting) (.error .clientClosed) rfl ?_ ?_
  · rw [pending, close, List.append_nil, List.append_nil]
    exact List.perm_append_comm
  · intro id
    rfl

theorem more (h : Accounted x log calls left) (others : List Nat) :
    Accounted x log calls (left ++ others) := by
  refine { h with settled := ?_ }
  intro call hcall hnone
  rcases h.settled call hcall hnone with hmem | hleft
  · exact .inl hmem
  · exact .inr (List.mem_append_left _ hleft)

theorem refused (h : Accounted x log calls left) (client : Nat) (request : Request) :
    Accounted { x with nextId := x.nextId + 1 }
      (log ++ [.answered ⟨x.nextId, client, request⟩ (.error .clientClosed)])
      (calls ++ [⟨x.nextId, client, request⟩]) left := by
  have hold : ∀ id, id ≠ x.nextId → results id
      (log ++ [.answered ⟨x.nextId, client, request⟩ (.error .clientClosed)]) =
        results id log := by
    intro id hid
    rw [results_append, results_cons_answered, if_neg (Ne.symm hid), results_nil, List.append_nil]
  have hnew : results x.nextId
      (log ++ [.answered ⟨x.nextId, client, request⟩ (.error .clientClosed)]) =
        [.error .clientClosed] := by
    rw [results_append, h.fresh x.nextId le_rfl, results_cons_answered, if_pos rfl]
    rfl
  have hearlier : ∀ call ∈ calls, call.id ≠ x.nextId :=
    fun call hcall => Nat.ne_of_lt (h.numbered call hcall)
  constructor
  · intro call hcall
    rcases List.mem_append.mp hcall with hmem | hlast
    · exact Nat.lt_succ_of_lt (h.numbered call hmem)
    · rw [List.mem_singleton.mp hlast]
      exact Nat.lt_succ_self _
  · intro id hid
    have hlater : x.nextId + 1 ≤ id := hid
    rw [hold id (by omega)]
    exact h.fresh id (by omega)
  · intro call hcall
    exact List.mem_append_left _ (h.known call hcall)
  · exact h.apart
  · intro call hcall
    rw [hold call.id (hearlier call (h.known call hcall))]
    exact h.unanswered call hcall
  · intro id
    by_cases hid : id = x.nextId
    · rw [hid, hnew]
      rfl
    · rw [hold id hid]
      exact h.once id
  · intro call hcall hnone
    rcases List.mem_append.mp hcall with hmem | hlast
    · rw [hold call.id (hearlier call hmem)] at hnone
      exact h.settled call hmem hnone
    · rw [List.mem_singleton.mp hlast, hnew] at hnone
      simp at hnone

theorem asked (h : Accounted x log calls left) (client : Nat) (request : Request) :
    Accounted
      { x with
        nextId := x.nextId + 1
        waiting := x.waiting ++ [⟨x.nextId, client, request⟩] }
      log (calls ++ [⟨x.nextId, client, request⟩]) left := by
  set call : Call := ⟨x.nextId, client, request⟩ with hcall
  have hpending : ((x.waiting ++ [call]) ++ x.listening).Perm (call :: x.pending) := by
    rw [List.append_assoc]
    exact List.perm_middle
  constructor
  · intro other hother
    rcases List.mem_append.mp hother with hmem | hlast
    · exact Nat.lt_succ_of_lt (h.numbered other hmem)
    · rw [List.mem_singleton.mp hlast]
      exact Nat.lt_succ_self _
  · intro id hid
    have hlater : x.nextId + 1 ≤ id := hid
    exact h.fresh id (by omega)
  · intro other hother
    rcases List.mem_cons.mp (hpending.subset hother) with rfl | hmem
    · simp
    · exact List.mem_append_left _ (h.known other hmem)
  · refine (hpending.map Call.id).nodup_iff.mpr (List.nodup_cons.mpr ⟨?_, h.apart⟩)
    intro hmem
    obtain ⟨other, hother, hid⟩ := List.mem_map.mp hmem
    have hlt := h.numbered other (h.known other hother)
    rw [hid] at hlt
    exact Nat.lt_irrefl _ hlt
  · intro other hother
    rcases List.mem_cons.mp (hpending.subset hother) with rfl | hmem
    · exact h.fresh _ le_rfl
    · exact h.unanswered other hmem
  · exact h.once
  · intro other hother hnone
    rcases List.mem_append.mp hother with hmem | hlast
    · rcases h.settled other hmem hnone with hopen | hleft
      · exact .inl (hpending.symm.subset (List.mem_cons_of_mem _ hopen))
      · exact .inr hleft
    · exact .inl (hpending.symm.subset (by simpa using Or.inl (List.mem_singleton.mp hlast)))

theorem gaveUp (h : Accounted x log calls left) (id : Nat) :
    Accounted
      { x with
        waiting := x.waiting.filter fun call => call.id != id
        listening := x.listening.filter fun call => call.id != id }
      log calls (left ++ [id]) := by
  have hpending : (x.waiting.filter fun call => call.id != id) ++
      (x.listening.filter fun call => call.id != id) =
        x.pending.filter fun call => call.id != id :=
    (List.filter_append ..).symm
  constructor
  · exact h.numbered
  · exact h.fresh
  · intro call hcall
    rw [pending, hpending] at hcall
    exact h.known call (List.mem_of_mem_filter hcall)
  · rw [pending, hpending]
    exact h.apart.sublist (List.filter_sublist.map _)
  · intro call hcall
    rw [pending, hpending] at hcall
    exact h.unanswered call (List.mem_of_mem_filter hcall)
  · exact h.once
  · intro call hcall hnone
    rw [pending, hpending]
    rcases h.settled call hcall hnone with hmem | hleft
    · by_cases hid : call.id = id
      · exact .inr (by simp [hid])
      · exact .inl (List.mem_filter.mpr ⟨hmem, by simpa using hid⟩)
    · exact .inr (List.mem_append_left _ hleft)

/-- Numbers tell calls apart, so a call is all that has its number. -/
theorem perm_cons_filter {calls : List Call} (hapart : (calls.map Call.id).Nodup) {call : Call}
    (hcall : call ∈ calls) :
    (call :: calls.filter fun other => other.id != call.id).Perm calls := by
  have hcalls : calls.Nodup := hapart.of_map _
  have hfirst : call ∉ calls.filter fun other => other.id != call.id := by simp
  refine (List.perm_ext_iff_of_nodup (List.nodup_cons.mpr ⟨hfirst, hcalls.filter _⟩) hcalls).mpr
    fun other => ?_
  constructor
  · intro hmem
    rcases List.mem_cons.mp hmem with rfl | hrest
    · exact hcall
    · exact List.mem_of_mem_filter hrest
  · intro hmem
    by_cases hid : other.id = call.id
    · exact List.mem_cons.mpr (.inl (List.inj_on_of_nodup_map hapart hmem hcall hid))
    · exact List.mem_cons_of_mem _ (List.mem_filter.mpr ⟨hmem, by simpa using hid⟩)

theorem entered (h : Accounted x log calls left) {call : Call} (hwaiting : call ∈ x.waiting) :
    Accounted (x.accept call).1 (log ++ (x.accept call).2) calls left := by
  have hwaits : (x.waiting.map Call.id).Nodup := by
    have hapart := h.apart
    rw [pending, List.map_append, List.nodup_append] at hapart
    exact hapart.1
  have hsplit := perm_cons_filter hwaits hwaiting
  by_cases hflush : call.request = .flush
  · have haccept : x.accept call =
        ({ x with
          queue := x.queue ++ [call]
          waiting := x.waiting.filter fun other => other.id != call.id
          listening := x.listening ++ [call] }, [.accepted call]) := by
      simp [accept, hflush]
    rw [haccept]
    refine h.quiet rfl ?_ fun id => rfl
    rw [pending, pending, ← List.append_assoc]
    exact (List.perm_append_singleton _ _).trans (hsplit.append_right _)
  · have haccept : x.accept call =
        ({ x with
          queue := x.queue ++ [call]
          waiting := x.waiting.filter fun other => other.id != call.id },
          [.accepted call, .answered call (.ok ())]) := by
      simp [accept, hflush]
    rw [haccept]
    refine h.answered [call] (.ok ()) rfl ?_ fun id => rfl
    exact hsplit.append_right x.listening

/-- The worker answers a flush that it comes to, if its caller listens. -/
theorem served (h : Accounted x log calls left) (backend : Backend σ) (call : Call)
    (rest : List Call) (events : List Event) :
    Accounted (x.served backend call rest)
      (log ++ (events.map .logged ++ .applied call ::
        (x.listening.filter fun other => other.id == call.id).map
          fun listener => .answered listener (.ok ()))) calls left := by
  refine h.answered (x.listening.filter fun other => other.id == call.id) (.ok ()) rfl ?_ ?_
  · have hsplit := List.filter_append_perm (fun other : Call => other.id == call.id) x.listening
    set heard := x.listening.filter fun other => other.id == call.id
    set others := x.listening.filter fun other => other.id != call.id
    calc
      List.Perm (heard ++ (x.waiting ++ others)) (x.waiting ++ (heard ++ others)) := by
        rw [← List.append_assoc, ← List.append_assoc]
        exact List.perm_append_comm.append_right _
      List.Perm _ (x.waiting ++ x.listening) := hsplit.append_left _
  · intro id
    rw [results_append, results_logged, List.nil_append, results_cons_applied]

end Accounted

theorem accounted_of_move (hmove : Move backend x action next occurrences)
    (h : Accounted x log calls left) :
    Accounted next (log ++ occurrences) (calls ++ x.issued action)
      (left ++ action.givenUp?.toList) := by
  have hmore := h.more action.givenUp?.toList
  have hsilent : (∀ client request, action ≠ .call client request) →
      calls ++ x.issued action = calls := by
    intro hcall
    rw [issued_eq_nil fun client request heq => absurd heq (hcall client request),
      List.append_nil]
  cases hmove with
  | idle hcall =>
      rw [issued_eq_nil hcall, List.append_nil calls]
      exact hmore.quiet rfl (.refl _) fun id => rfl
  | @refused client request hlive hclosed =>
      have hrefused := hmore.refused client request
      simpa [issued, hlive] using hrefused
  | @asked client request hlive hopen =>
      have hasked := hmore.asked client request
      simpa [issued, hlive] using hasked
  | entered hwaiting hroom =>
      rw [hsilent (by simp)]
      exact hmore.entered hwaiting
  | @gaveUp id =>
      rw [hsilent (by simp), List.append_nil]
      exact h.gaveUp id
  | counted hcall =>
      rw [hsilent hcall]
      exact hmore.quiet rfl (.refl _) fun id => rfl
  | started hready =>
      rw [hsilent (by simp)]
      exact hmore.quiet rfl (.refl _) fun id => rfl
  | applied hrunning hqueue hanswer =>
      rw [hsilent (by simp)]
      exact hmore.served backend _ _ _
  | @broken call rest hrunning hqueue hanswer =>
      rw [hsilent (by simp), ← List.append_assoc]
      have hlogged : Accounted { x with cache := (backend.apply x.cache call.request).next }
          (log ++ (backend.apply x.cache call.request).events.map .logged) calls
          (left ++ Action.work.givenUp?.toList) :=
        hmore.quiet rfl (.refl _) fun id => results_logged id _
      exact hlogged.closed .panicked
  | finished hrunning hqueue hclients =>
      rw [hsilent (by simp), ← List.singleton_append, ← List.append_assoc]
      have hstopped : Accounted x (log ++ [.logged .workerStopped]) calls
          (left ++ Action.work.givenUp?.toList) :=
        hmore.quiet rfl (.refl _) fun id => rfl
      exact hstopped.closed .finished
  | aborted hopen =>
      rw [hsilent (by simp)]
      exact hmore.closed .cancelled
  | @replaced cache events =>
      rw [hsilent (by simp)]
      exact hmore.quiet rfl (.refl _) fun id => results_logged id events

/-- What every move keeps of the calls made, the answers given and the callers that
left, a run keeps. -/
theorem run_of_move_made
    {kept : Exchange σ → List Occurrence → List Call → List Nat → Prop} (backend : Backend σ)
    (hmove : ∀ {x action next occurrences log calls left},
      Move backend x action next occurrences → kept x log calls left →
      kept next (log ++ occurrences) (calls ++ x.issued action) (left ++ action.givenUp?.toList))
    (hstart : kept x log calls left) (actions : List (Action σ)) :
    kept (x.run backend actions).1 (log ++ (x.run backend actions).2)
      (calls ++ x.made backend actions) (left ++ givenUp actions) := by
  induction actions generalizing x log calls left with
  | nil => simpa [run, made, givenUp] using hstart
  | cons action rest ih =>
      have hfirst : givenUp (action :: rest) = action.givenUp?.toList ++ givenUp rest := by
        cases action <;> rfl
      have hnext := hmove (move_step backend x action) hstart
      rw [hfirst]
      simpa [run, made, List.append_assoc] using ih hnext

/-! ## Whose answers they are -/

theorem Move.mem_waiting_of_accepted (hmove : Move backend x action next occurrences)
    {call : Call} (hcall : call ∈ acceptedCalls occurrences) : call ∈ x.waiting := by
  cases hmove with
  | entered hwaiting hroom =>
      rw [acceptedCalls_accept, List.mem_singleton] at hcall
      exact hcall ▸ hwaiting
  | _ => simp at hcall

/-- An answer goes to a caller without one or to a new call, and it is one of two. -/
theorem Move.answered (hmove : Move backend x action next occurrences) {call : Call}
    {result : Except Fault Unit} (hmem : .answered call result ∈ occurrences) :
    call ∈ x.pending ++ x.issued action ∧ (result = .ok () ∨ result = .error .clientClosed) := by
  have hclosed : ∀ {y : Exchange σ} {ending : Ending},
      .answered call result ∈ (y.close ending).2 →
        call ∈ y.pending ∧ result = .error .clientClosed := by
    intro y ending hend
    obtain ⟨other, hother, heq⟩ := List.mem_map.mp ((List.mem_cons.mp hend).resolve_left (by simp))
    obtain ⟨rfl, rfl⟩ := Occurrence.answered.inj heq
    exact ⟨List.mem_append.mpr (List.mem_append.mp hother).symm, rfl⟩
  cases hmove with
  | refused hlive hgone =>
      obtain ⟨rfl, rfl⟩ := Occurrence.answered.inj (List.mem_singleton.mp hmem)
      exact ⟨by simp [issued, hlive], .inr rfl⟩
  | @entered accepted hwaiting hroom =>
      unfold accept at hmem
      split at hmem
      next hflush => simp at hmem
      next hflush =>
        obtain ⟨rfl, rfl⟩ : call = accepted ∧ result = .ok () := by simpa using hmem
        exact ⟨by simp [pending, hwaiting], .inl rfl⟩
  | @applied taken rest hrunning hqueue hanswer =>
      obtain ⟨⟨hlistens, -⟩, hresult⟩ :
          (call ∈ x.listening ∧ call.id = taken.id) ∧ Except.ok () = result := by
        simpa using hmem
      exact ⟨by simp [pending, hlistens], .inl hresult.symm⟩
  | broken hrunning hqueue hanswer =>
      obtain ⟨hcall, hresult⟩ := hclosed ((List.mem_append.mp hmem).resolve_left (by simp))
      exact ⟨List.mem_append_left _ hcall, .inr hresult⟩
  | finished hrunning hqueue hclients =>
      obtain ⟨hcall, hresult⟩ := hclosed ((List.mem_cons.mp hmem).resolve_left (by simp))
      exact ⟨List.mem_append_left _ hcall, .inr hresult⟩
  | aborted hopen =>
      obtain ⟨hcall, hresult⟩ := hclosed hmem
      exact ⟨List.mem_append_left _ hcall, .inr hresult⟩
  | _ => simp at hmem

/-- Who is accepted or answered has made a call. -/
structure Addressed (x : Exchange σ) (log : List Occurrence) (calls : List Call)
    (left : List Nat) : Prop where
  accounted : Accounted x log calls left
  distinct : (calls.map Call.id).Nodup
  accepted : ∀ call ∈ acceptedCalls log, call ∈ calls
  answered : ∀ call result, .answered call result ∈ log →
    call ∈ calls ∧ (result = .ok () ∨ result = .error .clientClosed)

theorem addressed_of_move (hmove : Move backend x action next occurrences)
    (h : Addressed x log calls left) :
    Addressed next (log ++ occurrences) (calls ++ x.issued action)
      (left ++ action.givenUp?.toList) := by
  have hknown := h.accounted.known
  refine ⟨accounted_of_move hmove h.accounted, ?_, ?_, ?_⟩
  · have hissued : ∀ call ∈ x.issued action, call.id = x.nextId := by
      intro call hcall
      cases action with
      | call client request =>
          simp only [issued, List.mem_ite_nil_right, List.mem_singleton] at hcall
          rw [hcall.2]
      | _ => cases hcall
    have hsingle : ((x.issued action).map Call.id).Nodup := by
      cases action with
      | call client request =>
          simp only [issued]
          split <;> simp
      | _ => exact List.nodup_nil
    rw [List.map_append, List.nodup_append]
    refine ⟨h.distinct, hsingle, ?_⟩
    intro id hid other hother
    obtain ⟨call, hcall, rfl⟩ := List.mem_map.mp hid
    obtain ⟨newcomer, hnew, rfl⟩ := List.mem_map.mp hother
    rw [hissued newcomer hnew]
    exact Nat.ne_of_lt (h.accounted.numbered call hcall)
  · intro call hcall
    rw [acceptedCalls_append, List.mem_append] at hcall
    rcases hcall with hold | hnew
    · exact List.mem_append_left _ (h.accepted call hold)
    · have hwaiting := hmove.mem_waiting_of_accepted hnew
      exact List.mem_append_left _ (hknown call (List.mem_append_left _ hwaiting))
  · intro call result hmem
    rcases List.mem_append.mp hmem with hold | hnew
    · obtain ⟨hcall, hresult⟩ := h.answered call result hold
      exact ⟨List.mem_append_left _ hcall, hresult⟩
    · obtain ⟨hcall, hresult⟩ := hmove.answered hnew
      refine ⟨?_, hresult⟩
      rcases List.mem_append.mp hcall with hpending | hissued
      · exact List.mem_append_left _ (hknown call hpending)
      · exact List.mem_append_right _ hissued

section Start

variable {cache : σ} {capacity : Nat} {start : Exchange σ}

theorem addressed_run (hstart : spawn cache capacity = some start) (backend : Backend σ)
    (actions : List (Action σ)) :
    Addressed (start.run backend actions).1 (start.run backend actions).2
      (start.made backend actions) (givenUp actions) := by
  have hempty : Addressed start [] [] [] := by
    obtain rfl := eq_of_spawn hstart
    refine ⟨?_, List.nodup_nil, by simp, by simp⟩
    constructor <;> simp [pending]
  simpa using run_of_move_made backend addressed_of_move hempty actions

theorem accounted_run (hstart : spawn cache capacity = some start) (backend : Backend σ)
    (actions : List (Action σ)) :
    Accounted (start.run backend actions).1 (start.run backend actions).2
      (start.made backend actions) (givenUp actions) :=
  (addressed_run hstart backend actions).accounted

end Start

end Exchange
end Queue
end Keyring
