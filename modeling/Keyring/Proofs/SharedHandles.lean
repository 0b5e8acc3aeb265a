import Keyring.Proofs.SharedRuns
import Keyring.Shared.Call
import Mathlib.Data.List.ReduceOption

/-!
# Handles on shared stores

A shared store lies at a place, and a handle leads to a place.  A copy of a
handle leads where the handle leads.  Any number of stores lie side by side, and
handles on them come and go while calls are made.

As long as no key crashes under the lock of a store, the calls that reach it are
told what a bare store tells that performs the same operations in the same
order, and it is that store which lies at the place.  Which handle a call took
leaves no trace.
-/

namespace Keyring

/-- The bare store that is opened in the same way. -/
def SharedStore.Opening.bare : SharedStore.Opening → Reply Store Unit
  | .plain => ⟨(), .new, []⟩
  | .configured config => Store.ofConfig config
  | .around store => ⟨(), store, []⟩

theorem SharedStore.Opening.reply_eq_bare (opening : SharedStore.Opening) :
    opening.reply = ⟨(), ⟨opening.bare.next, false⟩, opening.bare.events⟩ := by
  cases opening <;> rfl

theorem Store.answer_perform_done (store : Store) {operation : Operation}
    (hcalm : operation.crashes = false) :
    ∃ answer, (store.perform operation).answer = .done answer := by
  cases operation with
  | put rule source credential =>
      cases source with
      | crashing => cases hcalm
      | text key => exact ⟨_, rfl⟩
  | _ => exact ⟨_, rfl⟩

theorem Store.answer_run_done (store : Store) {operations : List Operation}
    (hcalm : ∀ operation ∈ operations, operation.crashes = false) :
    ∀ outcome ∈ (store.run operations).answer, ∃ answer, outcome = .done answer := by
  induction operations generalizing store with
  | nil => simp [run]
  | cons operation rest ih =>
      have hrest := ih (store.perform operation).next
        fun other hother => hcalm other (List.mem_cons_of_mem _ hother)
      have hfirst := store.answer_perform_done (hcalm operation List.mem_cons_self)
      simp only [run, List.forall_mem_cons]
      exact ⟨hfirst, hrest⟩

/-- Shared stores, each at its place, and the handles on them. -/
structure Handles where
  stores : List SharedStore := []
  /-- The place to which each handle leads.  A dropped handle leads nowhere. -/
  targets : List (Option Nat) := []

namespace Handles

inductive Action where
  /-- A new store, with a first handle on it. -/
  | share (opening : SharedStore.Opening)
  | clone (handle : Nat)
  | drop (handle : Nat)
  | call (handle : Nat) (operation : Operation)

/-- A call that reached a store. -/
structure Reached where
  place : Nat
  operation : Operation
  answer : Outcome Answer
  events : List Event

def LeadsTo (handles : Handles) (handle place : Nat) : Prop :=
  handles.targets[handle]? = some (some place)

def place? (handles : Handles) (handle : Nat) : Option Nat :=
  handles.targets[handle]?.join

/-- A call at a place, which takes the lock of the store there. -/
def callAt (handles : Handles) (place : Nat) (operation : Operation) :
    Reply Handles (Option Reached) :=
  match handles.stores[place]? with
  | none => ⟨none, handles, []⟩
  | some shared =>
    let reply := shared.serve operation
    ⟨some ⟨place, operation, reply.answer, reply.events⟩,
      { handles with stores := handles.stores.set place reply.next }, reply.events⟩

def perform (handles : Handles) : Action → Reply Handles (Option Reached)
  | .share opening =>
    ⟨none,
      { stores := handles.stores ++ [opening.shared]
        targets := handles.targets ++ [some handles.stores.length] },
      opening.reply.events⟩
  | .clone handle =>
    match handles.place? handle with
    | none => ⟨none, handles, []⟩
    | some place => ⟨none, { handles with targets := handles.targets ++ [some place] }, []⟩
  | .drop handle => ⟨none, { handles with targets := handles.targets.set handle none }, []⟩
  | .call handle operation =>
    match handles.place? handle with
    | none => ⟨none, handles, []⟩
    | some place => handles.callAt place operation

def run (handles : Handles) (actions : List Action) : Reply Handles (List (Option Reached)) :=
  Reply.sequence perform handles actions

/-- The calls that reached the store at a place, in order. -/
def callsAt (place : Nat) (told : List (Option Reached)) : List Reached :=
  told.reduceOption.filter fun call => call.place = place

/-! ## One store among the others -/

section OneStore

variable {handles : Handles} {place : Nat} {shared : SharedStore}

theorem place?_of_leadsTo {handle : Nat} (hleads : handles.LeadsTo handle place) :
    handles.place? handle = some place := by
  rw [place?, hleads]
  rfl

theorem perform_call_of_leadsTo {handle : Nat} (hleads : handles.LeadsTo handle place)
    (operation : Operation) :
    handles.perform (.call handle operation) = handles.callAt place operation := by
  rw [perform, place?_of_leadsTo hleads]

theorem callAt_of_store (hstore : handles.stores[place]? = some shared)
    (operation : Operation) :
    handles.callAt place operation =
      ⟨some ⟨place, operation, (shared.perform operation).answer,
          (shared.perform operation).events⟩,
        { handles with stores := handles.stores.set place (shared.perform operation).next },
        (shared.perform operation).events⟩ := by
  rw [callAt, hstore, ← SharedStore.serve_eq_perform]

/-- What an action means for the store at a place. -/
inductive Effect (place : Nat) (shared : SharedStore) :
    Option Reached → Option SharedStore → Prop
  | reached (operation : Operation) :
      Effect place shared
        (some ⟨place, operation, (shared.perform operation).answer,
          (shared.perform operation).events⟩)
        (some (shared.perform operation).next)
  | passed {told : Option Reached} (htold : ∀ call, told = some call → call.place ≠ place) :
      Effect place shared told (some shared)

theorem effect_perform (hstore : handles.stores[place]? = some shared) (action : Action) :
    Effect place shared (handles.perform action).answer
      (handles.perform action).next.stores[place]? := by
  have hlength : place < handles.stores.length :=
    (List.getElem?_eq_some_iff.mp hstore).1
  cases action with
  | share opening =>
      have hkept : (handles.stores ++ [opening.shared])[place]? = some shared := by
        rw [List.getElem?_append_left hlength, hstore]
      simp only [perform, hkept]
      exact .passed (by simp)
  | clone handle =>
      have hkept : (handles.perform (.clone handle)).next.stores = handles.stores := by
        simp only [perform]
        split <;> rfl
      have htold : (handles.perform (.clone handle)).answer = none := by
        simp only [perform]
        split <;> rfl
      rw [hkept, hstore, htold]
      exact .passed (by simp)
  | drop handle =>
      simp only [perform, hstore]
      exact .passed (by simp)
  | call handle operation =>
      simp only [perform]
      cases hplace : handles.place? handle with
      | none =>
          simp only [hstore]
          exact .passed (by simp)
      | some target =>
          by_cases hhere : target = place
          · subst hhere
            simp only [callAt_of_store hstore, List.getElem?_set_self hlength]
            exact .reached operation
          · simp only [callAt]
            split
            · rw [hstore]
              exact .passed (by simp)
            · simp only [List.getElem?_set_ne hhere, hstore]
              exact .passed (by rintro call ⟨⟩; exact hhere)

end OneStore

theorem callsAt_cons_here (place : Nat) {call : Reached} (hhere : call.place = place)
    (rest : List (Option Reached)) :
    callsAt place (some call :: rest) = call :: callsAt place rest := by
  simp [callsAt, List.reduceOption_cons_of_some, hhere]

theorem callsAt_cons_elsewhere (place : Nat) {told : Option Reached}
    (htold : ∀ call, told = some call → call.place ≠ place) (rest : List (Option Reached)) :
    callsAt place (told :: rest) = callsAt place rest := by
  cases told with
  | none => simp [callsAt, List.reduceOption_cons_of_none]
  | some call =>
      have helsewhere := htold call rfl
      simp [callsAt, List.reduceOption_cons_of_some, helsewhere]

/-- The calls that reach a sound store are told what the bare store tells. -/
theorem run_at {handles : Handles} {place : Nat} {store : Store}
    (hstore : handles.stores[place]? = some ⟨store, false⟩) (actions : List Action)
    (hcalm : ∀ call ∈ callsAt place (handles.run actions).answer,
      call.operation.crashes = false) :
    let told := handles.run actions
    let calls := callsAt place told.answer
    let bare := store.run (calls.map Reached.operation)
    calls.map Reached.answer = bare.answer ∧
      calls.flatMap Reached.events = bare.events ∧
      told.next.stores[place]? = some ⟨bare.next, false⟩ := by
  induction actions generalizing handles store with
  | nil => exact ⟨rfl, rfl, hstore⟩
  | cons action rest ih =>
      -- Only the store at the place is followed, through what each action means for it.
      have heffect := effect_perform hstore action
      have hanswer : (handles.run (action :: rest)).answer =
          (handles.perform action).answer ::
            ((handles.perform action).next.run rest).answer := rfl
      have hnext : (handles.run (action :: rest)).next =
          ((handles.perform action).next.run rest).next := rfl
      simp only [hanswer, hnext] at hcalm ⊢
      generalize htold : (handles.perform action).answer = told at heffect hcalm ⊢
      generalize hafter : (handles.perform action).next.stores[place]? = after at heffect
      cases heffect with
      | reached operation =>
          rw [callsAt_cons_here place rfl] at hcalm ⊢
          obtain ⟨hhead, htail⟩ := List.forall_mem_cons.mp hcalm
          have hsound := SharedStore.perform_sound store hhead
          simp only [hsound] at hafter ⊢
          obtain ⟨hanswers, hevents, hend⟩ := ih hafter htail
          simp only [List.map_cons, List.flatMap_cons, Store.run, hanswers, hevents, hend,
            and_self]
      | passed htold =>
          rw [callsAt_cons_elsewhere place htold] at hcalm ⊢
          exact ih hafter hcalm

theorem events_run (handles : Handles) {actions : List Action}
    (hnone : ∀ opening, .share opening ∉ actions) :
    (handles.run actions).events =
      (handles.run actions).answer.reduceOption.flatMap Reached.events := by
  induction actions generalizing handles with
  | nil => rfl
  | cons action rest ih =>
      have hrest := ih (handles.perform action).next
        fun opening hmem => hnone opening (List.mem_cons_of_mem _ hmem)
      have hevents : (handles.perform action).events =
          (handles.perform action).answer.toList.flatMap Reached.events := by
        cases action with
        | share opening => exact absurd List.mem_cons_self (hnone opening)
        | clone handle =>
            simp only [perform]
            split <;> rfl
        | drop handle => rfl
        | call handle operation =>
            simp only [perform, callAt]
            split
            · rfl
            · split
              · rfl
              · simp
      have hwhole : (handles.run (action :: rest)).events =
          (handles.perform action).events ++
            ((handles.perform action).next.run rest).events := rfl
      have hanswer : (handles.run (action :: rest)).answer =
          (handles.perform action).answer ::
            ((handles.perform action).next.run rest).answer := rfl
      rw [hwhole, hanswer, hevents, hrest]
      cases (handles.perform action).answer with
      | none => simp [List.reduceOption_cons_of_none]
      | some call => simp [List.reduceOption_cons_of_some]

/-- A store that is shared, whatever lies beside it, is told apart from a bare
store neither by the calls that reach it nor by what they leave.  Every handle on
it, also one that is made later, serves as well as any other. -/
theorem handles_serve_bare_store
    (handles : Handles) (opening : SharedStore.Opening) (actions : List Action)
    (hcalm : ∀ call ∈ callsAt handles.stores.length
        ((handles.perform (.share opening)).next.run actions).answer,
      call.operation.crashes = false) :
    let place := handles.stores.length
    let opened := handles.perform (.share opening)
    let told := opened.next.run actions
    let calls := callsAt place told.answer
    let bare := opening.bare.next.run (calls.map Reached.operation)
    opened.next.LeadsTo handles.targets.length place ∧
      opened.events = opening.bare.events ∧
      calls.map Reached.answer = bare.answer ∧
      (∀ call ∈ calls, ∃ answer, call.answer = .done answer) ∧
      calls.flatMap Reached.events = bare.events ∧
      ((∀ opening, .share opening ∉ actions) → calls = told.answer.reduceOption →
        told.events = bare.events) ∧
      told.next.stores[place]? = some ⟨bare.next, false⟩ ∧
      ∀ handle, told.next.LeadsTo handle place →
        (told.next.perform (.clone handle)).next.LeadsTo told.next.targets.length place ∧
          ∀ operation,
            (∃ call, (told.next.perform (.call handle operation)).answer = some call ∧
              call.place = place ∧
              call.answer = (bare.next.perform operation).answer ∧
              call.events = (bare.next.perform operation).events) ∧
            ∀ other, told.next.LeadsTo other place →
              told.next.perform (.call other operation) =
                told.next.perform (.call handle operation) := by
  intro place opened told calls bare
  have hshared : opening.shared = ⟨opening.bare.next, false⟩ := by
    rw [SharedStore.Opening.shared, opening.reply_eq_bare]
  have hstore : opened.next.stores[place]? = some ⟨opening.bare.next, false⟩ := by
    simp [opened, perform, place, hshared]
  have hfirst : opened.next.LeadsTo handles.targets.length place := by
    simp [opened, perform, LeadsTo, place]
  have hopened : opened.events = opening.bare.events := by
    simp only [opened, perform, opening.reply_eq_bare]
  obtain ⟨hanswers, hevents, hend⟩ := run_at hstore actions hcalm
  have hoperations : ∀ operation ∈ calls.map Reached.operation,
      operation.crashes = false := by
    intro operation hmem
    obtain ⟨call, hcall, rfl⟩ := List.mem_map.mp hmem
    exact hcalm call hcall
  have hdone : ∀ call ∈ calls, ∃ answer, call.answer = .done answer := by
    intro call hcall
    apply opening.bare.next.answer_run_done hoperations
    exact hanswers ▸ List.mem_map_of_mem hcall
  refine ⟨hfirst, hopened, hanswers, hdone, hevents, ?_, hend, ?_⟩
  · intro hnone hall
    rw [← hevents]
    have hlog := events_run opened.next hnone
    exact hlog.trans (by rw [← hall])
  · intro handle hleads
    have hcopy : (told.next.perform (.clone handle)).next.LeadsTo
        told.next.targets.length place := by
      simp [perform, place?_of_leadsTo hleads, LeadsTo]
    refine ⟨hcopy, fun operation => ⟨?_, ?_⟩⟩
    · obtain ⟨hanswer, -, hlog⟩ := SharedStore.told_sound bare.next operation
      rw [perform_call_of_leadsTo hleads, callAt_of_store hend]
      exact ⟨_, rfl, rfl, hanswer, hlog⟩
    · intro other hother
      rw [perform_call_of_leadsTo hother, perform_call_of_leadsTo hleads]

/-- A copy of a dropped handle still serves, and a crash in the store beside it is
of no concern. -/
theorem copy_outlives_handle_beside_crash :
    let ann : Credential := ⟨"ann", "home", ⟨"first"⟩⟩
    let config : Config := { startTemporary := true, defaultPolicy := .insertIfAbsent }
    let actions : List Action :=
      [.clone 0, .call 1 (.put .byDefault (.text "share") ann), .share .plain,
        .call 2 (.put .replace .crashing ann), .drop 0,
        .call 1 (.put .byDefault (.text "share") .empty), .call 0 .count, .call 1 (.get "share")]
    let told := (({} : Handles).perform (.share (.configured config))).next.run actions
    (∀ call ∈ callsAt 0 told.answer, call.operation.crashes = false) ∧
      (callsAt 0 told.answer).map Reached.answer =
        [.done (.flag true), .done (.flag false), .done (.credential ann)] := by
  intro ann config actions told
  have hcalm : ∀ call ∈ callsAt 0 told.answer, call.operation.crashes = false := by
    decide +kernel
  have hanswers :=
    (handles_serve_bare_store ({} : Handles) (.configured config) actions hcalm).2.2.1
  refine ⟨hcalm, hanswers.trans ?_⟩
  decide +kernel

end Handles
end Keyring
