import Keyring.Diagnostics
import Keyring.Proofs.QueueViews
import Keyring.Proofs.StoreRuns

/-!
# What runs tell about credentials

Two runs that differ in the credentials only are told apart by nothing but the
credentials that they hand out.  This is one statement for the three layers of
the cache: the bare store, the store behind its lock, and the queue in front of
it.  A layer has to say how it looks through a view, and that its steps respect
the view; what two runs share follows from that alone.

Two views matter.  The first conceals a credential altogether, so that runs look
alike whatever they store.  The second conceals the secret only.
-/

namespace Keyring

namespace Credential

/-- Nothing of a credential. -/
def concealed (_credential : Credential) : Credential := .empty

/-- All of a credential but its secret. -/
def redacted (credential : Credential) : Credential :=
  { credential with secret := .empty }

end Credential

/-- Both diagnostic texts of a figure. -/
def Figure.texts (figure : Figure) : String × String :=
  (figure.line, figure.pretty)

/-- What a credential shows to those who do not ask for the secret. -/
structure Shown where
  username : String
  domain : String
  texts : String × String

def Credential.shown (credential : Credential) : Shown :=
  ⟨credential.username, credential.domain, credential.figure.texts⟩

theorem Credential.shown_redacted (credential : Credential) :
    credential.redacted.shown = credential.shown := rfl

/-! ## Figures with the entries in any order

No order is promised in which a set tells its entries.  A listing gives the
entries of each set in some order, and a figure is drawn after it. -/

def Figure.listed (entries : List (String × Credential)) : Figure :=
  .mapping (entries.map fun entry => (Text.quote entry.1, entry.2.figure))

/-- The figure of a store around the figures of its sets. -/
def Store.figureAround (sets : Mode → Figure) (store : Store) : Figure :=
  .record "CredentialStore"
    [("persistent", sets .persistent), ("temporary", sets .temporary),
      ("mode", store.mode.figure), ("default_policy", store.defaultPolicy.figure)]
    false

def SharedStore.figureAround (sets : Mode → Figure) (shared : SharedStore) : Figure :=
  .record "SharedCredentialStore"
    [("inner", .record "RwLock"
      [("data", shared.store.figureAround sets), ("poisoned", .ofBool shared.poisoned)] true)]
    false

/-- The listing gives the entries of every set, each entry once. -/
def Store.IsListing (store : Store) (listing : Mode → List (String × Credential)) : Prop :=
  ∀ set, (listing set).Perm (store.entries set).toList

theorem Store.figure_eq_around (store : Store) :
    store.figure = store.figureAround fun set => .listed (store.entries set).toList := rfl

theorem SharedStore.figure_eq_around (shared : SharedStore) :
    shared.figure = shared.figureAround fun set => .listed (shared.store.entries set).toList :=
  rfl

theorem Figure.listed_redacted (entries : List (String × Credential)) :
    listed (entries.map fun entry => (entry.1, entry.2.redacted)) = listed entries := by
  simp only [listed, List.map_map]
  rfl

/-- A set of one entry at most is told in one order only. -/
theorem Entries.eq_toList_of_perm
    {entries : Entries} (hsmall : entries.size ≤ 1) {order : List (String × Credential)}
    (horder : order.Perm entries.toList) : order = entries.toList := by
  have hlength : entries.toList.length ≤ 1 := by
    rw [Std.ExtTreeMap.length_toList]
    exact hsmall
  cases hlist : entries.toList with
  | nil =>
      rw [hlist] at horder
      exact List.perm_nil.mp horder
  | cons entry rest =>
      have hrest : rest = [] := by
        rw [hlist, List.length_cons] at hlength
        exact List.length_eq_zero_iff.mp (by omega)
      rw [hlist, hrest] at horder
      rw [hrest]
      exact List.perm_singleton.mp horder

/-- Two sets of one entry at most that differ in secrets only have one figure. -/
theorem Figure.listed_eq
    {one two : Entries} {first second : List (String × Credential)}
    (hfirst : first.Perm one.toList) (hsecond : second.Perm two.toList)
    (hsmall : one.size ≤ 1)
    (halike : Entries.through .redacted one = Entries.through .redacted two) :
    listed first = listed second := by
  have hsize : two.size = one.size := by
    rw [← Entries.size_through .redacted two, ← halike, Entries.size_through]
  have hone := Entries.eq_toList_of_perm hsmall hfirst
  have htwo := Entries.eq_toList_of_perm (hsize ▸ hsmall) hsecond
  calc
    listed first = listed (Entries.through .redacted one).toList := by
      rw [hone, Entries.toList_through, listed_redacted]
    _ = listed (Entries.through .redacted two).toList := by rw [halike]
    _ = listed second := by rw [htwo, Entries.toList_through, listed_redacted]

/-! ## What is handed out -/

namespace Operation

def handsOut : Operation → Bool
  | .get _ | .lookup _ => true
  | _ => false

theorem handsOut_through (view : Credential → Credential) (operation : Operation) :
    (operation.through view).handsOut = operation.handsOut := by
  cases operation <;> rfl

end Operation

namespace Outcome

def handed : Outcome Answer → Option Credential
  | .done (.credential credential) => some credential
  | .done (.optional found) => found
  | _ => none

theorem handed_through (view : Credential → Credential) (outcome : Outcome Answer) :
    (outcome.through view).handed = outcome.handed.map view := by
  cases outcome with
  | done answer => cases answer <;> rfl
  | _ => rfl

theorem through_of_handed_eq_none
    (view : Credential → Credential) {outcome : Outcome Answer}
    (hnone : outcome.handed = none) : outcome.through view = outcome := by
  cases outcome with
  | done answer =>
      cases answer with
      | credential credential => simp [handed] at hnone
      | optional found =>
          have hfound : found = none := hnone
          rw [hfound]
          rfl
      | _ => rfl
  | _ => rfl

end Outcome

theorem Store.handed_perform
    (store : Store) {operation : Operation} (hkeeps : operation.handsOut = false) :
    (store.perform operation).answer.handed = none := by
  cases operation with
  | get key => cases hkeeps
  | lookup key => cases hkeeps
  | put rule source credential =>
      cases source with
      | crashing => rfl
      | text key => cases rule <;> rfl
  | _ => rfl

theorem SharedStore.handed_perform
    (shared : SharedStore) {operation : Operation} (hkeeps : operation.handsOut = false) :
    (shared.perform operation).answer.handed = none := by
  have hstore := shared.store.handed_perform hkeeps
  unfold perform
  split
  · exact hstore
  · split
    · rfl
    · exact hstore

namespace Queue

def Deed.handsOut : Deed → Bool
  | .queued _ => false
  | .direct operation => operation.handsOut

theorem Deed.handsOut_through (view : Credential → Credential) (deed : Deed) :
    (deed.through view).handsOut = deed.handsOut := by
  cases deed with
  | queued action => rfl
  | direct operation => exact operation.handsOut_through view

namespace Told

def handed (told : Told) : Option Credential :=
  told.outcome.bind Outcome.handed

theorem handed_through (view : Credential → Credential) (told : Told) :
    (told.through view).handed = told.handed.map view := by
  obtain ⟨results, outcome⟩ := told
  cases outcome with
  | none => rfl
  | some outcome => exact outcome.handed_through view

theorem through_of_handed_eq_none
    (view : Credential → Credential) {told : Told} (hnone : told.handed = none) :
    told.through view = told := by
  obtain ⟨results, outcome⟩ := told
  cases outcome with
  | none => rfl
  | some outcome =>
      have hhanded : outcome.handed = none := hnone
      have hsame := Outcome.through_of_handed_eq_none view hhanded
      simp only [through, Option.map_some, hsame]

end Told

theorem Exchange.handed_perform
    (x : Exchange SharedStore) {deed : Deed} (hkeeps : deed.handsOut = false) :
    (x.perform deed).answer.handed = none := by
  cases deed with
  | queued action => rfl
  | direct operation => exact x.cache.handed_perform hkeeps

end Queue

/-! ## Layers -/

/-- A layer of the cache: what is done to it, what callers are told, and how all
of it looks through a view. -/
structure Layer (σ α β : Type) where
  step : σ → α → Reply σ β
  run : σ → List α → Reply σ (List β)
  seeState : (Credential → Credential) → σ → σ
  seeInput : (Credential → Credential) → α → α
  seeAnswer : (Credential → Credential) → β → β
  handsOut : α → Bool
  handed : β → Option Credential
  store : σ → Store
  /-- The figure of a state around the figures of the sets. -/
  figure : (Mode → Figure) → σ → Figure
  -- What is done to credentials is done to their views.
  run_eq : ∀ state inputs, run state inputs = Reply.sequence step state inputs
  step_see : ∀ {view}, view .empty = .empty → ∀ state input,
    step (seeState view state) (seeInput view input) =
      ⟨seeAnswer view (step state input).answer, seeState view (step state input).next,
        (step state input).events⟩
  handsOut_see : ∀ view input, handsOut (seeInput view input) = handsOut input
  handed_see : ∀ view answer, handed (seeAnswer view answer) = (handed answer).map view
  handed_step : ∀ state {input}, handsOut input = false →
    handed (step state input).answer = none
  see_of_handed_eq_none : ∀ view {answer}, handed answer = none → seeAnswer view answer = answer
  store_see : ∀ view state, store (seeState view state) = (store state).through view
  figure_see : ∀ view sets state, figure sets (seeState view state) = figure sets state

namespace Layer

def bare : Layer Store Operation (Outcome Answer) where
  step := Store.perform
  run := Store.run
  seeState := Store.through
  seeInput := Operation.through
  seeAnswer := Outcome.through
  handsOut := Operation.handsOut
  handed := Outcome.handed
  store := id
  figure := Store.figureAround
  run_eq := Store.run_eq_sequence
  step_see := Store.perform_through
  handsOut_see := Operation.handsOut_through
  handed_see := Outcome.handed_through
  handed_step := Store.handed_perform
  see_of_handed_eq_none := Outcome.through_of_handed_eq_none
  store_see := fun _ _ => rfl
  figure_see := fun _ _ _ => rfl

def shared : Layer SharedStore Operation (Outcome Answer) where
  step := SharedStore.perform
  run := SharedStore.run
  seeState := SharedStore.through
  seeInput := Operation.through
  seeAnswer := Outcome.through
  handsOut := Operation.handsOut
  handed := Outcome.handed
  store := SharedStore.store
  figure := SharedStore.figureAround
  run_eq := SharedStore.run_eq_sequence
  step_see := SharedStore.perform_through
  handsOut_see := Operation.handsOut_through
  handed_see := Outcome.handed_through
  handed_step := SharedStore.handed_perform
  see_of_handed_eq_none := Outcome.through_of_handed_eq_none
  store_see := fun _ _ => rfl
  figure_see := fun _ _ _ => rfl

/-- The queue with its clients, its worker and the direct callers of the store. -/
def queued : Layer (Queue.Exchange SharedStore) Queue.Deed Queue.Told where
  step := Queue.Exchange.perform
  run := Queue.Exchange.performAll
  seeState := Queue.Exchange.through
  seeInput := Queue.Deed.through
  seeAnswer := Queue.Told.through
  handsOut := Queue.Deed.handsOut
  handed := Queue.Told.handed
  store := fun x => x.cache.store
  figure := fun sets x => x.cache.figureAround sets
  run_eq := fun _ _ => rfl
  step_see := Queue.Exchange.perform_through
  handsOut_see := Queue.Deed.handsOut_through
  handed_see := Queue.Told.handed_through
  handed_step := Queue.Exchange.handed_perform
  see_of_handed_eq_none := Queue.Told.through_of_handed_eq_none
  store_see := fun _ _ => rfl
  figure_see := fun _ _ _ => rfl

variable {σ α β : Type}

/-- Two scripts, each a state to start from and inputs, that look alike through a view. -/
def Alike (layer : Layer σ α β) (view : Credential → Credential)
    (state : σ) (inputs : List α) (other : σ) (others : List α) : Prop :=
  layer.seeState view state = layer.seeState view other ∧
    inputs.map (layer.seeInput view) = others.map (layer.seeInput view)

/-- Two runs tell the same, except for credentials that they hand out. -/
structure TellSame (layer : Layer σ α β) (inputs : List α) (one two : Reply σ (List β)) :
    Prop where
  events : one.events = two.events
  answers : ∀ place : Nat, inputs[place]?.any layer.handsOut = false →
    one.answer[place]? = two.answer[place]?

/-- Two runs show the same of credentials, wherever they show them. -/
structure ShowSame (layer : Layer σ α β) (one two : Reply σ (List β)) : Prop where
  handedOut : ∀ place : Nat,
    one.answer[place]?.map (fun answer => (layer.handed answer).map Credential.shown) =
      two.answer[place]?.map fun answer => (layer.handed answer).map Credential.shown
  stored : ∀ (set : Mode) (key : String),
    ((layer.store one.next).entries set)[key]?.map Credential.shown =
      ((layer.store two.next).entries set)[key]?.map Credential.shown
  -- With two entries in a set, the order in which they are told could differ.
  texts : ∀ listing listing',
    (layer.store one.next).IsListing listing → (layer.store two.next).IsListing listing' →
      (∀ set, ((layer.store one.next).entries set).size ≤ 1) →
        (layer.figure (fun set => .listed (listing set)) one.next).texts =
          (layer.figure (fun set => .listed (listing' set)) two.next).texts

/-- Whatever credentials are stored, runs tell the same; and whatever the secrets
in them are, runs show the same. -/
def Discreet (layer : Layer σ α β) : Prop :=
  ∀ state inputs other others,
    (layer.Alike .concealed state inputs other others →
        layer.TellSame inputs (layer.run state inputs) (layer.run other others)) ∧
      (layer.Alike .redacted state inputs other others →
        layer.ShowSame (layer.run state inputs) (layer.run other others))

/-- Runs of scripts that look alike look alike. -/
theorem run_of_alike
    (layer : Layer σ α β) {view : Credential → Credential} (hempty : view .empty = .empty)
    {state : σ} {inputs : List α} {other : σ} {others : List α}
    (halike : layer.Alike view state inputs other others) :
    let one := layer.run state inputs
    let two := layer.run other others
    one.answer.map (layer.seeAnswer view) = two.answer.map (layer.seeAnswer view) ∧
      layer.seeState view one.next = layer.seeState view two.next ∧
      one.events = two.events := by
  obtain ⟨hstate, hinputs⟩ := halike
  have hone := Reply.sequence_translated layer.step (layer.step_see hempty) state inputs
  have htwo := Reply.sequence_translated layer.step (layer.step_see hempty) other others
  rw [hstate, hinputs, htwo] at hone
  injection hone with hanswers hnext hevents
  simp only [layer.run_eq]
  exact ⟨hanswers.symm, hnext.symm, hevents.symm⟩

theorem any_handsOut_of_alike
    (layer : Layer σ α β) {view : Credential → Credential}
    {state : σ} {inputs : List α} {other : σ} {others : List α}
    (halike : layer.Alike view state inputs other others) (place : Nat) :
    others[place]?.any layer.handsOut = inputs[place]?.any layer.handsOut := by
  have hplace : ∀ script : List α,
      (script.map (layer.seeInput view))[place]?.any layer.handsOut =
        script[place]?.any layer.handsOut := by
    intro script
    rw [List.getElem?_map, Option.any_map]
    simp only [layer.handsOut_see]
  rw [← hplace others, ← halike.2, hplace inputs]

/-- An answer that is no credential looks the same through every view. -/
theorem see_answer_of_keeps
    (layer : Layer σ α β) (view : Credential → Credential)
    (state : σ) (inputs : List α) {place : Nat}
    (hkeeps : inputs[place]?.any layer.handsOut = false) :
    (layer.run state inputs).answer[place]?.map (layer.seeAnswer view) =
      (layer.run state inputs).answer[place]? := by
  rw [layer.run_eq]
  cases hinput : inputs[place]? with
  | none =>
      have hlength := Reply.length_answer_sequence layer.step state inputs
      have hnone : (Reply.sequence layer.step state inputs).answer[place]? = none := by
        rw [List.getElem?_eq_none_iff] at hinput ⊢
        omega
      rw [hnone]
      rfl
  | some input =>
      obtain ⟨reached, hanswer⟩ :=
        Reply.answer_sequence_of_input layer.step state inputs hinput
      have hinputKeeps : layer.handsOut input = false := by
        rw [hinput] at hkeeps
        exact hkeeps
      have hhanded := layer.handed_step reached hinputKeeps
      rw [hanswer, Option.map_some, layer.see_of_handed_eq_none view hhanded]

theorem tellSame_of_alike
    (layer : Layer σ α β) {state : σ} {inputs : List α} {other : σ} {others : List α}
    (halike : layer.Alike .concealed state inputs other others) :
    layer.TellSame inputs (layer.run state inputs) (layer.run other others) := by
  obtain ⟨hanswers, _, hevents⟩ := layer.run_of_alike rfl halike
  constructor
  · exact hevents
  · intro place hkeeps
    have hplace := congrArg (·[place]?) hanswers
    simp only [List.getElem?_map] at hplace
    have hkeepsOther : others[place]?.any layer.handsOut = false := by
      rw [layer.any_handsOut_of_alike halike]
      exact hkeeps
    rw [← layer.see_answer_of_keeps .concealed state inputs hkeeps, hplace,
      layer.see_answer_of_keeps .concealed other others hkeepsOther]

theorem showSame_of_alike
    (layer : Layer σ α β) {state : σ} {inputs : List α} {other : σ} {others : List α}
    (halike : layer.Alike .redacted state inputs other others) :
    layer.ShowSame (layer.run state inputs) (layer.run other others) := by
  obtain ⟨hanswers, hnext, _⟩ := layer.run_of_alike rfl halike
  have hshown : ∀ found : Option Credential,
      (found.map Credential.redacted).map Credential.shown = found.map Credential.shown := by
    intro found
    cases found with
    | none => rfl
    | some credential => exact congrArg some credential.shown_redacted
  have hstores : (layer.store (layer.run state inputs).next).through .redacted =
      (layer.store (layer.run other others).next).through .redacted := by
    rw [← layer.store_see, ← layer.store_see, hnext]
  have hsets : ∀ set,
      Entries.through .redacted ((layer.store (layer.run state inputs).next).entries set) =
        Entries.through .redacted ((layer.store (layer.run other others).next).entries set) := by
    intro set
    rw [← Store.entries_through, hstores, Store.entries_through]
  constructor
  · intro place
    have hplace := congrArg (·[place]?) hanswers
    simp only [List.getElem?_map] at hplace
    have hseen : ∀ answer : Option β,
        (answer.map (layer.seeAnswer .redacted)).map
            (fun answer => (layer.handed answer).map Credential.shown) =
          answer.map fun answer => (layer.handed answer).map Credential.shown := by
      intro answer
      cases answer with
      | none => rfl
      | some answer => simp only [Option.map_some, layer.handed_see, hshown]
    rw [← hseen, hplace, hseen]
  · intro set key
    have hentry := congrArg (·[key]?) (hsets set)
    simp only [Entries.getElem?_through] at hentry
    rw [← hshown, hentry, hshown]
  · intro listing listing' hlisting hlisting' hsmall
    have hfigures : (fun set => Figure.listed (listing set)) =
        fun set => Figure.listed (listing' set) := by
      funext set
      exact Figure.listed_eq (hlisting set) (hlisting' set) (hsmall set) (hsets set)
    rw [hfigures, ← layer.figure_see .redacted, hnext, layer.figure_see]

theorem discreet (layer : Layer σ α β) : layer.Discreet := by
  intro state inputs other others
  constructor
  · exact layer.tellSame_of_alike
  · exact layer.showSame_of_alike

/-- No layer of the cache tells anything about credentials that its callers do not
ask for, nor anything about secrets in a text. -/
theorem layers_tell_no_credential : bare.Discreet ∧ shared.Discreet ∧ queued.Discreet :=
  ⟨bare.discreet, shared.discreet, queued.discreet⟩

theorem two_secrets_show_same :
    let one : List Operation :=
      [.put .byDefault (.text "share") ⟨"ann", "home", ⟨"first"⟩⟩, .get "share"]
    let two : List Operation :=
      [.put .byDefault (.text "share") ⟨"ann", "home", ⟨"second"⟩⟩, .get "share"]
    bare.Alike .redacted .new one .new two ∧
      bare.ShowSame (Store.new.run one) (Store.new.run two) := by
  intro one two
  have halike : bare.Alike .redacted .new one .new two := ⟨rfl, rfl⟩
  exact ⟨halike, (layers_tell_no_credential.1 .new one .new two).2 halike⟩

end Layer
end Keyring
