import Keyring.Event
import Mathlib.Tactic

/-!
# Steps in order

A bare store and a shared store run alike: each step leaves an answer, a state
and events, and the next step starts where it ended.  What follows from this
shape alone is proved once here.
-/

namespace Keyring
namespace Reply

variable {σ α β : Type}

/-- Steps performed in order. -/
def sequence (step : σ → α → Reply σ β) (state : σ) : List α → Reply σ (List β)
  | [] => ⟨[], state, []⟩
  | input :: rest =>
    let first := step state input
    let others := sequence step first.next rest
    ⟨first.answer :: others.answer, others.next, first.events ++ others.events⟩

variable (step : σ → α → Reply σ β)

/-- A run that is defined by the same recursion is the same. -/
theorem eq_sequence
    {run : σ → List α → Reply σ (List β)}
    (hnil : ∀ state, run state [] = ⟨[], state, []⟩)
    (hcons : ∀ state input rest, run state (input :: rest) =
      let first := step state input
      let others := run first.next rest
      ⟨first.answer :: others.answer, others.next, first.events ++ others.events⟩)
    (state : σ) (inputs : List α) : run state inputs = sequence step state inputs := by
  induction inputs generalizing state with
  | nil => exact hnil state
  | cons input rest ih => simp only [hcons, ih, sequence]

theorem sequence_append (state : σ) (before after : List α) :
    sequence step state (before ++ after) =
      let first := sequence step state before
      let others := sequence step first.next after
      ⟨first.answer ++ others.answer, others.next, first.events ++ others.events⟩ := by
  induction before generalizing state with
  | nil => rfl
  | cons input rest ih => simp [sequence, ih]

theorem length_answer_sequence (state : σ) (inputs : List α) :
    (sequence step state inputs).answer.length = inputs.length := by
  induction inputs generalizing state with
  | nil => rfl
  | cons input rest ih => simp [sequence, ih]

/-- The answer to an input stands at the place of the input. -/
theorem answer_sequence_at (state : σ) (before : List α) (input : α) (after : List α) :
    (sequence step state (before ++ input :: after)).answer[before.length]? =
      some (step (sequence step state before).next input).answer := by
  have hlength := length_answer_sequence step state before
  rw [sequence_append, ← hlength]
  simp [sequence]

/-- Every answer is that of a step from some state. -/
theorem answer_sequence_of_input
    (state : σ) (inputs : List α) {place : Nat} {input : α}
    (hinput : inputs[place]? = some input) :
    ∃ reached, (sequence step state inputs).answer[place]? =
      some (step reached input).answer := by
  induction inputs generalizing state place with
  | nil => simp at hinput
  | cons first rest ih =>
      cases place with
      | zero =>
          have hfirst : first = input := by simpa using hinput
          subst hfirst
          exact ⟨state, rfl⟩
      | succ place =>
          have hrest : rest[place]? = some input := by simpa using hinput
          obtain ⟨reached, hreached⟩ := ih (step state first).next hrest
          exact ⟨reached, by simpa [sequence] using hreached⟩

/-- A translation that every single step respects is respected by all in order. -/
theorem sequence_translated
    {ofState : σ → σ} {ofInput : α → α} {ofAnswer : β → β}
    (hstep : ∀ state input, step (ofState state) (ofInput input) =
      ⟨ofAnswer (step state input).answer, ofState (step state input).next,
        (step state input).events⟩)
    (state : σ) (inputs : List α) :
    sequence step (ofState state) (inputs.map ofInput) =
      ⟨(sequence step state inputs).answer.map ofAnswer,
        ofState (sequence step state inputs).next,
        (sequence step state inputs).events⟩ := by
  induction inputs generalizing state with
  | nil => rfl
  | cons input rest ih =>
      simp only [List.map_cons, sequence]
      rw [hstep state input]
      rw [ih (step state input).next]

end Reply
end Keyring
