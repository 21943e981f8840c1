import CommandQueue.Event

/-!
# Outcomes

An operation on a state leaves a new state, whether it succeeds or is refused,
and reports events.  An `Outcome` holds all three.
-/

namespace CommandQueue

/-- What an operation leaves behind. -/
structure Outcome (σ α : Type) where
  state : σ
  result : Except Error α
  events : List Event

namespace Outcome

variable {σ τ α β : Type}

def done (state : σ) (value : α) (events : List Event) : Outcome σ α :=
  ⟨state, .ok value, events⟩

def refused (state : σ) (error : Error) (events : List Event) : Outcome σ α :=
  ⟨state, .error error, events⟩

/-- Put a state that was worked on back into the whole that it belongs to. -/
def within (outcome : Outcome σ α) (place : σ → τ) : Outcome τ α :=
  ⟨place outcome.state, outcome.result, outcome.events⟩

/-- Go on after success. -/
def andThen (outcome : Outcome σ α) (next : σ → α → Outcome σ β) : Outcome σ β :=
  match outcome.result with
  | .error error => ⟨outcome.state, .error error, outcome.events⟩
  | .ok value =>
      let rest := next outcome.state value
      ⟨rest.state, rest.result, outcome.events ++ rest.events⟩

@[simp]
theorem done_andThen (state : σ) (value : α) (next : σ → α → Outcome σ β) :
    (done state value []).andThen next = next state value := by
  simp [done, andThen]

@[simp]
theorem refused_andThen (state : σ) (error : Error) (events : List Event)
    (next : σ → α → Outcome σ β) :
    (refused state error events).andThen next = refused state error events := rfl

@[simp]
theorem andThen_done (outcome : Outcome σ α) :
    (outcome.andThen fun state value => done state value []) = outcome := by
  obtain ⟨state, result, events⟩ := outcome
  cases result <;> simp [done, andThen]

theorem andThen_assoc {γ : Type} (outcome : Outcome σ α) (first : σ → α → Outcome σ β)
    (second : σ → β → Outcome σ γ) :
    (outcome.andThen first).andThen second =
      outcome.andThen fun state value => (first state value).andThen second := by
  obtain ⟨state, result, events⟩ := outcome
  cases result with
  | error error => rfl
  | ok value =>
      simp only [andThen]
      cases (first state value).result <;> simp

theorem ok_of_andThen {outcome : Outcome σ α} {next : σ → α → Outcome σ β} {final : β}
    (succeeded : (outcome.andThen next).result = .ok final) :
    ∃ value, outcome.result = .ok value ∧ (next outcome.state value).result = .ok final := by
  obtain ⟨state, result, events⟩ := outcome
  cases result with
  | error error => cases succeeded
  | ok value => exact ⟨value, rfl, succeeded⟩

/-- What holds of the state and survives going on holds of the state at the end. -/
theorem state_andThen {property : σ → Prop} {outcome : Outcome σ α}
    {next : σ → α → Outcome σ β} (first : property outcome.state)
    (others : ∀ value, property (next outcome.state value).state) :
    property (outcome.andThen next).state := by
  obtain ⟨state, result, events⟩ := outcome
  cases result with
  | error error => exact first
  | ok value => exact others value

end Outcome

end CommandQueue
