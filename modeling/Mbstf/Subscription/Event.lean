import Mathlib

/-!
# Events

The base class of everything a service sends: a name and two flags that the
handlers may raise and never lower.
-/

namespace Mbstf.Subscription

/-- `Event`. -/
structure Event where
  eventName : String
  preventDefaultFlag : Bool
  stopProcessingFlag : Bool
  deriving DecidableEq

namespace Event

/-- `Event::Event(const std::string&)`: both flags start clear. -/
def new (eventName : String) : Event where
  eventName := eventName
  preventDefaultFlag := false
  stopProcessingFlag := false

/-- `Event::stopProcessing()`: no other subscriber and no default action. -/
def stopProcessing (event : Event) : Event :=
  { event with stopProcessingFlag := true, preventDefaultFlag := true }

/-- `Event::preventDefault()`: the other subscribers still see the event. -/
def preventDefault (event : Event) : Event :=
  { event with preventDefaultFlag := true }

/-- What a handler may do to the event it is given. -/
inductive Action where
  | preventDefault
  | stopProcessing
  deriving DecidableEq

def act (event : Event) : Action → Event
  | .preventDefault => event.preventDefault
  | .stopProcessing => event.stopProcessing

@[simp]
theorem act_eventName (event : Event) (action : Action) :
    (event.act action).eventName = event.eventName := by
  cases action <;> rfl

theorem foldl_act_stopProcessingFlag (actions : List Action) (event : Event) :
    (actions.foldl act event).stopProcessingFlag = true ↔
      event.stopProcessingFlag = true ∨ .stopProcessing ∈ actions := by
  induction actions generalizing event with
  | nil => simp
  | cons action actions ih =>
      rw [List.foldl_cons, ih]
      cases action <;> simp [act, preventDefault, stopProcessing]

/-- Both calls raise `m_preventDefault`. -/
theorem foldl_act_preventDefaultFlag (actions : List Action) (event : Event) :
    (actions.foldl act event).preventDefaultFlag = true ↔
      event.preventDefaultFlag = true ∨ actions ≠ [] := by
  induction actions generalizing event with
  | nil => simp
  | cons action actions ih =>
      rw [List.foldl_cons, ih]
      cases action <;> simp [act, preventDefault, stopProcessing]

end Event

end Mbstf.Subscription
