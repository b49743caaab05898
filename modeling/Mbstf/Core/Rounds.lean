import Mathlib

/-!
# Rounds without end

A worker loop goes from one round to the next for ever; what the environment does in a
round is an input of it.  A measure that no round raises, and that falls again and again
while there is something to do, brings the loop to where there is nothing to do.
-/

namespace Mbstf.Rounds

variable {State Input : Type*}

/-- The state after the first rounds of a loop. -/
def after (round : State → Input → State) (start : State) (inputs : ℕ → Input) : ℕ → State
  | 0 => start
  | count + 1 => round (after round start inputs count) (inputs count)

variable {round : State → Input → State} {start : State} {inputs : ℕ → Input}

theorem after_succ (count : ℕ) :
    after round start inputs (count + 1) =
      round (after round start inputs count) (inputs count) := rfl

/-- What each round keeps is kept from any point of the loop on. -/
theorem after_kept {Inv : State → Prop}
    (hround : ∀ state input, Inv state → Inv (round state input)) {early late : ℕ}
    (hle : early ≤ late) (hearly : Inv (after round start inputs early)) :
    Inv (after round start inputs late) := by
  induction late, hle using Nat.le_induction with
  | base => exact hearly
  | succ late _ ih => exact hround _ _ ih

theorem after_invariant {Inv : State → Prop}
    (hround : ∀ state input, Inv state → Inv (round state input)) (hstart : Inv start)
    (count : ℕ) : Inv (after round start inputs count) :=
  after_kept hround (Nat.zero_le count) hstart

/-- The rule for progress: when from any point on the loop either is done or takes a
round that lowers the measure, and no round raises it, the loop is done at some point. -/
theorem eventually_of_descent {Inv : State → Prop} (measure : State → ℕ) (Done : State → Prop)
    (hinv : ∀ count, Inv (after round start inputs count))
    (hmono : ∀ state input, Inv state → measure (round state input) ≤ measure state)
    (hdescent : ∀ early, ∃ late, early ≤ late ∧ (Done (after round start inputs late) ∨
      measure (after round start inputs (late + 1)) <
        measure (after round start inputs late))) (early : ℕ) :
    ∃ late, early ≤ late ∧ Done (after round start inputs late) := by
  have hantitone : Antitone fun count => measure (after round start inputs count) :=
    antitone_nat_of_succ_le fun count => hmono _ _ (hinv count)
  induction hmeasure : measure (after round start inputs early) using Nat.strong_induction_on
    generalizing early with
  | _ bound ih =>
      obtain ⟨late, hle, hdone | hlower⟩ := hdescent early
      · exact ⟨late, hle, hdone⟩
      · have hbound : measure (after round start inputs (late + 1)) < bound :=
          calc measure (after round start inputs (late + 1))
            _ < measure (after round start inputs late) := hlower
            _ ≤ measure (after round start inputs early) := hantitone hle
            _ = bound := hmeasure
        obtain ⟨last, hlast, hdone⟩ := ih _ hbound (late + 1) rfl
        exact ⟨last, by omega, hdone⟩

end Mbstf.Rounds
