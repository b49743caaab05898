import Mathlib

/-!
# Tokens held by parts

A system has a list of parts, each of which holds some tokens.  A step changes one
part, and the tokens it lets go of or takes are those by which the total changes.
-/

namespace Mbstf.Held

variable {Part Token : Type*} (tokens : Part → Multiset Token)

theorem coe_cons (token : Token) (rest : List Token) :
    ((token :: rest : List Token) : Multiset Token) = {token} + rest := by
  rw [← Multiset.cons_coe, Multiset.singleton_add]

theorem coe_concat (rest : List Token) (token : Token) :
    ((rest ++ [token] : List Token) : Multiset Token) = rest + {token} := by
  rw [← Multiset.coe_add, Multiset.coe_singleton]

/-- All tokens that the parts hold. -/
def held (parts : List Part) : Multiset Token := (parts.map tokens).sum

@[simp]
theorem held_nil : held tokens [] = 0 := rfl

theorem held_cons (part : Part) (parts : List Part) :
    held tokens (part :: parts) = tokens part + held tokens parts := by
  rw [held, List.map_cons, List.sum_cons, held]

theorem held_concat (parts : List Part) (part : Part) :
    held tokens (parts ++ [part]) = held tokens parts + tokens part := by
  simp [held]

theorem mem_held {parts : List Part} {token : Token} :
    token ∈ held tokens parts ↔ ∃ part ∈ parts, token ∈ tokens part := by
  induction parts with
  | nil => simp
  | cons part parts ih => simp [held_cons, ih]

variable {tokens}

/-- One part is replaced by another. -/
theorem held_set {parts : List Part} {index : ℕ} {before : Part}
    (hpart : parts[index]? = some before) (after : Part) :
    held tokens (parts.set index after) + tokens before =
      held tokens parts + tokens after := by
  induction parts generalizing index with
  | nil => simp at hpart
  | cons part parts ih =>
      cases index with
      | zero =>
          obtain rfl : part = before := by simpa using hpart
          rw [List.set_cons_zero, held_cons, held_cons]
          abel
      | succ index =>
          have hrest := ih (by simpa using hpart)
          rw [List.set_cons_succ, held_cons, held_cons, add_assoc, hrest]
          abel

/-- The part lets go of some tokens. -/
theorem held_set_release {parts : List Part} {index : ℕ} {before after : Part}
    {released : Multiset Token} (hpart : parts[index]? = some before)
    (htokens : tokens before = tokens after + released) :
    held tokens parts = held tokens (parts.set index after) + released := by
  have hset : held tokens (parts.set index after) + tokens before =
      held tokens parts + tokens after := held_set hpart after
  rw [htokens] at hset
  have hcomm : held tokens (parts.set index after) + released + tokens after =
      held tokens parts + tokens after := by
    rw [← hset]
    abel
  exact (add_right_cancel hcomm).symm

/-- The part takes some tokens. -/
theorem held_set_take {parts : List Part} {index : ℕ} {before after : Part}
    {taken : Multiset Token} (hpart : parts[index]? = some before)
    (htokens : tokens after = tokens before + taken) :
    held tokens (parts.set index after) = held tokens parts + taken := by
  have hset : held tokens (parts.set index after) + tokens before =
      held tokens parts + tokens after := held_set hpart after
  rw [htokens] at hset
  have hcomm : held tokens (parts.set index after) + tokens before =
      held tokens parts + taken + tokens before := by
    rw [hset]
    abel
  exact add_right_cancel hcomm

/-- The part keeps its tokens. -/
theorem held_set_of_eq {parts : List Part} {index : ℕ} {before after : Part}
    (hpart : parts[index]? = some before) (htokens : tokens after = tokens before) :
    held tokens (parts.set index after) = held tokens parts := by
  have htake : tokens after = tokens before + 0 := by rw [htokens, add_zero]
  rw [held_set_take hpart htake, add_zero]

/-- A property of all parts, after one of them is replaced. -/
theorem forall_mem_set {property : Part → Prop} {parts : List Part}
    (hall : ∀ part ∈ parts, property part) (index : ℕ) {after : Part}
    (hafter : property after) : ∀ part ∈ parts.set index after, property part := by
  intro part hpart
  cases List.mem_or_eq_of_mem_set hpart with
  | inl hold => exact hall part hold
  | inr hnew => exact hnew ▸ hafter

end Mbstf.Held
