import Mathlib

/-!
# Code under a recursive mutex

A piece of code is seen here through its use of one recursive mutex: the locks
and unlocks it makes, in order, and whether it ends with a value or with an
exception.  A scope guard locks, runs its body and unlocks on every exit.  A
released window, inside such a guard, unlocks, runs foreign code and locks again,
and the last of these is skipped when the foreign code ends with an exception.

All code built from these never ends with more locks than it began with, and
what decides whether it ends with as many is its released windows.
-/

namespace Mbstf.RecursiveLock

inductive LockOp where
  | lock
  | unlock
  deriving DecidableEq

/-- What an operation does to the recursion count. -/
def LockOp.delta : LockOp → ℤ
  | .lock => 1
  | .unlock => -1

/-- What a sequence of operations does to the recursion count. -/
def net (ops : List LockOp) : ℤ := (ops.map LockOp.delta).sum

@[simp]
theorem net_nil : net [] = 0 := rfl

@[simp]
theorem net_cons (op : LockOp) (ops : List LockOp) : net (op :: ops) = op.delta + net ops := by
  simp [net]

@[simp]
theorem net_append (first second : List LockOp) :
    net (first ++ second) = net first + net second := by
  simp [net]

/-- A beginning of two lists in a row ends in the first or in the second. -/
theorem prefix_append_cases {first second done : List LockOp} (hdone : done <+: first ++ second) :
    done <+: first ∨ ∃ later, later <+: second ∧ done = first ++ later := by
  rcases List.prefix_or_prefix_of_prefix hdone (List.prefix_append first second) with
    hshort | ⟨later, rfl⟩
  · exact Or.inl hshort
  · exact Or.inr ⟨later, (List.prefix_append_right_inj first).mp hdone, rfl⟩

/-- The use some code makes of the mutex, and how it ends. -/
structure Use (Failure Value : Type) where
  ops : List LockOp
  exit : Except Failure Value

namespace Use

variable {Failure Value Result : Type}

/-- One piece of code after another; an exception of the first skips the second. -/
def andThen (use : Use Failure Value) (next : Value → Use Failure Result) :
    Use Failure Result :=
  match use.exit with
  | .error failure => ⟨use.ops, .error failure⟩
  | .ok value => ⟨use.ops ++ (next value).ops, (next value).exit⟩

instance : Monad (Use Failure) where
  pure value := ⟨[], .ok value⟩
  bind use next := use.andThen next

/-- Code that throws, and does not touch the mutex. -/
def throw (failure : Failure) : Use Failure Value := ⟨[], .error failure⟩

/-- Code that ends in a given way, and does not touch the mutex. -/
def ends (exit : Except Failure Value) : Use Failure Value := ⟨[], exit⟩

/-- `std::lock_guard guard(mutex); body`. -/
def withGuard (body : Use Failure Value) : Use Failure Value :=
  ⟨.lock :: (body.ops ++ [.unlock]), body.exit⟩

/-- `mutex.unlock(); call; mutex.lock();`. -/
def released (call : Use Failure Value) : Use Failure Value :=
  match call.exit with
  | .error failure => ⟨.unlock :: call.ops, .error failure⟩
  | .ok value => ⟨.unlock :: (call.ops ++ [.lock]), .ok value⟩

/-- `try { body } catch (…) { }`, for the exceptions that `caught` selects. -/
def catching (caught : Failure → Bool) (body : Use Failure Unit) : Use Failure Unit :=
  match body.exit with
  | .error failure => ⟨body.ops, if caught failure then .ok () else .error failure⟩
  | .ok value => ⟨body.ops, .ok value⟩

/-- The count of the calling thread, `entry` before the code runs, never drops
below zero and is `entry` again when the code ends, in whatever way. -/
structure Balanced (entry : ℕ) (use : Use Failure Value) : Prop where
  neverNegative : ∀ done, done <+: use.ops → 0 ≤ entry + net done
  restored : entry + net use.ops = entry

/-- The code never gains a lock, and if it does not lose one either then it never
goes further down than `floor` on the way. -/
structure Declines (floor : ℕ) (use : Use Failure Value) : Prop where
  net_le : net use.ops ≤ 0
  floor_le : net use.ops = 0 → ∀ done, done <+: use.ops → -(floor : ℤ) ≤ net done

/-! ## Results and exits -/

@[simp]
theorem pure_ops (value : Value) : (pure value : Use Failure Value).ops = [] := rfl

@[simp]
theorem pure_exit (value : Value) : (pure value : Use Failure Value).exit = .ok value := rfl

theorem bind_of_error {use : Use Failure Value} {failure : Failure}
    (hexit : use.exit = .error failure) (next : Value → Use Failure Result) :
    use >>= next = ⟨use.ops, .error failure⟩ := by
  change use.andThen next = _
  rw [andThen, hexit]

theorem bind_of_ok {use : Use Failure Value} {value : Value} (hexit : use.exit = .ok value)
    (next : Value → Use Failure Result) :
    use >>= next = ⟨use.ops ++ (next value).ops, (next value).exit⟩ := by
  change use.andThen next = _
  rw [andThen, hexit]

theorem released_of_error {call : Use Failure Value} {failure : Failure}
    (hexit : call.exit = .error failure) :
    call.released = ⟨.unlock :: call.ops, .error failure⟩ := by
  rw [released, hexit]

theorem released_of_ok {call : Use Failure Value} {value : Value}
    (hexit : call.exit = .ok value) :
    call.released = ⟨.unlock :: (call.ops ++ [.lock]), .ok value⟩ := by
  rw [released, hexit]

@[simp]
theorem released_exit (call : Use Failure Value) : call.released.exit = call.exit := by
  cases hexit : call.exit with
  | error failure => rw [released_of_error hexit]
  | ok value => rw [released_of_ok hexit]

@[simp]
theorem withGuard_exit (body : Use Failure Value) : body.withGuard.exit = body.exit := rfl

@[simp]
theorem catching_ops (caught : Failure → Bool) (body : Use Failure Unit) :
    (catching caught body).ops = body.ops := by
  rw [catching]
  split
  · rfl
  · rfl

/-! ## The rules for `Declines` -/

theorem declines_of_no_ops {use : Use Failure Value} (floor : ℕ) (hops : use.ops = []) :
    use.Declines floor where
  net_le := by rw [hops, net_nil]
  floor_le := by
    intro _ done hdone
    rw [hops, List.prefix_nil] at hdone
    simp [hdone]

theorem Declines.bind {floor : ℕ} {use : Use Failure Value}
    {next : Value → Use Failure Result} (huse : use.Declines floor)
    (hnext : ∀ value, (next value).Declines floor) : (use >>= next).Declines floor := by
  cases hexit : use.exit with
  | error failure =>
      rw [bind_of_error hexit]
      exact ⟨huse.net_le, huse.floor_le⟩
  | ok value =>
      rw [bind_of_ok hexit]
      have hfirst := huse.net_le
      have hsecond := (hnext value).net_le
      refine ⟨by rw [net_append]; omega, fun hzero done hdone => ?_⟩
      rw [net_append] at hzero
      -- Neither part gained, so neither lost.
      have hfirstZero : net use.ops = 0 := by omega
      have hsecondZero : net (next value).ops = 0 := by omega
      rcases prefix_append_cases hdone with hshort | ⟨later, hlater, rfl⟩
      · exact huse.floor_le hfirstZero done hshort
      · rw [net_append, hfirstZero, zero_add]
        exact (hnext value).floor_le hsecondZero later hlater

theorem Declines.withGuard {body : Use Failure Value} (hbody : body.Declines 1) :
    body.withGuard.Declines 0 := by
  have hnet : net body.withGuard.ops = net body.ops := by
    simp [Use.withGuard, LockOp.delta]
  refine ⟨hnet ▸ hbody.net_le, fun hzero done hdone => ?_⟩
  rw [hnet] at hzero
  rcases List.prefix_cons_iff.mp hdone with rfl | ⟨later, rfl, hlater⟩
  · simp
  · rcases prefix_append_cases hlater with hinside | ⟨last, hlast, rfl⟩
    · have hfloor := hbody.floor_le hzero later hinside
      simp only [net_cons, LockOp.delta]
      omega
    · rcases List.prefix_cons_iff.mp hlast with rfl | ⟨rest, rfl, hrest⟩
      · simp [LockOp.delta, hzero]
      · rw [List.prefix_nil] at hrest
        simp [LockOp.delta, hzero, hrest]

theorem Declines.released {call : Use Failure Value} (hcall : call.Declines 0) :
    call.released.Declines 1 := by
  have hle := hcall.net_le
  cases hexit : call.exit with
  | error failure =>
      rw [released_of_error hexit]
      refine ⟨by simp only [net_cons, LockOp.delta]; omega, fun hzero => ?_⟩
      simp only [net_cons, LockOp.delta] at hzero
      omega
  | ok value =>
      rw [released_of_ok hexit]
      refine ⟨by simp only [net_cons, net_append, LockOp.delta, net_nil]; omega, ?_⟩
      intro hzero done hdone
      simp only [net_cons, net_append, LockOp.delta, net_nil] at hzero
      have hcallZero : net call.ops = 0 := by omega
      rcases List.prefix_cons_iff.mp hdone with rfl | ⟨later, rfl, hlater⟩
      · simp
      · rcases prefix_append_cases hlater with hinside | ⟨last, hlast, rfl⟩
        · have hfloor := hcall.floor_le hcallZero later hinside
          simp only [net_cons, LockOp.delta]
          omega
        · rcases List.prefix_cons_iff.mp hlast with rfl | ⟨rest, rfl, hrest⟩
          · simp [LockOp.delta, hcallZero]
          · rw [List.prefix_nil] at hrest
            simp [LockOp.delta, hcallZero, hrest]

theorem Declines.catching {floor : ℕ} {caught : Failure → Bool} {body : Use Failure Unit}
    (hbody : body.Declines floor) : (Use.catching caught body).Declines floor := by
  refine ⟨?_, ?_⟩
  · rw [catching_ops]
    exact hbody.net_le
  · rw [catching_ops]
    exact hbody.floor_le

/-! ## When nothing is lost -/

theorem net_bind_eq_zero_iff {floor : ℕ} {use : Use Failure Value}
    {next : Value → Use Failure Result} (huse : use.Declines floor)
    (hnext : ∀ value, (next value).Declines floor) :
    net (use >>= next).ops = 0 ↔
      net use.ops = 0 ∧ ∀ value, use.exit = .ok value → net (next value).ops = 0 := by
  cases hexit : use.exit with
  | error failure => simp [bind_of_error hexit]
  | ok value =>
      rw [bind_of_ok hexit, net_append]
      have hfirst := huse.net_le
      have hsecond := (hnext value).net_le
      simp only [Except.ok.injEq, forall_eq']
      omega

@[simp]
theorem net_withGuard (body : Use Failure Value) : net body.withGuard.ops = net body.ops := by
  simp [withGuard, LockOp.delta]

/-- A released window loses nothing when the code in it does not and returns. -/
theorem net_released_eq_zero_iff {call : Use Failure Value} (hcall : call.Declines 0) :
    net call.released.ops = 0 ↔ net call.ops = 0 ∧ ∃ value, call.exit = .ok value := by
  have hle := hcall.net_le
  cases hexit : call.exit with
  | error failure =>
      simp only [released_of_error hexit, net_cons, LockOp.delta]
      constructor
      · intro hzero
        omega
      · rintro ⟨-, value, hvalue⟩
        cases hvalue
  | ok value =>
      simp only [released_of_ok hexit, net_cons, net_append, LockOp.delta, net_nil]
      constructor
      · intro hzero
        exact ⟨by omega, value, rfl⟩
      · rintro ⟨hzero, -⟩
        omega

/-- Code that declines is balanced, from any count, when it loses nothing. -/
theorem balanced_iff {use : Use Failure Value} (huse : use.Declines 0) (entry : ℕ) :
    use.Balanced entry ↔ net use.ops = 0 := by
  constructor
  · intro hbalanced
    have hrestored := hbalanced.restored
    omega
  · intro hzero
    refine ⟨fun done hdone => ?_, by rw [hzero, add_zero]⟩
    have hfloor := huse.floor_le hzero done hdone
    simp only [Nat.cast_zero, neg_zero] at hfloor
    omega

/-! ## What decides whether locks are lost -/

/-- The code loses no lock exactly under `condition`, and then it ends with
`value`. -/
structure Settles (floor : ℕ) (use : Use Failure Value) (condition : Prop) (value : Value) :
    Prop where
  declines : use.Declines floor
  net_iff : net use.ops = 0 ↔ condition
  exit_eq : condition → use.exit = .ok value

variable {floor : ℕ} {condition later : Prop}

theorem settles_pure (value : Value) : Settles floor (pure value : Use Failure Value) True value :=
  ⟨declines_of_no_ops floor rfl, iff_of_true rfl trivial, fun _ => rfl⟩

theorem Settles.congr {use : Use Failure Value} {value : Value}
    (huse : Settles floor use condition value) (hiff : condition ↔ later) :
    Settles floor use later value :=
  ⟨huse.declines, huse.net_iff.trans hiff, fun hlater => huse.exit_eq (hiff.mpr hlater)⟩

theorem Settles.bind {use : Use Failure Value} {next : Value → Use Failure Result}
    {value : Value} {result : Result} (huse : Settles floor use condition value)
    (hdeclines : ∀ other, (next other).Declines floor)
    (hnext : Settles floor (next value) later result) :
    Settles floor (use >>= next) (condition ∧ later) result := by
  refine ⟨huse.declines.bind hdeclines, ?_, ?_⟩
  · rw [net_bind_eq_zero_iff huse.declines hdeclines, huse.net_iff]
    constructor
    · rintro ⟨hcondition, hall⟩
      exact ⟨hcondition, hnext.net_iff.mp (hall value (huse.exit_eq hcondition))⟩
    · rintro ⟨hcondition, hlater⟩
      refine ⟨hcondition, fun other hother => ?_⟩
      obtain rfl : value = other := by
        rw [huse.exit_eq hcondition] at hother
        exact Except.ok.inj hother
      exact hnext.net_iff.mpr hlater
  · rintro ⟨hcondition, hlater⟩
    rw [bind_of_ok (huse.exit_eq hcondition)]
    exact hnext.exit_eq hlater

/-- Code that may lose no lock and throw all the same loses one in a released
window when it does. -/
theorem settles_released {call : Use Failure Unit} (hdeclines : call.Declines 0)
    (hnet : net call.ops = 0 ↔ condition) (hexit : condition → (call.exit = .ok () ↔ later)) :
    Settles 1 call.released (condition ∧ later) () := by
  refine ⟨hdeclines.released, ?_, ?_⟩
  · rw [net_released_eq_zero_iff hdeclines, hnet]
    apply and_congr_right
    intro hcondition
    rw [← hexit hcondition]
    exact ⟨fun ⟨_, hvalue⟩ => hvalue, fun hvalue => ⟨(), hvalue⟩⟩
  · rintro ⟨hcondition, hlater⟩
    rw [released_exit]
    exact (hexit hcondition).mpr hlater

theorem Settles.released {call : Use Failure Value} {value : Value}
    (hcall : Settles 0 call condition value) : Settles 1 call.released condition value := by
  refine ⟨hcall.declines.released, ?_, ?_⟩
  · rw [net_released_eq_zero_iff hcall.declines, hcall.net_iff]
    exact and_iff_left_of_imp fun hcondition => ⟨value, hcall.exit_eq hcondition⟩
  · intro hcondition
    rw [released_exit]
    exact hcall.exit_eq hcondition

theorem Settles.withGuard {body : Use Failure Value} {value : Value}
    (hbody : Settles 1 body condition value) : Settles 0 body.withGuard condition value := by
  refine ⟨hbody.declines.withGuard, ?_, hbody.exit_eq⟩
  rw [net_withGuard]
  exact hbody.net_iff

theorem Settles.catching {caught : Failure → Bool} {body : Use Failure Unit}
    (hbody : Settles floor body condition ()) :
    Settles floor (Use.catching caught body) condition () := by
  refine ⟨hbody.declines.catching, ?_, ?_⟩
  · rw [catching_ops]
    exact hbody.net_iff
  · intro hcondition
    rw [Use.catching, hbody.exit_eq hcondition]

theorem Settles.balanced_iff {use : Use Failure Value} {value : Value}
    (huse : Settles 0 use condition value) (entry : ℕ) : use.Balanced entry ↔ condition :=
  (Use.balanced_iff huse.declines entry).trans huse.net_iff

end Use

end Mbstf.RecursiveLock
