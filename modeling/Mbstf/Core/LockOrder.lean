import Mbstf.Core.Runs

/-!
# Threads that wait for locks and for each other

A thread runs a script of operations: on recursive locks, on threads that it starts, and on
threads that it waits for until they have come far enough.  Locks and threads have ranks.
When every thread acquires and waits in the order of the ranks, where a thread counts as
holding its own rank for as long as it runs, no schedule gets stuck: the thread that waits
for the highest rank would wait for one that waits for something higher.
-/

namespace Mbstf.LockOrder

open Mbstf.Runs

/-- What a thread does that may have to wait, or that others may wait for.  `wait` waits for
a running thread until it has so many operations left. -/
inductive Op (Thread Lock : Type*) where
  | acquire (lock : Lock)
  | release (lock : Lock)
  | start (thread : Thread)
  | wait (thread : Thread) (left : ℕ)
  deriving DecidableEq

/-- Waits for the end of a thread. -/
abbrev Op.join {Thread Lock : Type*} (thread : Thread) : Op Thread Lock := .wait thread 0

/-- What a thread does, one operation after another. -/
abbrev Script (Thread Lock : Type*) := List (Op Thread Lock)

/-- A script that holds a lock while it does something. -/
def guarded {Thread Lock : Type*} (lock : Lock) (body : Script Thread Lock) :
    Script Thread Lock :=
  .acquire lock :: (body ++ [.release lock])

/-- A script that releases a lock while it does something. -/
def window {Thread Lock : Type*} (lock : Lock) (body : Script Thread Lock) :
    Script Thread Lock :=
  .release lock :: (body ++ [.acquire lock])

/-- The threads that run, the locks that each thread holds, once for each time it has
acquired them, and what it has still to do. -/
structure Config (Thread Lock : Type*) where
  running : Finset Thread
  held : Thread → List Lock
  todo : Thread → Script Thread Lock

namespace Config

variable {Thread Lock : Type*}

/-- A first thread runs, and no lock is held. -/
def start (script : Thread → Script Thread Lock) (first : Thread) : Config Thread Lock where
  running := {first}
  held := fun _ => []
  todo := script

/-- No other thread holds the lock. -/
def Free (config : Config Thread Lock) (lock : Lock) (thread : Thread) : Prop :=
  ∀ other, lock ∈ config.held other → other = thread

instance [Fintype Thread] [DecidableEq Thread] [DecidableEq Lock]
    (config : Config Thread Lock) (lock : Lock) (thread : Thread) :
    Decidable (config.Free lock thread) :=
  inferInstanceAs (Decidable (∀ other, lock ∈ config.held other → other = thread))

/-- The thread does not run, or has no more than so many operations left. -/
def Reached (config : Config Thread Lock) (thread : Thread) (left : ℕ) : Prop :=
  thread ∈ config.running → (config.todo thread).length ≤ left

instance [DecidableEq Thread] (config : Config Thread Lock) (thread : Thread) (left : ℕ) :
    Decidable (config.Reached thread left) :=
  inferInstanceAs (Decidable (thread ∈ config.running → (config.todo thread).length ≤ left))

/-- Every running thread has finished its script. -/
def Finished (config : Config Thread Lock) : Prop :=
  ∀ thread ∈ config.running, config.todo thread = []

section Advance

variable [DecidableEq Thread] {config : Config Thread Lock} {thread other : Thread}

/-- The state after an operation of a thread. -/
def advance (config : Config Thread Lock) (thread : Thread) (running : Finset Thread)
    (held : List Lock) (rest : Script Thread Lock) : Config Thread Lock where
  running := running
  held := Function.update config.held thread held
  todo := Function.update config.todo thread rest

variable {running : Finset Thread} {held : List Lock} {rest : Script Thread Lock}

@[simp]
theorem advance_running : (config.advance thread running held rest).running = running := rfl

@[simp]
theorem advance_held_self : (config.advance thread running held rest).held thread = held := by
  simp only [advance, Function.update_self]

@[simp]
theorem advance_todo_self : (config.advance thread running held rest).todo thread = rest := by
  simp only [advance, Function.update_self]

theorem advance_held_of_ne (hne : other ≠ thread) :
    (config.advance thread running held rest).held other = config.held other := by
  simp only [advance, Function.update_of_ne hne]

theorem advance_todo_of_ne (hne : other ≠ thread) :
    (config.advance thread running held rest).todo other = config.todo other := by
  simp only [advance, Function.update_of_ne hne]

end Advance

variable [Fintype Thread] [DecidableEq Thread] [DecidableEq Lock]

/-- The next operation of a running thread, when it does not have to wait.  The release of a
lock that the thread does not hold changes nothing. -/
def step (config : Config Thread Lock) (thread : Thread) : Option (Config Thread Lock) :=
  if thread ∈ config.running then
    match config.todo thread with
    | [] => none
    | .acquire lock :: rest =>
        if config.Free lock thread then
          some (config.advance thread config.running (lock :: config.held thread) rest)
        else none
    | .release lock :: rest =>
        some (config.advance thread config.running ((config.held thread).erase lock) rest)
    | .start other :: rest =>
        some (config.advance thread (insert other config.running) (config.held thread) rest)
    | .wait other left :: rest =>
        if config.Reached other left then
          some (config.advance thread config.running (config.held thread) rest)
        else none
  else none

variable {config next : Config Thread Lock} {thread other : Thread} {lock : Lock}

/-- The steps there are. -/
inductive Stepped (config : Config Thread Lock) (thread : Thread) :
    Config Thread Lock → Prop
  | acquire {lock : Lock} {rest : Script Thread Lock}
      (htodo : config.todo thread = .acquire lock :: rest) (hfree : config.Free lock thread) :
      Stepped config thread
        (config.advance thread config.running (lock :: config.held thread) rest)
  | release {lock : Lock} {rest : Script Thread Lock}
      (htodo : config.todo thread = .release lock :: rest) :
      Stepped config thread
        (config.advance thread config.running ((config.held thread).erase lock) rest)
  | start {other : Thread} {rest : Script Thread Lock}
      (htodo : config.todo thread = .start other :: rest) :
      Stepped config thread
        (config.advance thread (insert other config.running) (config.held thread) rest)
  | wait {other : Thread} {left : ℕ} {rest : Script Thread Lock}
      (htodo : config.todo thread = .wait other left :: rest)
      (hreached : config.Reached other left) :
      Stepped config thread
        (config.advance thread config.running (config.held thread) rest)

theorem step_stepped (hstep : config.step thread = some next) :
    thread ∈ config.running ∧ config.Stepped thread next := by
  obtain ⟨hrunning, hstep⟩ := Option.ite_none_right_eq_some.mp hstep
  refine ⟨hrunning, ?_⟩
  split at hstep
  case h_1 => cases hstep
  case h_2 lock rest htodo =>
      obtain ⟨hfree, hnext⟩ := Option.ite_none_right_eq_some.mp hstep
      obtain rfl := Option.some.inj hnext
      exact .acquire htodo hfree
  case h_3 lock rest htodo =>
      obtain rfl := Option.some.inj hstep
      exact .release htodo
  case h_4 other rest htodo =>
      obtain rfl := Option.some.inj hstep
      exact .start htodo
  case h_5 other left rest htodo =>
      obtain ⟨hreached, hnext⟩ := Option.ite_none_right_eq_some.mp hstep
      obtain rfl := Option.some.inj hnext
      exact .wait htodo hreached

theorem Stepped.step (hrunning : thread ∈ config.running)
    (hstepped : config.Stepped thread next) : config.step thread = some next := by
  cases hstepped with
  | acquire htodo hfree => simp only [Config.step, if_pos hrunning, htodo, if_pos hfree]
  | release htodo => simp only [Config.step, if_pos hrunning, htodo]
  | start htodo => simp only [Config.step, if_pos hrunning, htodo]
  | wait htodo hreached => simp only [Config.step, if_pos hrunning, htodo, if_pos hreached]

omit [Fintype Thread] in
/-- Each step does the first of the operations that its thread has left. -/
theorem Stepped.advances (hstepped : config.Stepped thread next) :
    ∃ op rest, config.todo thread = op :: rest ∧ next.todo thread = rest ∧
      ∀ other ≠ thread, next.held other = config.held other ∧
        next.todo other = config.todo other := by
  have hothers : ∀ {running : Finset Thread} {held : List Lock} {rest : Script Thread Lock},
      ∀ other ≠ thread,
        (config.advance thread running held rest).held other = config.held other ∧
          (config.advance thread running held rest).todo other = config.todo other :=
    fun other hne => ⟨advance_held_of_ne hne, advance_todo_of_ne hne⟩
  cases hstepped with
  | acquire htodo hfree => exact ⟨_, _, htodo, advance_todo_self, hothers⟩
  | release htodo => exact ⟨_, _, htodo, advance_todo_self, hothers⟩
  | start htodo => exact ⟨_, _, htodo, advance_todo_self, hothers⟩
  | wait htodo hreached => exact ⟨_, _, htodo, advance_todo_self, hothers⟩

omit [Fintype Thread] in
theorem Stepped.running_subset (hstepped : config.Stepped thread next) :
    config.running ⊆ next.running := by
  cases hstepped with
  | acquire htodo hfree => exact Finset.Subset.refl _
  | release htodo => exact Finset.Subset.refl _
  | start htodo => exact Finset.subset_insert _ _
  | wait htodo hreached => exact Finset.Subset.refl _

/-! ## Mutual exclusion -/

/-- No two threads hold one lock. -/
def Exclusive (config : Config Thread Lock) : Prop :=
  ∀ lock first second, lock ∈ config.held first → lock ∈ config.held second → first = second

omit [Fintype Thread] [DecidableEq Thread] [DecidableEq Lock] in
theorem exclusive_start (script : Thread → Script Thread Lock) (first : Thread) :
    (start script first).Exclusive := by
  intro lock one another hone
  cases hone

omit [Fintype Thread] [DecidableEq Thread] [DecidableEq Lock] in
theorem Exclusive.free (hexclusive : config.Exclusive) (hheld : lock ∈ config.held thread) :
    config.Free lock thread :=
  fun other hother => hexclusive lock other thread hother hheld

omit [Fintype Thread] [DecidableEq Lock] in
/-- A step that gives a thread no lock that another has. -/
theorem Exclusive.advance (hexclusive : config.Exclusive) {running : Finset Thread}
    {held : List Lock} {rest : Script Thread Lock}
    (hheld : ∀ lock ∈ held, config.Free lock thread) :
    (config.advance thread running held rest).Exclusive := by
  have hother : ∀ lock other, lock ∈ (config.advance thread running held rest).held other →
      other ≠ thread → lock ∈ config.held other := by
    intro lock other hmem hne
    rwa [advance_held_of_ne hne] at hmem
  have hself : ∀ lock, lock ∈ (config.advance thread running held rest).held thread →
      config.Free lock thread := by
    intro lock hmem
    rw [advance_held_self] at hmem
    exact hheld lock hmem
  intro lock first second hfirst hsecond
  by_cases hfirstSelf : first = thread
  · subst hfirstSelf
    by_contra hne
    exact hne (hself lock hfirst second (hother lock second hsecond (Ne.symm hne))).symm
  · by_cases hsecondSelf : second = thread
    · subst hsecondSelf
      exact hself lock hsecond first (hother lock first hfirst hfirstSelf)
    · exact hexclusive lock first second (hother lock first hfirst hfirstSelf)
        (hother lock second hsecond hsecondSelf)

theorem Exclusive.step (hexclusive : config.Exclusive)
    (hstep : config.step thread = some next) : next.Exclusive := by
  cases (step_stepped hstep).2 with
  | acquire _ hfree =>
      refine hexclusive.advance ?_
      intro other hother
      cases List.mem_cons.mp hother with
      | inl hsame => exact hsame ▸ hfree
      | inr hheld => exact hexclusive.free hheld
  | release _ =>
      refine hexclusive.advance ?_
      intro other hother
      exact hexclusive.free (List.mem_of_mem_erase hother)
  | start _ => exact hexclusive.advance fun _ => hexclusive.free
  | wait _ _ => exact hexclusive.advance fun _ => hexclusive.free

theorem exclusive_run {script : Thread → Script Thread Lock} {first : Thread}
    {schedule : List Thread} (hrun : run step (start script first) schedule = some config) :
    config.Exclusive :=
  run_invariant (fun _ _ _ hinv hstep => Exclusive.step hinv hstep)
    (exclusive_start script first) hrun

end Config

/-! ## Ranks -/

section Ranks

variable {Thread Lock : Type*} [DecidableEq Lock]
variable (lockRank : Lock → ℕ) (threadRank : Thread → ℕ)

/-- A thread of rank `floor` that holds `held` acquires and waits upwards only, a lock that
it holds already apart, and holds nothing at the end. -/
def Ordered (floor : ℕ) : List Lock → Script Thread Lock → Prop
  | held, [] => held = []
  | held, .acquire lock :: rest =>
      (lock ∈ held ∨ (floor < lockRank lock ∧ ∀ other ∈ held, lockRank other < lockRank lock)) ∧
        Ordered floor (lock :: held) rest
  | held, .release lock :: rest => Ordered floor (held.erase lock) rest
  | held, .start _ :: rest => Ordered floor held rest
  | held, .wait thread _ :: rest =>
      (floor < threadRank thread ∧ ∀ other ∈ held, lockRank other < threadRank thread) ∧
        Ordered floor held rest

variable {lockRank threadRank} {floor : ℕ}

/-- A script that a thread can insert when it holds `held`, and that leaves it so. -/
def Nested (lockRank : Lock → ℕ) (threadRank : Thread → ℕ) (floor : ℕ) (held : List Lock)
    (script : Script Thread Lock) : Prop :=
  ∀ rest, Ordered lockRank threadRank floor held rest →
    Ordered lockRank threadRank floor held (script ++ rest)

section Nested

variable {held : List Lock} {first second script : Script Thread Lock} {lock : Lock}
variable {thread : Thread}

theorem Nested.ordered (hscript : Nested lockRank threadRank floor [] script) :
    Ordered lockRank threadRank floor [] script := by
  rw [← List.append_nil script]
  exact hscript [] rfl

theorem nested_nil : Nested lockRank threadRank floor held ([] : Script Thread Lock) :=
  fun _ hrest => hrest

theorem Nested.append (hfirst : Nested lockRank threadRank floor held first)
    (hsecond : Nested lockRank threadRank floor held second) :
    Nested lockRank threadRank floor held (first ++ second) := by
  intro rest hrest
  rw [List.append_assoc]
  exact hfirst _ (hsecond rest hrest)

theorem nested_flatMap {Item : Type*} {part : Item → Script Thread Lock}
    (hpart : ∀ item, Nested lockRank threadRank floor held (part item)) (items : List Item) :
    Nested lockRank threadRank floor held (items.flatMap part) := by
  induction items with
  | nil => exact nested_nil
  | cons item items ih =>
      rw [List.flatMap_cons]
      exact (hpart item).append ih

theorem nested_start : Nested lockRank threadRank floor held [.start thread] :=
  fun _ hrest => hrest

theorem nested_wait {left : ℕ} (hfloor : floor < threadRank thread)
    (hheld : ∀ other ∈ held, lockRank other < threadRank thread) :
    Nested lockRank threadRank floor held [.wait thread left] :=
  fun _ hrest => ⟨⟨hfloor, hheld⟩, hrest⟩

theorem nested_guarded (hfloor : floor < lockRank lock)
    (hheld : ∀ other ∈ held, lockRank other < lockRank lock)
    (hscript : Nested lockRank threadRank floor (lock :: held) script) :
    Nested lockRank threadRank floor held (guarded lock script) := by
  intro rest hrest
  refine ⟨Or.inr ⟨hfloor, hheld⟩, ?_⟩
  change Ordered lockRank threadRank floor (lock :: held) (script ++ [.release lock] ++ rest)
  rw [List.append_assoc]
  refine hscript _ ?_
  change Ordered lockRank threadRank floor ((lock :: held).erase lock) rest
  rw [List.erase_cons_head]
  exact hrest

theorem nested_window (hfloor : floor < lockRank lock)
    (hheld : ∀ other ∈ held, lockRank other < lockRank lock)
    (hscript : Nested lockRank threadRank floor held script) :
    Nested lockRank threadRank floor (lock :: held) (window lock script) := by
  intro rest hrest
  change Ordered lockRank threadRank floor ((lock :: held).erase lock)
    (script ++ [.acquire lock] ++ rest)
  rw [List.erase_cons_head, List.append_assoc]
  exact hscript _ ⟨Or.inr ⟨hfloor, hheld⟩, hrest⟩

end Nested

/-- A thread that is waited for ranks above the one that waits. -/
theorem Ordered.lt_of_wait {script : Script Thread Lock} {held : List Lock} {thread : Thread}
    {left : ℕ} (hordered : Ordered lockRank threadRank floor held script)
    (hmem : .wait thread left ∈ script) : floor < threadRank thread := by
  induction script generalizing held with
  | nil => cases hmem
  | cons op rest ih =>
      cases List.mem_cons.mp hmem with
      | inl hfirst =>
          subst hfirst
          exact hordered.1.1
      | inr hrest =>
          cases op with
          | acquire lock => exact ih hordered.2 hrest
          | release lock => exact ih hordered hrest
          | start other => exact ih hordered hrest
          | wait other left => exact ih hordered.2 hrest

/-- Ranks may be lowered for locks that are not acquired any more. -/
theorem Ordered.lower {lowered : Lock → ℕ} (hle : ∀ lock, lowered lock ≤ lockRank lock)
    {script : Script Thread Lock} {held : List Lock}
    (hordered : Ordered lockRank threadRank floor held script)
    (hsame : ∀ lock, .acquire lock ∈ script → lowered lock = lockRank lock) :
    Ordered lowered threadRank floor held script := by
  induction script generalizing held with
  | nil => exact hordered
  | cons op rest ih =>
      have hrest : ∀ lock, .acquire lock ∈ rest → lowered lock = lockRank lock :=
        fun lock hmem => hsame lock (List.mem_cons_of_mem op hmem)
      cases op with
      | acquire lock =>
          refine ⟨hordered.1.imp_right ?_, ih hordered.2 hrest⟩
          intro habove
          rw [hsame lock List.mem_cons_self]
          exact ⟨habove.1, fun other hother => (hle other).trans_lt (habove.2 other hother)⟩
      | release lock => exact ih hordered hrest
      | start thread => exact ih hordered hrest
      | wait thread left =>
          exact ⟨⟨hordered.1.1, fun other hother =>
            (hle other).trans_lt (hordered.1.2 other hother)⟩, ih hordered.2 hrest⟩

namespace Config

variable [Fintype Thread] [DecidableEq Thread]
variable {config next : Config Thread Lock} {thread : Thread}

/-- A thread keeps to the order in what it has still to do. -/
def RankedAt (lockRank : Lock → ℕ) (threadRank : Thread → ℕ) (config : Config Thread Lock)
    (thread : Thread) : Prop :=
  Ordered lockRank threadRank (threadRank thread) (config.held thread) (config.todo thread)

/-- A thread keeps to the order, whoever takes the next step. -/
theorem RankedAt.step (hranked : config.RankedAt lockRank threadRank thread) {other : Thread}
    (hstep : config.step other = some next) : next.RankedAt lockRank threadRank thread := by
  have hstepped := (step_stepped hstep).2
  unfold RankedAt at hranked ⊢
  by_cases hsame : thread = other
  · subst hsame
    cases hstepped with
    | acquire htodo =>
        rw [htodo] at hranked
        rw [advance_held_self, advance_todo_self]
        exact hranked.2
    | release htodo =>
        rw [htodo] at hranked
        rw [advance_held_self, advance_todo_self]
        exact hranked
    | start htodo =>
        rw [htodo] at hranked
        rw [advance_held_self, advance_todo_self]
        exact hranked
    | wait htodo =>
        rw [htodo] at hranked
        rw [advance_held_self, advance_todo_self]
        exact hranked.2
  · obtain ⟨op, rest, -, -, hothers⟩ := hstepped.advances
    obtain ⟨hheld, htodo⟩ := hothers thread hsame
    rw [hheld, htodo]
    exact hranked

theorem rankedAt_run {script : Thread → Script Thread Lock} {first : Thread}
    {schedule : List Thread}
    (hscript : Ordered lockRank threadRank (threadRank thread) [] (script thread))
    (hrun : run step (start script first) schedule = some config) :
    config.RankedAt lockRank threadRank thread := by
  have hstep : ∀ (state : Config Thread Lock) (label : Thread) (next : Config Thread Lock),
      state.RankedAt lockRank threadRank thread → state.step label = some next →
        next.RankedAt lockRank threadRank thread :=
    fun _ _ _ hinv hstep => hinv.step hstep
  have hstart : (start script first).RankedAt lockRank threadRank thread := hscript
  exact run_invariant hstep hstart hrun

/-- Every thread keeps to the order. -/
def Ranked (lockRank : Lock → ℕ) (threadRank : Thread → ℕ) (config : Config Thread Lock) :
    Prop :=
  ∀ thread, config.RankedAt lockRank threadRank thread

theorem Ranked.step (hranked : config.Ranked lockRank threadRank)
    (hstep : config.step thread = some next) : next.Ranked lockRank threadRank :=
  fun other => (hranked other).step hstep

/-- The rank of what a thread does next. -/
def waitRank (lockRank : Lock → ℕ) (threadRank : Thread → ℕ) (config : Config Thread Lock)
    (thread : Thread) : ℕ :=
  match config.todo thread with
  | .acquire lock :: _ => lockRank lock
  | .wait other _ :: _ => threadRank other
  | _ => 0

/-- What keeps a thread from its next operation: a lock that another thread holds, or a
running thread with something left to do. -/
inductive Stuck (config : Config Thread Lock) (thread : Thread) : Prop
  | lock {lock : Lock} {other : Thread} {rest : Script Thread Lock}
      (htodo : config.todo thread = .acquire lock :: rest)
      (hheld : lock ∈ config.held other) (hne : other ≠ thread)
  | thread {other : Thread} {left : ℕ} {rest : Script Thread Lock}
      (htodo : config.todo thread = .wait other left :: rest)
      (hrunning : other ∈ config.running) (hunfinished : config.todo other ≠ [])

theorem stuck_of_step_eq_none (hrunning : thread ∈ config.running)
    (hunfinished : config.todo thread ≠ []) (hstep : config.step thread = none) :
    config.Stuck thread := by
  have hnot : ∀ {next}, ¬ config.Stepped thread next := by
    intro next hstepped
    rw [hstepped.step hrunning] at hstep
    cases hstep
  cases htodo : config.todo thread with
  | nil => exact absurd htodo hunfinished
  | cons op rest =>
      cases op with
      | acquire lock =>
          have hfree : ¬ config.Free lock thread := fun hfree => hnot (.acquire htodo hfree)
          unfold Free at hfree
          push Not at hfree
          obtain ⟨other, hheld, hne⟩ := hfree
          exact .lock htodo hheld hne
      | release lock => exact absurd (.release htodo) hnot
      | start other => exact absurd (.start htodo) hnot
      | wait other left =>
          have hreached : ¬ config.Reached other left :=
            fun hreached => hnot (.wait htodo hreached)
          unfold Reached at hreached
          push Not at hreached
          refine .thread htodo hreached.1 ?_
          intro hnil
          rw [hnil] at hreached
          exact absurd hreached.2 (by simp)

omit [Fintype Thread] [DecidableEq Thread] in
/-- What a stuck thread waits for is above its own rank and above all that it holds. -/
theorem Ranked.lt_waitRank (hranked : config.Ranked lockRank threadRank)
    (hexclusive : config.Exclusive) (hstuck : config.Stuck thread) :
    threadRank thread < config.waitRank lockRank threadRank thread ∧
      ∀ lock ∈ config.held thread,
        lockRank lock < config.waitRank lockRank threadRank thread := by
  have hthread := hranked thread
  unfold RankedAt at hthread
  unfold waitRank
  cases hstuck with
  | lock htodo hheld hne =>
      rw [htodo] at hthread ⊢
      cases hthread.1 with
      | inl hown => exact absurd (hexclusive.free hown _ hheld) hne
      | inr habove => exact habove
  | thread htodo =>
      rw [htodo] at hthread ⊢
      exact hthread.1

/-- A lock is held by running threads only, and nothing is held at the end. -/
def Attended (config : Config Thread Lock) : Prop :=
  ∀ thread, config.held thread ≠ [] → thread ∈ config.running

theorem Attended.step (hattended : config.Attended)
    (hstep : config.step thread = some next) : next.Attended := by
  obtain ⟨hrunning, hstepped⟩ := step_stepped hstep
  obtain ⟨op, rest, -, -, hothers⟩ := hstepped.advances
  intro other hheld
  by_cases hsame : other = thread
  · subst hsame
    exact hstepped.running_subset hrunning
  · rw [(hothers other hsame).1] at hheld
    exact hstepped.running_subset (hattended other hheld)

theorem attended_run {script : Thread → Script Thread Lock} {first : Thread}
    {schedule : List Thread} (hrun : run step (start script first) schedule = some config) :
    config.Attended :=
  run_invariant (fun _ _ _ hinv hstep => Attended.step hinv hstep)
    (show (start script first).Attended from fun _ hheld => absurd rfl hheld) hrun

omit [Fintype Thread] [DecidableEq Thread] in
/-- A stuck thread waits for a running thread that has something left to do, and not for the
lowest of what that one waits for. -/
theorem Ranked.exists_waitRank_lt (hranked : config.Ranked lockRank threadRank)
    (hexclusive : config.Exclusive) (hattended : config.Attended)
    (hstuck : ∀ other ∈ config.running, config.todo other ≠ [] → config.Stuck other)
    (hthread : config.Stuck thread) :
    ∃ other ∈ config.running, config.todo other ≠ [] ∧
      config.waitRank lockRank threadRank thread <
        config.waitRank lockRank threadRank other := by
  cases hthread with
  | @lock lock other rest htodo hheld hne =>
      have hrunning : other ∈ config.running := hattended other (List.ne_nil_of_mem hheld)
      have hother : config.todo other ≠ [] := by
        intro hnil
        have hempty := hranked other
        rw [RankedAt, hnil] at hempty
        rw [show config.held other = [] from hempty] at hheld
        cases hheld
      refine ⟨other, hrunning, hother, ?_⟩
      have habove :=
        (hranked.lt_waitRank hexclusive (hstuck other hrunning hother)).2 lock hheld
      rwa [waitRank, htodo]
  | @thread other left rest htodo hrunning hother =>
      refine ⟨other, hrunning, hother, ?_⟩
      have habove := (hranked.lt_waitRank hexclusive (hstuck other hrunning hother)).1
      rwa [waitRank, htodo]

/-- As long as a running thread is unfinished, some thread can go on. -/
theorem Ranked.exists_step (hranked : config.Ranked lockRank threadRank)
    (hexclusive : config.Exclusive) (hattended : config.Attended)
    (hunfinished : ¬ config.Finished) :
    ∃ thread next, config.step thread = some next := by
  by_contra hnone
  push Not at hnone
  have hstuck : ∀ other ∈ config.running, config.todo other ≠ [] → config.Stuck other := by
    intro other hrunning hother
    exact stuck_of_step_eq_none hrunning hother (Option.eq_none_iff_forall_ne_some.mpr
      (hnone other))
  unfold Finished at hunfinished
  push Not at hunfinished
  obtain ⟨first, hfirst⟩ := hunfinished
  -- The unfinished thread that waits for the highest rank.
  obtain ⟨highest, hmem, hmax⟩ := Finset.exists_max_image
    (config.running.filter fun thread => config.todo thread ≠ [])
    (config.waitRank lockRank threadRank) ⟨first, Finset.mem_filter.mpr hfirst⟩
  obtain ⟨hrunning, hhighest⟩ := Finset.mem_filter.mp hmem
  obtain ⟨other, hotherRunning, hother, hlt⟩ :=
    hranked.exists_waitRank_lt hexclusive hattended hstuck (hstuck highest hrunning hhighest)
  have hle := hmax other (Finset.mem_filter.mpr ⟨hotherRunning, hother⟩)
  exact absurd hlt (not_lt.mpr hle)

/-! ## Schedules -/

/-- How many operations are left. -/
def remaining (config : Config Thread Lock) : ℕ := ∑ thread, (config.todo thread).length

theorem remaining_step (hstep : config.step thread = some next) :
    next.remaining + 1 = config.remaining := by
  obtain ⟨op, rest, hthread, hnext, hothers⟩ := (step_stepped hstep).2.advances
  have hsame : ∀ other ∈ Finset.univ.erase thread,
      (next.todo other).length = (config.todo other).length := by
    intro other hother
    rw [(hothers other (Finset.ne_of_mem_erase hother)).2]
  rw [remaining, remaining, ← Finset.add_sum_erase _ _ (Finset.mem_univ thread),
    ← Finset.add_sum_erase _ _ (Finset.mem_univ thread), Finset.sum_congr rfl hsame,
    hthread, hnext, List.length_cons]
  omega

/-- Some schedule carries on until all running threads have finished. -/
def Finishes (config : Config Thread Lock) : Prop :=
  ∃ schedule final, run step config schedule = some final ∧ final.Finished

theorem Finishes.of_step (hstep : config.step thread = some next) (hnext : next.Finishes) :
    config.Finishes := by
  obtain ⟨schedule, final, hrun, hfinal⟩ := hnext
  exact ⟨thread :: schedule, final, run_cons_eq_some.mpr ⟨next, hstep, hrun⟩, hfinal⟩

theorem Finishes.of_run {schedule : List Thread}
    (hrun : run Config.step config schedule = some next) (hnext : next.Finishes) :
    config.Finishes := by
  obtain ⟨more, final, hmore, hfinal⟩ := hnext
  refine ⟨schedule ++ more, final, ?_, hfinal⟩
  rw [run_append, hrun]
  exact hmore

theorem Ranked.finishes (hranked : config.Ranked lockRank threadRank)
    (hexclusive : config.Exclusive) (hattended : config.Attended) : config.Finishes := by
  induction hcount : config.remaining using Nat.strong_induction_on generalizing config with
  | _ count ih =>
      by_cases hfinished : config.Finished
      · exact ⟨[], config, rfl, hfinished⟩
      · obtain ⟨thread, next, hstep⟩ :=
          hranked.exists_step hexclusive hattended hfinished
        have hless : next.remaining < count := by
          have hone := remaining_step hstep
          omega
        have hnext : next.Finishes := ih next.remaining hless (hranked.step hstep)
          (hexclusive.step hstep) (hattended.step hstep) rfl
        exact hnext.of_step hstep

/-- Ordered scripts never deadlock: every schedule, however far it has come, can be carried
on until all threads have finished. -/
theorem finishes_of_ordered {script : Thread → Script Thread Lock} {first : Thread}
    (hscript : ∀ thread,
      Ordered lockRank threadRank (threadRank thread) [] (script thread))
    {schedule : List Thread} (hrun : run Config.step (start script first) schedule = some config) :
    config.Finishes := by
  have hranked : config.Ranked lockRank threadRank :=
    fun thread => rankedAt_run (hscript thread) hrun
  exact hranked.finishes (exclusive_run hrun) (attended_run hrun)

end Config

end Ranks

/-! ## What a run has passed -/

namespace Config

variable {Thread Lock : Type*} [Fintype Thread] [DecidableEq Thread] [DecidableEq Lock]
variable {script : Thread → Script Thread Lock} {initial thread other : Thread}
variable {config next final : Config Thread Lock} {schedule : List Thread}

theorem running_subset_run (hrun : run step config schedule = some final) :
    config.running ⊆ final.running := by
  have hstep : ∀ (state : Config Thread Lock) (label : Thread) (next : Config Thread Lock),
      config.running ⊆ state.running → state.step label = some next →
        config.running ⊆ next.running :=
    fun _ _ _ hinv hstep => hinv.trans (step_stepped hstep).2.running_subset
  exact run_invariant hstep (Finset.Subset.refl config.running) hrun

/-- What is left is the end of what was left before. -/
theorem todo_suffix_run (hrun : run step config schedule = some final) :
    final.todo thread <:+ config.todo thread := by
  suffices hkeeps : ∀ (state : Config Thread Lock) (label : Thread) (next : Config Thread Lock),
      state.todo thread <:+ config.todo thread → state.step label = some next →
        next.todo thread <:+ config.todo thread from
    run_invariant hkeeps (List.suffix_refl _) hrun
  intro state label next hinv hstep
  obtain ⟨op, rest, htodo, hnext, hothers⟩ := (step_stepped hstep).2.advances
  by_cases hsame : thread = label
  · subst hsame
    rw [htodo] at hinv
    rw [hnext]
    exact (List.suffix_cons op rest).trans hinv
  · rw [(hothers thread hsame).2]
    exact hinv

/-- An operation that is not left any more was done at some point of the schedule. -/
theorem exists_step_of_passed {first second : Script Thread Lock} {op : Op Thread Lock}
    (hscript : config.todo thread = first ++ op :: second)
    (hrun : run step config schedule = some final)
    (hpassed : (final.todo thread).length ≤ second.length) :
    ∃ earlier before after later, run step config earlier = some before ∧
      before.todo thread = op :: second ∧ before.step thread = some after ∧
      run step after later = some final := by
  induction schedule using List.reverseRecOn generalizing final with
  | nil =>
      obtain rfl : config = final := by simpa using hrun
      rw [hscript, List.length_append, List.length_cons] at hpassed
      omega
  | append_singleton schedule label ih =>
      obtain ⟨middle, hmiddle, hstep⟩ := run_concat_eq_some.mp hrun
      by_cases hearlier : (middle.todo thread).length ≤ second.length
      · obtain ⟨earlier, before, after, later, hbefore, htodo, hafter, hlater⟩ :=
          ih hmiddle hearlier
        exact ⟨earlier, before, after, later ++ [label], hbefore, htodo, hafter,
          run_concat_eq_some.mpr ⟨middle, hlater, hstep⟩⟩
      · -- The last step is the one that passes the operation.
        obtain ⟨done, rest, htodo, hnext, hothers⟩ := (step_stepped hstep).2.advances
        have hsame : thread = label := by
          by_contra hne
          rw [(hothers thread hne).2] at hpassed
          exact hearlier hpassed
        subst hsame
        have hsuffix : op :: second <:+ config.todo thread := hscript ▸ List.suffix_append _ _
        have hlength : (middle.todo thread).length = (op :: second).length := by
          rw [hnext] at hpassed
          rw [htodo, List.length_cons] at hearlier ⊢
          rw [List.length_cons]
          omega
        have hat : middle.todo thread = op :: second :=
          (List.suffix_of_suffix_length_le (todo_suffix_run hmiddle) hsuffix
            hlength.le).eq_of_length hlength
        exact ⟨schedule, middle, final, [], hmiddle, hat, hstep, rfl⟩

/-- A thread runs once another has passed the operation that starts it. -/
theorem mem_running_of_passed {first second : Script Thread Lock}
    (hscript : config.todo thread = first ++ .start other :: second)
    (hrun : run step config schedule = some final)
    (hpassed : (final.todo thread).length ≤ second.length) : other ∈ final.running := by
  obtain ⟨earlier, before, after, later, -, htodo, hstep, hlater⟩ :=
    exists_step_of_passed hscript hrun hpassed
  have hafter : other ∈ after.running := by
    cases (step_stepped hstep).2 with
    | acquire hop => rw [htodo] at hop; cases hop
    | release hop => rw [htodo] at hop; cases hop
    | start hop =>
        rw [htodo] at hop
        cases hop
        exact Finset.mem_insert_self other before.running
    | wait hop => rw [htodo] at hop; cases hop
  exact running_subset_run hlater hafter

/-- A thread that was started has come as far as one has waited for. -/
theorem length_le_of_passed {first second : Script Thread Lock} {left : ℕ}
    (hscript : config.todo thread = first ++ .wait other left :: second)
    (hstart : .start other ∈ first) (hrun : run step config schedule = some final)
    (hpassed : (final.todo thread).length ≤ second.length) :
    (final.todo other).length ≤ left := by
  obtain ⟨earlier, before, after, later, hbefore, htodo, hstep, hlater⟩ :=
    exists_step_of_passed hscript hrun hpassed
  have hrunning : other ∈ before.running := by
    obtain ⟨one, two, rfl⟩ := List.append_of_mem hstart
    have hsplit : config.todo thread =
        one ++ .start other :: (two ++ .wait other left :: second) := by
      rw [hscript, List.append_assoc, List.cons_append]
    refine mem_running_of_passed hsplit hbefore ?_
    rw [htodo, List.length_append]
    omega
  have hreached : before.Reached other left := by
    cases (step_stepped hstep).2 with
    | acquire hop => rw [htodo] at hop; cases hop
    | release hop => rw [htodo] at hop; cases hop
    | start hop => rw [htodo] at hop; cases hop
    | wait hop hreached =>
        rw [htodo] at hop
        cases hop
        exact hreached
  have hall : run step before (thread :: later) = some final :=
    run_cons_eq_some.mpr ⟨after, hstep, hlater⟩
  exact (todo_suffix_run hall).length_le.trans (hreached hrunning)

end Config

end Mbstf.LockOrder
