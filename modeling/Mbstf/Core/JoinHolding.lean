import Mbstf.Core.LockOrder

/-!
# Joining with a lock in hand

A thread that joins another while it holds a lock that the other has still to acquire waits
for ever.  When that one join is all that is against the order of the ranks, nothing else can
go wrong: the lock has one rank that suits all threads but the joined one, and a higher one
that suits all but the one that joins.
-/

namespace Mbstf.LockOrder

open Mbstf.Runs

namespace Config

variable {Thread Lock : Type*} [DecidableEq Thread]

/-- The same with more for a thread to do at the end. -/
def extend (config : Config Thread Lock) (thread : Thread) (second : Script Thread Lock) :
    Config Thread Lock where
  running := config.running
  held := config.held
  todo := Function.update config.todo thread (config.todo thread ++ second)

theorem extend_todo_self (config : Config Thread Lock) (thread : Thread)
    (second : Script Thread Lock) :
    (config.extend thread second).todo thread = config.todo thread ++ second := by
  simp only [extend, Function.update_self]

theorem extend_todo_of_ne {config : Config Thread Lock} {thread other : Thread}
    (hne : other ≠ thread) (second : Script Thread Lock) :
    (config.extend thread second).todo other = config.todo other := by
  simp only [extend, Function.update_of_ne hne]

/-- The first operation of a thread stays what it is. -/
theorem extend_todo_of_cons {config : Config Thread Lock} {thread : Thread}
    {op : Op Thread Lock} {rest : Script Thread Lock} (htodo : config.todo thread = op :: rest)
    (waiting : Thread) (second : Script Thread Lock) :
    ∃ more, (config.extend waiting second).todo thread = op :: more ∧
      ∀ running held, (config.advance thread running held rest).extend waiting second =
        (config.extend waiting second).advance thread running held more := by
  by_cases hsame : thread = waiting
  · subst hsame
    refine ⟨rest ++ second, by rw [extend_todo_self, htodo]; rfl, ?_⟩
    intro running held
    simp only [extend, advance, Function.update_self, Function.update_idem]
  · refine ⟨rest, by rw [extend_todo_of_ne hsame, htodo], ?_⟩
    intro running held
    simp only [extend, advance, Function.update_of_ne (Ne.symm hsame)]
    rw [Function.update_comm hsame]

/-- Nobody waits for the thread. -/
def Unawaited (config : Config Thread Lock) (thread : Thread) : Prop :=
  ∀ other left, .wait thread left ∉ config.todo other

variable [Fintype Thread] [DecidableEq Lock]
variable {config next final : Config Thread Lock} {waiting joined thread : Thread} {lock : Lock}
variable {second after : Script Thread Lock}

theorem Unawaited.step (hunawaited : config.Unawaited waiting)
    (hstep : config.step thread = some next) : next.Unawaited waiting := by
  intro other left hmem
  have hrun : run Config.step config [thread] = some next :=
    run_cons_eq_some.mpr ⟨next, hstep, rfl⟩
  exact hunawaited other left ((todo_suffix_run hrun).subset hmem)

/-- More to do at the end does not keep anybody from a step. -/
theorem step_extend (hunawaited : config.Unawaited waiting)
    (hstep : config.step thread = some next) :
    (config.extend waiting second).step thread = some (next.extend waiting second) := by
  obtain ⟨hrunning, hstepped⟩ := step_stepped hstep
  suffices (config.extend waiting second).Stepped thread (next.extend waiting second) from
    this.step hrunning
  cases hstepped with
  | acquire htodo hfree =>
      obtain ⟨more, hmore, hadvance⟩ := extend_todo_of_cons htodo waiting second
      rw [hadvance]
      exact .acquire hmore hfree
  | release htodo =>
      obtain ⟨more, hmore, hadvance⟩ := extend_todo_of_cons htodo waiting second
      rw [hadvance]
      exact .release hmore
  | start htodo =>
      obtain ⟨more, hmore, hadvance⟩ := extend_todo_of_cons htodo waiting second
      rw [hadvance]
      exact .start hmore
  | @wait other left rest htodo hreached =>
      obtain ⟨more, hmore, hadvance⟩ := extend_todo_of_cons htodo waiting second
      rw [hadvance]
      refine .wait hmore ?_
      have hne : other ≠ waiting := by
        rintro rfl
        exact hunawaited thread left (htodo ▸ List.mem_cons_self)
      intro hother
      rw [extend_todo_of_ne hne]
      exact hreached hother

theorem run_extend {schedule : List Thread} (hunawaited : config.Unawaited waiting)
    (hrun : run Config.step config schedule = some final) :
    run Config.step (config.extend waiting second) schedule =
      some (final.extend waiting second) := by
  induction schedule generalizing config with
  | nil =>
      obtain rfl : config = final := by simpa using hrun
      rfl
  | cons thread schedule ih =>
      obtain ⟨next, hstep, hrest⟩ := run_cons_eq_some.mp hrun
      exact run_cons_eq_some.mpr ⟨next.extend waiting second, step_extend hunawaited hstep,
        ih (hunawaited.step hstep) hrest⟩

/-- One thread joins another with a lock in hand that the other has still to acquire. -/
structure Clasped (waiting joined : Thread) (lock : Lock) (config : Config Thread Lock) :
    Prop where
  exclusive : config.Exclusive
  ne : joined ≠ waiting
  waits : waiting ∈ config.running
  runs : joined ∈ config.running
  held : lock ∈ config.held waiting
  joins : ∃ rest, config.todo waiting = .join joined :: rest
  acquires : .acquire lock ∈ config.todo joined

theorem Clasped.step (hclasped : config.Clasped waiting joined lock)
    (hstep : config.step thread = some next) : next.Clasped waiting joined lock := by
  obtain ⟨hexclusive, hne, hwaits, hruns, hheld, ⟨rest, hjoins⟩, hacquires⟩ := hclasped
  have hstepped := (step_stepped hstep).2
  have hthread : thread ≠ waiting := by
    rintro rfl
    cases hstepped with
    | acquire htodo => rw [hjoins] at htodo; cases htodo
    | release htodo => rw [hjoins] at htodo; cases htodo
    | start htodo => rw [hjoins] at htodo; cases htodo
    | wait htodo hreached =>
        rw [hjoins] at htodo
        cases htodo
        rw [List.length_eq_zero_iff.mp (Nat.le_zero.mp (hreached hruns))] at hacquires
        cases hacquires
  obtain ⟨op, left, htodo, hnext, hothers⟩ := hstepped.advances
  obtain ⟨hheldNext, hjoinsNext⟩ := hothers waiting (Ne.symm hthread)
  -- The joined thread gets as far as the lock and no further.
  have hacquiresNext : .acquire lock ∈ next.todo joined := by
    by_cases hsame : thread = joined
    · subst hsame
      rw [hnext]
      rw [htodo] at hacquires
      refine (List.mem_cons.mp hacquires).resolve_left ?_
      rintro rfl
      cases hstepped with
      | acquire hop hfree =>
          rw [htodo] at hop
          cases hop
          exact hthread (hfree waiting hheld).symm
      | release hop => rw [htodo] at hop; cases hop
      | start hop => rw [htodo] at hop; cases hop
      | wait hop => rw [htodo] at hop; cases hop
    · rw [(hothers joined (Ne.symm hsame)).2]
      exact hacquires
  exact ⟨hexclusive.step hstep, hne, hstepped.running_subset hwaits,
    hstepped.running_subset hruns, hheldNext ▸ hheld, ⟨rest, hjoinsNext ▸ hjoins⟩,
    hacquiresNext⟩

/-- It waits for ever. -/
theorem Clasped.not_finishes (hclasped : config.Clasped waiting joined lock) :
    ¬ config.Finishes := by
  rintro ⟨schedule, final, hrun, hfinal⟩
  have hstep : ∀ (state : Config Thread Lock) (label : Thread) (next : Config Thread Lock),
      state.Clasped waiting joined lock → state.step label = some next →
        next.Clasped waiting joined lock :=
    fun _ _ _ hinv hstep => hinv.step hstep
  have hstays : final.Clasped waiting joined lock := run_invariant hstep hclasped hrun
  obtain ⟨rest, hjoins⟩ := hstays.joins
  rw [hfinal waiting hstays.waits] at hjoins
  cases hjoins

/-- How far a thread is that is to join another with a lock in hand. -/
inductive Approach (lockRank : Lock → ℕ) (threadRank : Thread → ℕ) (waiting joined : Thread)
    (lock : Lock) (after : Script Thread Lock) (config : Config Thread Lock) : Prop
  | before {first : Script Thread Lock}
      (htodo : config.todo waiting = first ++ .acquire lock :: .join joined :: after)
      (hordered : Ordered lockRank threadRank (threadRank waiting) (config.held waiting) first)
  | joining (htodo : config.todo waiting = .join joined :: after)
      (hheld : lock ∈ config.held waiting) (hruns : joined ∈ config.running)
  | joined (hfinished : config.todo joined = [])

variable {lockRank : Lock → ℕ} {threadRank : Thread → ℕ}

theorem Approach.step (happroach : config.Approach lockRank threadRank waiting joined lock after)
    (hruns : config.todo waiting = .acquire lock :: .join joined :: after →
      joined ∈ config.running)
    (hstep : config.step thread = some next) :
    next.Approach lockRank threadRank waiting joined lock after := by
  have hstepped := (step_stepped hstep).2
  obtain ⟨op, rest, htodoThread, hnext, hothers⟩ := hstepped.advances
  cases happroach with
  | @before first htodo hordered =>
      by_cases hsame : waiting = thread
      · subst hsame
        cases first with
        | nil =>
            rw [List.nil_append] at htodo
            have hrunning := hstepped.running_subset (hruns htodo)
            cases hstepped with
            | acquire hop =>
                rw [htodo] at hop
                cases hop
                exact .joining advance_todo_self (by rw [advance_held_self]; simp) hrunning
            | release hop => rw [htodo] at hop; cases hop
            | start hop => rw [htodo] at hop; cases hop
            | wait hop => rw [htodo] at hop; cases hop
        | cons op' first =>
            rw [List.cons_append] at htodo
            cases hstepped with
            | acquire hop =>
                rw [htodo] at hop
                cases hop
                exact .before advance_todo_self (by rw [advance_held_self]; exact hordered.2)
            | release hop =>
                rw [htodo] at hop
                cases hop
                exact .before advance_todo_self (by rw [advance_held_self]; exact hordered)
            | start hop =>
                rw [htodo] at hop
                cases hop
                exact .before advance_todo_self (by rw [advance_held_self]; exact hordered)
            | wait hop =>
                rw [htodo] at hop
                cases hop
                exact .before advance_todo_self (by rw [advance_held_self]; exact hordered.2)
      · obtain ⟨hheldNext, htodoNext⟩ := hothers waiting hsame
        exact .before (htodoNext.trans htodo) (hheldNext ▸ hordered)
  | joining htodo hheld hrunning =>
      by_cases hsame : waiting = thread
      · subst hsame
        cases hstepped with
        | acquire hop => rw [htodo] at hop; cases hop
        | release hop => rw [htodo] at hop; cases hop
        | start hop => rw [htodo] at hop; cases hop
        | wait hop hreached =>
            rw [htodo] at hop
            cases hop
            have hempty := List.length_eq_zero_iff.mp (Nat.le_zero.mp (hreached hrunning))
            by_cases hself : joined = waiting
            · rw [hself, htodo] at hempty
              cases hempty
            · exact .joined ((advance_todo_of_ne hself).trans hempty)
      · obtain ⟨hheldNext, htodoNext⟩ := hothers waiting hsame
        exact .joining (htodoNext.trans htodo) (hheldNext ▸ hheld)
          (hstepped.running_subset hrunning)
  | joined hfinished =>
      by_cases hsame : joined = thread
      · subst hsame
        rw [hfinished] at htodoThread
        cases htodoThread
      · exact .joined ((hothers joined hsame).2.trans hfinished)

/-- All threads keep to the order of the ranks, but for one that joins another with a lock in
hand.  The lock ranks low for that one, and high for the joined one; the joined one runs by
the time the lock is acquired. -/
structure JoinsHolding (script : Thread → Script Thread Lock) (waiting joined : Thread)
    (lock : Lock) (before after : Script Thread Lock) (low high : Lock → ℕ)
    (threadRank : Thread → ℕ) : Prop where
  split : script waiting = before ++ .acquire lock :: .join joined :: after
  ne : joined ≠ waiting
  unawaited : ∀ thread left, .wait waiting left ∉ script thread
  le : ∀ other, low other ≤ high other
  same : ∀ other ≠ lock, low other = high other
  orderedBefore : Ordered high threadRank (threadRank waiting) [] before
  orderedHigh : ∀ thread ≠ waiting, Ordered high threadRank (threadRank thread) [] (script thread)
  orderedLow : ∀ thread ≠ joined, Ordered low threadRank (threadRank thread) [] (script thread)
  runs : ∀ schedule config, run Config.step (Config.start script waiting) schedule = some config →
    config.todo waiting = .acquire lock :: .join joined :: after → joined ∈ config.running

variable {script : Thread → Script Thread Lock} {before : Script Thread Lock}
variable {low high : Lock → ℕ} {schedule : List Thread}

theorem JoinsHolding.approach
    (hscript : JoinsHolding script waiting joined lock before after low high threadRank)
    (hrun : run Config.step (start script waiting) schedule = some config) :
    config.Approach high threadRank waiting joined lock after := by
  induction schedule using List.reverseRecOn generalizing config with
  | nil =>
      obtain rfl : start script waiting = config := by simpa using hrun
      exact .before hscript.split hscript.orderedBefore
  | append_singleton schedule label ih =>
      obtain ⟨middle, hmiddle, hstep⟩ := run_concat_eq_some.mp hrun
      exact (ih hmiddle).step (hscript.runs schedule middle hmiddle) hstep

/-- Once the joined thread has no use for the lock any more, all goes well. -/
theorem JoinsHolding.finishes_of_notMem
    (hscript : JoinsHolding script waiting joined lock before after low high threadRank)
    (hrun : run Config.step (start script waiting) schedule = some config)
    (hacquires : .acquire lock ∉ config.todo joined) : config.Finishes := by
  have hranked : config.Ranked low threadRank := by
    intro thread
    by_cases hjoined : thread = joined
    · subst hjoined
      have hhigh : config.RankedAt high threadRank thread :=
        rankedAt_run (hscript.orderedHigh thread hscript.ne) hrun
      refine hhigh.lower hscript.le ?_
      intro other hother
      refine hscript.same other ?_
      rintro rfl
      exact hacquires hother
    · exact rankedAt_run (hscript.orderedLow thread hjoined) hrun
  exact hranked.finishes (exclusive_run hrun) (attended_run hrun)

/-- Before the lock is acquired, all others can finish first. -/
theorem JoinsHolding.finishes_of_before
    (hscript : JoinsHolding script waiting joined lock before after low high threadRank)
    (hrun : run Config.step (start script waiting) schedule = some config)
    {first : Script Thread Lock}
    (htodo : config.todo waiting = first ++ .acquire lock :: .join joined :: after)
    (hordered : Ordered high threadRank (threadRank waiting) (config.held waiting) first) :
    config.Finishes := by
  let short : Config Thread Lock :=
    { config with todo := Function.update config.todo waiting first }
  have hextend : short.extend waiting (.acquire lock :: .join joined :: after) = config := by
    simp only [short, extend, Function.update_self, Function.update_idem, ← htodo,
      Function.update_eq_self]
  have hranked : short.Ranked high threadRank := by
    intro thread
    by_cases hwaiting : thread = waiting
    · subst hwaiting
      simpa only [RankedAt, short, Function.update_self] using hordered
    · have hhigh : config.RankedAt high threadRank thread :=
        rankedAt_run (hscript.orderedHigh thread hwaiting) hrun
      simpa only [RankedAt, short, Function.update_of_ne hwaiting] using hhigh
  have hunawaited : config.Unawaited waiting :=
    fun other left hmem => hscript.unawaited other left ((todo_suffix_run hrun).subset hmem)
  have hshort : short.Unawaited waiting := by
    intro other left hmem
    by_cases hwaiting : other = waiting
    · subst hwaiting
      simp only [short, Function.update_self] at hmem
      exact hunawaited other left (htodo ▸ List.mem_append_left _ hmem)
    · simp only [short, Function.update_of_ne hwaiting] at hmem
      exact hunawaited other left hmem
  have hexclusive : config.Exclusive := exclusive_run hrun
  have hattended : config.Attended := attended_run hrun
  obtain ⟨more, final, hmore, hfinal⟩ :=
    hranked.finishes (show short.Exclusive from hexclusive)
      (show short.Attended from hattended)
  have hextended : run Config.step config more =
      some (final.extend waiting (.acquire lock :: .join joined :: after)) :=
    hextend ▸ run_extend hshort hmore
  have hreached : run Config.step (start script waiting) (schedule ++ more) =
      some (final.extend waiting (.acquire lock :: .join joined :: after)) := by
    rw [run_append, hrun]
    exact hextended
  have hwaits : waiting ∈ final.running :=
    running_subset_run hreached (Finset.mem_singleton_self waiting)
  have hat : (final.extend waiting (.acquire lock :: .join joined :: after)).todo waiting =
      .acquire lock :: .join joined :: after := by
    rw [extend_todo_self, hfinal waiting hwaits, List.nil_append]
  have hruns : joined ∈ (final.extend waiting (.acquire lock :: .join joined :: after)).running :=
    hscript.runs _ _ hreached hat
  refine Finishes.of_run hextended (hscript.finishes_of_notMem hreached ?_)
  rw [extend_todo_of_ne hscript.ne, hfinal joined hruns]
  exact List.not_mem_nil

/-- Every schedule can be carried on until all threads have finished, unless one of them is at
the join and the joined one has still to acquire the lock. -/
theorem JoinsHolding.finishes_iff
    (hscript : JoinsHolding script waiting joined lock before after low high threadRank)
    (hrun : run Config.step (start script waiting) schedule = some config) :
    config.Finishes ↔
      ¬ (config.todo waiting = .join joined :: after ∧ .acquire lock ∈ config.todo joined) := by
  have happroach := hscript.approach hrun
  constructor
  · rintro hfinishes ⟨hjoin, hacquires⟩
    cases happroach with
    | @before first htodo _ =>
        have hlength := congrArg List.length (hjoin.symm.trans htodo)
        simp only [List.length_append, List.length_cons] at hlength
        omega
    | joining _ hheld hruns =>
        have hclasped : config.Clasped waiting joined lock :=
          ⟨exclusive_run hrun, hscript.ne,
            running_subset_run hrun (Finset.mem_singleton_self waiting), hruns, hheld,
            ⟨after, hjoin⟩, hacquires⟩
        exact hclasped.not_finishes hfinishes
    | joined hfinished =>
        rw [hfinished] at hacquires
        cases hacquires
  · intro hnot
    by_cases hacquires : .acquire lock ∈ config.todo joined
    · cases happroach with
      | before htodo hordered => exact hscript.finishes_of_before hrun htodo hordered
      | joining htodo _ _ => exact absurd ⟨htodo, hacquires⟩ hnot
      | joined hfinished =>
          rw [hfinished] at hacquires
          cases hacquires
    · exact hscript.finishes_of_notMem hrun hacquires

end Config

end Mbstf.LockOrder
