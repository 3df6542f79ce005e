import ScopedSql.Proofs.Transaction.Course
import ScopedSql.Proofs.World.Footprint

namespace ScopedSql

open Scripted

/-!
# Why a statement was cut off

A wait within a context ends in one of three ways: its time is over, its context
was cancelled before, or the deadline of its context came first.  A statement is
run only after its wait is over, so what is cut off was not run, and what is run
has the outcome that it would have without any context.
-/

namespace World

/-! ## The end of a wait -/

section Waits

variable {σ κ : Type} [Backend σ κ]

/-- While time elapses up to a limit, it stays before the limit or does not move at all. -/
theorem elapseWith_now (stop : World σ κ -> Bool) (limit fuel : Nat) (w : World σ κ) :
    (elapseWith stop limit fuel w).now < limit ∨ (elapseWith stop limit fuel w).now = w.now := by
  induction fuel generalizing w with
  | zero => exact Or.inr rfl
  | succ fuel inductionHypothesis =>
      rw [elapseWith]
      split
      · exact Or.inr rfl
      · split
        · exact Or.inr rfl
        · rename_i errand rest first
          split
          · rename_i due
            have next := inductionHypothesis
              (run { w with errands := rest, now := max w.now errand.due } errand.task)
            rw [(run_keeps _ _).2] at next
            rcases next with before | still
            · exact Or.inl before
            · simp only at still
              omega
          · exact Or.inr rfl

/-- How a wait within a context ended, and why. -/
inductive Verdict (w : World σ κ) (context : Context) (operation : String) (time : Nat) :
    Except Error Unit × World σ κ -> Prop
  | elapsed {w' : World σ κ} (free : w'.isCancelled context = false)
      (inTime : time = 0 ∨
        forall deadline, context.deadline = some deadline -> w.now + time ≤ deadline)
      (now : w'.now = w.now + time) : Verdict w context operation time (.ok (), w')
  | cancelled {w' : World σ κ} (cancelled : w'.isCancelled context = true)
      (early : w' = w ∨ w'.now < w.now + time) :
      Verdict w context operation time (.error (.cancelled operation), w')
  | timedOut {w' : World σ κ} {deadline : Nat} (given : context.deadline = some deadline)
      (short : deadline < w.now + time) (reached : deadline ≤ w'.now) :
      Verdict w context operation time (.error (.timedOut operation), w')

/-- The limit of a wait is its end, unless there is a deadline that comes before. -/
theorem limit_cases (context : Context) (finish : Nat) :
    let limit := (context.deadline.map (min finish)).getD finish
    (limit = finish ∧
        forall deadline, context.deadline = some deadline -> finish ≤ deadline) ∨
      exists deadline, context.deadline = some deadline ∧ deadline < finish ∧
        limit = deadline := by
  cases given : context.deadline with
  | none => exact Or.inl ⟨rfl, fun _ impossible => nomatch impossible⟩
  | some deadline =>
      simp only [Option.map_some, Option.getD_some]
      rcases Nat.lt_or_ge deadline finish with before | after
      · exact Or.inr ⟨deadline, rfl, before, Nat.min_eq_right (Nat.le_of_lt before)⟩
      · refine Or.inl ⟨Nat.min_eq_left after, ?_⟩
        rintro _ ⟨⟩
        exact after

theorem await_verdict (w : World σ κ) (context : Context) (operation : String) (time : Nat) :
    Verdict w context operation time (w.await context operation time) := by
  rw [await]
  split
  · rename_i cancelled
    exact .cancelled cancelled (Or.inl rfl)
  · rename_i free
    split
    · rename_i zero
      exact .elapsed (Bool.eq_false_iff.mpr free) (Or.inl zero) (by rw [zero]; rfl)
    · rename_i positive
      have limited := limit_cases context (w.now + time)
      simp only at limited ⊢
      generalize (context.deadline.map (min (w.now + time))).getD (w.now + time) = limit
        at limited ⊢
      have elapsed := elapseWith_now (fun w => w.isCancelled context) limit w.load w
      rw [← elapse] at elapsed
      have early : (w.elapse (fun w => w.isCancelled context) limit).now < w.now + time := by
        rcases limited with ⟨same, _⟩ | ⟨_, _, before, same⟩ <;> omega
      split
      · rename_i cancelled
        exact .cancelled cancelled (Or.inr early)
      · rename_i still
        rcases limited with ⟨same, inTime⟩ | ⟨deadline, given, before, same⟩
        · rw [if_neg (by omega)]
          refine .elapsed (Bool.eq_false_iff.mpr still) (Or.inr inTime) ?_
          exact Nat.max_eq_right (Nat.le_of_lt early)
        · rw [if_pos (by omega)]
          exact .timedOut given before (same ▸ Nat.le_max_right _ _)

/-- Nothing is waited for within a context that is cancelled already. -/
theorem await_of_cancelled {w : World σ κ} {context : Context}
    (cancelled : w.isCancelled context = true) (operation : String) (time : Nat) :
    w.await context operation time = (.error (.cancelled operation), w) := by
  rw [await, if_pos cancelled]

end Waits

/-! ## What the others do meanwhile -/

variable {rules : Rules} {w w' : World Server Session} {session : Session}

/-- The others left the session of a number alone, opened no session and made nothing durable.
They ran statements only on sessions that were in the hands of the background work. -/
structure Meanwhile (number : Nat) (w w' : World Server Session) : Prop where
  sameRules : w'.server.rules = w.server.rules
  log : w'.server.log number = w.server.log number
  closings : w'.server.closings number = w.server.closings number
  opened : w'.server.ledger.opened = w.server.ledger.opened
  committed : w'.server.ledger.committed = w.server.ledger.committed
  runs : w.server.RunsOn (fun other => other ≠ number ∧ w.Busy other) w'.server

/-- A session in the hands of the background work is in circulation. -/
theorem Busy.mem_circulation {number : Nat} (busy : w.Busy number) :
    number ∈ (w.circulation []).sessions.map Session.number := by
  rcases busy with ⟨⟨due, task⟩, member, session, held, rfl⟩
  apply List.mem_map_of_mem
  cases task with
  | cancel token => cases held
  | connect pool target pinned => cases held
  | position pool other sql rest =>
      cases held
      have moving : session ∈ w.errands.filterMap (fun errand => errand.task.moving?) :=
        List.mem_filterMap.mpr ⟨_, member, rfl⟩
      exact List.mem_append_left _ (List.mem_append_right [] (List.mem_append_left _ moving))
  | abandon other inTime =>
      cases held
      have leaving : session ∈ w.errands.filterMap (fun errand => errand.task.leaving?) :=
        List.mem_filterMap.mpr ⟨_, member, rfl⟩
      exact List.mem_append_right _ leaving

/-- Whatever is waited for, the others do nothing to a session that is not in circulation. -/
theorem await_meanwhile (tame : Tame (rules.licence True).shut w) (same : w.server.rules = rules)
    {number : Nat} (absent : (w.circulation []).Absent number) (context : Context)
    (operation : String) (time : Nat) :
    Meanwhile number w (w.await context operation time).2 ∧
      Passage (rules.licence True).shut [] w [] (w.await context operation time).2 := by
  have confined : Confined (fun other => other ≠ number ∧ w.Busy other) w := by
    apply tame.confined
    intro other busy
    refine ⟨?_, busy⟩
    rintro rfl
    exact absent.absent busy.mem_circulation
  have runs := (await_footprint context operation time).runs confined
  have passage : Passage (rules.licence True).shut [] w [] (w.await context operation time).2 := by
    rcases await_cases (rules.licence True).shut w context operation time
      with ⟨w', passed, waited | ⟨e, cause, waited⟩⟩ <;> exact waited ▸ passed
  rcases (passage.conduct tame).bystander absent with ⟨_, log, closings⟩
  rcases passage.hushed tame same with ⟨rules', opened, committed⟩
  exact ⟨⟨rules'.trans same.symm, log, closings, opened, committed, runs⟩, passage⟩

/-! ## Statements -/

/-- Why a statement was cut off: its context was cancelled before it was complete, or the deadline
of its context came first. -/
inductive Cause (context : Context) (operation : String) (time : Nat)
    (w w' : World Server Session) : Error -> Prop
  | cancelled (cancelled : w'.isCancelled context = true)
      (early : w' = w ∨ w'.now < w.now + time) :
      Cause context operation time w w' (.cancelled operation)
  | timedOut {deadline : Nat} (given : context.deadline = some deadline)
      (short : deadline < w.now + time) (reached : deadline ≤ w'.now) :
      Cause context operation time w w' (.timedOut operation)

/-- What comes of a statement on a session within a context: for some reason it was cut off and not
run, or it was complete in time, while its context lasted, and came to its own outcome. -/
inductive Trial (rules : Rules) (context : Context) (operation sql : String) (session : Session)
    (w : World Server Session) {α : Type} (own : Except Error α) :
    Except Error α × Session × World Server Session -> Prop
  | cut {w' : World Server Session} {e : Error} (meanwhile : Meanwhile session.number w w')
      (passed : Passage (rules.licence True).shut [] w [] w')
      (cause : Cause context operation (w.delay sql) w w' e) :
      Trial rules context operation sql session w own (.error e, session, w')
  | ran {w' : World Server Session} (meanwhile : Meanwhile session.number w w')
      (passed : Passage (rules.licence True).shut [] w [] w')
      (free : w'.isCancelled context = false)
      (inTime : w.delay sql = 0 ∨
        forall deadline, context.deadline = some deadline -> w.now + w.delay sql ≤ deadline)
      (now : w'.now = w.now + w.delay sql) :
      Trial rules context operation sql session w own
        (own, rules.move session sql, w'.say sql session)

section Trials

variable (tame : Tame (rules.licence True).shut w) (same : w.server.rules = rules)
  (absent : (w.circulation []).Absent session.number) (context : Context)
  (operation sql : String)
include tame same absent

/-- Once a wait is over a statement is run; before that it can only be cut off. -/
theorem trial_of_await {α : Type} {own : Except Error α}
    {answer : Except Error α × Session × World Server Session}
    (cuts : forall e w', w.await context operation (w.delay sql) = (.error e, w') ->
      answer = (.error e, session, w'))
    (runs : forall w', w.await context operation (w.delay sql) = (.ok (), w') ->
      w'.server.rules = w.server.rules ->
      answer = (own, w.server.rules.move session sql, w'.say sql session)) :
    Trial rules context operation sql session w own answer := by
  have verdict := w.await_verdict context operation (w.delay sql)
  rcases await_meanwhile tame same absent context operation (w.delay sql)
    with ⟨meanwhile, passed⟩
  generalize w.await context operation (w.delay sql) = waited
    at verdict meanwhile passed cuts runs
  cases verdict with
  | elapsed free inTime now =>
      rw [runs _ rfl meanwhile.sameRules, same]
      exact .ran meanwhile passed free inTime now
  | cancelled cancelled early =>
      rw [cuts _ _ rfl]
      exact .cut meanwhile passed (.cancelled cancelled early)
  | timedOut given short reached =>
      rw [cuts _ _ rfl]
      exact .cut meanwhile passed (.timedOut given short reached)

theorem executeIn_trial : Trial rules context operation sql session w (w.execute sql session).1
    (w.executeIn context operation sql session) := by
  apply trial_of_await tame same absent context operation sql
  · intro e w' waited
    rw [executeIn, waited]
  · intro w' waited same'
    rw [executeIn, waited, execute_eq rfl]
    exact execute_eq same' sql session

theorem queryIn_trial : Trial rules context operation sql session w (w.query sql session).1
    (w.queryIn context operation sql session) := by
  apply trial_of_await tame same absent context operation sql
  · intro e w' waited
    rw [queryIn, waited]
  · intro w' waited same'
    rw [queryIn, waited, query_eq rfl]
    exact query_eq same' sql session

end Trials
end World
end ScopedSql
