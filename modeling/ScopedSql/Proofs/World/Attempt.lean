import ScopedSql.Proofs.World.Blame
import ScopedSql.Proofs.World.Elapse

namespace ScopedSql

/-!
# Statements within a context

A statement within a context is cut off before it is run, or it is run once the
others had their way for a while.  What is not cut off is refused or succeeds as
the rules of the server have it.  Cleaning up is cut off only if it takes too
long.
-/

namespace World

section Waiting

variable {σ κ : Type} [Backend σ κ]

/-- The world after a wait that nothing cuts off. -/
def pause (w : World σ κ) (time : Nat) : World σ κ :=
  if time = 0 then w else (w.elapse (fun _ => false) (w.now + time)).moveTo (w.now + time)

/-- Cleaning up waits as long as it has to, but no longer than it may. -/
theorem await_of_cleanup (w : World σ κ) (operation : String) (time : Nat) :
    w.await w.cleanup operation time =
      (if time ≤ cleanupTime then .ok () else .error (.timedOut operation),
        w.pause (min time cleanupTime)) := by
  have free : forall w' : World σ κ, w'.isCancelled w.cleanup = false := fun _ => rfl
  have limit : (w.cleanup.deadline.map (min (w.now + time))).getD (w.now + time) =
      w.now + min time cleanupTime := Nat.add_min_add_left _ _ _
  have long : 0 < cleanupTime := by decide
  rw [await, free, if_neg Bool.false_ne_true]
  split
  · rename_i zero
    rw [zero, Nat.zero_min, if_pos (Nat.zero_le _)]
    rfl
  · rename_i positive
    have some : min time cleanupTime ≠ 0 := by omega
    simp only [limit, free, Bool.false_eq_true, if_false]
    rw [pause, if_neg some]
    by_cases inTime : time ≤ cleanupTime
    · rw [if_pos inTime, if_neg (by omega), Nat.min_eq_left inTime]
    · rw [if_neg inTime, if_pos (by omega)]

end Waiting

open Scripted

variable {w w' : World Server Session} {session : Session} {licence : Licence}

/-- A wait lasts until it is over or is cut off. -/
theorem await_cases (licence : Licence) (w : World Server Session) (context : Context)
    (operation : String) (time : Nat) : exists w', Passage licence [] w [] w' ∧
      (w.await context operation time = (.ok (), w') ∨
        exists e, Error.Interrupts operation e ∧
          w.await context operation time = (.error e, w')) := by
  rw [await]
  split
  · exact ⟨w, .refl, Or.inr ⟨_, Or.inl rfl, rfl⟩⟩
  · split
    · exact ⟨w, .refl, Or.inl rfl⟩
    · simp only
      split
      · exact ⟨_, elapse_passage _ _, Or.inr ⟨_, Or.inl rfl, rfl⟩⟩
      · split
        · exact ⟨_, (elapse_passage _ _).trans (moveTo_passage _), Or.inr ⟨_, Or.inr rfl, rfl⟩⟩
        · exact ⟨_, (elapse_passage _ _).trans (moveTo_passage _), Or.inl rfl⟩

/-- What takes no time is cut off only if its context was cancelled before. -/
theorem await_zero (w : World Server Session) (context : Context) (operation : String) :
    w.await context operation 0 =
      (if w.isCancelled context then .error (.cancelled operation) else .ok (), w) := by
  rw [await]
  split <;> rfl

/-- What comes of a statement within a context: it is cut off before it is run, or the session
takes it once the others had their way for a while, and it is refused or succeeds. -/
inductive Attempt (licence : Licence) (operation sql : String) (session : Session)
    (w : World Server Session) {α : Type} : Except Error α × Session × World Server Session -> Prop
  | cut {w' : World Server Session} {e : Error} (passed : Passage licence [] w [] w')
      (cause : e.Interrupts operation) :
      Attempt licence operation sql session w (.error e, session, w')
  | refused {w' : World Server Session} {e : Error} (passed : Passage licence [] w [] w')
      (refused : w.server.rules.refusal? sql = some e) :
      Attempt licence operation sql session w (.error e, session, w'.say sql session)
  | done {w' : World Server Session} {value : α} (passed : Passage licence [] w [] w')
      (accepted : w.server.rules.refusal? sql = none) :
      Attempt licence operation sql session w
        (.ok value, session.follow sql, w'.say sql session)

theorem executeIn_attempt (tame : Tame licence w) (context : Context) (operation sql : String)
    (session : Session) :
    Attempt licence operation sql session w (w.executeIn context operation sql session) := by
  rcases await_cases licence w context operation (w.delay sql)
    with ⟨w', passed, waited | ⟨e, cause, waited⟩⟩
  · have rules : w'.server.rules = w.server.rules := (passed.conduct tame).rules
    rw [executeIn, waited]
    cases refused : w.server.rules.refusal? sql with
    | some e =>
        simp only [execute_of_refused (rules ▸ refused)]
        exact .refused passed refused
    | none =>
        rcases execute_of_accepted (rules ▸ refused) session with ⟨count, ran⟩
        simp only [ran]
        exact .done passed refused
  · rw [executeIn, waited]
    exact .cut passed cause

theorem queryIn_attempt (tame : Tame licence w) (context : Context) (operation sql : String)
    (session : Session) :
    Attempt licence operation sql session w (w.queryIn context operation sql session) := by
  rcases await_cases licence w context operation (w.delay sql)
    with ⟨w', passed, waited | ⟨e, cause, waited⟩⟩
  · have rules : w'.server.rules = w.server.rules := (passed.conduct tame).rules
    rw [queryIn, waited]
    cases refused : w.server.rules.refusal? sql with
    | some e =>
        simp only [query_of_refused (rules ▸ refused)]
        exact .refused passed refused
    | none =>
        rcases query_of_accepted (rules ▸ refused) session with ⟨set, ran⟩
        simp only [ran]
        exact .done passed refused
  · rw [queryIn, waited]
    exact .cut passed cause

/-- Cleaning up a session: a rollback is run unless it takes too long. -/
theorem executeIn_cleanup (licence : Licence) (w : World Server Session) (operation : String)
    (session : Session) :
    exists w', Passage licence [] w [] w' ∧
      (w.executeIn w.cleanup operation "ROLLBACK" session).2 =
        if w.delay "ROLLBACK" ≤ cleanupTime then
          (w'.server.rules.move session "ROLLBACK", w'.say "ROLLBACK" session)
        else (session, w') := by
  have outcome := congrArg Prod.fst (await_of_cleanup w operation (w.delay "ROLLBACK"))
  rcases await_cases licence w w.cleanup operation (w.delay "ROLLBACK")
    with ⟨w', passed, waited | ⟨e, cause, waited⟩⟩
  · refine ⟨w', passed, ?_⟩
    rcases execute_moves w' "ROLLBACK" session with ⟨result, ran⟩
    rw [executeIn, waited]
    rw [waited] at outcome
    by_cases inTime : w.delay "ROLLBACK" ≤ cleanupTime
    · simp only [ran, if_pos inTime]
    · rw [if_neg inTime] at outcome
      cases outcome
  · refine ⟨w', passed, ?_⟩
    rw [executeIn, waited]
    rw [waited] at outcome
    by_cases inTime : w.delay "ROLLBACK" ≤ cleanupTime
    · rw [if_pos inTime] at outcome
      cases outcome
    · rw [if_neg inTime]

/-- Opening a session within a context takes no time, and gives the next number if it succeeds. -/
theorem connectIn_cases (w : World Server Session) (context : Context) (target : Target) :
    (exists e, w.connectIn context target = (.error e, w)) ∨
      w.connectIn context target =
        (.ok (Session.fresh (w.server.ledger.opened + 1)), w.entered) := by
  rw [connectIn, await_zero]
  cases w.isCancelled context with
  | true => exact Or.inl ⟨_, rfl⟩
  | false => exact connect_cases w target

/-- Who has a session in hand and attempts a statement has it in hand afterwards. -/
theorem Attempt.passage {α : Type} {operation sql : String}
    {answer : Except Error α × Session × World Server Session}
    (attempt : Attempt licence operation sql session w answer) (speaks : licence.speaks sql) :
    Passage licence [session] w [answer.2.1] answer.2.2 := by
  apply Passage.ofTame
  intro tame
  cases attempt with
  | cut passed cause => exact passed.lift [session]
  | @refused w' e passed refused =>
      have rules : w'.server.rules = w.server.rules := (passed.conduct tame).rules
      have said := (passed.lift [session]).trans (.say speaks)
      rw [rules, Rules.move_of_refused refused] at said
      exact said
  | @done w' value passed accepted =>
      have rules : w'.server.rules = w.server.rules := (passed.conduct tame).rules
      have said := (passed.lift [session]).trans (.say speaks)
      rw [rules] at said
      rw [← Rules.move_of_accepted accepted]
      exact said

end World
end ScopedSql
