import ScopedSql.World.Elapse

namespace ScopedSql

/-!
# Background work comes to an end

Putting in an errand keeps the errands in the order of their due times.  Doing
the next step of a task leaves less to do than before, so that the fuel with
which time elapses is never what stops it.
-/

/-- The session that a task has, and on which it runs statements. -/
def Task.held? {κ : Type} : Task κ -> Option κ
  | .position _ session _ _ => some session
  | .abandon session _ => some session
  | _ => none

theorem Task.steps_pos {κ : Type} (task : Task κ) : 0 < task.steps := by
  cases task <;> simp only [steps] <;> omega

namespace World

/-- Putting in an errand adds this errand and nothing else. -/
theorem insertErrand_perm {κ : Type} (errand : Errand κ) (errands : List (Errand κ)) :
    (insertErrand errand errands).Perm (errand :: errands) := by
  induction errands with
  | nil => exact List.Perm.refl _
  | cons first rest inductionHypothesis =>
      rw [insertErrand]
      split
      · exact (inductionHypothesis.cons first).trans (List.Perm.swap errand first rest)
      · exact List.Perm.refl _

/-- No errand is due later than one that follows it. -/
def InOrder {κ : Type} (errands : List (Errand κ)) : Prop :=
  errands.Pairwise (fun first later => first.due ≤ later.due)

theorem insertErrand_inOrder {κ : Type} (errand : Errand κ) {errands : List (Errand κ)}
    (ordered : InOrder errands) : InOrder (insertErrand errand errands) := by
  induction errands with
  | nil => exact List.pairwise_singleton _ _
  | cons first rest inductionHypothesis =>
      rcases List.pairwise_cons.mp ordered with ⟨least, ordered'⟩
      rw [insertErrand]
      split
      · rename_i sooner
        apply List.pairwise_cons.mpr
        refine ⟨?_, inductionHypothesis ordered'⟩
        intro later member
        rcases List.mem_cons.mp ((insertErrand_perm errand rest).subset member) with rfl | member
        · exact sooner
        · exact least later member
      · rename_i later
        have before : errand.due ≤ first.due := Nat.le_of_not_le later
        apply List.pairwise_cons.mpr
        refine ⟨?_, ordered⟩
        intro other member
        rcases List.mem_cons.mp member with rfl | member
        · exact before
        · exact Nat.le_trans before (least other member)

variable {σ κ : Type}

/-- An errand that is put in adds its own steps to those that are left. -/
theorem insertErrand_steps (errand : Errand κ) (errands : List (Errand κ)) :
    (insertErrand errand errands).foldr (fun errand rest => errand.task.steps + rest) 0 =
      errand.task.steps + errands.foldr (fun errand rest => errand.task.steps + rest) 0 := by
  induction errands with
  | nil => rfl
  | cons first rest inductionHypothesis =>
      rw [insertErrand]
      split
      · rw [List.foldr_cons, inductionHypothesis, List.foldr_cons, Nat.add_left_comm]
      · rfl

theorem spawn_load (w : World σ κ) (wait : Nat) (task : Task κ) :
    (w.spawn wait task).load = task.steps + w.load :=
  insertErrand_steps ⟨w.now + wait, task⟩ w.errands

theorem putBack_load (w : World σ κ) (pool : Nat) (session : κ) :
    (w.putBack pool session).load = w.load := by
  unfold putBack
  split <;> rfl

theorem putBack_now (w : World σ κ) (pool : Nat) (session : κ) :
    (w.putBack pool session).now = w.now := by
  unfold putBack
  split <;> rfl

variable [Backend σ κ]

/-- A statement takes no time by itself and leaves the errands alone. -/
theorem execute_keeps {w after : World σ κ} {sql : String} {session next : κ}
    {result : Except Error Nat} (ran : w.execute sql session = (result, next, after)) :
    after.load = w.load ∧ after.now = w.now :=
  ⟨congrArg (fun answer => answer.2.2.load) ran.symm,
    congrArg (fun answer => answer.2.2.now) ran.symm⟩

/-- Opening a session takes no time by itself and leaves the errands alone. -/
theorem connect_keeps {w after : World σ κ} {target : Target} {result : Except Error κ}
    (opened : w.connect target = (result, after)) : after.load = w.load ∧ after.now = w.now :=
  ⟨congrArg (fun answer => answer.2.load) opened.symm,
    congrArg (fun answer => answer.2.now) opened.symm⟩

/-- Putting a session through statements leaves at most as many steps as there are statements,
and takes no time by itself. -/
theorem position_keeps (pool : Nat) (session : κ) (sqls : List String) (w : World σ κ) :
    (position pool session sqls w).load ≤ w.load + sqls.length ∧
      (position pool session sqls w).now = w.now := by
  induction sqls generalizing session w with
  | nil => exact ⟨Nat.le_of_eq (putBack_load w pool session), putBack_now w pool session⟩
  | cons sql rest inductionHypothesis =>
      rw [position, List.length_cons]
      split
      · split
        · rename_i next after ran
          rcases inductionHypothesis next after with ⟨load, now⟩
          rw [(execute_keeps ran).1] at load
          exact ⟨Nat.le_succ_of_le load, now.trans (execute_keeps ran).2⟩
        · rename_i next after ran
          have load : (after.close next).load = w.load := (execute_keeps ran).1
          exact ⟨load ▸ Nat.le_add_right _ _, (execute_keeps ran).2⟩
      · refine ⟨?_, rfl⟩
        rw [spawn_load, Task.steps]
        omega

/-- Doing the next step of a task leaves less to do, and takes no time by itself. -/
theorem run_keeps (w : World σ κ) (task : Task κ) :
    (w.run task).load < w.load + task.steps ∧ (w.run task).now = w.now := by
  cases task with
  | cancel token => exact ⟨Nat.lt_succ_self _, rfl⟩
  | abandon session inTime => cases inTime <;> exact ⟨Nat.lt_succ_self _, rfl⟩
  | connect pool target pinned =>
      rw [run, Task.steps]
      split
      · rename_i session after opened
        rcases position_keeps pool session pinned (after.note session pinned) with ⟨load, now⟩
        have noted : (after.note session pinned).load = w.load := (connect_keeps opened).1
        rw [noted] at load
        exact ⟨Nat.lt_succ_of_le load, now.trans (connect_keeps opened).2⟩
      · rename_i after opened
        rw [(connect_keeps opened).1]
        exact ⟨by omega, (connect_keeps opened).2⟩
  | position pool session sql rest =>
      rw [run, Task.steps]
      split
      · rename_i next after ran
        rcases position_keeps pool next rest after with ⟨load, now⟩
        rw [(execute_keeps ran).1] at load
        exact ⟨Nat.lt_succ_of_le load, now.trans (execute_keeps ran).2⟩
      · rename_i next after ran
        have load : (after.close next).load = w.load := (execute_keeps ran).1
        exact ⟨by omega, (execute_keeps ran).2⟩

end World
end ScopedSql
