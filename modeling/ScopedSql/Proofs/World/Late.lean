import ScopedSql.Proofs.World.Lapse

namespace ScopedSql
namespace World

/-!
# Calls that come too late

A deadline that has passed cuts off whatever takes time, and it does so at once,
so that nobody else has his turn in between.  What takes no time is done all the
same.  So a call that is made too late gets as far as its first statement that
takes time, and no further.
-/

variable {σ κ : Type} {w w' : World σ κ} {context : Context}

/-- The deadline of a context has passed, and the background work that was due before is done. -/
def Late (context : Context) (w : World σ κ) : Prop :=
  exists deadline, context.deadline = some deadline ∧ deadline ≤ w.now ∧ w.DueFrom deadline

theorem DueFrom.anti {early time : Nat} (due : w.DueFrom time) (before : early ≤ time) :
    w.DueFrom early :=
  fun errand rest first => Nat.le_trans before (due errand rest first)

/-- It stays too late as long as neither the clock nor the background work moves. -/
theorem Late.of_same (late : Late context w) (now : w'.now = w.now)
    (errands : w'.errands = w.errands) : Late context w' := by
  rcases late with ⟨deadline, given, passed, due⟩
  refine ⟨deadline, given, now ▸ passed, ?_⟩
  intro errand rest first
  exact due errand rest (errands ▸ first)

/-- A context that ends even earlier is too late as well. -/
theorem Late.upTo (late : Late context w) (limit : Nat) : Late (context.upTo limit) w := by
  rcases late with ⟨deadline, given, passed, due⟩
  refine ⟨min limit deadline, by rw [Context.upTo, given]; rfl, ?_, ?_⟩
  · exact Nat.le_trans (Nat.min_le_right _ _) passed
  · exact due.anti (Nat.min_le_right _ _)

variable [Backend σ κ]

/-- No time elapses up to a limit if nothing is due before. -/
theorem elapse_of_dueFrom {limit : Nat} (due : w.DueFrom limit) (stop : World σ κ -> Bool) :
    w.elapse stop limit = w := by
  rw [elapse]
  cases w.load with
  | zero => rfl
  | succ fuel =>
      rw [elapseWith]
      split
      · rfl
      · split
        · rfl
        · rename_i errand rest first
          rw [if_neg (Nat.not_lt_of_le (due errand rest first))]

/-- Too late, a wait ends at once and changes nothing: it is over if it takes no time, and cut off
otherwise. -/
theorem Late.await (late : Late context w) (operation : String) (time : Nat) :
    w.await context operation time =
      (if w.isCancelled context then .error (.cancelled operation)
        else if time = 0 then .ok () else .error (.timedOut operation), w) := by
  rcases late with ⟨deadline, given, passed, due⟩
  rw [World.await]
  split
  · rfl
  · rename_i free
    split
    · rfl
    · have limit : (context.deadline.map (min (w.now + time))).getD (w.now + time) = deadline := by
        rw [given]
        exact Nat.min_eq_right (Nat.le_trans passed (Nat.le_add_right _ _))
      have still : w.moveTo deadline = w := by rw [moveTo, Nat.max_eq_left passed]
      simp only [limit, elapse_of_dueFrom due, still]
      rw [if_neg free, if_pos (by omega)]

/-- Too late, a statement is cut off and changes nothing, or it takes no time and is run. -/
theorem Late.executeIn (late : Late context w) (operation sql : String) (session : κ) :
    (exists e, w.executeIn context operation sql session = (.error e, session, w)) ∨
      w.delay sql = 0 ∧
        w.executeIn context operation sql session = w.execute sql session := by
  rw [World.executeIn, late.await]
  cases w.isCancelled context with
  | true => exact Or.inl ⟨_, rfl⟩
  | false =>
      by_cases instant : w.delay sql = 0
      · exact Or.inr ⟨instant, by rw [if_pos instant]; rfl⟩
      · exact Or.inl ⟨.timedOut operation, by rw [if_neg instant]; rfl⟩

theorem Late.queryIn (late : Late context w) (operation sql : String) (session : κ) :
    (exists e, w.queryIn context operation sql session = (.error e, session, w)) ∨
      w.delay sql = 0 ∧ w.queryIn context operation sql session = w.query sql session := by
  rw [World.queryIn, late.await]
  cases w.isCancelled context with
  | true => exact Or.inl ⟨_, rfl⟩
  | false =>
      by_cases instant : w.delay sql = 0
      · exact Or.inr ⟨instant, by rw [if_pos instant]; rfl⟩
      · exact Or.inl ⟨.timedOut operation, by rw [if_neg instant]; rfl⟩

/-- Once all that is due has been done, a deadline that has passed is too late. -/
theorem late_of_settle {deadline : Nat} (given : context.deadline = some deadline)
    (passed : deadline ≤ w.settle.now) : Late context w.settle := by
  have due : w.settle.DueFrom (w.now + 1) := (lapse_elapse w (w.now + 1)).dueFrom
  rw [settle_now] at passed
  exact ⟨deadline, given, by rw [settle_now]; exact passed, due.anti (by omega)⟩

/-! ## Statements on a scripted server -/

open Scripted

/-- What comes of a statement that is tried too late: it is cut off and changes nothing, or it takes
no time and is run. -/
inductive Tried (sql : String) (session : Session) (w : World Server Session) {α : Type} :
    Except Error α × Session × World Server Session -> Prop
  | cut {e : Error} : Tried sql session w (.error e, session, w)
  | ran {result : Except Error α} (instant : w.delay sql = 0) :
      Tried sql session w (result, w.server.rules.move session sql, w.say sql session)

variable {w : World Server Session}

theorem Late.executeIn_tried (late : Late context w) (operation sql : String)
    (session : Session) : Tried sql session w (w.executeIn context operation sql session) := by
  rcases late.executeIn operation sql session with ⟨e, cut⟩ | ⟨instant, ran⟩
  · rw [cut]
    exact .cut
  · rw [ran, execute_eq rfl]
    exact .ran instant

theorem Late.queryIn_tried (late : Late context w) (operation sql : String)
    (session : Session) : Tried sql session w (w.queryIn context operation sql session) := by
  rcases late.queryIn operation sql session with ⟨e, cut⟩ | ⟨instant, ran⟩
  · rw [cut]
    exact .cut
  · rw [ran, query_eq rfl]
    exact .ran instant

end World
end ScopedSql
