import ScopedSql.Proofs.World.Interruption

namespace ScopedSql
namespace World

/-!
# Time that goes by undisturbed

If nothing stops it, the background work that is due before a limit is done one
errand after the other, and what is left begins at the limit or later.  So it does
not matter in how many pieces a stretch of time goes by: waiting for one thing and
then for another comes to the same as waiting once until the later time.
-/

variable {σ κ : Type} [Backend σ κ]

/-- The first errand is due at a time or later, if there is one. -/
def DueFrom (time : Nat) (w : World σ κ) : Prop :=
  forall errand rest, w.errands = errand :: rest -> time ≤ errand.due

/-- From one world to another the background work that is due before a limit is done. -/
inductive Lapse (limit : Nat) : World σ κ -> World σ κ -> Prop
  | rest {w : World σ κ} (late : w.DueFrom limit) : Lapse limit w w
  | work {w w' : World σ κ} {errand : Errand κ} {others : List (Errand κ)}
      (first : w.errands = errand :: others) (due : errand.due < limit)
      (onward : Lapse limit
        (run { w with errands := others, now := max w.now errand.due } errand.task) w') :
      Lapse limit w w'

theorem lapse_elapseWith {limit fuel : Nat} {w : World σ κ} (enough : w.load ≤ fuel) :
    Lapse limit w (elapseWith (fun _ => false) limit fuel w) := by
  induction fuel generalizing w with
  | zero =>
      apply Lapse.rest
      intro errand rest first
      have positive := errand.task.steps_pos
      rw [load, first, List.foldr_cons] at enough
      omega
  | succ fuel inductionHypothesis =>
      rw [elapseWith, if_neg Bool.false_ne_true]
      split
      · rename_i none
        apply Lapse.rest
        intro errand rest first
        rw [none] at first
        cases first
      · rename_i errand rest first
        split
        · rename_i due
          -- One step lowers both the load and the fuel, so that the fuel stays enough.
          apply Lapse.work first due
          apply inductionHypothesis
          have less := (run_keeps { w with errands := rest, now := max w.now errand.due }
            errand.task).1
          have all : w.load = errand.task.steps +
              load { w with errands := rest, now := max w.now errand.due } := by
            rw [load, first, List.foldr_cons]
            rfl
          omega
        · rename_i late
          apply Lapse.rest
          intro other others first'
          cases first.symm.trans first'
          exact Nat.le_of_not_lt late

variable {w w' w'' : World σ κ} {limit time : Nat}

/-- What the background work comes to does not depend on how it is looked at. -/
theorem Lapse.unique (lapse : Lapse limit w w') (other : Lapse limit w w'') : w'' = w' := by
  induction lapse with
  | rest late =>
      cases other with
      | rest late' => rfl
      | work first due onward => exact absurd due (Nat.not_lt_of_le (late _ _ first))
  | work first due onward inductionHypothesis =>
      cases other with
      | rest late => exact absurd due (Nat.not_lt_of_le (late _ _ first))
      | work first' due' onward' =>
          cases first.symm.trans first'
          exact inductionHypothesis onward'

/-- After the work before a limit comes the work before a later one. -/
theorem Lapse.trans {later : Nat} (lapse : Lapse limit w w') (after : limit ≤ later)
    (onward : Lapse later w' w'') : Lapse later w w'' := by
  induction lapse with
  | rest late => exact onward
  | work first due _ inductionHypothesis =>
      exact .work first (Nat.lt_of_lt_of_le due after) (inductionHypothesis onward)

theorem Lapse.dueFrom (lapse : Lapse limit w w') : w'.DueFrom limit := by
  induction lapse with
  | rest late => exact late
  | work _ _ _ inductionHypothesis => exact inductionHypothesis

theorem Lapse.now_le (lapse : Lapse limit w w') : w.now ≤ w'.now := by
  induction lapse with
  | rest late => exact Nat.le_refl _
  | @work w w' errand others _ _ _ inductionHypothesis =>
      rw [(run_keeps _ _).2] at inductionHypothesis
      exact Nat.le_trans (Nat.le_max_left _ _) inductionHypothesis

theorem Lapse.now_lt (lapse : Lapse limit w w') (before : w.now < limit) : w'.now < limit := by
  induction lapse with
  | rest late => exact before
  | work _ due _ inductionHypothesis =>
      apply inductionHypothesis
      rw [(run_keeps _ _).2]
      exact Nat.max_lt.mpr ⟨before, due⟩

/-- It does not matter to the background work that the clock is ahead, if nothing is due before. -/
theorem Lapse.moveTo (lapse : Lapse limit w w') (due : w.DueFrom time) (ahead : w.now ≤ time)
    {last : Nat} (within : time ≤ last) :
    exists w2, Lapse limit (w.moveTo time) w2 ∧ w2.moveTo last = w'.moveTo last := by
  cases lapse with
  | rest late =>
      refine ⟨w.moveTo time, .rest late, ?_⟩
      simp only [World.moveTo, Nat.max_eq_right ahead, Nat.max_eq_right within,
        Nat.max_eq_right (Nat.le_trans ahead within)]
  | @work _ _ errand others first early onward =>
      refine ⟨w', .work first early ?_, rfl⟩
      have later := due _ _ first
      have same : max (max w.now time) errand.due = max w.now errand.due := by omega
      simp only [World.moveTo, same]
      exact onward

/-! ## The world at a time -/

/-- The world once all that is due by some time has been done. -/
def upTo (w : World σ κ) (time : Nat) : World σ κ :=
  (w.elapse (fun _ => false) (time + 1)).moveTo time

theorem lapse_elapse (w : World σ κ) (limit : Nat) :
    Lapse limit w (w.elapse (fun _ => false) limit) :=
  lapse_elapseWith (Nat.le_refl _)

theorem pause_now (w : World σ κ) (time : Nat) : (w.pause time).now = w.now + time := by
  rw [pause]
  split
  · rename_i zero
    rw [zero, Nat.add_zero]
  · rename_i positive
    have before := (lapse_elapse w (w.now + time)).now_lt (by omega)
    exact Nat.max_eq_right (Nat.le_of_lt before)

/-- Who waits first and then looks at a later time sees what he would have seen at once. -/
theorem upTo_pause (w : World σ κ) {time last : Nat} (within : w.now + time ≤ last) :
    (w.pause time).upTo last = w.upTo last := by
  rw [pause]
  split
  · rfl
  · rename_i positive
    have waited := lapse_elapse w (w.now + time)
    have rest := lapse_elapse (w.elapse (fun _ => false) (w.now + time)) (last + 1)
    have whole := waited.trans (by omega) rest
    have before := waited.now_lt (by omega)
    rcases rest.moveTo waited.dueFrom (Nat.le_of_lt before) within with ⟨w2, moved, same⟩
    rw [upTo, upTo, moved.unique (lapse_elapse _ _), same, whole.unique (lapse_elapse _ _)]

theorem settle_now (w : World σ κ) : w.settle.now = w.now := by
  have lapse := lapse_elapse w (w.now + 1)
  exact Nat.le_antisymm (Nat.le_of_lt_succ (lapse.now_lt (Nat.lt_succ_self _))) lapse.now_le

theorem upTo_settle (w : World σ κ) {last : Nat} (within : w.now ≤ last) :
    w.settle.upTo last = w.upTo last := by
  have settled := lapse_elapse w (w.now + 1)
  have whole := settled.trans (by omega) (lapse_elapse w.settle (last + 1))
  rw [upTo, upTo, whole.unique (lapse_elapse w (last + 1))]

/-- Once all that is due has been done there is nothing more to do. -/
theorem upTo_now_of_settle (w : World σ κ) : w.settle.upTo w.settle.now = w.settle := by
  have settled : Lapse (w.now + 1) w.settle w.settle :=
    .rest (lapse_elapse w (w.now + 1)).dueFrom
  rw [upTo, settle_now, settled.unique (lapse_elapse _ _), moveTo, settle_now, Nat.max_self,
    ← settle_now w]

/-! ## Waiting -/

variable {context : Context} {operation : String}

/-- What was not stopped went by as if nothing could stop it. -/
theorem elapseWith_of_free {stop : World σ κ -> Bool} {fuel : Nat} (limit : Nat)
    (free : stop (elapseWith stop limit fuel w) = false) :
    elapseWith stop limit fuel w = elapseWith (fun _ => false) limit fuel w := by
  induction fuel generalizing w with
  | zero => rfl
  | succ fuel inductionHypothesis =>
      rw [elapseWith] at free ⊢
      rw [elapseWith, if_neg Bool.false_ne_true]
      split
      · rename_i stopped
        rw [if_pos stopped] at free
        rw [stopped] at free
        cases free
      · rename_i unstopped
        rw [if_neg unstopped] at free
        split
        · rfl
        · rename_i errand rest first
          simp only [first] at free
          split
          · rename_i due
            rw [if_pos due] at free
            exact inductionHypothesis free
          · rfl

/-- A wait without a deadline is not cut off unless it is cancelled. -/
theorem await_of_free (endless : context.deadline = none)
    (free : (w.await context operation time).2.isCancelled context = false) :
    w.await context operation time = (.ok (), w.pause time) := by
  rw [await] at free ⊢
  rw [pause]
  split
  · rename_i cancelled
    rw [if_pos cancelled] at free
    exact absurd cancelled (Bool.eq_false_iff.mp free)
  · rename_i start
    rw [if_neg start] at free
    split
    · rfl
    · rename_i positive
      simp only [if_neg positive, endless, Option.map_none, Option.getD_none, Nat.lt_irrefl,
        if_false] at free ⊢
      have still : (w.elapse (fun w => w.isCancelled context) (w.now + time)).isCancelled context =
          false := by
        cases cancelled :
            (w.elapse (fun w => w.isCancelled context) (w.now + time)).isCancelled context with
        | false => rfl
        | true =>
            rw [cancelled, if_pos rfl] at free
            exact cancelled.symm.trans free
      rw [still, if_neg Bool.false_ne_true]
      rw [elapse] at still ⊢
      rw [elapseWith_of_free _ still]
      rfl

/-! ## Tokens -/

omit [Backend σ κ] in
/-- A token that is cancelled in the end only if it is cancelled later is not cancelled before. -/
theorem free_of_subset (more : w.cancelled ⊆ w'.cancelled)
    (free : w'.isCancelled context = false) : w.isCancelled context = false := by
  rw [isCancelled] at free ⊢
  cases given : context.token with
  | none => rfl
  | some token =>
      simp only [given, Option.map_some, Option.getD_some] at free ⊢
      apply Bool.eq_false_iff.mpr
      intro here
      have there := List.contains_iff_mem.mpr (more (List.contains_iff_mem.mp here))
      rw [there] at free
      cases free

theorem position_cancelled (pool : Nat) (session : κ) (sqls : List String) (w : World σ κ) :
    (position pool session sqls w).cancelled = w.cancelled := by
  induction sqls generalizing session w with
  | nil =>
      rw [position, putBack]
      split <;> rfl
  | cons sql rest inductionHypothesis =>
      have ran : (w.execute sql session).2.2.cancelled = w.cancelled := rfl
      rw [position]
      split
      · generalize w.execute sql session = answer at ran ⊢
        rcases answer with ⟨e | count, session', w'⟩
        · exact ran
        · exact (inductionHypothesis session' w').trans ran
      · rfl

theorem run_cancelled (w : World σ κ) (task : Task κ) :
    w.cancelled ⊆ (w.run task).cancelled := by
  cases task with
  | cancel token => exact List.subset_cons_self _ _
  | abandon session inTime => cases inTime <;> exact List.Subset.refl _
  | connect pool target pinned =>
      have opened : (w.connect target).2.cancelled = w.cancelled := rfl
      rw [run, ← opened]
      rcases w.connect target with ⟨e | session, w'⟩
      · exact List.Subset.refl _
      · exact position_cancelled pool session pinned (w'.note session pinned) ▸ List.Subset.refl _
  | position pool session sql rest =>
      have ran : (w.execute sql session).2.2.cancelled = w.cancelled := rfl
      rw [run, ← ran]
      rcases w.execute sql session with ⟨e | count, session', w'⟩
      · exact List.Subset.refl _
      · exact position_cancelled pool session' rest w' ▸ List.Subset.refl _

/-- A token that is cancelled stays so while time goes by. -/
theorem elapseWith_cancelled (stop : World σ κ -> Bool) (limit fuel : Nat) (w : World σ κ) :
    w.cancelled ⊆ (elapseWith stop limit fuel w).cancelled := by
  induction fuel generalizing w with
  | zero => exact List.Subset.refl _
  | succ fuel inductionHypothesis =>
      rw [elapseWith]
      split
      · exact List.Subset.refl _
      · split
        · exact List.Subset.refl _
        · rename_i errand rest first
          split
          · exact List.Subset.trans
              (run_cancelled { w with errands := rest, now := max w.now errand.due } errand.task)
              (inductionHypothesis _)
          · exact List.Subset.refl _

theorem await_cancelled (w : World σ κ) (context : Context) (operation : String) (time : Nat) :
    w.cancelled ⊆ (w.await context operation time).2.cancelled := by
  rw [await]
  split
  · exact List.Subset.refl _
  · split
    · exact List.Subset.refl _
    · simp only
      split
      · exact elapseWith_cancelled _ _ _ w
      · split <;> exact elapseWith_cancelled _ _ _ w

theorem settle_cancelled (w : World σ κ) : w.cancelled ⊆ w.settle.cancelled :=
  elapseWith_cancelled _ _ _ w

theorem executeIn_cancelled (w : World σ κ) (context : Context) (operation sql : String)
    (session : κ) : (w.await context operation (w.delay sql)).2.cancelled ⊆
      (w.executeIn context operation sql session).2.2.cancelled := by
  rw [executeIn]
  rcases w.await context operation (w.delay sql) with ⟨e | _, w'⟩ <;> exact List.Subset.refl _

theorem queryIn_cancelled (w : World σ κ) (context : Context) (operation sql : String)
    (session : κ) : (w.await context operation (w.delay sql)).2.cancelled ⊆
      (w.queryIn context operation sql session).2.2.cancelled := by
  rw [queryIn]
  rcases w.await context operation (w.delay sql) with ⟨e | _, w'⟩ <;> exact List.Subset.refl _

/-- A statement within a context that does not end is run once its time is over. -/
theorem executeIn_of_free {sql : String} {session : κ} (endless : context.deadline = none)
    (free : (w.executeIn context operation sql session).2.2.isCancelled context = false) :
    w.executeIn context operation sql session = (w.pause (w.delay sql)).execute sql session := by
  have before := free_of_subset (executeIn_cancelled w context operation sql session) free
  rw [executeIn, await_of_free endless before]

theorem queryIn_of_free {sql : String} {session : κ} (endless : context.deadline = none)
    (free : (w.queryIn context operation sql session).2.2.isCancelled context = false) :
    w.queryIn context operation sql session = (w.pause (w.delay sql)).query sql session := by
  have before := free_of_subset (queryIn_cancelled w context operation sql session) free
  rw [queryIn, await_of_free endless before]

end World
end ScopedSql
