import ScopedSql.Proofs.World.Passage

namespace ScopedSql

namespace World

open Scripted

/-!
# Time goes by

Time that elapses is a passage: the background work uses none but the sessions in
circulation.  Once all that is due has been done, no session is being opened any
more.
-/

variable {w w' : World Server Session} {session : Session} {licence : Licence}

/-! ## The background work -/

/-- Putting a session through statements uses this session only. -/
theorem position_passage {pool : Nat} {sqls : List String}
    (spoken : forall sql, sql ∈ sqls -> licence.speaks sql) :
    Passage licence [session] w [] (position pool session sqls w) := by
  induction sqls generalizing session w with
  | nil => exact .putBack pool
  | cons sql rest inductionHypothesis =>
      have said : Passage licence [session] w [w.server.rules.move session sql]
          (w.say sql session) := .say (spoken sql List.mem_cons_self)
      rw [position]
      split
      · rcases execute_moves w sql session with ⟨result, ran⟩
        rw [ran]
        cases result with
        | error e => exact said.trans .close
        | ok count =>
            apply said.trans
            apply inductionHypothesis
            intro statement member
            exact spoken statement (List.mem_cons_of_mem _ member)
      · exact .spawnPosition _ pool spoken

/-- That a session was opened for a pool does not show. -/
theorem note_passage {hands : List Session} (opened : Session) (pinned : List String) :
    Passage licence hands w hands (w.note opened pinned) :=
  .calm rfl rfl (List.Perm.refl _).subperm (Nat.le_refl _)

/-- The world once the first errand is taken up. -/
def takeUp (w : World Server Session) (due : Nat) (rest : List (Errand Session)) :
    World Server Session :=
  { w with errands := rest, now := max w.now due }

/-- What is left behind is the rest of the background work. -/
theorem Tame.takeUp (tame : Tame licence w) {errand : Errand Session}
    {rest : List (Errand Session)} (first : w.errands = errand :: rest) :
    Tame licence (w.takeUp errand.due rest) := by
  have later : forall other, other ∈ rest -> other ∈ w.errands := by
    intro other member
    rw [first]
    exact List.mem_cons_of_mem _ member
  refine ⟨(List.pairwise_cons.mp (first ▸ tame.ordered)).2,
    fun other member => tame.spoken other (later other member), ?_⟩
  intro other member connects
  rcases tame.prompt other (later other member) connects with ⟨enters, due⟩
  exact ⟨enters, Nat.le_trans due (Nat.le_max_left _ _)⟩

/-- The sessions in circulation, told apart by whether the first errand holds them. -/
theorem circulation_of_first {errand : Errand Session} {rest : List (Errand Session)}
    (first : w.errands = errand :: rest) : w.circulation [] =
      { free := errand.task.moving?.toList ++ (w.takeUp errand.due rest).kept
        leaving := errand.task.leaving?.toList ++
          ((w.takeUp errand.due rest).circulation []).leaving
        server := w.server } := by
  rw [circulation, kept, first, filterMap_cons_toList, filterMap_cons_toList, List.nil_append,
    List.append_assoc]
  rfl

/-- An errand whose session can be used gives it into the hands of who takes it up. -/
theorem takeUp_passage (licence : Licence) {errand : Errand Session} {rest : List (Errand Session)}
    (first : w.errands = errand :: rest) (staying : errand.task.leaving? = none) :
    Passage licence [] w errand.task.moving?.toList (w.takeUp errand.due rest) := by
  refine ⟨fun tame => tame.takeUp first, ?_⟩
  intro _
  rw [circulation_of_first first, staying]
  exact .refl

/-- A session that was left behind is rolled back, if there is time, and closed. -/
theorem abandon_passage {due : Nat} {inTime : Bool} {rest : List (Errand Session)}
    (first : w.errands = ⟨due, .abandon session inTime⟩ :: rest) :
    Passage licence [] w [] ((w.takeUp due rest).run (.abandon session inTime)) := by
  have cleared : ((w.takeUp due rest).run (.abandon session inTime)) =
      { w.takeUp due rest with
        server :=
          (if inTime then w.server.afterRun session "ROLLBACK" else w.server).close session } := by
    cases inTime with
    | false => rfl
    | true =>
        rcases execute_moves (w.takeUp due rest) "ROLLBACK" session with ⟨result, ran⟩
        simp only [run, if_true, ran, close_move]
        rfl
  rw [cleared]
  constructor
  · intro tame
    have tame := tame.takeUp first
    exact ⟨tame.ordered, tame.spoken, tame.prompt⟩
  · intro _
    rw [circulation_of_first first]
    exact .single (.clear inTime)

theorem run_passage {errand : Errand Session} {others : List (Errand Session)}
    (first : w.errands = errand :: others) :
    Passage licence [] w [] ((w.takeUp errand.due others).run errand.task) := by
  apply Passage.ofTame
  intro tame
  have spoken := tame.spoken errand (first ▸ List.mem_cons_self)
  have prompt := tame.prompt errand (first ▸ List.mem_cons_self)
  have taken := takeUp_passage licence first
  rcases errand with ⟨due, task⟩
  -- Each task takes its session in hand, uses it and lets it go.
  cases task with
  | cancel token =>
      exact (taken rfl).trans (.calm rfl rfl (List.Perm.refl _).subperm (Nat.le_refl _))
  | abandon session inTime => exact abandon_passage first
  | connect pool target pinned =>
      rw [run]
      rcases connect_cases (w.takeUp due others) target with ⟨e, failed⟩ | opened
      · rw [failed]
        exact taken rfl
      · rw [opened]
        have entered := (taken rfl).trans (.enter (prompt rfl).1)
        exact (entered.trans (note_passage _ pinned)).trans (position_passage spoken)
  | position pool session sql rest =>
      rw [run]
      rcases execute_moves (w.takeUp due others) sql session with ⟨result, ran⟩
      have said := (taken rfl).trans (.say (spoken sql List.mem_cons_self))
      rw [ran]
      cases result with
      | error e => exact said.trans .close
      | ok count =>
          apply said.trans
          apply position_passage
          intro statement member
          exact spoken statement (List.mem_cons_of_mem _ member)

theorem elapseWith_passage (stop : World Server Session -> Bool) (limit fuel : Nat)
    (w : World Server Session) : Passage licence [] w [] (elapseWith stop limit fuel w) := by
  induction fuel generalizing w with
  | zero => exact .refl
  | succ fuel inductionHypothesis =>
      rw [elapseWith]
      split
      · exact .refl
      · split
        · exact .refl
        · rename_i errand rest first
          split
          · exact (run_passage first).trans (inductionHypothesis _)
          · exact .refl

theorem elapse_passage (stop : World Server Session -> Bool) (limit : Nat) :
    Passage licence [] w [] (w.elapse stop limit) :=
  elapseWith_passage stop limit w.load w

theorem moveTo_passage (time : Nat) : Passage licence [] w [] (w.moveTo time) :=
  .calm rfl rfl (List.Perm.refl _).subperm (Nat.le_max_left _ _)

theorem settle_passage : Passage licence [] w [] w.settle :=
  elapse_passage _ _

theorem advance_passage (time : Nat) : Passage licence [] w [] (w.advance time) :=
  (elapse_passage _ _).trans (moveTo_passage _)

/-! ## What is due gets done -/

/-- Before a limit nothing is done at the limit or later. -/
theorem elapseWith_now_lt {stop : World Server Session -> Bool} {limit : Nat} (fuel : Nat)
    (before : w.now < limit) : (elapseWith stop limit fuel w).now < limit := by
  induction fuel generalizing w with
  | zero => exact before
  | succ fuel inductionHypothesis =>
      rw [elapseWith]
      split
      · exact before
      · split
        · exact before
        · rename_i errand rest first
          split
          · rename_i due
            apply inductionHypothesis
            rw [(run_keeps _ _).2]
            exact Nat.max_lt.mpr ⟨before, due⟩
          · exact before

/-- With as much fuel as there is to do, all that is due before a limit gets done. -/
theorem elapseWith_done {limit fuel : Nat} (tame : Tame licence w) (enough : w.load ≤ fuel) :
    forall errand, errand ∈ (elapseWith (fun _ => false) limit fuel w).errands ->
      limit ≤ errand.due := by
  induction fuel generalizing w with
  | zero =>
      intro errand member
      cases first : w.errands with
      | nil =>
          rw [elapseWith, first] at member
          cases member
      | cons other rest =>
          have positive := other.task.steps_pos
          rw [load, first, List.foldr_cons] at enough
          omega
  | succ fuel inductionHypothesis =>
      rw [elapseWith, if_neg Bool.false_ne_true]
      split
      · rename_i none
        intro errand member
        rw [none] at member
        cases member
      · rename_i errand rest first
        split
        · -- One step lowers both the load and the fuel, so that the fuel stays enough.
          apply inductionHypothesis ((run_passage first).tame tame)
          have less := (run_keeps (w.takeUp errand.due rest) errand.task).1
          have all : w.load = errand.task.steps + (w.takeUp errand.due rest).load := by
            rw [load, first, List.foldr_cons]
            rfl
          have bound : (w.takeUp errand.due rest).load + errand.task.steps ≤ fuel + 1 := by omega
          exact Nat.le_of_lt_succ (Nat.lt_of_lt_of_le less bound)
        · rename_i later
          intro other member
          rw [first] at member
          rcases List.mem_cons.mp member with rfl | member
          · exact Nat.le_of_not_lt later
          · exact Nat.le_trans (Nat.le_of_not_lt later)
              ((List.pairwise_cons.mp (first ▸ tame.ordered)).1 other member)

/-- Once all that is due was done, no session is being opened any more. -/
theorem settle_tame (tame : Tame licence w) : Tame licence.shut w.settle := by
  have settled := settle_passage.tame tame
  refine ⟨settled.ordered, settled.spoken, ?_⟩
  intro errand member connects
  have due := (settled.prompt errand member connects).2
  -- Such an errand is due by now, but all that is left is due later.
  have later := elapseWith_done tame (Nat.le_refl _) errand member
  have now : w.settle.now < w.now + 1 := elapseWith_now_lt _ (Nat.lt_succ_self _)
  omega

end World
end ScopedSql
