import Mathlib.Data.List.Count
import Mathlib.Logic.Function.Basic
import ScopedSql.Desk.Perform
import ScopedSql.Proofs.Transaction.Effect

namespace ScopedSql
namespace Desk

open Scripted

/-!
# The turns of a mixed run

Commands are given to transactions by name.  What is to be expected of each command
follows from the commands that its own transaction was given before.  So when the
commands to several transactions are mixed, each name has the same turns in every
mixture, and all turns together add the same to the ledger of each session.
-/

/-- A command to the transaction of a name, within the context of a name. -/
structure Move where
  context : String
  name : String
  command : Command
  deriving DecidableEq, Repr

def Move.request (move : Move) : Request := .command move.context move.name move.command

/-! ## What is to be expected -/

/-- What came of a move. -/
structure Turn where
  name : String
  result : Except Error Reply
  share : Share

/-- The transactions that names stand for. -/
abbrev Holding := String -> Option (Transaction Session)

variable {rules : Rules}

/-- The effect of a command to a transaction that may not be there. -/
def foresee (rules : Rules) (held : Option (Transaction Session)) (command : Command) :
    Except Error Reply × Option (Transaction Session) × Share :=
  match held with
  | none => (.ok (.missing .transaction), none, Share.none)
  | some tx =>
    let effect := command.effect rules tx
    (effect.result, some effect.after, effect.share)

/-- What the names stand for after a move. -/
def Holding.after (holding : Holding) (rules : Rules) (move : Move) : Holding :=
  Function.update holding move.name (foresee rules (holding move.name) move.command).2.1

/-- The turns that moves take, if nothing disturbs them. -/
def turns (rules : Rules) : Holding -> List Move -> List Turn
  | _, [] => []
  | holding, move :: rest =>
    let next := foresee rules (holding move.name) move.command
    ⟨move.name, next.1, next.2.2⟩ :: turns rules (holding.after rules move) rest

/-- What all turns add to the ledger. -/
def total (turns : List Turn) : Share :=
  turns.foldr (fun turn rest => turn.share ++ rest) Share.none

variable {holding holding' : Holding} {name owner : String} {number : Nat}

theorem Holding.after_of_ne (holding : Holding) (rules : Rules) {move : Move}
    (other : move.name ≠ name) : holding.after rules move name = holding name :=
  Function.update_of_ne (Ne.symm other) _ _

theorem Holding.after_self (holding : Holding) (rules : Rules) (move : Move) :
    holding.after rules move move.name =
      (foresee rules (holding move.name) move.command).2.1 :=
  Function.update_self _ _ _

/-- What a name stands for after some moves depends on the moves of this name only. -/
theorem after_all (holding : Holding) (moves : List Move) (name : String) :
    (moves.foldl (fun holding move => holding.after rules move) holding) name =
      (moves.filter (fun move => move.name = name)).foldl
        (fun held move => (foresee rules held move.command).2.1) (holding name) := by
  induction moves generalizing holding with
  | nil => rfl
  | cons move rest inductionHypothesis =>
      rw [List.foldl_cons, inductionHypothesis]
      by_cases same : move.name = name
      · subst same
        rw [List.filter_cons_of_pos (by simp), List.foldl_cons, Holding.after_self]
      · rw [List.filter_cons_of_neg (by simpa using same), Holding.after_of_ne _ _ same]

/-- The turns of a name depend on the moves of this name only. -/
theorem turns_of_name (same : holding name = holding' name) (moves : List Move) :
    (turns rules holding moves).filter (fun turn => turn.name = name) =
      turns rules holding' (moves.filter (fun move => move.name = name)) := by
  induction moves generalizing holding holding' with
  | nil => rfl
  | cons move rest inductionHypothesis =>
      rw [turns]
      by_cases own : move.name = name
      · subst own
        rw [List.filter_cons_of_pos (by simp), List.filter_cons_of_pos (by simp), turns, ← same]
        have next : holding.after rules move move.name = holding'.after rules move move.name := by
          rw [Holding.after_self, Holding.after_self, same]
        exact congrArg _ (inductionHypothesis next)
      · rw [List.filter_cons_of_neg (by simpa using own),
          List.filter_cons_of_neg (by simpa using own)]
        exact inductionHypothesis ((Holding.after_of_ne holding rules own).trans same)

/-- Two ways to mix the same moves have the same turns for each name. -/
theorem turns_of_shuffle (rules : Rules) {moves moves' : List Move}
    (same : forall name, moves.filter (fun move => move.name = name) =
      moves'.filter (fun move => move.name = name)) (holding : Holding) (name : String) :
    (turns rules holding moves).filter (fun turn => turn.name = name) =
      (turns rules holding moves').filter (fun turn => turn.name = name) := by
  rw [turns_of_name rfl, turns_of_name rfl, same]

/-- Lists with the same members for each name have the same members. -/
theorem perm_of_names {turns turns' : List Turn}
    (same : forall name, turns.filter (fun turn => turn.name = name) =
      turns'.filter (fun turn => turn.name = name)) : turns.Perm turns' := by
  classical
  apply List.perm_iff_count.mpr
  intro turn
  have own : decide (turn.name = turn.name) = true := decide_eq_true rfl
  have count : forall turns : List Turn,
      (turns.filter (fun other => other.name = turn.name)).count turn = turns.count turn :=
    fun _ => List.count_filter own
  rw [← count turns, same, count turns']

/-! ## Totals -/

theorem total_cons (turn : Turn) (rest : List Turn) :
    total (turn :: rest) = turn.share ++ total rest := rfl

theorem total_committed (turns : List Turn) :
    (total turns).committed = turns.flatMap (fun turn => turn.share.committed) := by
  induction turns with
  | nil => rfl
  | cons turn rest inductionHypothesis =>
      rw [List.flatMap_cons, ← inductionHypothesis]
      rfl

theorem total_closed (turns : List Turn) :
    (total turns).closed = turns.flatMap (fun turn => turn.share.closed) := by
  induction turns with
  | nil => rfl
  | cons turn rest inductionHypothesis =>
      rw [List.flatMap_cons, ← inductionHypothesis]
      rfl

/-- In which order turns are taken does not change how long they last together. -/
theorem total_time_of_perm {turns turns' : List Turn} (perm : turns.Perm turns') :
    (total turns).time = (total turns').time := by
  have first : forall (turn : Turn) (rest : List Turn),
      (total (turn :: rest)).time = turn.share.time + (total rest).time := fun _ _ => rfl
  induction perm with
  | nil => rfl
  | cons turn _ inductionHypothesis => rw [first, first, inductionHypothesis]
  | swap turn other rest => rw [first, first, first, first, Nat.add_left_comm]
  | trans _ _ inductionHypothesis inductionHypothesis' =>
      exact inductionHypothesis.trans inductionHypothesis'

/-! ## Whose entries they are -/

/-- A session belongs to a name if no other name stands for a transaction that has it. -/
def Owns (holding : Holding) (owner : String) (number : Nat) : Prop :=
  forall name tx, holding name = some tx -> forall session, tx.phase = .live session ->
    session.number = number -> name = owner

/-- Who owns a session owns it after every move. -/
theorem Owns.after (owns : Owns holding owner number) (rules : Rules) (move : Move) :
    Owns (holding.after rules move) owner number := by
  intro name tx found session live same
  by_cases moved : move.name = name
  · subst moved
    rw [Holding.after_self] at found
    cases held : holding move.name with
    | none =>
        rw [held] at found
        cases found
    | some before =>
        rw [held] at found
        cases found
        rcases (move.command.effect_isOf rules before).session session live
          with ⟨session', live', number'⟩
        exact owns move.name before held session' live' (number'.trans same)
  · rw [Holding.after_of_ne _ _ moved] at found
    exact owns name tx found session live same

/-- What is run on a session is run in the turns of who owns it. -/
theorem entries_of_owner (owns : Owns holding owner number) (moves : List Move) :
    (total (turns rules holding moves)).entries.filter (fun entry => entry.session = number) =
      ((turns rules holding moves).filter (fun turn => turn.name = owner)).flatMap
        (fun turn => turn.share.entries.filter (fun entry => entry.session = number)) := by
  induction moves generalizing holding with
  | nil => rfl
  | cons move rest inductionHypothesis =>
      have next := inductionHypothesis (owns.after rules move)
      rw [turns, total_cons]
      by_cases own : move.name = owner
      · rw [List.filter_cons_of_pos (by simpa using own), List.flatMap_cons, ← next]
        exact List.filter_append _ _
      · rw [List.filter_cons_of_neg (by simpa using own), ← next]
        have foreign : (foresee rules (holding move.name) move.command).2.2.entries.filter
            (fun entry => entry.session = number) = [] := by
          apply List.filter_eq_nil_iff.mpr
          intro entry member here
          cases held : holding move.name with
          | none =>
              rw [held] at member
              cases member
          | some tx =>
              rw [held] at member
              rcases (move.command.effect_isOf rules tx).entries entry member
                with ⟨session, live, same⟩
              exact own (owns move.name tx held session live
                (same.trans (of_decide_eq_true here)))
        exact (List.filter_append _ _).trans (congrArg (fun first => first ++ _) foreign)

end Desk
end ScopedSql
