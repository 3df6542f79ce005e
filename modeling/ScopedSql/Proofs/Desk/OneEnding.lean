import ScopedSql.Proofs.Desk.Run
import ScopedSql.Proofs.Transaction.Phase

namespace ScopedSql
namespace Desk

open Scripted World

/-!
# Every transaction ends once

A transaction holds its session exactly while it is open.  It ceases to be open at
most once, and it is committed exactly if the commit that was sent for it
succeeded.  From then on nothing is told of it, and once its session is closed
nothing is run there any more.
-/

variable {origin : World Server Session} {rules : Rules} {plain : Prop} {licence : Licence}
  {desk : Desk Server Session} {history : History} {number : Nat} {life : Life} {name : String}
  {tx : Transaction Session} {session : Session}

/-- How far a transaction went, as the desk and the ledger of its server show it. -/
inductive Stage (rules : Rules) (desk : Desk Server Session) (number : Nat) (life : Life) : Prop
  /-- It is open: it holds its session, and only its opening and its caller's statements ran. -/
  | ongoing (fate : life.fate = none) (held : number ∈ desk.sessions.map Session.number)
      (log : (desk.world.server.log number).map Entry.sql = life.texts)
      (unclosed : desk.world.server.closings number = 0)
  /-- It was dropped, and its session waits in the background to be rolled back and closed. -/
  | leaving (fate : life.fate = some .dropped) (free : number ∉ desk.sessions.map Session.number)
      (log : (desk.world.server.log number).map Entry.sql = life.texts)
      (unclosed : desk.world.server.closings number = 0)
      (waits : exists errand, errand ∈ desk.world.errands ∧ exists session inTime,
        errand.task = .abandon session inTime ∧ session.number = number)
  /-- It was let go where no runtime could clean up: its session stays open, and nobody has it. -/
  | forgotten (fate : life.fate = some .forgotten)
      (free : number ∉ desk.sessions.map Session.number)
      (away : (desk.world.circulation []).Absent number)
      (log : (desk.world.server.log number).map Entry.sql = life.texts)
      (unclosed : desk.world.server.closings number = 0)
  /-- Its session was closed after the statements that were sent to end it. -/
  | closed {fate : Fate} {closing : List String} (ceased : life.fate = some fate)
      (free : number ∉ desk.sessions.map Session.number)
      (shape : Life.Closing rules fate closing) (once : Life.SentOnce rules fate closing)
      (log : (desk.world.server.log number).map Entry.sql = life.texts ++ closing)
      (closed : desk.world.server.closings number = 1)

/-- The phase of a transaction agrees with the fate of its life. -/
def AgreesWith (number : Nat) (fate : Option Fate) : Phase Session -> Prop
  | .live session => session.number = number ∧ fate = none
  | .ended ending => fate = some ending.fate

namespace Sound

/-- Every session on which a transaction began is at some stage of its life. -/
theorem stage (sound : Sound origin rules plain licence desk history) (number : Nat) :
    (history.of number = [] ∧ number ∉ desk.sessions.map Session.number) ∨
      exists life : Life, history.of number = life.events number ∧
        Stage rules desk number life := by
  cases sound.books.chapters number with
  | silent told free => exact Or.inl ⟨told, free⟩
  | ongoing regular told fate member owned =>
      refine Or.inr ⟨_, told, .ongoing fate ?_ ?_ owned.unclosed⟩
      · exact List.mem_map.mpr ⟨_, member, owned.number_eq⟩
      · rw [owned.log, Rules.transcript_sql]
  | left regular told fate free same waits state log unclosed =>
      refine Or.inr ⟨_, told, .leaving fate free ?_ unclosed ?_⟩
      · rw [log, Rules.transcript_sql]
      · rcases waits.alone with ⟨others, leaving, _⟩
        rcases List.mem_filterMap.mp (leaving.symm.subset List.mem_cons_self)
          with ⟨errand, member, task⟩
        rcases Task.eq_abandon task with ⟨inTime, leaves⟩
        exact ⟨errand, member, _, inTime, leaves, same⟩
  | forgotten regular told fate free lost =>
      refine Or.inr ⟨_, told, .forgotten fate free lost.absent ?_ lost.unclosed⟩
      rw [lost.log, Rules.transcript_sql]
  | closed regular told ceased free shape spent =>
      refine Or.inr ⟨_, told, .closed ceased free shape shape.sentOnce ?_ spent.closed⟩
      rw [spent.log, Rules.transcript_sql]

/-- A session that was closed after a transaction is closed for good. -/
theorem spent_of_closed (sound : Sound origin rules plain licence desk history)
    (told : history.of number = life.events number)
    (closed : desk.world.server.closings number = 1) :
    exists sqls, Spent number sqls desk.world := by
  cases sound.books.chapters number with
  | silent silent =>
      rw [silent] at told
      cases told
  | ongoing regular told fate member owned =>
      rw [owned.unclosed] at closed
      cases closed
  | left regular told fate free same waits state log unclosed =>
      rw [unclosed] at closed
      cases closed
  | forgotten regular told fate free lost =>
      rw [lost.unclosed] at closed
      cases closed
  | closed regular told ceased free shape spent => exact ⟨_, spent⟩

/-- A name stands for a transaction whose phase agrees with what the history tells of it. -/
theorem agrees (sound : Sound origin rules plain licence desk history)
    (found : desk.transaction? name = some tx) :
    exists (number : Nat) (life : Life), history.lastBegun? name = some number ∧
      history.of number = life.events number ∧ life.holder = some name ∧ life.scope = tx.scope ∧
        AgreesWith number life.fate tx.phase := by
  rcases sound.named name tx found with ⟨number, last, began, phase⟩
  have here : Event.began number (some name) tx.scope ∈ history.of number :=
    List.mem_filter.mpr ⟨began, decide_eq_true rfl⟩
  rcases sound.books.told number with silent | ⟨life, _, told⟩
  · rw [silent] at here
    cases here
  · rw [told] at here
    rcases Life.of_began_mem here with ⟨_, holder, scope⟩
    refine ⟨number, life, last, told, holder.symm, scope.symm, ?_⟩
    cases phase' : tx.phase with
    | live session =>
        rw [phase'] at phase
        refine ⟨phase, ?_⟩
        -- The session in hand has an open life, and one number has only one life.
        have held : session ∈ desk.sessions := by
          refine (sessions_perm sound.names found).symm.subset ?_
          rw [Transaction.sessions_of_live phase']
          exact List.mem_cons_self
        rcases sound.books.life_of_held held with ⟨life', _, told', fate, _⟩
        rw [phase, told] at told'
        exact Life.events_injective told' ▸ fate
    | ended ending =>
        rw [phase'] at phase
        have ceased : Event.ceased number ending.fate ∈ history.of number :=
          List.mem_filter.mpr ⟨phase, decide_eq_true rfl⟩
        rw [told] at ceased
        exact Life.of_ceased_mem ceased

end Sound

/-- Every transaction ends at most once, and stays as it ended during every longer run. -/
theorem transactions_end_once (rules : Rules) (requests later : List Request) :
    let desk := (ofRules rules).run requests
    let history := (ofRules rules).history requests
    let desk' := (ofRules rules).run (requests ++ later)
    let history' := (ofRules rules).history (requests ++ later)
    (forall number, (history.of number = [] ∧ number ∉ desk.sessions.map Session.number) ∨
      exists life : Life, history.of number = life.events number ∧ Stage rules desk number life ∧
        (life.fate ≠ none -> history'.of number = history.of number ∧
          Stage rules desk' number life ∧
          (desk.world.server.closings number = 1 ->
            desk'.world.server.log number = desk.world.server.log number ∧
              desk'.world.server.closings number = 1))) ∧
    (forall name tx, desk.transaction? name = some tx ->
      exists (number : Nat) (life : Life), history.lastBegun? name = some number ∧
        history.of number = life.events number ∧ life.holder = some name ∧
          life.scope = tx.scope ∧ AgreesWith number life.fate tx.phase) ∧
    forall (command : Command) (context : Context) (tx : Transaction Session)
      (w : World Server Session), Command.Turn command tx w (command.run context tx w) := by
  intro desk history desk' history'
  have sound : Sound desk.world rules False (rules.licence False).shut desk history :=
    sound_run rules False requests fun impossible => impossible.elim
  have sound' : Sound desk.world rules False (rules.licence False).shut desk' history' :=
    sound_later rules requests later fun impossible => impossible.elim
  refine ⟨?_, fun name tx found => sound.agrees found,
    fun command context tx w => command.run_turn context tx w⟩
  intro number
  rcases sound.stage number with silent | ⟨life, told, stage⟩
  · exact Or.inl silent
  · refine Or.inr ⟨life, told, stage, ?_⟩
    intro ended
    have longer : history'.of number =
        life.events number ++ (desk.history later).of number := by
      rw [← told, ← History.of_append, ← history_append]
    rcases Option.ne_none_iff_exists'.mp ended with ⟨fate, ceased⟩
    have same : history'.of number = life.events number := by
      rcases sound'.books.told number with silent | ⟨life', _, told'⟩
      · rw [silent] at longer
        cases longer
      · rw [longer, Life.eq_nil_of_ceased ceased (told'.symm.trans longer), List.append_nil]
    refine ⟨same.trans told.symm, ?_, ?_⟩
    · rcases sound'.stage number with silent | ⟨life', told', stage'⟩
      · rw [silent.1] at same
        cases same
      · exact Life.events_injective (told'.symm.trans same) ▸ stage'
    · intro closed
      rcases sound.spent_of_closed told closed with ⟨sqls, spent⟩
      have spent' := sound'.books.lasting number sqls spent
      refine ⟨?_, spent'.closed⟩
      rw [spent.log, spent'.log, sound.books.sameRules, sound'.books.sameRules]

end Desk
end ScopedSql
