import ScopedSql.Proofs.Desk.OneEnding
import ScopedSql.Proofs.Scripted.Place

namespace ScopedSql
namespace Desk

open Scripted World Transaction

/-!
# A transaction is pinned to its scope

A transaction that begins has a session of its own, which was put on the database
and the branch of the scope before any statement of its caller.  Every statement of
the transaction runs on that session, and it runs on that database and that branch
until its own caller moves the session away.
-/

variable {origin : World Server Session} {rules : Rules} {plain : Prop} {licence : Licence}
  {desk : Desk Server Session} {history : History} {requests : List Request} {number : Nat}

/-- The statements that were run through the transaction on a session. -/
def textsOf (history : History) (number : Nat) : List String :=
  ((history.of number).filterMap Event.spoken?).map (fun spoken => spoken.1)

/-- A session is pinned to a database and a branch.  Its log begins with what puts it there; the
rest are the statements of its transaction and then those that end it; and all of these run there
up to the first that selects a database or checks out a branch. -/
structure Pinned (history : History) (number : Nat) (database branch : Option String)
    (log tail : List Entry) : Prop where
  opening : log = openingEntries number database branch ++ tail
  own : exists closing, tail.map Entry.sql = textsOf history number ++ closing ∧
    forall sql, sql ∈ closing -> sql = "COMMIT" ∨ sql = "ROLLBACK"
  place : forall earlier entry rest, tail = earlier ++ entry :: rest ->
    (forall other, other ∈ earlier -> (Control.read other.sql).moves = false) ->
      entry.database = database ∧ entry.branch = branch

/-- The session of every transaction that began is pinned to its scope. -/
theorem Sound.pinned (sound : Sound origin rules plain licence desk history)
    {holder : Option String} {scope : Scope}
    (began : Event.began number holder scope ∈ history) :
    exists tail, Pinned history number scope.database? scope.branch?
      (desk.world.server.log number) tail := by
  have here : Event.began number holder scope ∈ history.of number :=
    List.mem_filter.mpr ⟨began, decide_eq_true rfl⟩
  rcases sound.books.told number with silent | ⟨life, regular, told⟩
  · rw [silent] at here
    cases here
  · rw [told] at here
    rcases Life.of_began_mem here with ⟨_, _, rfl⟩
    rcases sound.books.log_of_told told with ⟨closing, ends, log⟩
    rcases Rules.transcript_opening
      (Scope.fault?_eq_none_iff.mp regular.sound)
      (regular.placed _ List.mem_cons_self)
      (fun sql member => regular.placed sql (List.mem_cons_of_mem _ member)) number
      with ⟨opening, database, branch⟩
    have texts : textsOf history number = life.spoken.map (fun spoken => spoken.1) := by
      rw [textsOf, told, Life.spoken_of_events]
    rw [Life.texts, Life.opening, List.append_assoc, Rules.transcript_append, opening] at log
    refine ⟨_, log, ⟨closing, ?_, ends⟩, ?_⟩
    · rw [Rules.transcript_sql, texts]
    · intro earlier entry rest split still
      rcases Rules.transcript_place split still with ⟨sameDatabase, sameBranch⟩
      exact ⟨sameDatabase.trans database, sameBranch.trans branch⟩

/-! ## Beginning -/

variable {context : Context} {connector : Connector} {selections : List Selection}
  {tx : Transaction Session} {w' : World Server Session}

/-- What a beginning that succeeds gives: one session was opened, it belongs to the transaction, and
its log shows what put it in its place and nothing else. -/
structure Begun (database branch : Option String) (scope : Scope) (w : World Server Session)
    (tx : Transaction Session) (w' : World Server Session) : Prop where
  opened : w'.server.ledger.opened = w.server.ledger.opened + 1
  own : exists session, tx = ⟨scope, .live session⟩ ∧
    session.number = w.server.ledger.opened + 1
  log : w'.server.log (w.server.ledger.opened + 1) =
    openingEntries (w.server.ledger.opened + 1) database branch

/-- A transaction that began after a run has a session of its own in its place. -/
theorem begun_of_begin_ok {scope : Scope}
    (begun : Transaction.begin context connector scope ((ofRules rules).run requests).world =
      (.ok tx, w')) :
    Begun scope.database? scope.branch? scope ((ofRules rules).run requests).world tx w' := by
  have sound := sound_run rules False requests fun impossible => impossible.elim
  have same := sound.books.sameRules
  have tame := sound.tame
  have outcome := begin_cases tame sound.standing.fits sound.books.numbered context connector scope
  generalize ((ofRules rules).run requests).world = w at begun tame same outcome ⊢
  have shut : ¬ (rules.licence False).shut.enters := fun enters => enters
  rw [begun] at outcome
  cases outcome with
  | @begun session _ faultless accepted passed owned =>
      have tame' : Tame (rules.licence False).shut w.entered :=
        ⟨tame.ordered, tame.spoken, tame.prompt⟩
      refine ⟨(passed.conduct tame').opened_eq shut, ⟨session, rfl, owned.number_eq⟩, ?_⟩
      have here : w'.server.rules.refusal? = w.server.rules.refusal? := by
        rw [passed.rules tame']
        rfl
      rw [owned.log]
      exact (Rules.transcript_opening (Scope.fault?_eq_none_iff.mp faultless)
        (here ▸ accepted _ List.mem_cons_self)
        (fun sql member => here ▸ accepted sql (List.mem_cons_of_mem _ member)) _).1

/-- A transaction that begins on a scope, put together by any calls, is pinned to the last database
and the last branch that were set, from its beginning and during every longer run. -/
theorem pinned_of_begin_ok
    (begun : Transaction.begin context connector (Scope.assemble selections)
      ((ofRules rules).run requests).world = (.ok tx, w')) :
    let desk := (ofRules rules).run requests
    let scope := Scope.assemble selections
    let database := (selections.filterMap Selection.database?).getLast?
    let branch := (selections.filterMap Selection.branch?).getLast?
    let number := desk.world.server.ledger.opened + 1
    Begun database branch scope desk.world tx w' ∧
    (forall (name holder : String) (access : Access), desk.context name = context ->
      access.connector = .ok connector ->
        .began number (some holder) scope ∈ desk.events (.begin name holder access scope)) ∧
    (forall (name : String) (access : Access) (keep : Bool) (commands : List Command),
      desk.context name = context -> access.connector = .ok connector ->
        .began number none scope ∈ desk.events (.transact name access scope keep commands)) ∧
    forall (request : Request) (holder : Option String) (later : List Request),
      .began number holder scope ∈ desk.events request ->
        let after := (ofRules rules).run (requests ++ request :: later)
        let history := (ofRules rules).history (requests ++ request :: later)
        (exists tail, Pinned history number database branch (after.world.server.log number) tail) ∧
        forall (name : String) (kept : Transaction Session) (session : Session),
          after.transaction? name = some kept -> history.lastBegun? name = some number ->
            kept.phase = .live session -> session.number = number := by
  intro desk scope database branch number
  have opening := begun_of_begin_ok begun
  rw [Scope.assemble_database, Scope.assemble_branch] at opening
  rcases opening.own with ⟨session, rfl, numbered⟩
  have here : Transaction.begin context connector scope desk.world =
      (.ok ⟨scope, .live session⟩, w') := begun
  refine ⟨opening, ?_, ?_, ?_⟩
  · intro name holder access inContext reaches
    rw [Desk.events, reaches]
    simp only [inContext, here, Transaction.beginning, numbered]
    exact List.mem_cons_self
  · intro name access keep commands inContext reaches
    rw [Desk.events, reaches]
    simp only [inContext, Transaction.wholeEvents, here, Transaction.beginning, numbered]
    exact List.mem_cons_self
  · intro request holder later began after history
    have sound : Sound after.world rules False (rules.licence False).shut after history :=
      sound_run rules False _ fun impossible => impossible.elim
    have told : Event.began number holder scope ∈ history := by
      have whole : history = (ofRules rules).history requests ++
          (desk.events request ++ (desk.perform request).2.history later) := history_append _ _ _
      rw [whole]
      exact List.mem_append.mpr (Or.inr (List.mem_append.mpr (Or.inl began)))
    have pinned := sound.pinned told
    rw [Scope.assemble_database, Scope.assemble_branch] at pinned
    refine ⟨pinned, ?_⟩
    intro name kept session found last live
    rcases sound.agrees found with ⟨number', _, last', _, _, _, agrees⟩
    rw [live] at agrees
    exact agrees.1.trans (Option.some_inj.mp (last'.symm.trans last))

/-- The first of two branches does not count, and neither does the order of the calls. -/
theorem pinned_of_three_selections :
    let selections : List Selection := [.branch "main", .database "shop", .branch "dev"]
    exists tx w', Transaction.begin ⟨none, none⟩ Scripted.connector (Scope.assemble selections)
        ((ofRules Rules.standard).run []).world = (.ok tx, w') ∧
      w'.server.log 1 = openingEntries 1 (some "shop") (some "dev") := by
  intro selections
  have works : (Transaction.begin ⟨none, none⟩ Scripted.connector (Scope.assemble selections)
      ((ofRules Rules.standard).run []).world).1.isOk = true := by decide +kernel
  rcases answer : Transaction.begin ⟨none, none⟩ Scripted.connector (Scope.assemble selections)
    ((ofRules Rules.standard).run []).world with ⟨e | tx, w'⟩
  · rw [answer] at works
    cases works
  · exact ⟨tx, w', rfl, (pinned_of_begin_ok answer).1.log⟩

end Desk
end ScopedSql
