import ScopedSql.Desk.Perform
import ScopedSql.Proofs.Transaction.Life

namespace ScopedSql

open Scripted

/-!
# The history of a run

What callers did with transactions is read off what they asked for and what came
back: a statement was run unless its context cut it off or its transaction had
ended, and a transaction ceased to be open when its phase says so.  Nothing here
looks into the ledger of the server.
-/

/-- The error says that an operation was cut off by its context. -/
def Error.isInterruption : Error -> Bool
  | .cancelled _ => true
  | .timedOut _ => true
  | _ => false

/-- What a statement that was answered adds to the history of its session. -/
def Event.ofResult {α : Type} (session : Nat) (sql : String) : Except Error α -> History
  | .ok _ => [.spoke session sql true]
  | .error e => if e.isInterruption then [] else [.spoke session sql false]

namespace Transaction

/-- What a history tells of a new transaction. -/
def beginning (tx : Transaction Session) (holder : Option String) : History :=
  match tx.phase with
  | .live session => [.began session.number holder tx.scope]
  | .ended _ => []

/-- What a history tells of a transaction that has changed. -/
def change (before after : Transaction Session) : History :=
  match before.phase, after.phase with
  | .live session, .ended ending => [.ceased session.number ending.fate]
  | _, _ => []

/-- What a history tells of a transaction that is let go, with a runtime or without. -/
def leaving (tx : Transaction Session) (attended : Bool) : History :=
  match tx.phase with
  | .live session => [.ceased session.number (if attended then .dropped else .forgotten)]
  | .ended _ => []

end Transaction

namespace Command

/-- The statement that a command brings. -/
def statement? : Command -> Option String
  | .execute sql => some sql
  | .query sql _ => some sql
  | .rows sql => some sql
  | _ => none

/-- What a history tells of a command to a transaction. -/
def events (context : Context) (tx : Transaction Session) (w : World Server Session)
    (command : Command) : History :=
  match tx.phase with
  | .ended _ => []
  | .live session =>
    match command with
    | .execute sql => Event.ofResult session.number sql (tx.execute context sql w).1
    | .query sql _ => Event.ofResult session.number sql (tx.query context sql w).1
    | .rows sql => Event.ofResult session.number sql (tx.query context sql w).1
    | _ => tx.change (command.run context tx w).2.1

/-- What a history tells of commands that are given until the first one that fails. -/
def allEvents (context : Context) :
    List Command -> Transaction Session -> World Server Session -> History
  | [], _, _ => []
  | command :: rest, tx, w =>
    command.events context tx w ++
      match command.run context tx w with
      | (.error _, _, _) => []
      | (.ok _, tx, w) => allEvents context rest tx w

end Command

/-- What a history tells of a transaction that is begun, given commands and ended. -/
def Transaction.wholeEvents (context : Context) (connector : Connector) (scope : Scope)
    (keep : Bool) (commands : List Command) (w : World Server Session) : History :=
  match Transaction.begin context connector scope w with
  | (.error _, _) => []
  | (.ok tx, w) =>
    let (outcome, after, w') := Command.runAll context commands tx w
    let last := if keep then (after.finish context outcome w').2.1 else (after.rollback w').2.1
    tx.beginning none ++ (Command.allEvents context commands tx w ++ after.change last)

/-- The statement of a plan. -/
def Plan.sql : Plan -> String
  | .pooled sql _ => sql
  | .read _ sql _ => sql
  | .write _ sql _ => sql

/-- The statements that a caller brings with a request. -/
def Request.statements : Request -> List String
  | .command _ _ given => given.statement?.toList
  | .transact _ _ _ _ commands => commands.filterMap Command.statement?
  | .poolExecute _ sql => [sql]
  | .poolQuery _ sql _ => [sql]
  | .poolRows _ sql => [sql]
  | .act _ .query arguments => broughtTo arguments
  | .act _ .exec arguments => broughtTo arguments
  | _ => []
where
  /-- The statement among the arguments of an action. -/
  broughtTo (arguments : Json) : List String :=
    ((Arguments.ofJson arguments).toOption.bind
      (fun arguments => (arguments.text Sql.statementArgument).toOption)).toList

/-- The scope, the way to end and the commands of a transaction that carries out a plan. -/
def Plan.whole? : Plan -> Option (Scope × Bool × List Command)
  | .pooled _ _ => none
  | .read scope sql format => some (scope, false, [.query sql format])
  | .write scope sql _ => some (scope, true, [.execute sql])

namespace Desk

/-- What a history tells of a request. -/
def events (desk : Desk Server Session) : Request -> History
  | .begin name tx access scope =>
    match access.connector with
    | .error _ => []
    | .ok connector =>
      match Transaction.begin (desk.context name) connector scope desk.world with
      | (.error _, _) => []
      | (.ok new, _) =>
        new.beginning (some tx) ++
          ((desk.transaction? tx).map (fun old => old.leaving true)).getD []
  | .command name tx command =>
    ((desk.transaction? tx).map
      (fun tx => command.events (desk.context name) tx desk.world)).getD []
  | .drop tx => ((desk.transaction? tx).map (fun old => old.leaving true)).getD []
  | .forget tx => ((desk.transaction? tx).map (fun old => old.leaving false)).getD []
  | .finish name tx outcome =>
    ((desk.transaction? tx).map (fun tx =>
      tx.change (tx.finish (desk.context name) (ofCaller outcome) desk.world).2.1)).getD []
  | .transact name access scope keep commands =>
    match access.connector with
    | .error _ => []
    | .ok connector =>
      Transaction.wholeEvents (desk.context name) connector scope keep commands desk.world
  | .act name action arguments =>
    match desk.actions, Arguments.ofJson arguments with
    | some actions, .ok arguments =>
      match (action.plan actions.classify arguments).toOption.bind Plan.whole? with
      | none => []
      | some (scope, keep, commands) =>
        Transaction.wholeEvents (desk.context name) actions.connector scope keep commands
          desk.world
    | _, _ => []
  | _ => []

/-- The desk after some requests. -/
def run (desk : Desk Server Session) (requests : List Request) : Desk Server Session :=
  requests.foldl (fun desk request => (desk.perform request).2) desk

/-- The history of some requests. -/
def history : Desk Server Session -> List Request -> History
  | _, [] => []
  | desk, request :: rest => desk.events request ++ history (desk.perform request).2 rest

/-- A desk around a server with rules on which nothing happened. -/
def ofRules (rules : Rules) : Desk Server Session :=
  Desk.start ⟨rules, Ledger.empty⟩

/-! ## Only a beginning under a name is named -/

theorem nameless_ofResult {α : Type} (session : Nat) (sql : String) (result : Except Error α) :
    (Event.ofResult session sql result).Nameless := by
  intro name
  cases result with
  | ok value => rfl
  | error e =>
      rw [Event.ofResult]
      split <;> rfl

theorem nameless_change (before after : Transaction Session) : (before.change after).Nameless := by
  intro name
  rw [Transaction.change]
  split <;> rfl

theorem nameless_leaving (tx : Transaction Session) (attended : Bool) :
    (tx.leaving attended).Nameless := by
  intro name
  rw [Transaction.leaving]
  split <;> rfl

theorem nameless_command (context : Context) (tx : Transaction Session)
    (w : World Server Session) (command : Command) :
    (command.events context tx w).Nameless := by
  rw [Command.events]
  split
  · exact fun _ => rfl
  · split
    · exact nameless_ofResult _ _ _
    · exact nameless_ofResult _ _ _
    · exact nameless_ofResult _ _ _
    · exact nameless_change _ _

theorem nameless_commands (context : Context) (commands : List Command)
    (tx : Transaction Session) (w : World Server Session) :
    (Command.allEvents context commands tx w).Nameless := by
  induction commands generalizing tx w with
  | nil => exact fun _ => rfl
  | cons first rest inductionHypothesis =>
      rw [Command.allEvents]
      refine (nameless_command context tx w first).append ?_
      split
      · exact fun _ => rfl
      · exact inductionHypothesis _ _

theorem nameless_whole (context : Context) (connector : Connector) (scope : Scope) (keep : Bool)
    (commands : List Command) (w : World Server Session) :
    (Transaction.wholeEvents context connector scope keep commands w).Nameless := by
  rw [Transaction.wholeEvents]
  split
  · exact fun _ => rfl
  · rename_i tx w' begun
    have beginning : (tx.beginning none).Nameless := by
      intro name
      rw [Transaction.beginning]
      split <;> rfl
    exact beginning.append ((nameless_commands _ _ _ _).append (nameless_change _ _))

/-! ## Runs -/

theorem run_append (desk : Desk Server Session) (before after : List Request) :
    desk.run (before ++ after) = (desk.run before).run after :=
  List.foldl_append

theorem history_append (desk : Desk Server Session) (before after : List Request) :
    desk.history (before ++ after) = desk.history before ++ (desk.run before).history after := by
  induction before generalizing desk with
  | nil => rfl
  | cons request rest inductionHypothesis =>
      rw [List.cons_append, history, inductionHypothesis, history, List.append_assoc]
      rfl

end Desk
end ScopedSql
