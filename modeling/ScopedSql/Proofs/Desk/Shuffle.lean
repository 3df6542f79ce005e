import ScopedSql.Proofs.Desk.Interruption
import ScopedSql.Proofs.Desk.Turns

namespace ScopedSql
namespace Desk

open Scripted World

/-!
# Transactions side by side

Transactions that are open on different sessions do not get in each other's way.  If
no context ends while commands are given to them, then what comes of the commands to
one transaction does not depend on how they are mixed with those to the others.
-/

variable {rules : Rules} {hidden : List Nat} {holding : Holding} {desk : Desk Server Session}
  {move : Move} {moves moves' : List Move}

/-- A desk whose names stand for certain transactions, and their sessions are out of sight. -/
structure Holds (rules : Rules) (hidden : List Nat) (holding : Holding)
    (desk : Desk Server Session) : Prop where
  secluded : Secluded rules hidden desk.world
  found : forall name, desk.transaction? name = holding name
  isHidden : forall name tx, holding name = some tx -> tx.HiddenIn hidden

/-- No context has a deadline, and none is cancelled when all moves are done. -/
def Undisturbed (desk : Desk Server Session) (moves : List Move) : Prop :=
  forall move, move ∈ moves -> (desk.context move.context).deadline = none ∧
    (desk.run (moves.map Move.request)).world.isCancelled (desk.context move.context) = false

instance (desk : Desk Server Session) (moves : List Move) : Decidable (Undisturbed desk moves) :=
  inferInstanceAs (Decidable (forall move, move ∈ moves ->
    (desk.context move.context).deadline = none ∧
      (desk.run (moves.map Move.request)).world.isCancelled (desk.context move.context) = false))

/-! ## One move -/

theorem contexts_of_move (desk : Desk Server Session) (move : Move) :
    (desk.perform move.request).2.contexts = desk.contexts := by
  have answered : (desk.command (desk.context move.context) move.name move.command).2.contexts =
      desk.contexts := by
    rw [Desk.command]
    cases desk.transaction? move.name <;> rfl
  exact answered

theorem cancelled_of_move (desk : Desk Server Session) (move : Move) :
    desk.world.cancelled ⊆ (desk.perform move.request).2.world.cancelled := by
  have answered : desk.world.cancelled ⊆
      (desk.command (desk.context move.context) move.name move.command).2.world.cancelled := by
    rw [Desk.command]
    cases desk.transaction? move.name with
    | none => exact List.Subset.refl _
    | some tx => exact move.command.run_cancelled tx _ desk.world
  exact List.Subset.trans answered (settle_cancelled _)

theorem share_append_wait (share : Share) : share ++ Share.wait 0 = share := by
  rcases share with ⟨entries, committed, closed, time⟩
  show Share.mk (entries ++ []) (committed ++ []) (closed ++ []) (time + 0) = _
  rw [List.append_nil, List.append_nil, List.append_nil, Nat.add_zero]

/-- A move that nothing disturbs takes the turn that is to be expected. -/
theorem Holds.perform (holds : Holds rules hidden holding desk)
    (endless : (desk.context move.context).deadline = none)
    (free : (desk.perform move.request).2.world.isCancelled (desk.context move.context) = false) :
    let next := foresee rules (holding move.name) move.command
    (desk.perform move.request).1 = next.1 ∧
      Holds rules hidden (holding.after rules move) (desk.perform move.request).2 ∧
      Advances rules hidden next.2.2 desk.world (desk.perform move.request).2.world := by
  intro next
  have answered : desk.perform move.request =
      ((desk.command (desk.context move.context) move.name move.command).1,
        (desk.command (desk.context move.context) move.name move.command).2.settle) := rfl
  rw [answered] at free ⊢
  rw [Desk.command] at free ⊢
  have here := holds.found move.name
  cases found : desk.transaction? move.name with
  | none =>
      rw [found] at here
      have unchanged : holding.after rules move = holding := by
        funext name
        by_cases same : move.name = name
        · subst same
          rw [Holding.after_self, ← here]
          rfl
        · exact holding.after_of_ne rules same
      have missing : next = (.ok (.missing .transaction), none, Share.none) := by
        simp only [next, ← here]
        rfl
      have settled := Advances.settle holds.secluded
      rw [missing, unchanged]
      exact ⟨rfl, ⟨settled.secluded, holds.found, holds.isHidden⟩, settled⟩
  | some tx =>
      rw [found] at here
      have expected : next = ((move.command.effect rules tx).result,
          some (move.command.effect rules tx).after, (move.command.effect rules tx).share) := by
        simp only [next, ← here]
        rfl
      have after : holding.after rules move move.name =
          some (move.command.effect rules tx).after := by
        rw [Holding.after_self, ← here]
        rfl
      simp only [found] at free ⊢
      have effective := Command.run_effective holds.secluded
        (holds.isHidden move.name tx here.symm) endless move.command
        (free_of_subset (settle_cancelled _) free)
      generalize move.command.run (desk.context move.context) tx desk.world = answer
        at effective ⊢
      rcases answer with ⟨result, tx', w'⟩
      have settled := effective.advances.trans (.settle effective.advances.secluded)
      rw [share_append_wait] at settled
      rw [expected]
      refine ⟨effective.result, ⟨settled.secluded, ?_, ?_⟩, settled⟩
      · intro name
        by_cases same : move.name = name
        · subst same
          rw [after, ← effective.after]
          exact transaction?_withTransaction_self move.name tx'
        · rw [holding.after_of_ne rules same, ← holds.found name]
          exact transaction?_withTransaction_of_ne tx' (Ne.symm same)
      · intro name other found
        by_cases same : move.name = name
        · subst same
          cases after.symm.trans found
          intro session live
          rcases (move.command.effect_isOf rules tx).session session live
            with ⟨before, live', number⟩
          exact number ▸ holds.isHidden move.name tx here.symm before live'
        · rw [holding.after_of_ne rules same] at found
          exact holds.isHidden name other found

/-! ## Many moves -/

/-- Once a context is cancelled it is cancelled after every later move. -/
theorem cancelled_of_moves (desk : Desk Server Session) (moves : List Move) :
    desk.world.cancelled ⊆ (desk.run (moves.map Move.request)).world.cancelled := by
  induction moves generalizing desk with
  | nil => exact List.Subset.refl _
  | cons move rest inductionHypothesis =>
      exact List.Subset.trans (cancelled_of_move desk move) (inductionHypothesis _)

theorem Undisturbed.tail (undisturbed : Undisturbed desk (move :: moves)) :
    Undisturbed (desk.perform move.request).2 moves := by
  intro other member
  have same : (desk.perform move.request).2.context other.context = desk.context other.context := by
    rw [Desk.context, Desk.context, contexts_of_move]
  rw [same]
  exact undisturbed other (List.mem_cons_of_mem _ member)

theorem Undisturbed.head (undisturbed : Undisturbed desk (move :: moves)) :
    (desk.context move.context).deadline = none ∧
      (desk.perform move.request).2.world.isCancelled (desk.context move.context) = false := by
  rcases undisturbed move List.mem_cons_self with ⟨endless, free⟩
  exact ⟨endless, free_of_subset (cancelled_of_moves _ moves) free⟩

/-- What came of a move: its result, and the work that it made durable. -/
structure Report where
  name : String
  result : Except Error Reply
  kept : List String

/-- What came of some moves, one after the other. -/
def reports (desk : Desk Server Session) : List Move -> List Report
  | [] => []
  | move :: rest =>
    let (result, after) := desk.perform move.request
    ⟨move.name, result, after.world.server.ledger.committed.drop
      desk.world.server.ledger.committed.length⟩ :: reports after rest

/-- What shows of a turn. -/
def Turn.report (turn : Turn) : Report := ⟨turn.name, turn.result, turn.share.committed⟩

/-- Moves that nothing disturbs take the turns that are to be expected. -/
theorem Holds.run (holds : Holds rules hidden holding desk)
    (undisturbed : Undisturbed desk moves) :
    reports desk moves = (turns rules holding moves).map Turn.report ∧
      Holds rules hidden (moves.foldl (fun holding move => holding.after rules move) holding)
        (desk.run (moves.map Move.request)) ∧
      Advances rules hidden (total (turns rules holding moves)) desk.world
        (desk.run (moves.map Move.request)).world := by
  induction moves generalizing desk holding with
  | nil => exact ⟨rfl, holds, .refl holds.secluded⟩
  | cons move rest inductionHypothesis =>
      rcases undisturbed.head with ⟨endless, free⟩
      rcases holds.perform endless free with ⟨result, next, advances⟩
      rcases inductionHypothesis next undisturbed.tail with ⟨reported, last, all⟩
      refine ⟨?_, last, advances.trans all⟩
      have kept : (desk.perform move.request).2.world.server.ledger.committed.drop
          desk.world.server.ledger.committed.length =
            (foresee rules (holding move.name) move.command).2.2.committed := by
        rw [advances.committed, List.drop_left]
      rw [reports, turns, List.map_cons, ← reported]
      simp only [kept, result]
      rfl

/-! ## Desks that a run leaves behind -/

theorem session_of_found {name : String} {tx : Transaction Session} {session : Session}
    (found : desk.transaction? name = some tx) (live : tx.phase = .live session) :
    session ∈ desk.sessions := by
  rcases List.lookup_eq_some_iff.mp found with ⟨before, after, split, _⟩
  have member : (name, tx) ∈ desk.transactions := by
    rw [split]
    exact List.mem_append_right _ List.mem_cons_self
  apply List.mem_flatMap.mpr
  refine ⟨_, member, ?_⟩
  rw [Transaction.sessions_of_live live]
  exact List.mem_singleton_self session

/-- After a run nobody but the transactions has their sessions. -/
theorem holds_of_run (rules : Rules) (requests : List Request) :
    let desk := (ofRules rules).run requests
    Holds rules (desk.sessions.map Session.number) desk.transaction? desk := by
  intro desk
  have sound := sound_run rules False requests fun impossible => impossible.elim
  refine ⟨⟨(discreet_run rules requests).tame, sound.books.sameRules, ?_⟩, fun _ => rfl, ?_⟩
  · intro number member
    rcases List.mem_map.mp member with ⟨session, held, rfl⟩
    rcases sound.books.life_of_held held with ⟨_, _, _, _, owned⟩
    exact owned.absent
  · intro name tx found session live
    exact List.mem_map_of_mem (session_of_found found live)

/-- A session belongs to one name only. -/
theorem owns_of_run (rules : Rules) (requests : List Request) (number : Nat) :
    exists owner, Owns ((ofRules rules).run requests).transaction? owner number := by
  have sound := sound_run rules False requests fun impossible => impossible.elim
  by_cases held : exists owner tx session,
      ((ofRules rules).run requests).transaction? owner = some tx ∧ tx.phase = .live session ∧
        session.number = number
  · rcases held with ⟨owner, tx, session, found, live, rfl⟩
    refine ⟨owner, ?_⟩
    intro name tx' found' session' live' same
    by_contra differs
    -- Both sessions are among those that the desk holds, each for itself.
    have other : (((ofRules rules).run requests).withoutTransaction owner).transaction? name =
        some tx' := (lookup_filter_of_ne differs).trans found'
    have distinct := sound.books.distinct
    rw [((sessions_perm sound.names found).map Session.number).nodup_iff, List.map_append,
      Transaction.sessions_of_live live] at distinct
    have apart := (List.nodup_append.mp distinct).2.2 session.number
      (List.mem_singleton_self _) session'.number
      (List.mem_map_of_mem (session_of_found other live'))
    exact apart same.symm
  · refine ⟨"", ?_⟩
    intro name tx found session live same
    exact absurd ⟨name, tx, session, found, live, same⟩ held

/-- Once a run is over there is nothing left to do by now. -/
theorem upTo_now_of_run (rules : Rules) (requests : List Request) (hidden : List Nat) :
    let w := ((ofRules rules).run requests).world
    (w.outside hidden).upTo w.now = w.outside hidden := by
  rcases List.eq_nil_or_concat requests with rfl | ⟨before, request, rfl⟩
  · rfl
  · have last : (ofRules rules).run (before.concat request) =
        (((ofRules rules).run before).perform request).2 := by
      rw [List.concat_eq_append, run_append]
      rfl
    intro w
    have settled : w.outside hidden =
        ((((ofRules rules).run before).answer request).2.world.outside hidden).settle := by
      simp only [w, last]
      exact (image_settle (Veiled.seen hidden) _).symm
    have now : w.now = (w.outside hidden).now := rfl
    rw [now, settled]
    exact upTo_now_of_settle _

/-! ## Mixtures -/

/-- Two runs of moves come to the same for each transaction and each session.  What the moves made
durable stands in the order of the moves. -/
structure Alike (start last last' : Desk Server Session) (told told' : List Report) : Prop where
  reports : forall name, told.filter (fun report => report.name = name) =
    told'.filter (fun report => report.name = name)
  kept : last.world.server.ledger.committed =
    start.world.server.ledger.committed ++ told.flatMap Report.kept
  kept' : last'.world.server.ledger.committed =
    start.world.server.ledger.committed ++ told'.flatMap Report.kept
  transactions : forall name, last.transaction? name = last'.transaction? name
  log : forall number, last.world.server.log number = last'.world.server.log number
  closings : forall number, last.world.server.closings number = last'.world.server.closings number
  opened : last.world.server.ledger.opened = last'.world.server.ledger.opened
  closed : last.world.server.ledger.closed.length = last'.world.server.ledger.closed.length

/-- However the moves of transactions that are open side by side are mixed, each transaction and
each session fare the same. -/
theorem alike_of_shuffle {rules : Rules} {requests : List Request} {moves moves' : List Move}
    (same : forall name, moves.filter (fun move => move.name = name) =
      moves'.filter (fun move => move.name = name))
    (undisturbed : Undisturbed ((ofRules rules).run requests) moves)
    (undisturbed' : Undisturbed ((ofRules rules).run requests) moves') :
    let desk := (ofRules rules).run requests
    Alike desk (desk.run (moves.map Move.request)) (desk.run (moves'.map Move.request))
      (desk.reports moves) (desk.reports moves') := by
  intro desk
  have holds := holds_of_run rules requests
  rcases holds.run undisturbed with ⟨told, last, advances⟩
  rcases holds.run undisturbed' with ⟨told', last', advances'⟩
  have turnsOf := turns_of_shuffle rules same desk.transaction?
  have perm := perm_of_names turnsOf
  have reported : forall (turns : List Turn) (name : String),
      (turns.map Turn.report).filter (fun report => report.name = name) =
        (turns.filter (fun turn => turn.name = name)).map Turn.report := by
    intro turns name
    rw [List.filter_map]
    rfl
  have kept : forall turns : List Turn,
      (turns.map Turn.report).flatMap Report.kept = (total turns).committed := by
    intro turns
    rw [List.flatMap_map, total_committed]
    rfl
  have time : (total (turns rules desk.transaction? moves)).time =
      (total (turns rules desk.transaction? moves')).time := total_time_of_perm perm
  have now : (desk.run (moves.map Move.request)).world.now =
      (desk.run (moves'.map Move.request)).world.now := by
    rw [advances.now, advances'.now, time]
  -- What is not hidden is what it would be if time had just gone by.
  have outside : (desk.run (moves.map Move.request)).world.outside
        (desk.sessions.map Session.number) =
      (desk.run (moves'.map Move.request)).world.outside (desk.sessions.map Session.number) := by
    have rested := upTo_now_of_run rules (requests ++ moves.map Move.request)
      (desk.sessions.map Session.number)
    have rested' := upTo_now_of_run rules (requests ++ moves'.map Move.request)
      (desk.sessions.map Session.number)
    rw [run_append] at rested rested'
    rw [← rested, ← rested', advances.outside _ (Nat.le_refl _),
      advances'.outside _ (Nat.le_refl _), now]
  have log : forall number, (desk.run (moves.map Move.request)).world.server.log number =
      (desk.run (moves'.map Move.request)).world.server.log number := by
    intro number
    by_cases hidden : number ∈ desk.sessions.map Session.number
    · rcases owns_of_run rules requests number with ⟨owner, owns⟩
      rw [advances.log number hidden, advances'.log number hidden, entries_of_owner owns,
        entries_of_owner owns, turnsOf]
    · exact (Veiled.log_of_see (congrArg World.server outside) hidden).1
  have closings : forall number, (desk.run (moves.map Move.request)).world.server.closings number =
      (desk.run (moves'.map Move.request)).world.server.closings number := by
    intro number
    by_cases hidden : number ∈ desk.sessions.map Session.number
    · rw [advances.closings number hidden, advances'.closings number hidden, total_closed,
        total_closed, (perm.flatMap_right _).count_eq]
    · exact (Veiled.log_of_see (congrArg World.server outside) hidden).2
  refine ⟨?_, ?_, ?_, ?_, log, closings, ?_, ?_⟩
  · intro name
    rw [told, told', reported, reported, turnsOf]
  · rw [told, kept, advances.committed]
  · rw [told', kept, advances'.committed]
  · intro name
    rw [last.found, last'.found, after_all, after_all, same]
  · exact Veiled.opened_of_see (congrArg World.server outside)
  · exact (List.perm_iff_count.mpr closings).length_eq

/-- One transaction waits for a slow statement and the other has one that fails.  Whichever commits
first, both keep their work, in the order of the commits. -/
theorem alike_of_two_writers :
    let rules := { Rules.standard with delays := [("SLOW", 10)], failures := [("BAD", "no")] }
    let desk := (ofRules rules).run
      [.begin "main" "a" (.by Scripted.connector) (Scope.onDatabase "shop"),
        .begin "main" "b" (.by Scripted.connector) (Scope.onBranch "dev")]
    let moves : List Move :=
      [⟨"main", "a", .execute "SLOW"⟩, ⟨"main", "b", .execute "BAD"⟩, ⟨"main", "b", .execute "B"⟩,
        ⟨"main", "a", .commit⟩, ⟨"main", "b", .commit⟩]
    let moves' : List Move :=
      [⟨"main", "b", .execute "BAD"⟩, ⟨"main", "a", .execute "SLOW"⟩, ⟨"main", "b", .execute "B"⟩,
        ⟨"main", "b", .commit⟩, ⟨"main", "a", .commit⟩]
    Alike desk (desk.run (moves.map Move.request)) (desk.run (moves'.map Move.request))
        (desk.reports moves) (desk.reports moves') ∧
      (desk.run (moves.map Move.request)).world.server.ledger.committed = ["SLOW", "B"] ∧
      (desk.run (moves'.map Move.request)).world.server.ledger.committed = ["B", "SLOW"] := by
  intro rules desk moves moves'
  have same : forall name, moves.filter (fun move => move.name = name) =
      moves'.filter (fun move => move.name = name) := by
    intro name
    by_cases isA : "a" = name
    · subst isA
      rfl
    · by_cases isB : "b" = name
      · subst isB
        rfl
      · simp [moves, moves', isA, isB]
  have undisturbed : Undisturbed desk moves := by decide +kernel
  have undisturbed' : Undisturbed desk moves' := by decide +kernel
  refine ⟨alike_of_shuffle same undisturbed undisturbed', ?_, ?_⟩
  · decide +kernel
  · decide +kernel

end Desk
end ScopedSql
