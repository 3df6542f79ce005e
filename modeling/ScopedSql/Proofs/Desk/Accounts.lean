import ScopedSql.Proofs.Desk.Custody
import ScopedSql.Proofs.Desk.Record
import ScopedSql.Proofs.Scripted.Chronicle

namespace ScopedSql

open Scripted

/-!
# No session is lost

A desk over a chronicle of the server does what a desk over the server does, and
tells in which order sessions were used and closed.  In every run each session that
was opened is closed, or an open transaction has it, or the background work has it,
or a pool has taken it in, unless its transaction was let go where no runtime does
any work in the background.  Which sessions pools have taken in is told by the log:
those on which all statements were run that put them in their place, if each of them
succeeded.  Which statements these are is told by the request that a pool be opened.
-/

/-! ## Sessions that pools have taken in -/

/-- The session was opened for a pool and accepted: all statements that put it in its place were run
there, in their order and before any others, and each of them succeeded. -/
structure Opening.Accepted (server : Server) (opening : Opening Session) : Prop where
  logged : opening.pinned <+: (server.log opening.session.number).map Entry.sql
  succeeded : forall sql, sql ∈ opening.pinned -> server.rules.refusal? sql = none

instance (server : Server) (opening : Opening Session) : Decidable (opening.Accepted server) :=
  decidable_of_iff
    (opening.pinned <+: (server.log opening.session.number).map Entry.sql ∧
      forall sql, sql ∈ opening.pinned -> server.rules.refusal? sql = none)
    ⟨fun ⟨logged, succeeded⟩ => ⟨logged, succeeded⟩,
      fun accepted => ⟨accepted.logged, accepted.succeeded⟩⟩

/-- Texts that are all marked with success begin others if they do so without the marks, and each of
them succeeds. -/
theorem Route.marked_prefix_iff {succeeds : String -> Bool} {sqls texts : List String} :
    sqls.map (fun sql => (sql, true)) <+: texts.map (fun sql => (sql, succeeds sql)) ↔
      sqls <+: texts ∧ forall sql, sql ∈ sqls -> succeeds sql = true := by
  induction sqls generalizing texts with
  | nil => exact iff_of_true List.nil_prefix ⟨List.nil_prefix, fun _ member => nomatch member⟩
  | cons sql rest inductionHypothesis =>
      cases texts with
      | nil => simp
      | cons text texts =>
          rw [List.map_cons, List.map_cons, List.cons_prefix_cons, List.cons_prefix_cons,
            inductionHypothesis, List.forall_mem_cons, Prod.mk.injEq]
          constructor
          · rintro ⟨⟨rfl, succeeded⟩, within, others⟩
            exact ⟨⟨rfl, within⟩, succeeded.symm, others⟩
          · rintro ⟨⟨rfl, within⟩, succeeded, others⟩
            exact ⟨⟨rfl, succeeded.symm⟩, within, others⟩

/-- A session was accepted if it went through its whole route. -/
theorem Opening.accepted_iff_done {server : Server} {opening : Opening Session} :
    opening.Accepted server ↔
      Route.Done server.said ⟨opening.session.number, opening.pinned⟩ := by
  have said : server.said opening.session.number =
      ((server.log opening.session.number).map Entry.sql).map
        (fun sql => (sql, (server.rules.refusal? sql).isNone)) := by
    rw [Server.said, List.map_map]
    rfl
  rw [Route.Done, Route.wanted, said, Route.marked_prefix_iff]
  simp only [Option.isNone_iff_eq_none]
  exact ⟨fun accepted => ⟨accepted.logged, accepted.succeeded⟩,
    fun ⟨logged, succeeded⟩ => ⟨logged, succeeded⟩⟩

namespace Desk

/-- The sessions, by number, that were opened for pools and accepted. -/
def acceptedSessions (desk : Desk Server Session) : List Nat :=
  (desk.world.openings.filter (fun opening => opening.Accepted desk.world.server)).map
    (fun opening => opening.session.number)

/-! ## Where sessions are -/

/-- How many transactions of a desk are open. -/
def openTransactions {σ κ : Type} (desk : Desk σ κ) : Nat :=
  desk.transactions.countP (fun kept => kept.2.isOpen)

/-- The sessions, by number, that wait in the background to be closed, or to be handed to a pool. -/
def backgroundSessions (desk : Desk Server Session) : List Nat :=
  desk.world.errands.filterMap (fun errand => errand.task.held?.map Session.number)

/-- One of the requests asks for the statements, to put each session of a pool in its place. -/
def AskedFor (requests : List Request) (pinned : List String) : Prop :=
  exists request, request ∈ requests ∧ request.pins? = some pinned

/-- What was done with the sessions of a desk after some requests, in this order: none was closed
twice or used after it was closed, and none was lost but those that were left to nobody. -/
structure Balanced (desk : Desk Server Session) (requests : List Request)
    (forgotten : List Session) (deeds : List Deed) : Prop where
  entries : desk.world.server.ledger.entries = deeds.filterMap Deed.entry?
  closed : desk.world.server.ledger.closed = deeds.filterMap Deed.closing?
  last : deeds.Pairwise Deed.Allows
  once : desk.world.server.ledger.closed.Nodup
  /-- Each session that was opened is at one of these places, and only at one. -/
  whereabouts : (desk.world.server.ledger.closed ++ (desk.sessions.map Session.number ++
      (desk.acceptedSessions ++ (desk.backgroundSessions ++ forgotten.map Session.number)))).Perm
    (List.range' 1 desk.world.server.ledger.opened)
  kept : forall kept, kept ∈ desk.world.idle -> kept.2.number ∈ desk.acceptedSessions
  /-- A session is opened for a pool with the statements that were asked for. -/
  asked : forall opening, opening ∈ desk.world.openings -> AskedFor requests opening.pinned
  balance : desk.world.server.ledger.opened = desk.world.server.ledger.closed.length +
    (desk.openTransactions + desk.acceptedSessions.length + desk.backgroundSessions.length +
      forgotten.length)

theorem sessions_length (desk : Desk Server Session) :
    desk.sessions.length = desk.openTransactions := by
  rw [sessions, openTransactions]
  induction desk.transactions with
  | nil => rfl
  | cons first rest inductionHypothesis =>
      rw [List.flatMap_cons, List.length_append, inductionHypothesis, List.countP_cons,
        Nat.add_comm]
      congr 1
      rw [Transaction.sessions, Transaction.isOpen]
      cases first.2.phase <;> rfl

section Chronicled

variable (desk : Desk Chronicle Session) (asks : List String -> Prop)

/-- What the transactions of a desk have in hand are their sessions. -/
theorem inHand_eq : inHand (Chronicle.custody asks) desk.transactions =
    (desk.image Chronicle.server).sessions.map Session.number := by
  rw [inHand, sessions, List.map_flatMap]
  apply List.flatMap_congr
  intro kept _
  rw [Custody.held, Transaction.sessions]
  cases kept.2.phase <;> rfl

/-- What the background work has in hand are the sessions that wait there. -/
theorem background_perm :
    (((Chronicle.custody asks).background desk.world).own ++
        ((Chronicle.custody asks).background desk.world).underWay.map Route.session).Perm
      (desk.image Chronicle.server).backgroundSessions := by
  have errands : (desk.image Chronicle.server).world.errands = desk.world.errands := rfl
  rw [Custody.background, backgroundSessions, errands]
  induction desk.world.errands with
  | nil => exact List.Perm.refl _
  | cons errand rest inductionHypothesis =>
      rw [List.flatMap_cons, List.flatMap_cons, List.filterMap_cons]
      cases errand.task with
      | cancel token => exact inductionHypothesis
      | connect pool target pinned => exact inductionHypothesis
      | abandon session inTime => exact inductionHypothesis.cons session.number
      | position pool session sql rest =>
          exact List.perm_middle.trans (inductionHypothesis.cons session.number)

/-- The pools have taken in the sessions that were accepted. -/
theorem takenIn_eq : (Chronicle.custody asks).takenIn desk.world =
    (desk.image Chronicle.server).acceptedSessions := by
  rw [Custody.takenIn, Custody.routes, Routes.taken, acceptedSessions, List.filter_map,
    List.map_map]
  congr 1
  exact List.filter_congr fun opening _ => decide_eq_decide.mpr Opening.accepted_iff_done.symm

variable {desk} in
/-- A desk over a chronicle whose sessions are accounted for is balanced. -/
theorem Accounted.balanced {requests : List Request} {forgotten : List Session}
    (accounted : Accounted (Chronicle.custody (AskedFor requests)) desk
      (forgotten.map Session.number)) :
    Balanced (desk.image Chronicle.server) requests forgotten desk.world.server.deeds := by
  have tells := accounted.complete.accounts.out
  rw [← Custody.takenIn, takenIn_eq desk] at tells
  have whereabouts : (desk.world.server.server.ledger.closed ++
      ((desk.image Chronicle.server).sessions.map Session.number ++
        ((desk.image Chronicle.server).acceptedSessions ++
          ((desk.image Chronicle.server).backgroundSessions ++
            forgotten.map Session.number)))).Perm
      (List.range' 1 desk.world.server.server.ledger.opened) := by
    refine List.Perm.trans (List.perm_append_comm.trans (List.Perm.append_right _ ?_)) tells.opened
    rw [← inHand_eq desk (AskedFor requests)]
    -- Both lists have the same parts, in another order.
    refine List.perm_iff_count.mpr fun number => ?_
    have background := (background_perm desk (AskedFor requests)).count_eq number
    simp only [Hands.having, List.nil_append, List.count_append] at background ⊢
    omega
  have count := whereabouts.length_eq
  rw [List.length_range', List.length_append, List.length_append, List.length_append,
    List.length_append, List.length_map, List.length_map, sessions_length] at count
  refine ⟨tells.entries, tells.closed, tells.last, (List.nodup_append.mp tells.nodup).2.1,
    whereabouts, ?_, accounted.complete.asked.openings, ?_⟩
  · intro kept member
    rw [← takenIn_eq desk (AskedFor requests)]
    exact accounted.complete.idle kept member
  · have image : (desk.image Chronicle.server).world.server = desk.world.server.server := rfl
    rw [image]
    omega

end Chronicled

/-- After every run each session that was opened is closed, or an open transaction, the background
work or a pool has it, or it was left to nobody; and no session was used or closed after it was
closed.  If there was a runtime all the time, then nothing is left to nobody, and at rest the
sessions that are open are those of open transactions and those that pools have accepted. -/
theorem balanced_of_run (rules : Rules) (requests : List Request) :
    let desk := (ofRules rules).run requests
    let chronicled := (Desk.start (Chronicle.ofRules rules)).performAll requests
    chronicled.image Chronicle.server = desk ∧
      Balanced desk requests ((ofRules rules).forgotten requests)
        chronicled.world.server.deeds ∧
      ((forall request, request ∈ requests -> request.attended = true) ->
        (forall errand, errand ∈ desk.world.errands -> errand.task.held? = none) ->
          (desk.world.server.ledger.opened : Int) - desk.world.server.ledger.closed.length =
            desk.openTransactions + desk.acceptedSessions.length) := by
  intro desk chronicled
  have same : chronicled.image Chronicle.server = desk :=
    (image_performAll Chronicle.seen _ requests).symm
  have accounted := (accounted_start (Chronicle.custody (AskedFor requests))
    (Chronicle.tells_ofRules rules)).performAll requests
      fun request member pinned asks => ⟨request, member, asks⟩
  rw [List.nil_append, ← image_forgotten Chronicle.seen] at accounted
  have balanced : Balanced desk requests ((ofRules rules).forgotten requests)
      chronicled.world.server.deeds := same ▸ accounted.balanced
  refine ⟨same, balanced, ?_⟩
  intro attended rests
  have none : desk.backgroundSessions = [] := by
    apply List.filterMap_eq_nil_iff.mpr
    intro errand member
    rw [rests errand member, Option.map_none]
  have balance := balanced.balance
  rw [none, (ofRules rules).forgotten_of_attended attended, List.length_nil, List.length_nil]
    at balance
  omega

/-- A transaction is open, another was committed, a third was let go, and a pool was reached and has
taken in a session. -/
theorem balanced_of_busy_desk :
    let requests : List Request :=
      [.begin "main" "first" (.by Scripted.connector) Scope.plain,
        .begin "main" "second" (.by Scripted.connector) Scope.plain,
        .begin "main" "third" (.by Scripted.connector) Scope.plain,
        .command "main" "second" .commit, .drop "third",
        .openPool "main" (.by Scripted.connector) (Scope.onBranch "main"),
        .poolExecute "main" "SELECT 1"]
    let desk := (ofRules Rules.standard).run requests
    (forall request, request ∈ requests -> request.attended = true) ∧
      (forall errand, errand ∈ desk.world.errands -> errand.task.held? = none) ∧
      desk.openTransactions = 1 ∧ desk.acceptedSessions = [5] ∧
      desk.world.server.ledger.closed = [2, 3, 4] ∧ desk.world.server.ledger.opened = 5 := by
  intro requests desk
  have attended : forall request, request ∈ requests -> request.attended = true := by
    simp [requests, Request.attended]
  have rests : forall errand, errand ∈ desk.world.errands -> errand.task.held? = none := by
    intro errand member
    have none : desk.world.errands.length = 0 := by decide +kernel
    rw [List.length_eq_zero_iff.mp none] at member
    cases member
  have isOpen : desk.openTransactions = 1 := by decide +kernel
  have accepted : desk.acceptedSessions = [5] := by decide +kernel
  have closed : desk.world.server.ledger.closed = [2, 3, 4] := by decide +kernel
  have opened : (desk.world.server.ledger.opened : Int) - desk.world.server.ledger.closed.length =
      desk.openTransactions + desk.acceptedSessions.length :=
    (balanced_of_run Rules.standard requests).2.2 attended rests
  rw [isOpen, accepted, closed] at opened
  simp only [List.length_cons, List.length_nil] at opened
  refine ⟨attended, rests, isOpen, accepted, closed, ?_⟩
  omega

/-- A session on which a statement of its pool was refused is closed, and no pool has it. -/
example :
    let rules : Rules := { Rules.standard with branches := some ["main"] }
    let requests : List Request :=
      [.openPool "main" (.by Scripted.connector) (Scope.onBranch "dev"),
        .poolExecute "main" "SELECT 1"]
    let desk := (ofRules rules).run requests
    desk.world.openings.length = 1 ∧ desk.acceptedSessions = [] ∧
      desk.world.server.ledger.closed = [1, 2] ∧ desk.world.server.ledger.opened = 2 := by
  decide +kernel

/-- What is let go where no runtime does any work in the background stays open for good. -/
example :
    let requests : List Request :=
      [.begin "main" "tx" (.by Scripted.connector) Scope.plain, .forget "tx"]
    let desk := (ofRules Rules.standard).run requests
    desk.world.server.ledger.opened = 1 ∧ desk.world.server.ledger.closed = [] ∧
      desk.openTransactions = 0 ∧ desk.world.errands.length = 0 := by
  decide +kernel

end Desk
end ScopedSql
