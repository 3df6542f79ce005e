import ScopedSql.Proofs.Transaction.Interruption
import ScopedSql.Proofs.World.Seclusion

namespace ScopedSql

open Scripted World

/-!
# What a call on a transaction does by itself

Under the rules of the server a call has one effect on its transaction: a result,
what the transaction becomes, and a share of the ledger.  The effect says nothing
about the world around it.  If nothing disturbs the call, then this effect is what
it has, whatever the others do meanwhile.
-/

/-- The effect of a call: its result, what its transaction becomes, and its share of the ledger. -/
structure Effect (α : Type) where
  result : Except Error α
  after : Transaction Session
  share : Share

/-- What a caller makes of a result does not change the rest of the effect. -/
def Effect.reply {α β : Type} (effect : Effect α) (f : Except Error α -> Except Error β) :
    Effect β :=
  ⟨f effect.result, effect.after, effect.share⟩

namespace Transaction

variable {α : Type} (rules : Rules) (tx : Transaction Session)

/-- The effect of a statement with its own outcome. -/
def statementEffect (own : Except Error α) (sql : String) : Effect α :=
  match tx.phase with
  | .ended ending => ⟨.error (.finished ending), tx, Share.none⟩
  | .live session =>
    ⟨own, tx.withSession (rules.move session sql),
      Share.wait (rules.delay sql) ++ Share.say rules session sql⟩

/-- The effect of a rollback.  It is given up if it takes too long. -/
def rollbackEffect : Effect Unit :=
  match tx.phase with
  | .ended _ => ⟨.ok (), tx, Share.none⟩
  | .live session =>
    if rules.delay "ROLLBACK" ≤ cleanupTime then
      ⟨(rules.count "ROLLBACK").map (fun _ => ()), tx.ending .rolledBack,
        Share.wait (rules.delay "ROLLBACK") ++ Share.say rules session "ROLLBACK" ++
          Share.close session⟩
    else
      ⟨.error (.timedOut "rollback"), tx.ending .rolledBack,
        Share.wait cleanupTime ++ Share.close session⟩

/-- The effect of a commit.  If it is refused, that of a rollback follows. -/
def commitEffect : Effect Unit :=
  match tx.phase with
  | .ended ending => ⟨.error (.finished ending), tx, Share.none⟩
  | .live session =>
    let said := Share.wait (rules.delay "COMMIT") ++ Share.say rules session "COMMIT"
    match rules.refusal? "COMMIT" with
    | none => ⟨.ok (), tx.ending .committed, said ++ Share.close session⟩
    | some e => ⟨.error e, (rollbackEffect rules tx).after, said ++ (rollbackEffect rules tx).share⟩

end Transaction

/-- The effect of a command. -/
def Command.effect (rules : Rules) (tx : Transaction Session) : Command -> Effect Reply
  | .execute sql => (tx.statementEffect rules (rules.count sql) sql).reply (Except.map Reply.count)
  | .query sql format =>
    (tx.statementEffect rules (rules.rows sql) sql).reply
      (fun result => (result.bind (fun set => set.render format)).map Reply.text)
  | .rows sql => (tx.statementEffect rules (rules.rows sql) sql).reply (Except.map Reply.rows)
  | .commit => (tx.commitEffect rules).reply (Except.map (fun _ => Reply.done))
  | .rollback => (tx.rollbackEffect rules).reply (Except.map (fun _ => Reply.done))
  | .cancel => ⟨.ok .done, tx, Share.none⟩
  | .fail text => ⟨.error (.reported text), tx, Share.none⟩

/-! ## Whose effects they are -/

/-- The effect is that of a call on the transaction: what it becomes is on the same session, and the
entries are of this session. -/
structure Effect.IsOf {α : Type} (effect : Effect α) (tx : Transaction Session) : Prop where
  session : forall after, effect.after.phase = .live after ->
    exists before, tx.phase = .live before ∧ before.number = after.number
  entries : forall entry, entry ∈ effect.share.entries ->
    exists before, tx.phase = .live before ∧ before.number = entry.session

namespace Transaction

variable {α : Type} (rules : Rules) (tx : Transaction Session)

/-- What leaves the transaction as it is and adds nothing. -/
theorem isOf_none (result : Except Error α) : (Effect.mk result tx Share.none).IsOf tx :=
  ⟨fun after live => ⟨after, live, rfl⟩, fun _ member => nomatch member⟩

theorem statementEffect_isOf (own : Except Error α) (sql : String) :
    (tx.statementEffect rules own sql).IsOf tx := by
  rw [statementEffect]
  cases phase : tx.phase with
  | ended ending => exact tx.isOf_none _
  | live session =>
      constructor
      · rintro after ⟨⟩
        exact ⟨session, phase, (Rules.move_number rules session sql).symm⟩
      · intro entry member
        cases List.mem_singleton.mp member
        exact ⟨session, phase, rfl⟩

theorem rollbackEffect_isOf : (tx.rollbackEffect rules).IsOf tx := by
  rw [rollbackEffect]
  cases phase : tx.phase with
  | ended ending => exact tx.isOf_none _
  | live session =>
      simp only
      split
      · constructor
        · rintro after ⟨⟩
        · intro entry member
          cases List.mem_singleton.mp member
          exact ⟨session, phase, rfl⟩
      · constructor
        · rintro after ⟨⟩
        · exact fun _ member => nomatch member

theorem commitEffect_isOf : (tx.commitEffect rules).IsOf tx := by
  have rolled := tx.rollbackEffect_isOf rules
  rw [commitEffect]
  cases phase : tx.phase with
  | ended ending => exact tx.isOf_none _
  | live session =>
      simp only
      split
      · constructor
        · rintro after ⟨⟩
        · intro entry member
          cases List.mem_singleton.mp member
          exact ⟨session, phase, rfl⟩
      · refine ⟨rolled.session, ?_⟩
        intro entry member
        rcases List.mem_append.mp member with said | last
        · cases List.mem_singleton.mp said
          exact ⟨session, phase, rfl⟩
        · exact rolled.entries entry last

end Transaction

theorem Command.effect_isOf (rules : Rules) (tx : Transaction Session) (command : Command) :
    (command.effect rules tx).IsOf tx := by
  have statement : forall {α : Type} (own : Except Error α) (sql : String)
      (f : Except Error α -> Except Error Reply),
      ((tx.statementEffect rules own sql).reply f).IsOf tx :=
    fun own sql _ =>
      have isOf := tx.statementEffect_isOf rules own sql
      ⟨isOf.session, isOf.entries⟩
  cases command with
  | execute sql => exact statement _ sql _
  | query sql format =>
      exact statement (rules.rows sql) sql
        (fun result => (result.bind (fun set => set.render format)).map Reply.text)
  | rows sql => exact statement _ sql _
  | commit => exact ⟨(tx.commitEffect_isOf rules).session, (tx.commitEffect_isOf rules).entries⟩
  | rollback =>
      exact ⟨(tx.rollbackEffect_isOf rules).session, (tx.rollbackEffect_isOf rules).entries⟩
  | cancel => exact tx.isOf_none _
  | fail text => exact tx.isOf_none _

/-! ## Tokens -/

section Tokens

variable {σ κ : Type} [Backend σ κ] (tx : Transaction κ) (context : Context) (w : World σ κ)

namespace World

/-- A token that is cancelled stays so while a statement is attempted. -/
theorem cancelled_executeIn (operation sql : String) (session : κ) :
    w.cancelled ⊆ (w.executeIn context operation sql session).2.2.cancelled :=
  List.Subset.trans (await_cancelled w context operation (w.delay sql))
    (executeIn_cancelled w context operation sql session)

theorem cancelled_queryIn (operation sql : String) (session : κ) :
    w.cancelled ⊆ (w.queryIn context operation sql session).2.2.cancelled :=
  List.Subset.trans (await_cancelled w context operation (w.delay sql))
    (queryIn_cancelled w context operation sql session)

end World

namespace Transaction

theorem rollback_cancelled : w.cancelled ⊆ (tx.rollback w).2.2.cancelled := by
  rw [rollback]
  cases tx.phase with
  | ended ending => exact List.Subset.refl _
  | live session =>
      have attempted := cancelled_executeIn w.cleanup w "rollback" "ROLLBACK" session
      simp only
      generalize w.executeIn w.cleanup "rollback" "ROLLBACK" session = answer at attempted ⊢
      rcases answer with ⟨e | count, session', w'⟩ <;> exact attempted

theorem commit_cancelled {session : κ} (live : tx.phase = .live session) :
    (w.executeIn context "commit" "COMMIT" session).2.2.cancelled ⊆
      (tx.commit context w).2.2.cancelled := by
  rw [commit, live]
  simp only
  rcases w.executeIn context "commit" "COMMIT" session with ⟨e | count, session', w'⟩
  · exact rollback_cancelled (tx.withSession session') w'
  · exact List.Subset.refl _

end Transaction

/-- A token that is cancelled stays so while a command is carried out. -/
theorem Command.run_cancelled (command : Command) :
    w.cancelled ⊆ (command.run context tx w).2.2.cancelled := by
  have executed : forall sql, w.cancelled ⊆ (tx.execute context sql w).2.2.cancelled := by
    intro sql
    rw [Transaction.execute, Transaction.executeAs]
    cases tx.phase with
    | ended ending => exact List.Subset.refl _
    | live session => exact cancelled_executeIn context w "exec" sql session
  have queried : forall sql, w.cancelled ⊆ (tx.query context sql w).2.2.cancelled := by
    intro sql
    rw [Transaction.query]
    cases tx.phase with
    | ended ending => exact List.Subset.refl _
    | live session => exact cancelled_queryIn context w "query" sql session
  cases command with
  | execute sql => exact executed sql
  | query sql format => exact queried sql
  | rows sql => exact queried sql
  | commit =>
      cases phase : tx.phase with
      | ended ending =>
          rw [run, Transaction.commit, phase]
          exact List.Subset.refl _
      | live session =>
          exact List.Subset.trans (cancelled_executeIn context w "commit" "COMMIT" session)
            (tx.commit_cancelled context w phase)
  | rollback => exact tx.rollback_cancelled w
  | cancel =>
      rw [run]
      cases context.token with
      | none => exact List.Subset.refl _
      | some token => exact List.subset_cons_self _ _
  | fail text => exact List.Subset.refl _

end Tokens

/-! ## Calls that nothing disturbs -/

/-- A call has its effect and nothing else is disturbed by it. -/
structure Effective {α : Type} (rules : Rules) (hidden : List Nat) (effect : Effect α)
    (w : World Server Session)
    (answer : Except Error α × Transaction Session × World Server Session) : Prop where
  result : answer.1 = effect.result
  after : answer.2.1 = effect.after
  advances : Advances rules hidden effect.share w answer.2.2

variable {α β : Type} {rules : Rules} {hidden : List Nat} {context : Context} {session : Session}
  {tx : Transaction Session} {w w' : World Server Session}

theorem Effective.reply {effect : Effect α}
    {answer : Except Error α × Transaction Session × World Server Session}
    (effective : Effective rules hidden effect w answer)
    (f : Except Error α -> Except Error β) :
    Effective rules hidden (effect.reply f) w (f answer.1, answer.2.1, answer.2.2) :=
  ⟨congrArg f effective.result, effective.after, effective.advances⟩

namespace World

/-- A statement is run once its time is over. -/
theorem Advances.said (secluded : Secluded rules hidden w) (member : session.number ∈ hidden)
    (sql : String) :
    (w.pause (w.delay sql)).server.rules = rules ∧
      Advances rules hidden (Share.wait (rules.delay sql) ++ Share.say rules session sql) w
        ((w.pause (w.delay sql)).say sql session) := by
  rw [delay_eq secluded.sameRules]
  have waited := Advances.pause secluded (rules.delay sql)
  exact ⟨waited.secluded.sameRules, waited.trans (.say waited.secluded member sql)⟩

end World

/-- The session of a transaction is out of sight, if it has one. -/
def Transaction.HiddenIn (hidden : List Nat) (tx : Transaction Session) : Prop :=
  forall session, tx.phase = .live session -> session.number ∈ hidden

namespace Transaction

variable (secluded : Secluded rules hidden w) (isHidden : tx.HiddenIn hidden)
include secluded isHidden

theorem executeAs_effective {operation sql : String} (endless : context.deadline = none)
    (free : (tx.executeAs context operation sql w).2.2.isCancelled context = false) :
    Effective rules hidden (tx.statementEffect rules (rules.count sql) sql) w
      (tx.executeAs context operation sql w) := by
  rw [executeAs] at free ⊢
  rw [statementEffect]
  cases phase : tx.phase with
  | ended ending => exact ⟨rfl, rfl, .refl secluded⟩
  | live session =>
      simp only [phase] at free ⊢
      rcases Advances.said secluded (isHidden session phase) sql with ⟨same, said⟩
      rw [executeIn_of_free endless free, execute_eq same]
      exact ⟨rfl, rfl, said⟩

theorem query_effective {sql : String} (endless : context.deadline = none)
    (free : (tx.query context sql w).2.2.isCancelled context = false) :
    Effective rules hidden (tx.statementEffect rules (rules.rows sql) sql) w
      (tx.query context sql w) := by
  rw [query] at free ⊢
  rw [statementEffect]
  cases phase : tx.phase with
  | ended ending => exact ⟨rfl, rfl, .refl secluded⟩
  | live session =>
      simp only [phase] at free ⊢
      rcases Advances.said secluded (isHidden session phase) sql with ⟨same, said⟩
      rw [queryIn_of_free endless free, query_eq same]
      exact ⟨rfl, rfl, said⟩

/-- Nobody can disturb a rollback. -/
theorem rollback_effective :
    Effective rules hidden (tx.rollbackEffect rules) w (tx.rollback w) := by
  rw [rollback, rollbackEffect]
  cases phase : tx.phase with
  | ended ending => exact ⟨rfl, rfl, .refl secluded⟩
  | live session =>
      have member := isHidden session phase
      simp only [executeIn, await_of_cleanup, delay_eq secluded.sameRules]
      by_cases inTime : rules.delay "ROLLBACK" ≤ cleanupTime
      · rcases Advances.said secluded member "ROLLBACK" with ⟨same, said⟩
        rw [delay_eq secluded.sameRules] at same said
        have closed := said.trans (.close said.secluded member)
        rw [if_pos inTime, if_pos inTime, Nat.min_eq_left inTime]
        simp only [execute_eq same]
        cases rules.count "ROLLBACK" with
        | error e =>
            simp only [close_move]
            exact ⟨rfl, rfl, closed⟩
        | ok count =>
            simp only [close_move]
            exact ⟨rfl, rfl, closed⟩
      · have waited := Advances.pause secluded cleanupTime
        rw [if_neg inTime, if_neg inTime, Nat.min_eq_right (Nat.le_of_not_le inTime)]
        exact ⟨rfl, rfl, waited.trans (.close waited.secluded member)⟩

theorem commit_effective (endless : context.deadline = none)
    (free : (tx.commit context w).2.2.isCancelled context = false) :
    Effective rules hidden (tx.commitEffect rules) w (tx.commit context w) := by
  cases phase : tx.phase with
  | ended ending =>
      rw [commit, commitEffect, phase]
      exact ⟨rfl, rfl, .refl secluded⟩
  | live session =>
      have member := isHidden session phase
      have free := free_of_subset (tx.commit_cancelled context w phase) free
      rcases Advances.said secluded member "COMMIT" with ⟨same, said⟩
      rw [commit, commitEffect, phase]
      simp only [executeIn_of_free endless free, execute_eq same]
      rw [Rules.count, Rules.answer]
      cases refused : rules.refusal? "COMMIT" with
      | none =>
          have closed := said.trans (.close said.secluded member)
          simp only [Except.map, close_move]
          exact ⟨rfl, rfl, closed⟩
      | some e =>
          have still : tx.withSession (rules.move session "COMMIT") = tx := by
            rw [Rules.move_of_refused refused, withSession, ← phase]
          have rolled := rollback_effective said.secluded isHidden
          simp only [Except.map, still]
          exact ⟨rfl, rolled.after, said.trans rolled.advances⟩

end Transaction

/-- A command that nothing disturbs has its effect. -/
theorem Command.run_effective (secluded : Secluded rules hidden w)
    (isHidden : tx.HiddenIn hidden) (endless : context.deadline = none) (command : Command)
    (free : (command.run context tx w).2.2.isCancelled context = false) :
    Effective rules hidden (command.effect rules tx) w (command.run context tx w) := by
  cases command with
  | execute sql => exact (Transaction.executeAs_effective secluded isHidden endless free).reply _
  | query sql format =>
      exact (Transaction.query_effective secluded isHidden endless free).reply
        (fun result => (result.bind (fun set => set.render format)).map Reply.text)
  | rows sql => exact (Transaction.query_effective secluded isHidden endless free).reply _
  | commit => exact (Transaction.commit_effective secluded isHidden endless free).reply _
  | rollback => exact (Transaction.rollback_effective secluded isHidden).reply _
  | cancel =>
      rw [run] at free ⊢
      cases token : context.token with
      | none => exact ⟨rfl, rfl, .refl secluded⟩
      | some token =>
          simp [World.isCancelled, World.cancel, token] at free
  | fail text => exact ⟨rfl, rfl, .refl secluded⟩

end ScopedSql
