import Mathlib.Logic.Relation
import Mathlib.Data.List.Perm.Subperm
import ScopedSql.Proofs.Scripted.Outcome
import ScopedSql.Proofs.Scripted.Reading

namespace ScopedSql
namespace Scripted

/-!
# Sessions in circulation

Many hands use one server.  Seen from a transaction, what the others do comes
down to few kinds of steps on the sessions that they hold among them: sessions
change hands, are opened, are used, are closed, or are left behind to be rolled
back and closed later.  A session that is not among them is out of their reach,
and that is all the isolation that a transaction has.
-/

/-- What those may do who hold the sessions in circulation. -/
structure Licence where
  speaks : String -> Prop
  enters : Prop

/-- To run any statement, and to open sessions. -/
def Licence.full : Licence := ⟨fun _ => True, True⟩

/-- One licence grants no more than another. -/
structure Licence.Within (small large : Licence) : Prop where
  speaks : forall sql, small.speaks sql -> large.speaks sql
  enters : small.enters -> large.enters

theorem Licence.within_full (licence : Licence) : licence.Within Licence.full :=
  ⟨fun _ _ => True.intro, fun _ => True.intro⟩

/-- The same licence without the right to open sessions. -/
def Licence.shut (licence : Licence) : Licence := ⟨licence.speaks, False⟩

theorem Licence.shut_within (licence : Licence) : licence.shut.Within licence :=
  ⟨fun _ speaks => speaks, fun enters => enters.elim⟩

/-- The sessions that can be used, those that were left behind, and their server. -/
structure Circulation where
  free : List Session
  leaving : List Session
  server : Server

namespace Circulation

/-- One step of those who hold the sessions in circulation. -/
inductive Step (licence : Licence) : Circulation -> Circulation -> Prop
  /-- Sessions change hands, and some are forgotten. -/
  | shift {free fewer leaving same : List Session} {server : Server}
      (kept : List.Subperm fewer free) (all : List.Perm same leaving) :
      Step licence ⟨free, leaving, server⟩ ⟨fewer, same, server⟩
  | enter {free leaving : List Session} {server : Server} (may : licence.enters) :
      Step licence ⟨free, leaving, server⟩
        ⟨Session.fresh (server.ledger.opened + 1) :: free, leaving, server.afterOpen⟩
  | say {session : Session} {free leaving : List Session} {server : Server} {sql : String}
      (may : licence.speaks sql) :
      Step licence ⟨session :: free, leaving, server⟩
        ⟨server.rules.move session sql :: free, leaving, server.afterRun session sql⟩
  | close {session : Session} {free leaving : List Session} {server : Server} :
      Step licence ⟨session :: free, leaving, server⟩ ⟨free, leaving, server.close session⟩
  | leave {session : Session} {free leaving : List Session} {server : Server} :
      Step licence ⟨session :: free, leaving, server⟩ ⟨free, session :: leaving, server⟩
  /-- A session that was left behind is rolled back, if there is time, and closed. -/
  | clear {session : Session} {free leaving : List Session} {server : Server} (inTime : Bool) :
      Step licence ⟨free, session :: leaving, server⟩
        ⟨free, leaving,
          (if inTime then server.afterRun session "ROLLBACK" else server).close session⟩

/-- Any number of steps. -/
abbrev Conduct (licence : Licence) : Circulation -> Circulation -> Prop :=
  Relation.ReflTransGen (Step licence)

variable {licence : Licence} {c c' : Circulation}

/-- Who may do more can do what others do. -/
theorem Conduct.within {large : Licence} (within : licence.Within large)
    (conduct : Conduct licence c c') : Conduct large c c' := by
  apply Relation.ReflTransGen.mono ?_ _ _ conduct
  intro before after step
  cases step with
  | shift kept all => exact .shift kept all
  | enter may => exact .enter (within.enters may)
  | say may => exact .say (within.speaks _ may)
  | close => exact .close
  | leave => exact .leave
  | clear inTime => exact .clear inTime

/-- More sessions that can be used. -/
def joined (c : Circulation) (more : List Session) : Circulation :=
  { c with free := c.free ++ more }

/-- Further sessions are no hindrance. -/
theorem Conduct.lift (conduct : Conduct licence c c') (more : List Session) :
    Conduct licence (c.joined more) (c'.joined more) := by
  apply Relation.ReflTransGen.lift (fun c : Circulation => c.joined more) ?_ _ _ conduct
  intro before after step
  cases step with
  | shift kept all => exact .shift ((List.subperm_append_right more).mpr kept) all
  | enter may => exact .enter may
  | say may => exact .say may
  | close => exact .close
  | leave => exact .leave
  | clear inTime => exact .clear inTime

/-! ## What stays the same -/

theorem Conduct.rules (conduct : Conduct licence c c') : c'.server.rules = c.server.rules := by
  induction conduct with
  | refl => rfl
  | tail _ step inductionHypothesis =>
      rw [← inductionHypothesis]
      cases step with
      | clear inTime => cases inTime <;> rfl
      | _ => rfl

/-- Who may not open sessions opens none. -/
theorem Conduct.opened_eq (shut : ¬ licence.enters) (conduct : Conduct licence c c') :
    c'.server.ledger.opened = c.server.ledger.opened := by
  induction conduct with
  | refl => rfl
  | tail _ step inductionHypothesis =>
      rw [← inductionHypothesis]
      cases step with
      | enter may => exact absurd may shut
      | clear inTime => cases inTime <;> rfl
      | _ => rfl


/-- Who runs no commit that succeeds makes nothing durable. -/
theorem Conduct.committed_eq (quiet : forall sql, licence.speaks sql -> c.server.rules.Quiet sql)
    (conduct : Conduct licence c c') : c'.server.ledger.committed = c.server.ledger.committed := by
  induction conduct with
  | refl => rfl
  | tail before step inductionHypothesis =>
      have unchanged := Conduct.rules before
      rw [← inductionHypothesis]
      cases step with
      | say may =>
          rw [Server.afterRun_committed, Rules.delivery_of_quiet (unchanged ▸ quiet _ may),
            List.append_nil]
      | @clear _ _ _ server inTime =>
          cases inTime with
          | false => rfl
          | true =>
              have nothing := Rules.delivery_of_quiet
                (Rules.quiet_of_read Control.read_rollback (by decide) server.rules)
              simp only [if_true, Server.close_committed, Server.afterRun_committed, nothing,
                List.append_nil]
      | _ => rfl

/-! ## Sessions that are not among them -/

def sessions (c : Circulation) : List Session :=
  c.free ++ c.leaving

/-- A session was opened and is not in circulation. -/
structure Absent (number : Nat) (c : Circulation) : Prop where
  opened : number ≤ c.server.ledger.opened
  absent : number ∉ c.sessions.map Session.number

/-- Nothing happens to a session that is not in circulation, and it does not get there. -/
theorem Step.bystander {number : Nat} (step : Step licence c c') (away : Absent number c) :
    Absent number c' ∧ c'.server.log number = c.server.log number ∧
      c'.server.closings number = c.server.closings number := by
  rcases away with ⟨opened, absent⟩
  cases step with
  | shift kept all =>
      refine ⟨⟨opened, fun member => absent ?_⟩, rfl, rfl⟩
      rw [sessions, List.map_append, List.mem_append] at member ⊢
      rcases member with free | leaving
      · rcases List.mem_map.mp free with ⟨session, member, same⟩
        exact Or.inl (List.mem_map.mpr ⟨session, kept.subset member, same⟩)
      · exact Or.inr ((all.map _).subset leaving)
  | @enter free leaving server may =>
      refine ⟨⟨Nat.le_succ_of_le opened, ?_⟩, rfl, rfl⟩
      rw [sessions, List.cons_append, List.map_cons, List.mem_cons]
      rintro (same | member)
      · exact absurd opened (by rw [same]; exact Nat.not_succ_le_self _)
      · exact absent member
  | @say session free leaving server sql may =>
      simp only [sessions, List.cons_append, List.map_cons, List.mem_cons, not_or] at absent
      refine ⟨⟨opened, ?_⟩, Server.afterRun_log_of_ne _ _ (Ne.symm absent.1), rfl⟩
      simpa only [sessions, List.cons_append, List.map_cons, List.mem_cons, not_or,
        Rules.move_number] using absent
  | @close session free leaving server =>
      simp only [sessions, List.cons_append, List.map_cons, List.mem_cons, not_or] at absent
      exact ⟨⟨opened, absent.2⟩, rfl, Server.close_closings_of_ne _ (Ne.symm absent.1)⟩
  | @leave session free leaving server =>
      refine ⟨⟨opened, fun member => absent ?_⟩, rfl, rfl⟩
      rw [List.mem_map] at member ⊢
      rcases member with ⟨other, member, same⟩
      exact ⟨other, List.perm_middle.subset member, same⟩
  | @clear session free leaving server inTime =>
      simp only [sessions, List.map_append, List.map_cons, List.mem_append, List.mem_cons,
        not_or] at absent
      have other : session.number ≠ number := Ne.symm absent.2.1
      have gone : number ∉ (free ++ leaving).map Session.number := by
        rw [List.map_append, List.mem_append, not_or]
        exact ⟨absent.1, absent.2.2⟩
      cases inTime with
      | false => exact ⟨⟨opened, gone⟩, rfl, Server.close_closings_of_ne _ other⟩
      | true =>
          exact ⟨⟨opened, gone⟩, Server.afterRun_log_of_ne _ _ other,
            Server.close_closings_of_ne _ other⟩

/-- Whatever the others do, a session that is not in circulation is out of their reach. -/
theorem Conduct.bystander {number : Nat} (conduct : Conduct licence c c')
    (away : Absent number c) :
    Absent number c' ∧ c'.server.log number = c.server.log number ∧
      c'.server.closings number = c.server.closings number := by
  induction conduct with
  | refl => exact ⟨away, rfl, rfl⟩
  | tail _ step inductionHypothesis =>
      rcases inductionHypothesis with ⟨still, sameLog, sameClosings⟩
      rcases step.bystander still with ⟨away, log, closings⟩
      exact ⟨away, log.trans sameLog, closings.trans sameClosings⟩

/-! ## Numbers -/

/-- Sessions have the numbers of those that were opened, and nothing is said of later numbers. -/
structure Numbered (c : Circulation) : Prop where
  known : forall session, session ∈ c.sessions -> session.number ≤ c.server.ledger.opened
  silent : forall number, c.server.ledger.opened < number ->
    c.server.log number = [] ∧ c.server.closings number = 0

/-- The next number is that of no session in circulation. -/
theorem Numbered.next_absent (numbered : Numbered c) :
    c.server.ledger.opened + 1 ∉ c.sessions.map Session.number := by
  intro member
  rcases List.mem_map.mp member with ⟨session, member, same⟩
  exact Nat.not_succ_le_self _ (same ▸ numbered.known session member)

/-- With fewer sessions in circulation the numbers are still in order. -/
theorem Numbered.subset (numbered : Numbered c) {free leaving : List Session}
    (fewer : forall session, session ∈ free ++ leaving -> session ∈ c.sessions) :
    Numbered ⟨free, leaving, c.server⟩ :=
  ⟨fun session member => numbered.known session (fewer session member), numbered.silent⟩

theorem Numbered.run (numbered : Numbered c) {session : Session}
    (known : session.number ≤ c.server.ledger.opened) (sql : String) :
    Numbered ⟨c.free, c.leaving, c.server.afterRun session sql⟩ := by
  refine ⟨numbered.known, ?_⟩
  intro number later
  have other : session.number ≠ number := Nat.ne_of_lt (Nat.lt_of_le_of_lt known later)
  rw [Server.afterRun_log_of_ne _ _ other]
  exact numbered.silent number later

theorem Numbered.close (numbered : Numbered c) {session : Session}
    (known : session.number ≤ c.server.ledger.opened) :
    Numbered ⟨c.free, c.leaving, c.server.close session⟩ := by
  refine ⟨numbered.known, ?_⟩
  intro number later
  have other : session.number ≠ number := Nat.ne_of_lt (Nat.lt_of_le_of_lt known later)
  rw [Server.close_closings_of_ne _ other]
  exact numbered.silent number later

theorem Step.numbered (step : Step licence c c') (numbered : Numbered c) : Numbered c' := by
  cases step with
  | shift kept all =>
      apply numbered.subset
      intro session member
      rcases List.mem_append.mp member with free | leaving
      · exact List.mem_append.mpr (Or.inl (kept.subset free))
      · exact List.mem_append.mpr (Or.inr (all.subset leaving))
  | enter may =>
      constructor
      · intro session member
        rcases List.mem_cons.mp member with rfl | member
        · exact Nat.le_refl _
        · exact Nat.le_succ_of_le (numbered.known session member)
      · intro number later
        exact numbered.silent number (Nat.lt_of_succ_lt later)
  | @say session free leaving server sql may =>
      have known := numbered.known session List.mem_cons_self
      refine ⟨?_, (numbered.run known sql).silent⟩
      intro other member
      rcases List.mem_cons.mp member with rfl | member
      · rw [Rules.move_number]
        exact known
      · exact numbered.known other (List.mem_cons_of_mem _ member)
  | @close session free leaving server =>
      have known := numbered.known session List.mem_cons_self
      exact (numbered.close known).subset fun other member => List.mem_cons_of_mem _ member
  | @leave session free leaving server =>
      exact numbered.subset fun other member => List.perm_middle.subset member
  | @clear session free leaving server inTime =>
      have known := numbered.known session (List.mem_append.mpr (Or.inr List.mem_cons_self))
      have fewer : forall other, other ∈ free ++ leaving -> other ∈ free ++ session :: leaving :=
        fun other member => List.perm_middle.symm.subset (List.mem_cons_of_mem _ member)
      cases inTime with
      | false => exact (numbered.close known).subset fewer
      | true => exact (numbered.run known "ROLLBACK").close known |>.subset fewer

theorem Conduct.numbered (conduct : Conduct licence c c') (numbered : Numbered c) :
    Numbered c' := by
  induction conduct with
  | refl => exact numbered
  | tail _ step inductionHypothesis => exact step.numbered inductionHypothesis

/-! ## Sessions that were left behind -/

/-- A session waits to be rolled back and closed, and nobody can use it. -/
structure Waiting (session : Session) (c : Circulation) : Prop where
  opened : session.number ≤ c.server.ledger.opened
  unused : session.number ∉ c.free.map Session.number
  alone : exists others, c.leaving.Perm (session :: others) ∧
    session.number ∉ others.map Session.number

/-- A session was closed after it had waited; perhaps it was rolled back before. -/
structure Cleared (session : Session) (before after : Server) : Prop where
  closings : after.closings session.number = before.closings session.number + 1
  log : after.log session.number = before.log session.number ∨
    after.log session.number = before.log session.number ++ [session.entry "ROLLBACK"]

/-- A session that waits goes on waiting, or it is cleared. -/
theorem Step.waiting {session : Session} (step : Step licence c c') (waits : Waiting session c) :
    (Waiting session c' ∧ c'.server.log session.number = c.server.log session.number ∧
        c'.server.closings session.number = c.server.closings session.number) ∨
      (Absent session.number c' ∧ Cleared session c.server c'.server) := by
  rcases waits with ⟨opened, unused, others, split, alone⟩
  cases step with
  | shift kept all =>
      refine Or.inl ⟨⟨opened, ?_, others, all.trans split, alone⟩, rfl, rfl⟩
      intro member
      apply unused
      rcases List.mem_map.mp member with ⟨other, member, same⟩
      exact List.mem_map.mpr ⟨other, kept.subset member, same⟩
  | enter may =>
      refine Or.inl ⟨⟨Nat.le_succ_of_le opened, ?_, others, split, alone⟩, rfl, rfl⟩
      rw [List.map_cons, List.mem_cons]
      rintro (same | member)
      · exact absurd opened (by rw [same]; exact Nat.not_succ_le_self _)
      · exact unused member
  | @say other free leaving server sql may =>
      simp only [List.map_cons, List.mem_cons, not_or] at unused
      refine Or.inl ⟨⟨opened, ?_, others, split, alone⟩,
        Server.afterRun_log_of_ne _ _ (Ne.symm unused.1), rfl⟩
      simpa only [List.map_cons, List.mem_cons, not_or, Rules.move_number] using unused
  | @close other free leaving server =>
      simp only [List.map_cons, List.mem_cons, not_or] at unused
      exact Or.inl ⟨⟨opened, unused.2, others, split, alone⟩, rfl,
        Server.close_closings_of_ne _ (Ne.symm unused.1)⟩
  | @leave other free leaving server =>
      simp only [List.map_cons, List.mem_cons, not_or] at unused
      refine Or.inl ⟨⟨opened, unused.2, other :: others,
        (split.cons other).trans (List.Perm.swap _ _ _), ?_⟩, rfl, rfl⟩
      simpa only [List.map_cons, List.mem_cons, not_or] using ⟨unused.1, alone⟩
  | @clear other free leaving server inTime =>
      -- Either this session is cleared, or it waits on among the rest.
      by_cases itself : other = session
      · rw [itself] at split ⊢
        refine Or.inr ⟨⟨?_, ?_⟩, ?_⟩
        · cases inTime <;> exact opened
        · rw [sessions, List.map_append, List.mem_append, not_or]
          exact ⟨unused, fun member => alone ((split.cons_inv.map _).subset member)⟩
        · cases inTime with
          | false => exact ⟨Server.close_closings_self _ _, Or.inl rfl⟩
          | true =>
              exact ⟨Server.close_closings_self _ _, Or.inr (Server.afterRun_log_self _ _ _)⟩
      · have member : session ∈ leaving :=
          List.mem_of_ne_of_mem (Ne.symm itself) (split.symm.subset List.mem_cons_self)
        have rest := List.perm_cons_erase member
        have others' : others.Perm (other :: leaving.erase session) :=
          (((rest.cons other).trans (List.Perm.swap _ _ _)).symm.trans split).cons_inv.symm
        have apart : session.number ∉ (other :: leaving.erase session).map Session.number :=
          fun member => alone ((others'.symm.map _).subset member)
        simp only [List.map_cons, List.mem_cons, not_or] at apart
        have otherNumber : other.number ≠ session.number := Ne.symm apart.1
        apply Or.inl
        cases inTime with
        | false =>
            exact ⟨⟨opened, unused, _, rest, apart.2⟩, rfl,
              Server.close_closings_of_ne _ otherNumber⟩
        | true =>
            exact ⟨⟨opened, unused, _, rest, apart.2⟩, Server.afterRun_log_of_ne _ _ otherNumber,
              Server.close_closings_of_ne _ otherNumber⟩

/-- Whatever the others do, a session that waits goes on waiting or is cleared, and nothing else. -/
theorem Conduct.waiting {session : Session} (conduct : Conduct licence c c')
    (waits : Waiting session c) :
    (Waiting session c' ∧ c'.server.log session.number = c.server.log session.number ∧
        c'.server.closings session.number = c.server.closings session.number) ∨
      (Absent session.number c' ∧ Cleared session c.server c'.server) := by
  induction conduct with
  | refl => exact Or.inl ⟨waits, rfl, rfl⟩
  | tail _ step inductionHypothesis =>
      -- Once it is cleared it is out of reach, so that it cannot be cleared twice.
      rcases inductionHypothesis with ⟨still, sameLog, sameClosings⟩ | ⟨away, cleared⟩
      · rcases step.waiting still with ⟨still, log, closings⟩ | ⟨away, cleared⟩
        · exact Or.inl ⟨still, log.trans sameLog, closings.trans sameClosings⟩
        · exact Or.inr ⟨away, sameClosings ▸ cleared.closings, sameLog ▸ cleared.log⟩
      · rcases step.bystander away with ⟨away, log, closings⟩
        exact Or.inr ⟨away, closings.trans cleared.closings, log ▸ cleared.log⟩

/-! ## What they say, and sessions without a database -/

/-- Those who hold the sessions run what they may, and roll back what was left behind. -/
theorem Step.entries (step : Step licence c c') : exists said,
    c'.server.ledger.entries = c.server.ledger.entries ++ said ∧
      forall entry, entry ∈ said -> licence.speaks entry.sql ∨ entry.sql = "ROLLBACK" := by
  have nothing : forall {server : Server},
      server.ledger.entries = c.server.ledger.entries -> exists said,
        server.ledger.entries = c.server.ledger.entries ++ said ∧
          forall entry, entry ∈ said -> licence.speaks entry.sql ∨ entry.sql = "ROLLBACK" :=
    fun same => ⟨[], same.trans (List.append_nil _).symm, fun _ member => nomatch member⟩
  cases step with
  | shift kept all => exact nothing rfl
  | enter may => exact nothing rfl
  | close => exact nothing rfl
  | leave => exact nothing rfl
  | say may => exact ⟨_, rfl, List.forall_mem_singleton.mpr (Or.inl may)⟩
  | clear inTime =>
      cases inTime with
      | false => exact nothing rfl
      | true => exact ⟨_, rfl, List.forall_mem_singleton.mpr (Or.inr rfl)⟩

theorem Conduct.entries (conduct : Conduct licence c c') : exists said,
    c'.server.ledger.entries = c.server.ledger.entries ++ said ∧
      forall entry, entry ∈ said -> licence.speaks entry.sql ∨ entry.sql = "ROLLBACK" := by
  induction conduct with
  | refl => exact ⟨[], (List.append_nil _).symm, fun _ member => nomatch member⟩
  | tail _ step inductionHypothesis =>
      rcases inductionHypothesis with ⟨early, earlyEq, earlySaid⟩
      rcases step.entries with ⟨late, lateEq, lateSaid⟩
      refine ⟨early ++ late, by rw [lateEq, earlyEq, List.append_assoc], ?_⟩
      intro entry member
      exact (List.mem_append.mp member).elim (earlySaid entry) (lateSaid entry)

/-- No session has a database selected. -/
def Unplaced (c : Circulation) : Prop :=
  forall session, session ∈ c.sessions -> session.database = none

/-- Who selects no database leaves the sessions without one. -/
theorem Step.unplaced (selectsNone : forall sql, licence.speaks sql ->
      forall name, Control.read sql ≠ .use name)
    (step : Step licence c c') (unplaced : c.Unplaced) : c'.Unplaced := by
  cases step with
  | shift kept all =>
      intro session member
      apply unplaced
      rcases List.mem_append.mp member with free | leaving
      · exact List.mem_append_left _ (kept.subset free)
      · exact List.mem_append_right _ (all.subset leaving)
  | enter may =>
      intro session member
      rcases List.mem_cons.mp member with rfl | member
      · rfl
      · exact unplaced session member
  | @say session free leaving server sql may =>
      intro other member
      rcases List.mem_cons.mp member with rfl | member
      · have none := unplaced session List.mem_cons_self
        cases refused : server.rules.refusal? sql with
        | some e => rw [Rules.move_of_refused refused, none]
        | none =>
            rw [Rules.move_of_accepted refused, Session.follow]
            cases read : Control.read sql with
            | use name => exact absurd read (selectsNone sql may name)
            | _ => exact none
      · exact unplaced other (List.mem_cons_of_mem _ member)
  | close => exact fun session member => unplaced session (List.mem_cons_of_mem _ member)
  | leave => exact fun session member => unplaced session (List.perm_middle.subset member)
  | clear inTime =>
      have fewer := fun session member =>
        unplaced session (List.perm_middle.symm.subset (List.mem_cons_of_mem _ member))
      exact fewer

theorem Conduct.unplaced (selectsNone : forall sql, licence.speaks sql ->
      forall name, Control.read sql ≠ .use name)
    (conduct : Conduct licence c c') (unplaced : c.Unplaced) : c'.Unplaced := by
  induction conduct with
  | refl => exact unplaced
  | tail _ step inductionHypothesis => exact step.unplaced selectsNone inductionHypothesis

end Circulation
end Scripted
end ScopedSql
