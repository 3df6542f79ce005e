import ScopedSql.Proofs.Transaction.Begin
import ScopedSql.Proofs.Transaction.Life

namespace ScopedSql

open Scripted World

/-!
# The chapter of a session

What a history tells of a session is the life of one transaction, and it agrees
with what the world holds: an open transaction owns its session, a dropped one
has left it to be rolled back and closed, a forgotten one has left it for good, and
one that was ended has a session that is closed for good.  Whoever uses other
sessions leaves the chapter as it is.
-/

variable {rules : Rules} {plain : Prop}

/-- If callers speak plainly, then those who hold the sessions in circulation run no commit. -/
def Scripted.Rules.licence (rules : Rules) (plain : Prop) : Licence :=
  ⟨fun sql => plain -> rules.Quiet sql, True⟩

theorem Scripted.Rules.licence_fits (rules : Rules) (plain : Prop) :
    (rules.licence plain).Fits rules where
  begin := fun _ => Rules.quiet_of_read Control.read_begin (by decide) rules
  rollback := fun _ => Rules.quiet_of_read Control.read_rollback (by decide) rules
  positions := fun _ sound _ member _ _ =>
    (Life.plain_of_mem_positions sound member).noCommit
  refused := fun sql e refused _ accepted => by
    rw [refused] at accepted
    cases accepted

theorem Scripted.Rules.shut_licence_fits (rules : Rules) (plain : Prop) :
    (rules.licence plain).shut.Fits rules :=
  have fits := rules.licence_fits plain
  ⟨fits.begin, fits.rollback, fits.positions, fits.refused⟩

/-! ## Sessions beside those that are used -/

/-- From one world to another, sessions that are not used fare as they would by themselves. -/
structure Beside (used : List Nat) (w w' : World Server Session) : Prop where
  rules : w'.server.rules = w.server.rules
  numbered : (w.circulation []).Numbered -> (w'.circulation []).Numbered
  absent : forall number, number ∉ used -> (w.circulation []).Absent number ->
    (w'.circulation []).Absent number ∧ w'.server.log number = w.server.log number ∧
      w'.server.closings number = w.server.closings number
  waiting : forall session : Session, session.number ∉ used ->
    (w.circulation []).Waiting session ->
      ((w'.circulation []).Waiting session ∧
          w'.server.log session.number = w.server.log session.number ∧
          w'.server.closings session.number = w.server.closings session.number) ∨
        ((w'.circulation []).Absent session.number ∧
          Circulation.Cleared session w.server w'.server)

variable {w w' : World Server Session} {licence : Licence} {session session' : Session}
  {held held' rest before after : List Session} {used : List Nat} {number : Nat}
  {history history' : History} {life : Life}

/-- Where nothing is done, no session is used. -/
theorem Beside.refl (w : World Server Session) : Beside used w w :=
  ⟨rfl, fun numbered => numbered, fun _ _ absent => ⟨absent, rfl, rfl⟩,
    fun _ _ waits => Or.inl ⟨waits, rfl, rfl⟩⟩

/-- Who has less in hand has no more in circulation. -/
theorem absent_of_hands (away : (w.circulation after).Absent number) :
    (w.circulation []).Absent number := by
  refine ⟨away.opened, ?_⟩
  intro member
  apply away.absent
  rw [Circulation.sessions, circulation, List.append_assoc, List.map_append]
  exact List.mem_append.mpr (Or.inr member)

/-- What is not in circulation is not in circulation with other sessions in hand. -/
theorem absent_with_hands (away : (w.circulation []).Absent number)
    (other : number ∉ before.map Session.number) : (w.circulation before).Absent number := by
  refine ⟨away.opened, ?_⟩
  intro member
  rw [Circulation.sessions, circulation, List.append_assoc, List.map_append] at member
  rcases List.mem_append.mp member with member | member
  · exact other member
  · exact away.absent member

theorem waiting_of_hands (waits : (w.circulation after).Waiting session) :
    (w.circulation []).Waiting session := by
  refine ⟨waits.opened, ?_, waits.alone⟩
  intro member
  apply waits.unused
  rw [circulation, List.map_append]
  exact List.mem_append.mpr (Or.inr member)

theorem waiting_with_hands (waits : (w.circulation []).Waiting session)
    (other : session.number ∉ before.map Session.number) :
    (w.circulation before).Waiting session := by
  refine ⟨waits.opened, ?_, waits.alone⟩
  intro member
  rw [circulation, List.map_append] at member
  rcases List.mem_append.mp member with member | member
  · exact other member
  · exact waits.unused member

/-- Who uses some sessions leaves all others to themselves. -/
theorem Beside.of_conduct
    (conduct : Circulation.Conduct licence (w.circulation before) (w'.circulation after))
    (known : forall session, session ∈ before -> session.number ≤ w.server.ledger.opened) :
    Beside (before.map Session.number) w w' := by
  refine ⟨conduct.rules, ?_, ?_, ?_⟩
  · intro numbered
    have all : (w.circulation before).Numbered := by
      refine ⟨?_, numbered.silent⟩
      intro session member
      rw [Circulation.sessions, circulation, List.append_assoc] at member
      rcases List.mem_append.mp member with member | member
      · exact known session member
      · exact numbered.known session member
    apply (conduct.numbered all).subset
    intro session member
    rw [Circulation.sessions, circulation, List.append_assoc]
    exact List.mem_append.mpr (Or.inr member)
  · intro number other away
    rcases conduct.bystander (absent_with_hands away other) with ⟨still, log, closings⟩
    exact ⟨absent_of_hands still, log, closings⟩
  · intro session other waits
    rcases conduct.waiting (waiting_with_hands waits other) with
      ⟨still, log, closings⟩ | ⟨gone, cleared⟩
    · exact Or.inl ⟨waiting_of_hands still, log, closings⟩
    · exact Or.inr ⟨absent_of_hands gone, cleared⟩

/-- Who uses one session leaves all others to themselves. -/
theorem Beside.of_session
    (conduct : Circulation.Conduct licence (w.circulation [session]) (w'.circulation after))
    (known : session.number ≤ w.server.ledger.opened) : Beside [session.number] w w' := by
  apply Beside.of_conduct conduct
  intro other member
  rw [List.mem_singleton.mp member]
  exact known

/-! ## Chapters -/

/-- What the history tells of one session agrees with what the world holds. -/
inductive Chapter (rules : Rules) (plain : Prop) (held : List Session) (history : History)
    (number : Nat) (w : World Server Session) : Prop
  /-- No transaction ever began on the session. -/
  | silent (told : history.of number = []) (free : number ∉ held.map Session.number)
  | ongoing {life : Life} {session : Session} (regular : life.Regular rules plain)
      (told : history.of number = life.events number) (fate : life.fate = none)
      (member : session ∈ held) (owned : Owned number life.texts session w)
  /-- The transaction was dropped, and its session waits for its end. -/
  | left {life : Life} {session : Session} (regular : life.Regular rules plain)
      (told : history.of number = life.events number) (fate : life.fate = some .dropped)
      (free : number ∉ held.map Session.number) (same : session.number = number)
      (waits : (w.circulation []).Waiting session)
      (state : session = rules.replay (Session.fresh number) life.texts)
      (log : w.server.log number = rules.transcript (Session.fresh number) life.texts)
      (unclosed : w.server.closings number = 0)
  | forgotten {life : Life} (regular : life.Regular rules plain)
      (told : history.of number = life.events number) (fate : life.fate = some .forgotten)
      (free : number ∉ held.map Session.number) (lost : Lost number life.texts w)
  | closed {life : Life} {fate : Fate} {closing : List String}
      (regular : life.Regular rules plain) (told : history.of number = life.events number)
      (ceased : life.fate = some fate) (free : number ∉ held.map Session.number)
      (shape : Life.Closing rules fate closing)
      (spent : Spent number (life.texts ++ closing) w)

/-- The chapter of a session that is not used goes on by itself. -/
theorem Chapter.beside (chapter : Chapter rules plain held history number w)
    (beside : Beside used w w') (same : w.server.rules = rules) (other : number ∉ used)
    (told' : history'.of number = history.of number)
    (hold : forall session : Session, session.number = number ->
      (session ∈ held' ↔ session ∈ held)) :
    Chapter rules plain held' history' number w' := by
  have free' : number ∉ held.map Session.number -> number ∉ held'.map Session.number := by
    intro free member
    rcases List.mem_map.mp member with ⟨session, member, equal⟩
    exact free (List.mem_map.mpr ⟨session, (hold session equal).mp member, equal⟩)
  cases chapter with
  | silent told free => exact .silent (told'.trans told) (free' free)
  | ongoing regular told fate member owned =>
      rcases beside.absent number other owned.absent with ⟨absent, log, closings⟩
      exact .ongoing regular (told'.trans told) fate ((hold _ owned.number_eq).mpr member)
        ⟨absent, beside.rules ▸ owned.state, beside.rules ▸ log.trans owned.log,
          closings.trans owned.unclosed⟩
  | @left life session regular told fate free equal waits state log unclosed =>
      subst equal
      rcases beside.waiting session other waits with ⟨waits, log', closings⟩ | ⟨absent, cleared⟩
      · exact .left regular (told'.trans told) fate (free' free) rfl waits state
          (log'.trans log) (closings.trans unclosed)
      · have rules' : w'.server.rules = rules := beside.rules.trans same
        have closed : w'.server.closings session.number = 1 := by
          rw [cleared.closings, unclosed]
        rcases cleared.log with log' | log'
        · refine .closed regular (told'.trans told) fate (free' free) (.dropped (Or.inl rfl))
            ⟨absent, ?_, closed⟩
          rw [List.append_nil, rules']
          exact log'.trans log
        · refine .closed regular (told'.trans told) fate (free' free) (.dropped (Or.inr rfl))
            ⟨absent, ?_, closed⟩
          rw [rules', Rules.transcript_append, ← state, ← log]
          exact log'
  | forgotten regular told fate free lost =>
      rcases beside.absent number other lost.absent with ⟨absent, log, closings⟩
      exact .forgotten regular (told'.trans told) fate (free' free)
        ⟨absent, beside.rules ▸ log.trans lost.log, closings.trans lost.unclosed⟩
  | closed regular told ceased free shape spent =>
      rcases beside.absent number other spent.absent with ⟨absent, log, closings⟩
      exact .closed regular (told'.trans told) ceased (free' free) shape
        ⟨absent, beside.rules ▸ log.trans spent.log, closings.trans spent.closed⟩

end ScopedSql
