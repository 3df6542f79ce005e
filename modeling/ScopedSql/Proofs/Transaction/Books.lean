import Mathlib.Data.List.Nodup
import ScopedSql.Proofs.Transaction.Chapter

namespace ScopedSql

open Scripted World

/-!
# The books on transactions

The books are in order if every session has its chapter and the work that the
server keeps is that of the transactions that were committed.  Each thing that a
transaction can do writes at the end of one chapter and keeps the books in order.
What was closed for good at some point of the past stays as it was then.
-/

variable {rules : Rules} {plain : Prop} {origin w w' : World Server Session} {licence : Licence}
  {session session' : Session} {held held' rest before after : List Session} {used : List Nat}
  {number : Nat} {history : History} {life : Life}

/-- The books are in order, with these sessions in the hands of transactions, and a world that was
there before. -/
structure Books (origin : World Server Session) (rules : Rules) (plain : Prop)
    (held : List Session) (history : History) (w : World Server Session) : Prop where
  sameRules : w.server.rules = rules
  numbered : (w.circulation []).Numbered
  distinct : (held.map Session.number).Nodup
  chapters : forall number, Chapter rules plain held history number w
  durable : plain -> w.server.ledger.committed = history.durable
  lasting : forall number sqls, Spent number sqls origin -> Spent number sqls w

/-- A session that is closed for good stays so, if it is not used. -/
theorem Spent.beside {sqls : List String} (spent : Spent number sqls w)
    (beside : Beside used w w') (other : number ∉ used) : Spent number sqls w' := by
  rcases beside.absent number other spent.absent with ⟨absent, log, closings⟩
  exact ⟨absent, beside.rules ▸ log.trans spent.log, closings.trans spent.closed⟩

namespace Books

/-- Who holds which session matters, not in which order. -/
theorem perm (books : Books origin rules plain held history w) (same : held'.Perm held) :
    Books origin rules plain held' history w := by
  refine ⟨books.sameRules, books.numbered, (same.map _).nodup_iff.mpr books.distinct,
    ?_, books.durable, books.lasting⟩
  intro number
  exact (books.chapters number).beside (.refl w) books.sameRules List.not_mem_nil rfl
    fun session _ => same.mem_iff

theorem life_of_held (books : Books origin rules plain held history w) (member : session ∈ held) :
    exists life : Life, life.Regular rules plain ∧
      history.of session.number = life.events session.number ∧ life.fate = none ∧
        Owned session.number life.texts session w := by
  have here : session.number ∈ held.map Session.number := List.mem_map_of_mem member
  cases books.chapters session.number with
  | silent told free => exact absurd here free
  | @ongoing life session' regular told fate member' owned =>
      have same : session' = session :=
        List.inj_on_of_nodup_map books.distinct member' member owned.number_eq
      exact ⟨life, regular, told, fate, same ▸ owned⟩
  | left regular told fate free => exact absurd here free
  | forgotten regular told fate free => exact absurd here free
  | closed regular told ceased free => exact absurd here free

/-- A session of which anything is told has a life. -/
theorem told (books : Books origin rules plain held history w) (number : Nat) :
    history.of number = [] ∨ exists life : Life, life.Regular rules plain ∧
      history.of number = life.events number := by
  cases books.chapters number with
  | silent told => exact Or.inl told
  | ongoing regular told => exact Or.inr ⟨_, regular, told⟩
  | left regular told => exact Or.inr ⟨_, regular, told⟩
  | forgotten regular told => exact Or.inr ⟨_, regular, told⟩
  | closed regular told => exact Or.inr ⟨_, regular, told⟩

/-- The life of a session of which something is told is like all lives. -/
theorem regular_of_told (books : Books origin rules plain held history w)
    (told : history.of number = life.events number) : life.Regular rules plain := by
  rcases books.told number with silent | ⟨life', regular, told'⟩
  · rw [silent] at told
    cases told
  · exact Life.events_injective (told'.symm.trans told) ▸ regular

/-- On the session of a life nothing was run but its statements, and then those that closed it. -/
theorem log_of_told (books : Books origin rules plain held history w)
    (told : history.of number = life.events number) :
    exists closing, (forall sql, sql ∈ closing -> sql = "COMMIT" ∨ sql = "ROLLBACK") ∧
      w.server.log number =
        rules.transcript (Session.fresh number) (life.texts ++ closing) := by
  have whole : forall {life' : Life}, history.of number = life'.events number ->
      life'.texts = life.texts := by
    intro life' told'
    apply congrArg Life.texts
    exact Life.events_injective (told'.symm.trans told)
  cases books.chapters number with
  | silent silent =>
      rw [silent] at told
      cases told
  | ongoing regular told' fate member owned =>
      refine ⟨[], fun _ member => (nomatch member), ?_⟩
      rw [List.append_nil, owned.log, books.sameRules, whole told']
  | left regular told' fate free same waits state log unclosed =>
      refine ⟨[], fun _ member => (nomatch member), ?_⟩
      rw [List.append_nil, log, whole told']
  | forgotten regular told' fate free lost =>
      refine ⟨[], fun _ member => (nomatch member), ?_⟩
      rw [List.append_nil, lost.log, books.sameRules, whole told']
  | closed regular told' ceased free shape spent =>
      refine ⟨_, shape.sentOnce.nothingElse, ?_⟩
      rw [spent.log, books.sameRules, whole told']

/-- A session is among those with a commit exactly if its transaction was committed. -/
theorem mem_committed_iff (books : Books origin rules plain held history w) :
    number ∈ history.committed ↔
      exists life : Life, history.of number = life.events number ∧
        life.fate = some .committed := by
  have here : number ∈ history.committed ↔ number ∈ (history.of number).committed := by
    rw [History.committed_of, List.mem_filter]
    exact (and_iff_left (decide_eq_true rfl)).symm
  rw [here]
  constructor
  · intro member
    rcases books.told number with silent | ⟨life, _, told⟩
    · rw [silent] at member
      cases member
    · rw [told, Life.committed_of_events] at member
      split at member
      · rename_i committed
        exact ⟨life, told, committed⟩
      · cases member
  · rintro ⟨life, told, committed⟩
    rw [told, Life.committed_of_events, if_pos committed]
    exact List.mem_singleton_self number

/-- No transaction is committed twice. -/
theorem committed_nodup (books : Books origin rules plain held history w) :
    history.committed.Nodup := by
  rw [List.nodup_iff_count_le_one]
  intro number
  have count : history.committed.count number = (history.of number).committed.length := by
    rw [History.committed_of, List.count, List.countP_eq_length_filter]
    rfl
  rw [count]
  rcases books.told number with silent | ⟨life, _, told⟩
  · rw [silent]
    exact Nat.zero_le 1
  · rw [told, Life.committed_of_events]
    split
    · exact Nat.le_refl 1
    · exact Nat.zero_le 1

/-- As long as callers speak plainly, nothing but a commit makes work durable. -/
theorem committed_eq (books : Books origin rules plain held history w) (isPlain : plain)
    (conduct : Circulation.Conduct (rules.licence plain) (w.circulation before)
      (w'.circulation after)) :
    w'.server.ledger.committed = w.server.ledger.committed := by
  apply conduct.committed_eq
  intro sql speaks accepted
  exact speaks isPlain (books.sameRules ▸ accepted)

/-- What others do leaves the books in order. -/
theorem pass (books : Books origin rules plain held history w)
    (conduct : Circulation.Conduct (rules.licence plain) (w.circulation []) (w'.circulation [])) :
    Books origin rules plain held history w' := by
  have beside : Beside [] w w' := .of_conduct conduct fun _ member => nomatch member
  refine ⟨beside.rules.trans books.sameRules, beside.numbered books.numbered, books.distinct,
    ?_, ?_, ?_⟩
  · intro number
    exact (books.chapters number).beside beside books.sameRules List.not_mem_nil rfl
      fun _ _ => Iff.rfl
  · intro isPlain
    rw [← books.durable isPlain]
    exact books.committed_eq isPlain conduct
  · intro number sqls spent
    exact (books.lasting number sqls spent).beside beside List.not_mem_nil

/-- Something is written at the end of one chapter. -/
theorem turn (books : Books origin rules plain held history w) (beside : Beside used w w')
    (usedHere : forall other, other ∈ used -> other = number)
    (unclosed : forall other, other ∈ used -> w.server.closings other = 0) {events : History}
    (here : forall event, event ∈ events -> event.session = number)
    (chapter : Chapter rules plain held' (history ++ events) number w')
    (hold : forall session : Session, session.number ≠ number ->
      (session ∈ held' ↔ session ∈ held))
    (distinct : (held'.map Session.number).Nodup) (uncommitted : number ∉ history.committed)
    (durable : plain -> w'.server.ledger.committed = w.server.ledger.committed ++
      events.committed.flatMap (fun _ => (history ++ events).block number)) :
    Books origin rules plain held' (history ++ events) w' := by
  refine ⟨beside.rules.trans books.sameRules, beside.numbered books.numbered, distinct, ?_, ?_, ?_⟩
  · intro other
    by_cases same : other = number
    · exact same ▸ chapter
    · have told : (history ++ events).of other = history.of other := by
        rw [History.of_append, History.of_other here same, List.append_nil]
      exact (books.chapters other).beside beside books.sameRules
        (fun member => same (usedHere other member)) told
        fun session equal => hold session (equal ▸ same)
  · intro isPlain
    rw [durable isPlain, books.durable isPlain, History.durable_append here uncommitted]
  · intro other sqls spent
    have still := books.lasting other sqls spent
    -- The session that is used was never closed before, so it is another one.
    apply still.beside beside
    intro member
    have closed := still.closed
    rw [unclosed other member] at closed
    cases closed

theorem uncommitted_of_events (told : history.of number = life.events number)
    (fate : life.fate = none) : number ∉ history.committed := by
  intro member
  have here := History.ceased_of_mem_committed member
  rw [told, Life.events, fate] at here
  simp at here

theorem silent_of_next (books : Books origin rules plain held history w) :
    history.of (w.server.ledger.opened + 1) = [] ∧
      w.server.ledger.opened + 1 ∉ held.map Session.number := by
  cases books.chapters (w.server.ledger.opened + 1) with
  | silent told free => exact ⟨told, free⟩
  | ongoing regular told fate member owned =>
      exact absurd owned.absent.opened (Nat.not_succ_le_self _)
  | left regular told fate free same waits =>
      exact absurd (same ▸ waits.opened) (Nat.not_succ_le_self _)
  | forgotten regular told fate free lost =>
      exact absurd lost.absent.opened (Nat.not_succ_le_self _)
  | closed regular told ceased free closing spent =>
      exact absurd spent.absent.opened (Nat.not_succ_le_self _)

theorem begun (books : Books origin rules plain held history w) {scope : Scope}
    (sound : scope.fault? = none)
    (placed : forall sql, sql ∈ Life.opening scope -> rules.refusal? sql = none)
    (conduct : Circulation.Conduct (rules.licence plain) (w.circulation [])
      (w'.circulation [session]))
    (owned : Owned (w.server.ledger.opened + 1) (Life.opening scope) session w')
    (holder : Option String) :
    Books origin rules plain (session :: held)
      (history ++ [.began (w.server.ledger.opened + 1) holder scope]) w' := by
  rcases books.silent_of_next with ⟨told, free⟩
  have beside : Beside [] w w' := .of_conduct conduct fun _ member => nomatch member
  have here : forall event, event ∈ [Event.began (w.server.ledger.opened + 1) holder scope] ->
      event.session = w.server.ledger.opened + 1 := List.forall_mem_singleton.mpr rfl
  refine books.turn beside (fun other member => nomatch member)
    (fun other member => nomatch member) here ?_ ?_ ?_ ?_ ?_
  · have regular : Life.Regular rules plain ⟨holder, scope, [], none⟩ :=
      ⟨sound, placed, fun _ member => (nomatch member), fun _ _ member => nomatch member⟩
    refine .ongoing regular ?_ rfl List.mem_cons_self ?_
    · rw [History.of_append, told, History.of_self here]
      rfl
    · rw [Life.texts, List.map_nil, List.append_nil]
      exact owned
  · intro other differs
    rw [List.mem_cons]
    apply or_iff_right
    intro equal
    exact differs (equal ▸ owned.number_eq)
  · rw [List.map_cons, List.nodup_cons, owned.number_eq]
    exact ⟨free, books.distinct⟩
  · intro member
    have ceased := History.ceased_of_mem_committed member
    rw [told] at ceased
    cases ceased
  · intro isPlain
    rw [History.committed, List.filterMap_cons_none rfl, List.filterMap_nil, List.flatMap_nil,
      List.append_nil]
    exact books.committed_eq isPlain conduct

/-! ## The life of an open transaction -/

/-- An open transaction goes on, perhaps with one more statement. -/
theorem goOn (books : Books origin rules plain (session :: rest) history w)
    (conduct : Circulation.Conduct (rules.licence plain) (w.circulation [session])
      (w'.circulation [session']))
    (known : session.number ≤ w.server.ledger.opened) {events : History}
    (here : forall event, event ∈ events -> event.session = session.number)
    (regular : life.Regular rules plain)
    (told : (history ++ events).of session.number = life.events session.number)
    (fate : life.fate = none) (owned : Owned session.number life.texts session' w') :
    Books origin rules plain (session' :: rest) (history ++ events) w' := by
  rcases books.life_of_held List.mem_cons_self with ⟨_, _, _, _, ownedBefore⟩
  have beside : Beside [session.number] w w' := .of_session conduct known
  have open' := uncommitted_of_events told fate
  rw [History.committed_append, List.mem_append, not_or] at open'
  have none : events.committed = [] := by
    apply List.eq_nil_iff_forall_not_mem.mpr
    intro other member
    have equal := here _ (History.mem_committed.mp member)
    exact open'.2 (equal ▸ member)
  refine books.turn beside (fun other member => List.mem_singleton.mp member)
    (fun other member => (List.mem_singleton.mp member) ▸ ownedBefore.unclosed) here
    (.ongoing regular told fate List.mem_cons_self owned) ?_ ?_ open'.1 ?_
  · intro other differs
    rw [List.mem_cons, List.mem_cons]
    refine (or_iff_right fun equal => ?_).trans (or_iff_right fun equal => ?_).symm
    · exact differs (equal ▸ owned.number_eq)
    · exact differs (equal ▸ rfl)
  · have distinct := books.distinct
    rw [List.map_cons] at distinct ⊢
    rw [owned.number_eq]
    exact distinct
  · intro isPlain
    rw [none, List.flatMap_nil, List.append_nil]
    exact books.committed_eq isPlain conduct

/-- A transaction ceases to be open.  Its work is kept if it was committed. -/
theorem ceased (books : Books origin rules plain (session :: rest) history w)
    (told : history.of session.number = life.events session.number) (fate : life.fate = none)
    (beside : Beside [session.number] w w') {last : Fate}
    (chapter : session.number ∉ rest.map Session.number ->
      (history ++ [Event.ceased session.number last]).of session.number =
        (life.cease last).events session.number ->
      Chapter rules plain rest (history ++ [.ceased session.number last]) session.number w')
    (durable : plain -> w'.server.ledger.committed = w.server.ledger.committed ++
      (if last = .committed then history.block session.number else [])) :
    Books origin rules plain rest (history ++ [.ceased session.number last]) w' := by
  have distinct := List.nodup_cons.mp books.distinct
  have here : forall event, event ∈ [Event.ceased session.number last] ->
      event.session = session.number := List.forall_mem_singleton.mpr rfl
  have told' : (history ++ [Event.ceased session.number last]).of session.number =
      (life.cease last).events session.number := by
    rw [History.of_append, told, History.of_self here, Life.events_cease fate]
  rcases books.life_of_held List.mem_cons_self with ⟨_, _, _, _, owned⟩
  refine books.turn beside (fun other member => List.mem_singleton.mp member)
    (fun other member => (List.mem_singleton.mp member) ▸ owned.unclosed) here
    (chapter distinct.1 told') ?_ distinct.2 (uncommitted_of_events told fate) ?_
  · intro other differs
    rw [List.mem_cons]
    apply Iff.symm
    apply or_iff_right
    intro equal
    exact differs (congrArg Session.number equal)
  · intro isPlain
    have block : (history ++ [Event.ceased session.number last]).block session.number =
        history.block session.number := by
      rw [History.block, History.block, History.of_append, History.of_self here,
        List.filterMap_append, List.filterMap_cons_none rfl, List.filterMap_nil, List.append_nil]
    rw [durable isPlain, block]
    cases last <;> simp [History.committed, Event.committed?]

theorem rolledBack (books : Books origin rules plain (session :: rest) history w)
    (regular : life.Regular rules plain)
    (told : history.of session.number = life.events session.number) (fate : life.fate = none)
    (known : session.number ≤ w.server.ledger.opened)
    (conduct : Circulation.Conduct (rules.licence plain) (w.circulation [session])
      (w'.circulation [])) {closing : List String}
    (shape : Life.Closing rules .rolledBack closing)
    (spent : Spent session.number (life.texts ++ closing) w') :
    Books origin rules plain rest (history ++ [.ceased session.number .rolledBack]) w' := by
  have beside : Beside [session.number] w w' := .of_session conduct known
  apply books.ceased told fate beside
  · intro free told'
    exact .closed (regular.cease .rolledBack) told' rfl free shape spent
  · intro isPlain
    rw [if_neg nofun, List.append_nil]
    exact books.committed_eq isPlain conduct

theorem committed (books : Books origin rules plain (session :: rest) history w)
    (regular : life.Regular rules plain)
    (told : history.of session.number = life.events session.number) (fate : life.fate = none)
    (known : session.number ≤ w.server.ledger.opened)
    (accepted : rules.refusal? "COMMIT" = none)
    (conduct : Circulation.Conduct (rules.licence plain) (w.circulation [session])
      (w'.circulation [session]))
    (owned : Owned session.number life.texts session w') :
    Books origin rules plain rest (history ++ [.ceased session.number .committed])
      ((w'.say "COMMIT" session).close session) := by
  have rules' : w'.server.rules = rules := conduct.rules.trans books.sameRules
  have spent : Spent session.number (life.texts ++ ["COMMIT"])
      ((w'.say "COMMIT" session).close session) := by
    have closed := (owned.say "COMMIT").close
    rw [close_move] at closed
    exact closed
  have whole : Circulation.Conduct .full (w.circulation [session])
      (((w'.say "COMMIT" session).close session).circulation []) := by
    rw [← close_move _ w'.server.rules session "COMMIT"]
    exact ((conduct.within (Licence.within_full _)).tail (.say True.intro)).tail .close
  have beside : Beside [session.number] w _ := .of_session whole known
  apply books.ceased told fate beside
  · intro free told'
    exact .closed (regular.cease .committed) told' rfl free (.committed accepted) spent
  · intro isPlain
    have same : w'.server.ledger.committed = w.server.ledger.committed :=
      books.committed_eq isPlain conduct
    have delivered : rules.delivery session "COMMIT" = session.pending := by
      rw [Rules.delivery, if_pos ⟨Option.isNone_iff_eq_none.mpr accepted, Control.read_commit⟩]
    -- The commit delivers what the session had pending, which is the work of the life.
    have pending : session.pending = history.block session.number := by
      rw [History.block, told, ← Life.pending_eq regular isPlain session.number, ← rules',
        ← owned.state]
    rw [if_pos rfl, ← pending, ← delivered, ← same, ← rules']
    rfl

/-- A transaction is dropped: its session is left to be rolled back and closed. -/
theorem dropped (books : Books origin rules plain (session :: rest) history w)
    (regular : life.Regular rules plain)
    (told : history.of session.number = life.events session.number) (fate : life.fate = none)
    (owned : Owned session.number life.texts session w) (wait : Nat) (inTime : Bool) :
    Books origin rules plain rest (history ++ [.ceased session.number .dropped])
      (w.spawn wait (.abandon session inTime)) := by
  have beside : Beside [session.number] w (w.spawn wait (.abandon session inTime)) :=
    .of_session (spawnAbandon_conduct .full w session [] wait inTime) owned.absent.opened
  refine books.ceased told fate beside ?_ fun _ => (List.append_nil _).symm
  intro free told'
  have away := owned.absent.absent
  rw [Circulation.sessions, List.map_append, List.mem_append, not_or] at away
  rcases spawn_perm w wait (.abandon session inTime) [] with ⟨unused, waiting⟩
  have waits : ((w.spawn wait (.abandon session inTime)).circulation []).Waiting session :=
    ⟨owned.absent.opened, fun member => away.1 ((unused.map _).subset member),
      _, waiting, away.2⟩
  exact .left (regular.cease .dropped) told' rfl free rfl waits
    (books.sameRules ▸ owned.state) (books.sameRules ▸ owned.log) owned.unclosed

/-- A transaction is forgotten: its session is left as it is. -/
theorem forgotten (books : Books origin rules plain (session :: rest) history w)
    (regular : life.Regular rules plain)
    (told : history.of session.number = life.events session.number) (fate : life.fate = none)
    (owned : Owned session.number life.texts session w) :
    Books origin rules plain rest (history ++ [.ceased session.number .forgotten]) w := by
  refine books.ceased told fate (.refl w) ?_ fun _ => (List.append_nil _).symm
  intro free told'
  exact .forgotten (regular.cease .forgotten) told' rfl free owned.forget

end Books
end ScopedSql
