import Mathlib.Data.List.Basic
import ScopedSql.Proofs.Scope
import ScopedSql.Proofs.Scripted.Outcome

namespace ScopedSql

open Scripted

/-!
# The life of a transaction

A history tells what callers did with transactions, in order: on which session a
transaction began, which statements it ran there and whether they succeeded, and
how it ceased to be open.  The part of a history that tells of one session is the
life of one transaction, and what such a life says must be found in the ledger of
the server.
-/

/-- How a transaction ceases to be open.  One that is dropped is rolled back later; one that is
forgotten was let go where nobody could do so. -/
inductive Fate
  | committed
  | rolledBack
  | dropped
  | forgotten
  deriving DecidableEq, Repr

def Ending.fate : Ending -> Fate
  | .committed => .committed
  | .rolledBack => .rolledBack

/-- Something that happened to the transaction on a session. -/
inductive Event
  /-- It began, and is kept under the name of a holder if there is one. -/
  | began (session : Nat) (holder : Option String) (scope : Scope)
  /-- It ran a statement. -/
  | spoke (session : Nat) (sql : String) (succeeded : Bool)
  | ceased (session : Nat) (fate : Fate)
  deriving DecidableEq, Repr

namespace Event

def session : Event -> Nat
  | .began session _ _ => session
  | .spoke session _ _ => session
  | .ceased session _ => session

/-- The work that an event adds to a transaction, to be kept by a commit. -/
def work? : Event -> Option String
  | .spoke _ sql true => if Control.read sql = .work then some sql else none
  | _ => none

/-- The statement that was run, and whether it succeeded. -/
def spoken? : Event -> Option (String × Bool)
  | .spoke _ sql succeeded => some (sql, succeeded)
  | _ => none

/-- The fate with which a transaction ceased to be open. -/
def fate? : Event -> Option Fate
  | .ceased _ fate => some fate
  | _ => none

/-- The session of a transaction that was committed. -/
def committed? : Event -> Option Nat
  | .ceased session .committed => some session
  | _ => none

theorem session_of_committed? {event : Event} {number : Nat}
    (found : event.committed? = some number) : number = event.session := by
  unfold committed? at found
  split at found
  · exact (Option.some_inj.mp found).symm
  · cases found

/-- The session of a transaction that began under a name. -/
def begunAs? (name : String) : Event -> Option Nat
  | .began session holder _ => if holder = some name then some session else none
  | _ => none

end Event

/-- What callers did with transactions, in order. -/
abbrev History := List Event

namespace History

/-- What a history tells of one session. -/
def of (history : History) (number : Nat) : History :=
  history.filter (fun event => event.session = number)

/-- The work of the transaction on a session. -/
def block (history : History) (number : Nat) : List String :=
  (history.of number).filterMap Event.work?

/-- The sessions of the transactions that were committed, in the order of their commits. -/
def committed (history : History) : List Nat :=
  history.filterMap Event.committed?

/-- The work of all transactions that were committed, one block for each. -/
def durable (history : History) : List String :=
  history.committed.flatMap history.block

/-- The session of the last transaction that began under a name. -/
def lastBegun? (history : History) (name : String) : Option Nat :=
  (history.filterMap (Event.begunAs? name)).getLast?

/-- Events that begin nothing under any name. -/
def Nameless (events : History) : Prop :=
  forall name, events.filterMap (Event.begunAs? name) = []

variable {history events : History} {number : Nat}

theorem Nameless.append {more : History} (first : events.Nameless) (second : more.Nameless) :
    (events ++ more).Nameless := by
  intro name
  rw [List.filterMap_append, first name, second name]
  rfl

/-- Events that begin nothing under a name leave the last that began under it. -/
theorem lastBegun?_append {name : String}
    (none : events.filterMap (Event.begunAs? name) = []) :
    (history ++ events).lastBegun? name = history.lastBegun? name := by
  rw [lastBegun?, List.filterMap_append, none, List.append_nil]
  rfl

theorem of_append (history events : History) (number : Nat) :
    (history ++ events).of number = history.of number ++ events.of number :=
  List.filter_append _ _

theorem of_self (same : forall event, event ∈ events -> event.session = number) :
    events.of number = events := by
  apply List.filter_eq_self.mpr
  intro event member
  exact decide_eq_true (same event member)

theorem of_other {other : Nat} (same : forall event, event ∈ events -> event.session = number)
    (differs : other ≠ number) : events.of other = [] := by
  apply List.filter_eq_nil_iff.mpr
  intro event member told
  exact differs ((of_decide_eq_true told).symm.trans (same event member))

theorem committed_append (history events : History) :
    (history ++ events).committed = history.committed ++ events.committed :=
  List.filterMap_append

theorem mem_committed :
    number ∈ history.committed ↔ Event.ceased number .committed ∈ history := by
  rw [committed, List.mem_filterMap]
  constructor
  · rintro ⟨event, member, told⟩
    unfold Event.committed? at told
    split at told
    · rw [Option.some_inj] at told
      exact told ▸ member
    · cases told
  · exact fun member => ⟨_, member, rfl⟩

/-- A transaction that was committed has ceased to be open. -/
theorem ceased_of_mem_committed (member : number ∈ history.committed) :
    Event.ceased number .committed ∈ history.of number :=
  List.mem_filter.mpr ⟨mem_committed.mp member, decide_eq_true rfl⟩

/-- Of the commits of a history, those of one session. -/
theorem committed_of (history : History) (number : Nat) :
    (history.of number).committed = history.committed.filter (fun other => other = number) := by
  rw [committed, committed, of, List.filterMap_filter, List.filter_filterMap]
  apply List.filterMap_congr
  intro event _
  cases found : event.committed? with
  | none => exact ite_self none
  | some session => rw [Option.filter_some, Event.session_of_committed? found]

/-- Events of one session add to the committed work only its block, if it is committed by them. -/
theorem durable_append (same : forall event, event ∈ events -> event.session = number)
    (before : number ∉ history.committed) : (history ++ events).durable =
      history.durable ++ events.committed.flatMap (fun _ => (history ++ events).block number) := by
  have others : forall other, other ∈ history.committed ->
      (history ++ events).block other = history.block other := by
    intro other member
    have differs : other ≠ number := fun equal => before (equal ▸ member)
    rw [block, block, of_append, of_other same differs, List.append_nil]
  have own : forall other, other ∈ events.committed -> other = number := by
    intro other member
    exact same _ (mem_committed.mp member)
  rw [durable, durable, committed_append, List.flatMap_append]
  congr 1
  · exact List.flatMap_congr others
  · apply List.flatMap_congr
    intro other member
    rw [own other member]

end History

/-- The life of a transaction: its holder, its scope, the statements that it ran and whether they
succeeded, and its fate once it has ceased to be open. -/
structure Life where
  holder : Option String
  scope : Scope
  spoken : List (String × Bool)
  fate : Option Fate

namespace Life

/-- The statements with which the session of a scope is put in its place. -/
def opening (scope : Scope) : List String :=
  "START TRANSACTION" :: scope.positions

/-- All statements that were run on the session while the transaction was open. -/
def texts (life : Life) : List String :=
  opening life.scope ++ life.spoken.map (fun spoken => spoken.1)

def events (life : Life) (number : Nat) : History :=
  .began number life.holder life.scope ::
    (life.spoken.map (fun spoken => Event.spoke number spoken.1 spoken.2) ++
      life.fate.toList.map (fun fate => Event.ceased number fate))

/-- What a life must be like under rules: its scope is without fault, its session was put in its
place, and statements succeeded as the rules have it.  If callers speak plainly, it holds no
statement that begins or ends a transaction. -/
structure Regular (rules : Rules) (plain : Prop) (life : Life) : Prop where
  sound : life.scope.fault? = none
  placed : forall sql, sql ∈ opening life.scope -> rules.refusal? sql = none
  truthful : forall spoken, spoken ∈ life.spoken -> spoken.2 = (rules.refusal? spoken.1).isNone
  plainly : plain -> forall spoken, spoken ∈ life.spoken -> Plain spoken.1

/-- A rollback, or none if it would have taken too long. -/
def Farewell (sqls : List String) : Prop :=
  sqls = [] ∨ sqls = ["ROLLBACK"]

/-- The statements with which a session is closed. -/
inductive Closing (rules : Rules) : Fate -> List String -> Prop
  | committed (accepted : rules.refusal? "COMMIT" = none) : Closing rules .committed ["COMMIT"]
  | rolledBack {sqls : List String} (farewell : Farewell sqls) : Closing rules .rolledBack sqls
  | refused {e : Error} {sqls : List String} (refused : rules.refusal? "COMMIT" = some e)
      (farewell : Farewell sqls) : Closing rules .rolledBack ("COMMIT" :: sqls)
  | dropped {sqls : List String} (farewell : Farewell sqls) : Closing rules .dropped sqls

/-- A session is closed after at most one commit and at most one rollback.  A transaction is
committed exactly if a commit was sent for it that succeeded, and then no rollback was sent. -/
structure SentOnce (rules : Rules) (fate : Fate) (sqls : List String) : Prop where
  commits : sqls.count "COMMIT" ≤ 1
  rollbacks : sqls.count "ROLLBACK" ≤ 1
  nothingElse : forall sql, sql ∈ sqls -> sql = "COMMIT" ∨ sql = "ROLLBACK"
  kept : fate = .committed ↔ "COMMIT" ∈ sqls ∧ rules.refusal? "COMMIT" = none
  silent : fate = .committed -> "ROLLBACK" ∉ sqls

theorem Closing.sentOnce {rules : Rules} {fate : Fate} {sqls : List String}
    (closing : Closing rules fate sqls) : SentOnce rules fate sqls := by
  cases closing with
  | committed accepted => exact ⟨by decide, by decide, by simp, by simp [accepted], by simp⟩
  | rolledBack farewell => rcases farewell with rfl | rfl <;> constructor <;> simp
  | refused refused farewell => rcases farewell with rfl | rfl <;> constructor <;> simp [refused]
  | dropped farewell => rcases farewell with rfl | rfl <;> constructor <;> simp

variable {life : Life} {number : Nat} {rules : Rules} {plain : Prop}

def speak (life : Life) (sql : String) (succeeded : Bool) : Life :=
  { life with spoken := life.spoken ++ [(sql, succeeded)] }

def cease (life : Life) (fate : Fate) : Life :=
  { life with fate := some fate }

theorem events_speak (open' : life.fate = none) (sql : String) (succeeded : Bool) :
    (life.speak sql succeeded).events number =
      life.events number ++ [.spoke number sql succeeded] := by
  simp [events, speak, open']

theorem events_cease (open' : life.fate = none) (fate : Fate) :
    (life.cease fate).events number = life.events number ++ [.ceased number fate] := by
  simp [events, cease, open']

theorem texts_speak (life : Life) (sql : String) (succeeded : Bool) :
    (life.speak sql succeeded).texts = life.texts ++ [sql] := by
  simp [texts, speak]

theorem Regular.speak (regular : life.Regular rules plain) {sql : String}
    (plainly : plain -> Plain sql) :
    (life.speak sql (rules.refusal? sql).isNone).Regular rules plain := by
  refine ⟨regular.sound, regular.placed, ?_, ?_⟩
  · intro spoken member
    rcases List.mem_append.mp member with member | member
    · exact regular.truthful spoken member
    · rw [List.mem_singleton.mp member]
  · intro isPlain spoken member
    rcases List.mem_append.mp member with member | member
    · exact regular.plainly isPlain spoken member
    · rw [List.mem_singleton.mp member]
      exact plainly isPlain

theorem Regular.cease (regular : life.Regular rules plain) (fate : Fate) :
    (life.cease fate).Regular rules plain :=
  ⟨regular.sound, regular.placed, regular.truthful, regular.plainly⟩

theorem plain_of_mem_positions {scope : Scope} {sql : String} (sound : scope.fault? = none)
    (member : sql ∈ scope.positions) : Plain sql := by
  rcases Scope.read_of_mem_positions sound member with ⟨name, _, read⟩ | ⟨name, _, read⟩
  · exact ⟨by simp [read], by simp [read], by simp [read]⟩
  · exact ⟨by simp [read], by simp [read], by simp [read]⟩

theorem keeps_of_mem_positions (rules : Rules) {scope : Scope} {sql : String}
    (sound : scope.fault? = none) (member : sql ∈ scope.positions) : rules.keeps sql = false := by
  rcases Scope.read_of_mem_positions sound member with ⟨name, _, read⟩ | ⟨name, _, read⟩
  · simp [Rules.keeps, read]
  · simp [Rules.keeps, read]

/-- The work that a life tells is told by its statements. -/
theorem work_of_spoken (life : Life) (number : Nat) :
    (life.events number).filterMap Event.work? =
      (life.spoken.map (fun spoken => Event.spoke number spoken.1 spoken.2)).filterMap
        Event.work? := by
  have silent : (life.fate.toList.map (fun fate => Event.ceased number fate)).filterMap
      Event.work? = [] := by
    cases life.fate <;> rfl
  rw [events, List.filterMap_cons_none rfl, List.filterMap_append, silent, List.append_nil]

/-- The work of statements that succeeded as the rules have it. -/
theorem work_of_truthful {spoken : List (String × Bool)} (number : Nat)
    (truthful : forall pair, pair ∈ spoken -> pair.2 = (rules.refusal? pair.1).isNone) :
    (spoken.map (fun pair => Event.spoke number pair.1 pair.2)).filterMap Event.work? =
      (spoken.map (fun pair => pair.1)).filter rules.keeps := by
  induction spoken with
  | nil => rfl
  | cons first rest inductionHypothesis =>
      rcases first with ⟨sql, succeeded⟩
      have tells : succeeded = (rules.refusal? sql).isNone := truthful _ List.mem_cons_self
      have others := inductionHypothesis fun pair member =>
        truthful pair (List.mem_cons_of_mem _ member)
      rw [List.map_cons, List.map_cons, List.filter_cons, Rules.keeps, ← tells, ← others]
      cases succeeded with
      | false => rfl
      | true =>
          by_cases read : Control.read sql = .work
          · rw [decide_eq_true read, List.filterMap_cons, Event.work?, if_pos read]
            rfl
          · rw [decide_eq_false read, List.filterMap_cons, Event.work?, if_neg read]
            rfl

/-- The work of a life is what its session has not committed yet. -/
theorem pending_eq (regular : life.Regular rules plain) (isPlain : plain) (number : Nat) :
    (rules.replay (Session.fresh number) life.texts).pending =
      (life.events number).filterMap Event.work? := by
  have begun : rules.move (Session.fresh number) "START TRANSACTION" = Session.fresh number := by
    rw [Rules.move_of_accepted (regular.placed _ List.mem_cons_self), Session.follow,
      Control.read_begin]
    rfl
  have plainTexts : forall sql,
      sql ∈ life.scope.positions ++ life.spoken.map (fun spoken => spoken.1) -> Plain sql := by
    intro sql member
    rcases List.mem_append.mp member with member | member
    · exact plain_of_mem_positions regular.sound member
    · rcases List.mem_map.mp member with ⟨spoken, told, rfl⟩
      exact regular.plainly isPlain spoken told
  have noWork : life.scope.positions.filter rules.keeps = [] := by
    apply List.filter_eq_nil_iff.mpr
    intro sql member kept
    rw [keeps_of_mem_positions rules regular.sound member] at kept
    cases kept
  rw [texts, opening, List.cons_append, Rules.replay_cons, begun,
    Rules.pending_replay plainTexts, List.filter_append, noWork, work_of_spoken,
    work_of_truthful number regular.truthful]
  rfl

/-! ## A life is found again in its events -/

theorem spoken_of_events (life : Life) (number : Nat) :
    (life.events number).filterMap Event.spoken? = life.spoken := by
  have own : (life.spoken.map (fun spoken => Event.spoke number spoken.1 spoken.2)).filterMap
      Event.spoken? = life.spoken := by
    rw [List.filterMap_map]
    exact List.filterMap_some
  have silent : (life.fate.toList.map (fun fate => Event.ceased number fate)).filterMap
      Event.spoken? = [] := by
    cases life.fate <;> rfl
  rw [events, List.filterMap_cons_none rfl, List.filterMap_append, own, silent, List.append_nil]

theorem fate_of_events (life : Life) (number : Nat) :
    (life.events number).filterMap Event.fate? = life.fate.toList := by
  have silent : (life.spoken.map (fun spoken => Event.spoke number spoken.1 spoken.2)).filterMap
      Event.fate? = [] := by
    rw [List.filterMap_map]
    exact List.filterMap_eq_nil_iff.mpr fun _ _ => rfl
  have own : (life.fate.toList.map (fun fate => Event.ceased number fate)).filterMap
      Event.fate? = life.fate.toList := by
    cases life.fate <;> rfl
  rw [events, List.filterMap_cons_none rfl, List.filterMap_append, silent, own, List.nil_append]

/-- Different lives have different events. -/
theorem events_injective {life life' : Life} {number : Nat}
    (same : life.events number = life'.events number) : life = life' := by
  have spoken := congrArg (List.filterMap Event.spoken?) same
  have fate := congrArg (List.filterMap Event.fate?) same
  rw [spoken_of_events, spoken_of_events] at spoken
  rw [fate_of_events, fate_of_events] at fate
  have began := (List.cons.inj same).1
  injection began with _ holder scope
  rcases life with ⟨holder1, scope1, spoken1, fate1⟩
  rcases life' with ⟨holder2, scope2, spoken2, fate2⟩
  cases holder
  cases scope
  cases spoken
  cases fate1 <;> cases fate2 <;> simp_all

/-- Nothing follows the end of a life. -/
theorem eq_nil_of_ceased {life life' : Life} {number : Nat} {fate : Fate} {more : History}
    (ceased : life.fate = some fate)
    (longer : life'.events number = life.events number ++ more) : more = [] := by
  have fates := congrArg (List.filterMap Event.fate?) longer
  rw [List.filterMap_append, fate_of_events, fate_of_events, ceased] at fates
  cases last : life'.fate with
  | none =>
      rw [last] at fates
      cases fates
  | some fate' =>
      rw [last] at fates
      have silent : more.filterMap Event.fate? = [] := ((List.cons.inj fates).2).symm
      -- A life that ended has its end as its last event, and nothing silent can follow it.
      by_contra filled
      have ends : (life'.events number).getLast? = some (.ceased number fate') := by
        rw [events, last, ← List.cons_append]
        exact List.getLast?_concat
      rw [longer, List.getLast?_append_of_ne_nil _ filled] at ends
      exact nomatch List.filterMap_eq_nil_iff.mp silent _ (List.mem_of_getLast? ends)

/-- The beginning of a life is told by its first event only. -/
theorem of_began_mem {other : Nat} {holder : Option String} {scope : Scope}
    (member : Event.began other holder scope ∈ life.events number) :
    other = number ∧ holder = life.holder ∧ scope = life.scope := by
  rw [events, List.mem_cons, List.mem_append, List.mem_map, List.mem_map] at member
  rcases member with began | ⟨_, _, spoke⟩ | ⟨_, _, ceased⟩
  · injection began with same sameHolder sameScope
    exact ⟨same, sameHolder, sameScope⟩
  · cases spoke
  · cases ceased

/-- The end of a life is told by its fate. -/
theorem of_ceased_mem {other : Nat} {fate : Fate}
    (member : Event.ceased other fate ∈ life.events number) : life.fate = some fate := by
  have told : fate ∈ (life.events number).filterMap Event.fate? :=
    List.mem_filterMap.mpr ⟨_, member, rfl⟩
  rw [fate_of_events] at told
  exact Option.mem_toList.mp told

theorem committed_of_events (life : Life) (number : Nat) :
    (life.events number).committed = if life.fate = some .committed then [number] else [] := by
  have silent : (life.spoken.map (fun spoken => Event.spoke number spoken.1 spoken.2)).filterMap
      Event.committed? = [] := by
    rw [List.filterMap_map]
    exact List.filterMap_eq_nil_iff.mpr fun _ _ => rfl
  rw [events, History.committed, List.filterMap_cons_none rfl, List.filterMap_append, silent,
    List.nil_append]
  rcases life.fate with _ | _ | _ | _ | _ <;> rfl

/-- The work of a life: the statements that succeeded, apart from those that moved its session. -/
def kept (life : Life) : List String :=
  (life.spoken.filter (fun spoken => spoken.2 && !(Control.read spoken.1).moves)).map
    (fun spoken => spoken.1)

/-- The work that the events of a life tell, if its statements are plain. -/
theorem work_of_events {life : Life}
    (plainly : forall spoken, spoken ∈ life.spoken -> Plain spoken.1) (number : Nat) :
    (life.events number).filterMap Event.work? = life.kept := by
  rw [work_of_spoken, kept]
  generalize life.spoken = spoken at plainly
  induction spoken with
  | nil => rfl
  | cons first rest inductionHypothesis =>
      rcases first with ⟨sql, succeeded⟩
      have others := inductionHypothesis fun pair member =>
        plainly pair (List.mem_cons_of_mem _ member)
      have work := (plainly _ List.mem_cons_self).read_eq_work_iff
      rw [List.map_cons, List.filter_cons]
      cases succeeded with
      | false => exact others
      | true =>
          cases moves : (Control.read sql).moves with
          | true =>
              have addsNothing : Event.work? (.spoke number sql true) = none := by
                rw [Event.work?, if_neg]
                intro read
                rw [work.mp read] at moves
                cases moves
              rw [List.filterMap_cons_none addsNothing, others, Bool.not_true, Bool.and_false,
                if_neg Bool.false_ne_true]
          | false =>
              have adds : Event.work? (.spoke number sql true) = some sql := by
                rw [Event.work?, if_pos (work.mpr moves)]
              rw [List.filterMap_cons_some adds, others, Bool.not_false, Bool.and_true,
                if_pos rfl, List.map_cons]

end Life
end ScopedSql
