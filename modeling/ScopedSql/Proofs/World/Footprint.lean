import ScopedSql.Proofs.World.Attempt

namespace ScopedSql

open Scripted

/-!
# Where statements are run

Who works on sessions of its own runs statements on those and on no others.
Besides, the background work runs statements on the sessions that it has in
hand.  Nothing is asked about the statements themselves: they may begin and end
transactions as they please.
-/

namespace Scripted

/-- From one server to another, statements were run only on some sessions. -/
def Server.RunsOn (own : Nat -> Prop) (server server' : Server) : Prop :=
  exists entries, server'.ledger.entries = server.ledger.entries ++ entries ∧
    forall entry, entry ∈ entries -> own entry.session

namespace Server.RunsOn

variable {own : Nat -> Prop} {server server' server'' : Server}

theorem of_entries_eq (same : server'.ledger.entries = server.ledger.entries) :
    RunsOn own server server' :=
  ⟨[], by rw [same, List.append_nil], fun _ member => nomatch member⟩

theorem trans (first : RunsOn own server server') (second : RunsOn own server' server'') :
    RunsOn own server server'' := by
  rcases first with ⟨early, earlyEq, earlyOwn⟩
  rcases second with ⟨late, lateEq, lateOwn⟩
  refine ⟨early ++ late, by rw [lateEq, earlyEq, List.append_assoc], ?_⟩
  intro entry member
  rcases List.mem_append.mp member with member | member
  · exact earlyOwn entry member
  · exact lateOwn entry member

theorem mono {wide : Nat -> Prop} (runs : RunsOn own server server')
    (wider : forall other, own other -> wide other) : RunsOn wide server server' := by
  rcases runs with ⟨entries, appended, mine⟩
  exact ⟨entries, appended, fun entry member => wider _ (mine entry member)⟩

end Server.RunsOn
end Scripted

namespace World

variable {own : Nat -> Prop} {licence : Licence} {w w' w'' : World Server Session}
  {session : Session}

/-- The background work opens no session, and those that it has in hand are among some. -/
def Confined (own : Nat -> Prop) (w : World Server Session) : Prop :=
  forall errand, errand ∈ w.errands -> errand.task.connects = false ∧
    forall session, errand.task.held? = some session -> own session.number

/-- Any session at all. -/
def Anywhere : Nat -> Prop :=
  fun _ => True

theorem anywhere (number : Nat) : Anywhere number :=
  True.intro

/-- A session of this number is in the hands of the background work. -/
def Busy (w : World Server Session) (number : Nat) : Prop :=
  exists errand, errand ∈ w.errands ∧
    exists session, errand.task.held? = some session ∧ session.number = number

theorem Tame.confined (tame : Tame licence.shut w) (busy : forall number, w.Busy number ->
    own number) : Confined own w := by
  intro errand member
  constructor
  · exact Bool.eq_false_iff.mpr fun connects => (tame.prompt errand member connects).1
  · intro session held
    exact busy session.number ⟨errand, member, session, held, rfl⟩

/-- A session of this number, or one in the hands of the background work. -/
def OwnOrBusy (w : World Server Session) (number other : Nat) : Prop :=
  other = number ∨ w.Busy other

theorem Tame.ownOrBusy (tame : Tame licence.shut w) (number : Nat) :
    Confined (w.OwnOrBusy number) w :=
  tame.confined fun _ busy => Or.inr busy

/-- Statements are run on some sessions only, as long as the background work keeps to them. -/
structure Footprint (own : Nat -> Prop) (w w' : World Server Session) : Prop where
  confined : Confined own w -> Confined own w'
  runs : Confined own w -> w.server.RunsOn own w'.server

namespace Footprint

/-- What the background work and the log do not show leaves no trace. -/
theorem calm (errands : w'.errands = w.errands)
    (entries : w'.server.ledger.entries = w.server.ledger.entries) : Footprint own w w' :=
  ⟨fun confined => by rw [Confined, errands]; exact confined, fun _ => .of_entries_eq entries⟩

theorem refl : Footprint own w w :=
  .calm rfl rfl

theorem trans (first : Footprint own w w') (second : Footprint own w' w'') :
    Footprint own w w'' :=
  ⟨fun confined => second.confined (first.confined confined),
    fun confined => (first.runs confined).trans (second.runs (first.confined confined))⟩

theorem say (mine : own session.number) (sql : String) :
    Footprint own w (w.say sql session) := by
  refine ⟨fun confined => confined, fun _ => ⟨[session.entry sql], rfl, ?_⟩⟩
  intro entry member
  rw [List.mem_singleton.mp member]
  exact mine

theorem spawn {wait : Nat} {task : Task Session} (connects : task.connects = false)
    (mine : forall session, task.held? = some session -> own session.number) :
    Footprint own w (w.spawn wait task) := by
  refine ⟨?_, fun _ => .of_entries_eq rfl⟩
  intro confined errand member
  rcases List.mem_cons.mp ((insertErrand_perm _ _).subset member) with rfl | member
  · exact ⟨connects, mine⟩
  · exact confined errand member

end Footprint

/-! ## The background work -/

theorem putBack_footprint (pool : Nat) : Footprint own w (w.putBack pool session) := by
  unfold putBack
  split <;> exact .calm rfl rfl

theorem position_footprint (mine : own session.number) (pool : Nat) (sqls : List String) :
    Footprint own w (position pool session sqls w) := by
  induction sqls generalizing session w with
  | nil => exact putBack_footprint pool
  | cons sql rest inductionHypothesis =>
      rw [position]
      split
      · rcases execute_moves w sql session with ⟨result, ran⟩
        have said : Footprint own w (w.say sql session) := .say mine sql
        have still : own (w.server.rules.move session sql).number := by
          rw [Rules.move_number]
          exact mine
        rw [ran]
        cases result with
        | error e => exact said.trans (.calm rfl rfl)
        | ok count => exact said.trans (inductionHypothesis still)
      · refine .spawn rfl ?_
        rintro _ ⟨⟩
        exact mine

theorem run_footprint {task : Task Session} (connects : task.connects = false)
    (mine : forall session, task.held? = some session -> own session.number) :
    Footprint own w (w.run task) := by
  cases task with
  | cancel token => exact .calm rfl rfl
  | connect pool target pinned => cases connects
  | abandon session inTime =>
      cases inTime with
      | false => exact .calm rfl rfl
      | true =>
          rcases execute_moves w "ROLLBACK" session with ⟨result, ran⟩
          simp only [run, if_true, ran]
          exact (Footprint.say (mine session rfl) "ROLLBACK").trans (.calm rfl rfl)
  | position pool session sql rest =>
      rcases execute_moves w sql session with ⟨result, ran⟩
      have said : Footprint own w (w.say sql session) := .say (mine session rfl) sql
      have still : own (w.server.rules.move session sql).number := by
        rw [Rules.move_number]
        exact mine session rfl
      rw [run, ran]
      cases result with
      | error e => exact said.trans (.calm rfl rfl)
      | ok count => exact said.trans (position_footprint still pool rest)

theorem elapseWith_footprint (stop : World Server Session -> Bool) (limit fuel : Nat)
    (w : World Server Session) : Footprint own w (elapseWith stop limit fuel w) := by
  induction fuel generalizing w with
  | zero => exact .refl
  | succ fuel inductionHypothesis =>
      rw [elapseWith]
      split
      · exact .refl
      · split
        · exact .refl
        · rename_i errand rest first
          split
          · -- What the first errand holds is known only while the errands are confined.
            have taken : Footprint own w (w.takeUp errand.due rest) := by
              refine ⟨fun confined other member => ?_, fun _ => .of_entries_eq rfl⟩
              exact confined other (first ▸ List.mem_cons_of_mem _ member)
            have worked : Confined own w ->
                Footprint own w ((w.takeUp errand.due rest).run errand.task) := by
              intro confined
              rcases confined errand (first ▸ List.mem_cons_self) with ⟨connects, mine⟩
              exact taken.trans (run_footprint connects mine)
            have onward := inductionHypothesis ((w.takeUp errand.due rest).run errand.task)
            exact ⟨fun confined => ((worked confined).trans onward).confined confined,
              fun confined => ((worked confined).trans onward).runs confined⟩
          · exact .refl

theorem await_footprint (context : Context) (operation : String) (time : Nat) :
    Footprint own w (w.await context operation time).2 := by
  have elapsed : forall limit, Footprint own w
      (w.elapse (fun w => w.isCancelled context) limit) :=
    fun limit => elapseWith_footprint _ limit _ w
  have moved : forall limit time, Footprint own w
      ((w.elapse (fun w => w.isCancelled context) limit).moveTo time) :=
    fun limit time => (elapsed limit).trans (.calm rfl rfl)
  rw [await]
  split
  · exact .refl
  · split
    · exact .refl
    · simp only
      split
      · exact elapsed _
      · split
        · exact moved _ _
        · exact moved _ _

/-! ## Progress -/

/-- A footprint that also keeps the background work to its licence. -/
structure Progress (licence : Licence) (own : Nat -> Prop) (w w' : World Server Session) : Prop
    extends Footprint own w w' where
  tame : Tame licence w -> Tame licence w'

namespace Progress

theorem calm (errands : w'.errands = w.errands) (later : w.now ≤ w'.now)
    (entries : w'.server.ledger.entries = w.server.ledger.entries) : Progress licence own w w' := by
  refine ⟨.calm errands entries, ?_⟩
  intro tame
  refine ⟨errands ▸ tame.ordered, errands ▸ tame.spoken, ?_⟩
  intro errand member connects
  rcases tame.prompt errand (errands ▸ member) connects with ⟨enters, due⟩
  exact ⟨enters, Nat.le_trans due later⟩

theorem refl : Progress licence own w w :=
  .calm rfl (Nat.le_refl _) rfl

theorem trans (first : Progress licence own w w') (second : Progress licence own w' w'') :
    Progress licence own w w'' :=
  ⟨first.toFootprint.trans second.toFootprint, fun tame => second.tame (first.tame tame)⟩

theorem say (mine : own session.number) (sql : String) :
    Progress licence own w (w.say sql session) :=
  ⟨.say mine sql, fun tame => ⟨tame.ordered, tame.spoken, tame.prompt⟩⟩

theorem close : Progress licence own w (w.close session) :=
  .calm rfl (Nat.le_refl _) rfl

end Progress

theorem await_progress (licence : Licence) (own : Nat -> Prop) (context : Context)
    (operation : String) (time : Nat) :
    Progress licence own w (w.await context operation time).2 := by
  refine ⟨await_footprint context operation time, ?_⟩
  rcases await_cases licence w context operation time
    with ⟨w', passed, waited | ⟨e, cause, waited⟩⟩
  · rw [waited]
    exact passed.tame
  · rw [waited]
    exact passed.tame

theorem executeIn_progress (licence : Licence) (w : World Server Session)
    (mine : own session.number) (context : Context) (operation sql : String) :
    Progress licence own w (w.executeIn context operation sql session).2.2 ∧
      (w.executeIn context operation sql session).2.1.number = session.number := by
  have waited : Progress licence own w (w.await context operation (w.delay sql)).2 :=
    await_progress licence own context operation (w.delay sql)
  rw [executeIn]
  generalize w.await context operation (w.delay sql) = answer at waited ⊢
  rcases answer with ⟨e | value, w'⟩
  · exact ⟨waited, rfl⟩
  · rcases execute_moves w' sql session with ⟨result, ran⟩
    simp only [ran]
    exact ⟨waited.trans (.say mine sql), Rules.move_number _ _ _⟩

theorem queryIn_progress (licence : Licence) (w : World Server Session) (mine : own session.number)
    (context : Context) (operation sql : String) :
    Progress licence own w (w.queryIn context operation sql session).2.2 ∧
      (w.queryIn context operation sql session).2.1.number = session.number := by
  have waited : Progress licence own w (w.await context operation (w.delay sql)).2 :=
    await_progress licence own context operation (w.delay sql)
  rw [queryIn]
  generalize w.await context operation (w.delay sql) = answer at waited ⊢
  rcases answer with ⟨e | value, w'⟩
  · exact ⟨waited, rfl⟩
  · rcases query_moves w' sql session with ⟨result, ran⟩
    simp only [ran]
    exact ⟨waited.trans (.say mine sql), Rules.move_number _ _ _⟩

end World
end ScopedSql
