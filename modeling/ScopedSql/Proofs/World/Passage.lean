import ScopedSql.Proofs.Scripted.Circulation
import ScopedSql.Proofs.World.Errands

namespace ScopedSql

open Scripted

/-!
# What goes on in a world

The sessions in circulation of a world are those that somebody has in hand, those
that are being put on a scope in the background, and those that pools keep.  The
sessions that were left behind are those that wait in the background for their
end.  Whatever a world does by itself, and whatever a pool does, is conduct among
these sessions.
-/

/-! ## What a task holds -/

variable {κ : Type}

/-- The session that a task puts on a scope. -/
def Task.moving? : Task κ -> Option κ
  | .position _ session _ _ => some session
  | _ => none

/-- The session that a task rolls back and closes. -/
def Task.leaving? : Task κ -> Option κ
  | .abandon session _ => some session
  | _ => none

theorem Task.eq_abandon {task : Task κ} {session : κ} (leaves : task.leaving? = some session) :
    exists inTime, task = .abandon session inTime := by
  cases task with
  | abandon other inTime => exact ⟨inTime, by rw [Option.some_inj.mp leaves]⟩
  | _ => cases leaves

/-- The statements that a task runs to put a session on a scope. -/
def Task.statements : Task κ -> List String
  | .connect _ _ pinned => pinned
  | .position _ _ sql rest => sql :: rest
  | _ => []

/-- Does the task open a session? -/
def Task.connects : Task κ -> Bool
  | .connect _ _ _ => true
  | _ => false

namespace World

/-! ## Statements on a scripted server -/

/-- The world after a statement, whatever came of it. -/
def say (w : World Server Session) (sql : String) (session : Session) : World Server Session :=
  { w with server := w.server.afterRun session sql }

/-- The world after a session was opened. -/
def entered (w : World Server Session) : World Server Session :=
  { w with server := w.server.afterOpen }

variable {rules : Rules} {w w' w'' : World Server Session} {session : Session} {sql : String}

theorem delay_eq (same : w.server.rules = rules) (sql : String) :
    w.delay sql = rules.delay sql := by
  rw [← same]
  rfl

/-- What comes of a statement follows from the rules, its text and its session. -/
theorem execute_eq (same : w.server.rules = rules) (sql : String) (session : Session) :
    w.execute sql session = (rules.count sql, rules.move session sql, w.say sql session) := by
  simp only [execute, Backend.execute, Server.execute_eq, same]
  rfl

theorem execute_of_refused {e : Error} (refused : w.server.rules.refusal? sql = some e) :
    w.execute sql session = (.error e, session, w.say sql session) := by
  rw [execute_eq rfl, Rules.move_of_refused refused, Rules.count, Rules.answer, refused]
  rfl

theorem execute_of_accepted (accepted : w.server.rules.refusal? sql = none) (session : Session) :
    exists count, w.execute sql session =
      (.ok count, session.follow sql, w.say sql session) := by
  rw [execute_eq rfl, Rules.move_of_accepted accepted, Rules.count, Rules.answer, accepted]
  exact ⟨_, rfl⟩

/-- What a statement does to its session and to the world does not show in its result. -/
theorem execute_moves (w : World Server Session) (sql : String) (session : Session) :
    exists result, w.execute sql session =
      (result, w.server.rules.move session sql, w.say sql session) :=
  ⟨_, execute_eq rfl sql session⟩

theorem query_eq (same : w.server.rules = rules) (sql : String) (session : Session) :
    w.query sql session = (rules.rows sql, rules.move session sql, w.say sql session) := by
  simp only [query, Backend.query, Server.query_eq, same]
  rfl

theorem query_of_refused {e : Error} (refused : w.server.rules.refusal? sql = some e) :
    w.query sql session = (.error e, session, w.say sql session) := by
  rw [query_eq rfl, Rules.move_of_refused refused, Rules.rows, Rules.answer, refused]
  rfl

theorem query_of_accepted (accepted : w.server.rules.refusal? sql = none) (session : Session) :
    exists set, w.query sql session = (.ok set, session.follow sql, w.say sql session) := by
  rw [query_eq rfl, Rules.move_of_accepted accepted, Rules.rows, Rules.answer, accepted]
  exact ⟨_, rfl⟩

theorem query_moves (w : World Server Session) (sql : String) (session : Session) :
    exists result, w.query sql session =
      (result, w.server.rules.move session sql, w.say sql session) :=
  ⟨_, query_eq rfl sql session⟩

/-- Opening a session fails and changes nothing, or gives the next number. -/
theorem connect_cases (w : World Server Session) (target : Target) :
    (exists e, w.connect target = (.error e, w)) ∨
      w.connect target = (.ok (Session.fresh (w.server.ledger.opened + 1)), w.entered) := by
  rcases Server.connect_eq target w.server with ⟨e, failed⟩ | opened
  · refine Or.inl ⟨e, ?_⟩
    simp only [connect, Backend.connect, failed]
  · apply Or.inr
    simp only [connect, Backend.connect, opened, entered]

/-! ## Passages -/

/-- To close a session it is enough to know its number. -/
theorem close_move (w : World Server Session) (rules : Rules) (session : Session) (sql : String) :
    w.close (rules.move session sql) = w.close session := by
  simp only [World.close, Backend.close, Server.close, Rules.move_number]

/-- The sessions that are being put on a scope in the background, and those that pools keep. -/
def kept (w : World Server Session) : List Session :=
  w.errands.filterMap (fun errand => errand.task.moving?) ++ w.idle.map (fun kept => kept.2)

/-- The sessions in circulation of a world, with those that somebody has in hand. -/
def circulation (w : World Server Session) (hands : List Session) : Circulation where
  free := hands ++ w.kept
  leaving := w.errands.filterMap (fun errand => errand.task.leaving?)
  server := w.server

/-- The background work keeps to a licence, and opens sessions without delay. -/
structure Tame (licence : Licence) (w : World Server Session) : Prop where
  ordered : InOrder w.errands
  spoken : forall errand, errand ∈ w.errands -> forall sql, sql ∈ errand.task.statements ->
    licence.speaks sql
  prompt : forall errand, errand ∈ w.errands -> errand.task.connects = true ->
    licence.enters ∧ errand.due ≤ w.now

theorem Tame.within {small large : Licence} (tame : Tame small w) (within : small.Within large) :
    Tame large w :=
  ⟨tame.ordered, fun errand member sql spoken => within.speaks sql
    (tame.spoken errand member sql spoken), fun errand member connects =>
      have prompt := tame.prompt errand member connects
      ⟨within.enters prompt.1, prompt.2⟩⟩

/-- From one world to another, and from what somebody had in hand to what is in hand then. -/
structure Passage (licence : Licence) (before : List Session) (w : World Server Session)
    (after : List Session) (w' : World Server Session) : Prop where
  tame : Tame licence w -> Tame licence w'
  conduct : Tame licence w ->
    Circulation.Conduct licence (w.circulation before) (w'.circulation after)

variable {licence : Licence} {hands before after last more : List Session}

theorem Passage.refl : Passage licence hands w hands w :=
  ⟨fun tame => tame, fun _ => .refl⟩

/-- It may be taken for granted that the world to begin with is tame. -/
theorem Passage.ofTame (passage : Tame licence w -> Passage licence before w after w') :
    Passage licence before w after w' :=
  ⟨fun tame => (passage tame).tame tame, fun tame => (passage tame).conduct tame⟩

theorem Passage.trans (first : Passage licence before w after w')
    (second : Passage licence after w' last w'') : Passage licence before w last w'' :=
  ⟨fun tame => second.tame (first.tame tame),
    fun tame => (first.conduct tame).trans (second.conduct (first.tame tame))⟩

/-- What matters of the sessions is which there are, not who has them. -/
theorem conduct_of_perm {c c' : Circulation} (free : c'.free.Perm c.free)
    (leaving : c'.leaving.Perm c.leaving) (server : c'.server = c.server) :
    Circulation.Conduct licence c c' := by
  rcases c' with ⟨free', leaving', server'⟩
  cases server
  exact .single (.shift free.subperm leaving)

/-- More in hand is no hindrance. -/
theorem Passage.lift (passage : Passage licence before w after w') (more : List Session) :
    Passage licence (before ++ more) w (after ++ more) w' := by
  refine ⟨passage.tame, ?_⟩
  intro tame
  have regroup : forall (held : List Session) (w : World Server Session),
      (w.circulation (held ++ more)).free.Perm ((w.circulation held).joined more).free := by
    intro held w
    simp only [circulation, Circulation.joined, List.append_assoc]
    exact List.perm_append_comm.append_left held
  refine Relation.ReflTransGen.trans ?_ (Relation.ReflTransGen.trans
    ((passage.conduct tame).lift more) ?_)
  · exact conduct_of_perm (regroup before w).symm (List.Perm.refl _) rfl
  · exact conduct_of_perm (regroup after w') (List.Perm.refl _) rfl

/-! ## Single steps -/

/-- Time may go by, tokens and pools may come and go, and pools may forget sessions. -/
theorem Passage.calm (server : w'.server = w.server) (errands : w'.errands = w.errands)
    (idle : List.Subperm (w'.idle.map (fun kept => kept.2)) (w.idle.map (fun kept => kept.2)))
    (later : w.now ≤ w'.now) : Passage licence hands w hands w' := by
  refine ⟨fun tame => ⟨errands ▸ tame.ordered, errands ▸ tame.spoken, ?_⟩, ?_⟩
  · intro errand member connects
    rw [errands] at member
    rcases tame.prompt errand member connects with ⟨enters, due⟩
    exact ⟨enters, Nat.le_trans due later⟩
  · intro _
    rw [circulation, circulation, server, kept, kept, errands]
    exact .single (.shift ((List.subperm_append_left _).mpr ((List.subperm_append_left _).mpr idle))
      (List.Perm.refl _))

theorem Passage.say (speaks : licence.speaks sql) : Passage licence (session :: hands) w
    (w.server.rules.move session sql :: hands) (w.say sql session) :=
  ⟨fun tame => ⟨tame.ordered, tame.spoken, tame.prompt⟩, fun _ => .single (.say speaks)⟩

theorem Passage.close : Passage licence (session :: hands) w hands (w.close session) :=
  ⟨fun tame => ⟨tame.ordered, tame.spoken, tame.prompt⟩, fun _ => .single .close⟩

theorem Passage.forget : Passage licence (session :: hands) w hands w :=
  ⟨fun tame => tame, fun _ => .single (.shift
    ((List.sublist_cons_self _ _).subperm) (List.Perm.refl _))⟩

/-- A session that is opened comes into the hands of who opened it. -/
theorem Passage.enter (enters : licence.enters) : Passage licence hands w
    (Session.fresh (w.server.ledger.opened + 1) :: hands) w.entered :=
  ⟨fun tame => ⟨tame.ordered, tame.spoken, tame.prompt⟩, fun _ => .single (.enter enters)⟩

/-- Where a session is kept does not show on the server. -/
theorem putBack_server (w : World Server Session) (pool : Nat) (session : Session) :
    (w.putBack pool session).server = w.server := by
  rw [World.putBack]
  split <;> rfl

/-- A pool gets a session, or the session is forgotten. -/
theorem Passage.putBack (pool : Nat) :
    Passage licence (session :: hands) w hands (w.putBack pool session) := by
  unfold World.putBack
  split
  · refine ⟨fun tame => ⟨tame.ordered, tame.spoken, tame.prompt⟩, ?_⟩
    intro _
    refine conduct_of_perm ?_ (List.Perm.refl _) rfl
    simp only [circulation, kept, List.map_cons, ← List.append_assoc]
    exact List.perm_middle
  · exact .forget

/-- Taking out what is kept under a number takes out the first, and forgets the others. -/
theorem subperm_of_lookup {kept : List (Nat × Session)} {pool : Nat}
    (found : kept.lookup pool = some session) :
    List.Subperm (session :: (kept.filter (fun kept => kept.1 ≠ pool)).map (fun kept => kept.2))
      (kept.map (fun kept => kept.2)) := by
  induction kept with
  | nil => cases found
  | cons first rest inductionHypothesis =>
      rcases first with ⟨other, held⟩
      by_cases same : other = pool
      · subst same
        rw [List.lookup_cons_self, Option.some_inj] at found
        subst found
        rw [List.filter_cons_of_neg (by simp), List.map_cons]
        exact (List.subperm_cons _).mpr ((List.filter_sublist).map _).subperm
      · have differs : (pool == other) = false := beq_false_of_ne (Ne.symm same)
        rw [List.lookup_cons, differs] at found
        rw [List.filter_cons_of_pos (by simpa using same), List.map_cons, List.map_cons]
        exact (List.Perm.swap _ _ _).subperm.trans
          ((List.subperm_cons _).mpr (inductionHypothesis found))

/-- A pool that keeps a session lends it. -/
theorem Passage.takeIdle {pool : Nat} (keeps : w.idle? pool = some session) :
    Passage licence hands w (session :: hands) (w.takeIdle pool) := by
  refine ⟨fun tame => ⟨tame.ordered, tame.spoken, tame.prompt⟩, ?_⟩
  intro _
  refine .single (.shift ?_ (List.Perm.refl _))
  have fewer := (List.subperm_append_left
    (w.errands.filterMap (fun errand => errand.task.moving?))).mpr (subperm_of_lookup keeps)
  refine List.Subperm.trans ?_ ((List.subperm_append_left hands).mpr fewer)
  apply List.Perm.subperm
  exact (List.perm_middle.append_left hands |>.trans List.perm_middle).symm

theorem Passage.removePool (pool : Nat) : Passage licence hands w hands (w.removePool pool) :=
  .calm rfl rfl ((List.filter_sublist.map _).subperm) (Nat.le_refl _)

/-! ## Errands -/

theorem filterMap_cons_toList {α β : Type} (part : α -> Option β) (first : α) (rest : List α) :
    (first :: rest).filterMap part = (part first).toList ++ rest.filterMap part := by
  rw [List.filterMap_cons]
  cases part first <;> rfl

/-- The sessions of a world in which a task was started. -/
theorem spawn_perm (w : World Server Session) (wait : Nat) (task : Task Session)
    (hands : List Session) :
    ((w.spawn wait task).circulation hands).free.Perm
        (task.moving?.toList ++ (w.circulation hands).free) ∧
      ((w.spawn wait task).circulation hands).leaving.Perm
        (task.leaving?.toList ++ (w.circulation hands).leaving) := by
  have perm := insertErrand_perm ⟨w.now + wait, task⟩ w.errands
  have free := perm.filterMap (fun errand => errand.task.moving?)
  have leaving := perm.filterMap (fun errand => errand.task.leaving?)
  constructor
  · have kept : (w.spawn wait task).kept.Perm (task.moving?.toList ++ w.kept) := by
      rw [filterMap_cons_toList] at free
      have all := free.append_right (w.idle.map (fun kept => kept.2))
      rw [List.append_assoc] at all
      exact all
    exact (kept.append_left hands).trans (List.perm_append_comm_assoc _ _ _)
  · rw [filterMap_cons_toList] at leaving
    exact leaving

theorem Tame.spawn (tame : Tame licence w) {wait : Nat} {task : Task Session}
    (spoken : forall sql, sql ∈ task.statements -> licence.speaks sql)
    (prompt : task.connects = true -> licence.enters ∧ wait = 0) :
    Tame licence (w.spawn wait task) := by
  have perm := insertErrand_perm ⟨w.now + wait, task⟩ w.errands
  refine ⟨insertErrand_inOrder _ tame.ordered, ?_, ?_⟩
  · intro errand member
    rcases List.mem_cons.mp (perm.subset member) with rfl | member
    · exact spoken
    · exact tame.spoken errand member
  · intro errand member
    rcases List.mem_cons.mp (perm.subset member) with rfl | member
    · intro connects
      rcases prompt connects with ⟨enters, rfl⟩
      exact ⟨enters, Nat.le_refl _⟩
    · exact tame.prompt errand member

theorem Passage.spawn {wait : Nat} {task : Task Session} (idle : task.moving? = none)
    (staying : task.leaving? = none)
    (spoken : forall sql, sql ∈ task.statements -> licence.speaks sql)
    (prompt : task.connects = true -> licence.enters ∧ wait = 0) :
    Passage licence hands w hands (w.spawn wait task) := by
  rcases spawn_perm w wait task hands with ⟨free, leaving⟩
  rw [idle] at free
  rw [staying] at leaving
  exact ⟨fun tame => tame.spawn spoken prompt, fun _ => conduct_of_perm free leaving rfl⟩

/-- A session goes from the hands into a task that puts it on a scope. -/
theorem Passage.spawnPosition (wait pool : Nat) {sql : String} {rest : List String}
    (spoken : forall statement, statement ∈ sql :: rest -> licence.speaks statement) :
    Passage licence (session :: hands) w hands
      (w.spawn wait (.position pool session sql rest)) := by
  rcases spawn_perm w wait (.position pool session sql rest) hands with ⟨free, leaving⟩
  exact ⟨fun tame => tame.spawn spoken (fun connects => nomatch connects),
    fun _ => conduct_of_perm free leaving rfl⟩

/-- A session goes from the hands into a task that rolls it back and closes it. -/
theorem spawnAbandon_conduct (licence : Licence) (w : World Server Session) (session : Session)
    (hands : List Session) (wait : Nat) (inTime : Bool) :
    Circulation.Conduct licence (w.circulation (session :: hands))
      ((w.spawn wait (.abandon session inTime)).circulation hands) := by
  rcases spawn_perm w wait (.abandon session inTime) hands with ⟨free, leaving⟩
  exact .tail (.single .leave) (.shift free.subperm leaving)

end World
end ScopedSql
