import ScopedSql.World.Elapse

namespace ScopedSql

/-!
# Worlds over a server that is seen as another

Nothing that works with sessions looks into the server behind them.  So where one
server can be seen as another, each call may be made before or after one turns to
what is seen: the results are the same, and so is what is seen in the end.
-/

variable {σ τ κ : Type} {see : σ -> τ}

namespace World

/-- The world in which the server is what is seen of it. -/
def image (w : World σ κ) (see : σ -> τ) : World τ κ :=
  { now := w.now, freshToken := w.freshToken, cancelled := w.cancelled, errands := w.errands,
    freshPool := w.freshPool, pools := w.pools, idle := w.idle, openings := w.openings,
    server := see w.server }

theorem image_putBack (w : World σ κ) (pool : Nat) (session : κ) :
    (w.image see).putBack pool session = (w.putBack pool session).image see := by
  have pools : (w.image see).pools = w.pools := rfl
  rw [putBack, putBack, pools]
  split <;> rfl

end World

variable [Backend σ κ] [Backend τ κ]

/-- Whatever servers of a kind are asked, they answer as what is seen of them does, and what is
seen afterwards is what becomes of what was seen. -/
structure Backend.Seen (see : σ -> τ) : Prop where
  connect : forall (target : Target) (server : σ), Backend.connect target (see server) =
    ((Backend.connect target server).1, see (Backend.connect target server).2)
  delay : forall (sql : String) (server : σ),
    Backend.delay sql (see server) = Backend.delay sql server
  execute : forall (sql : String) (session : κ) (server : σ),
    Backend.execute sql session (see server) =
      ((Backend.execute sql session server).1, (Backend.execute sql session server).2.1,
        see (Backend.execute sql session server).2.2)
  query : forall (sql : String) (session : κ) (server : σ),
    Backend.query sql session (see server) =
      ((Backend.query sql session server).1, (Backend.query sql session server).2.1,
        see (Backend.query sql session server).2.2)
  ping : forall (session : κ) (server : σ), Backend.ping session (see server) =
    ((Backend.ping session server).1, (Backend.ping session server).2.1,
      see (Backend.ping session server).2.2)
  close : forall (session : κ) (server : σ),
    Backend.close session (see server) = see (Backend.close session server)

namespace World

section Calls

variable (seen : Backend.Seen see) (w : World σ κ)
include seen

theorem image_connect (target : Target) : (w.image see).connect target =
    ((w.connect target).1, (w.connect target).2.image see) := by
  simp only [connect, image, seen.connect]

theorem image_delay (sql : String) : (w.image see).delay sql = w.delay sql :=
  seen.delay sql w.server

theorem image_execute (sql : String) (session : κ) : (w.image see).execute sql session =
    ((w.execute sql session).1, (w.execute sql session).2.1,
      (w.execute sql session).2.2.image see) := by
  simp only [execute, image, seen.execute]

theorem image_query (sql : String) (session : κ) : (w.image see).query sql session =
    ((w.query sql session).1, (w.query sql session).2.1,
      (w.query sql session).2.2.image see) := by
  simp only [query, image, seen.query]

theorem image_ping (session : κ) : (w.image see).ping session =
    ((w.ping session).1, (w.ping session).2.1, (w.ping session).2.2.image see) := by
  simp only [ping, image, seen.ping]

theorem image_close (session : κ) : (w.image see).close session = (w.close session).image see := by
  simp only [close, image, seen.close]

/-! ## Time -/

theorem image_position (pool : Nat) (session : κ) (sqls : List String) (w : World σ κ) :
    position pool session sqls (w.image see) = (position pool session sqls w).image see := by
  induction sqls generalizing session w with
  | nil => exact image_putBack w pool session
  | cons sql rest inductionHypothesis =>
      rw [position, position, image_delay seen]
      split
      · rw [image_execute seen]
        rcases w.execute sql session with ⟨e | count, session', w'⟩
        · exact image_close seen w' session'
        · exact inductionHypothesis session' w'
      · rfl

theorem image_run (task : Task κ) : (w.image see).run task = (w.run task).image see := by
  cases task with
  | cancel token => rfl
  | abandon session inTime =>
      rw [run, run]
      split
      · rw [image_execute seen]
        exact image_close seen _ _
      · exact image_close seen w session
  | connect pool target pinned =>
      rw [run, run, image_connect seen]
      rcases w.connect target with ⟨e | session, w'⟩
      · rfl
      · exact image_position seen pool session pinned (w'.note session pinned)
  | position pool session sql rest =>
      rw [run, run, image_execute seen]
      rcases w.execute sql session with ⟨e | count, session', w'⟩
      · exact image_close seen w' session'
      · exact image_position seen pool session' rest w'

theorem image_elapseWith {stop : World σ κ -> Bool} {stop' : World τ κ -> Bool}
    (same : forall w, stop' (w.image see) = stop w) (limit fuel : Nat) (w : World σ κ) :
    elapseWith stop' limit fuel (w.image see) = (elapseWith stop limit fuel w).image see := by
  induction fuel generalizing w with
  | zero => rfl
  | succ fuel inductionHypothesis =>
      have errands : (w.image see).errands = w.errands := rfl
      rw [elapseWith, elapseWith, same, errands]
      split
      · rfl
      · split
        · rfl
        · rename_i errand rest first
          split
          · rw [← inductionHypothesis, ← image_run seen]
            rfl
          · rfl

theorem image_elapse {stop : World σ κ -> Bool} {stop' : World τ κ -> Bool}
    (same : forall w, stop' (w.image see) = stop w) (limit : Nat) :
    (w.image see).elapse stop' limit = (w.elapse stop limit).image see :=
  image_elapseWith seen same limit w.load w

theorem image_settle : (w.image see).settle = w.settle.image see :=
  image_elapse seen w (fun _ => rfl) (w.now + 1)

theorem image_advance (time : Nat) : (w.image see).advance time = (w.advance time).image see := by
  have elapsed : (w.image see).elapse (fun _ => false) (w.now + time) =
      (w.elapse (fun _ => false) (w.now + time)).image see :=
    image_elapse seen w (fun _ => rfl) (w.now + time)
  have now : (w.image see).now = w.now := rfl
  rw [advance, now, elapsed]
  rfl

theorem image_await (context : Context) (operation : String) (time : Nat) :
    (w.image see).await context operation time =
      ((w.await context operation time).1, (w.await context operation time).2.image see) := by
  have cancelled : forall w : World σ κ, (w.image see).isCancelled context =
      w.isCancelled context := fun _ => rfl
  have elapsed : forall limit, (w.image see).elapse (fun w => w.isCancelled context) limit =
      (w.elapse (fun w => w.isCancelled context) limit).image see :=
    image_elapse seen w cancelled
  have now : (w.image see).now = w.now := rfl
  simp only [await, cancelled, elapsed, now]
  repeat' split
  all_goals rfl

theorem image_executeIn (context : Context) (operation sql : String) (session : κ) :
    (w.image see).executeIn context operation sql session =
      ((w.executeIn context operation sql session).1,
        (w.executeIn context operation sql session).2.1,
        (w.executeIn context operation sql session).2.2.image see) := by
  rw [executeIn, executeIn, image_delay seen, image_await seen]
  rcases w.await context operation (w.delay sql) with ⟨e | _, w'⟩
  · rfl
  · exact image_execute seen w' sql session

theorem image_queryIn (context : Context) (operation sql : String) (session : κ) :
    (w.image see).queryIn context operation sql session =
      ((w.queryIn context operation sql session).1,
        (w.queryIn context operation sql session).2.1,
        (w.queryIn context operation sql session).2.2.image see) := by
  rw [queryIn, queryIn, image_delay seen, image_await seen]
  rcases w.await context operation (w.delay sql) with ⟨e | _, w'⟩
  · rfl
  · exact image_query seen w' sql session

theorem image_connectIn (context : Context) (target : Target) :
    (w.image see).connectIn context target =
      ((w.connectIn context target).1, (w.connectIn context target).2.image see) := by
  rw [connectIn, connectIn, image_await seen]
  rcases w.await context "connect" 0 with ⟨e | _, w'⟩
  · rfl
  · exact image_connect seen w' target

theorem image_pingIn (context : Context) (session : κ) :
    (w.image see).pingIn context session =
      ((w.pingIn context session).1, (w.pingIn context session).2.1,
        (w.pingIn context session).2.2.image see) := by
  rw [pingIn, pingIn, image_await seen]
  rcases w.await context "ping" 0 with ⟨e | _, w'⟩
  · rfl
  · exact image_ping seen w' session

end Calls
end World
end ScopedSql
