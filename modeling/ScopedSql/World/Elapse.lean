import ScopedSql.World.Basic

namespace ScopedSql
namespace World

/-!
# Time

Background work is done in the order in which its steps are due.  A wait ends
when its time is over, when its context is cancelled, or when the deadline of
the context has come, whichever is first.  What takes no time is not stopped by
a deadline, not even by one that has passed.
-/

variable {σ κ : Type} [Backend σ κ]

/-- Put a session that is being opened through statements, as far as they take
no time, and hand it to its pool.  A statement that fails ends the session. -/
def position (pool : Nat) (session : κ) : List String -> World σ κ -> World σ κ
  | [], w => w.putBack pool session
  | sql :: rest, w =>
    if w.delay sql = 0 then
      match w.execute sql session with
      | (.ok _, session, w) => position pool session rest w
      | (.error _, session, w) => w.close session
    else w.spawn (w.delay sql) (.position pool session sql rest)

def run (w : World σ κ) : Task κ -> World σ κ
  | .cancel token => w.cancel token
  | .abandon session inTime =>
    if inTime then
      let (_, session, w) := w.execute "ROLLBACK" session
      w.close session
    else w.close session
  | .connect pool target pinned =>
    match w.connect target with
    | (.ok session, w) => position pool session pinned (w.note session pinned)
    | (.error _, w) => w
  | .position pool session sql rest =>
    match w.execute sql session with
    | (.ok _, session, w) => position pool session rest w
    | (.error _, session, w) => w.close session

/-- Do the steps that are due before a limit, one after the other, until there
is a reason to stop.  The fuel bounds their number. -/
def elapseWith (stop : World σ κ -> Bool) (limit : Nat) : Nat -> World σ κ -> World σ κ
  | 0, w => w
  | fuel + 1, w =>
    if stop w then w
    else
      match w.errands with
      | [] => w
      | errand :: rest =>
        if errand.due < limit then
          elapseWith stop limit fuel
            (run { w with errands := rest, now := max w.now errand.due } errand.task)
        else w

/-- Do the steps that are due before a limit until there is a reason to stop. -/
def elapse (w : World σ κ) (stop : World σ κ -> Bool) (limit : Nat) : World σ κ :=
  elapseWith stop limit w.load w

/-- Do all that is due by now. -/
def settle (w : World σ κ) : World σ κ :=
  w.elapse (fun _ => false) (w.now + 1)

/-- The clock is put to a time, but never back. -/
def moveTo (w : World σ κ) (time : Nat) : World σ κ :=
  { w with now := max w.now time }

def advance (w : World σ κ) (time : Nat) : World σ κ :=
  (w.elapse (fun _ => false) (w.now + time)).moveTo (w.now + time)

/-- Wait for work that takes some time, unless the context ends first. -/
def await (w : World σ κ) (context : Context) (operation : String) (time : Nat) :
    Except Error Unit × World σ κ :=
  if w.isCancelled context then (.error (.cancelled operation), w)
  else if time = 0 then (.ok (), w)
  else
    let finish := w.now + time
    let limit := (context.deadline.map (min finish)).getD finish
    let after := w.elapse (fun w => w.isCancelled context) limit
    if after.isCancelled context then (.error (.cancelled operation), after)
    else if limit < finish then (.error (.timedOut operation), after.moveTo limit)
    else (.ok (), after.moveTo finish)

def executeIn (w : World σ κ) (context : Context) (operation sql : String) (session : κ) :
    Except Error Nat × κ × World σ κ :=
  match w.await context operation (w.delay sql) with
  | (.error e, w) => (.error e, session, w)
  | (.ok _, w) => w.execute sql session

def queryIn (w : World σ κ) (context : Context) (operation sql : String) (session : κ) :
    Except Error ResultSet × κ × World σ κ :=
  match w.await context operation (w.delay sql) with
  | (.error e, w) => (.error e, session, w)
  | (.ok _, w) => w.query sql session

def connectIn (w : World σ κ) (context : Context) (target : Target) :
    Except Error κ × World σ κ :=
  match w.await context "connect" 0 with
  | (.error e, w) => (.error e, w)
  | (.ok _, w) => w.connect target

def pingIn (w : World σ κ) (context : Context) (session : κ) :
    Except Error Unit × κ × World σ κ :=
  match w.await context "ping" 0 with
  | (.error e, w) => (.error e, session, w)
  | (.ok _, w) => w.ping session

end World
end ScopedSql
