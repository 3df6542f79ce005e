import ScopedSql.Proofs.World.Errands
import ScopedSql.Proofs.World.Placement

namespace ScopedSql

open Routes

/-!
# Where open sessions are

A session that was opened and not closed is in one of three places: in the hands
of a caller, with a task in the background, or taken in by a pool.  A pool takes in
a session once it went through all statements that put it in its place, and what it
has once taken in stays its own for good: it may be kept, lent or forgotten, but
nobody closes it.  Each thing that a world does moves sessions among these places
and loses none.

Nothing here looks into a server.  A custody says what has to be known about it.
-/

variable {σ κ : Type}

/-- The numbers of a session that was opened, if one was. -/
def heldBy (number : κ -> Nat) : Except Error κ -> List Nat
  | .ok session => [number session]
  | .error _ => []

/-- A way to number the sessions of servers of a kind, and to say of a server which numbers are out,
those of the sessions that were opened and not closed, and what was run on each session.  A
statement may be run on a session that is out, and changes nothing but what was run there.  The
custody also says which statements were asked for, to put the sessions of a pool in their place. -/
structure Custody (σ κ : Type) [Backend σ κ] where
  number : κ -> Nat
  Out : List Nat -> σ -> Prop
  said : σ -> Said
  asks : List String -> Prop
  perm : forall {out out' : List Nat} {server : σ}, out.Perm out' -> Out out server ->
    Out out' server
  nodup : forall {out : List Nat} {server : σ}, Out out server -> out.Nodup
  connect : forall {out : List Nat} {server : σ} (target : Target), Out out server ->
    Out (heldBy number (Backend.connect target server).1 ++ out) (Backend.connect target server).2
  execute : forall {out : List Nat} {server : σ} {session : κ} (sql : String), Out out server ->
    number session ∈ out -> Out out (Backend.execute sql session server).2.2
  query : forall {out : List Nat} {server : σ} {session : κ} (sql : String), Out out server ->
    number session ∈ out -> Out out (Backend.query sql session server).2.2
  ping : forall {out : List Nat} {server : σ} {session : κ}, Out out server ->
    number session ∈ out -> Out out (Backend.ping session server).2.2
  close : forall {out : List Nat} {server : σ} {session : κ}, Out (number session :: out) server ->
    Out out (Backend.close session server)
  fresh : forall {out : List Nat} {server server' : σ} {target : Target} {session : κ},
    Out out server -> Backend.connect target server = (.ok session, server') ->
      said server' (number session) = []
  connect_said : forall (target : Target) (server : σ),
    said (Backend.connect target server).2 = said server
  execute_said : forall (sql : String) (session : κ) (server : σ),
    said (Backend.execute sql session server).2.2 =
      (said server).more (number session) sql (Backend.execute sql session server).1.isOk
  query_said : forall (sql : String) (session : κ) (server : σ),
    said (Backend.query sql session server).2.2 =
      (said server).more (number session) sql (Backend.query sql session server).1.isOk
  ping_said : forall (session : κ) (server : σ),
    said (Backend.ping session server).2.2 = said server
  close_said : forall (session : κ) (server : σ), said (Backend.close session server) = said server
  execute_number : forall (sql : String) (session : κ) (server : σ),
    number (Backend.execute sql session server).2.1 = number session
  query_number : forall (sql : String) (session : κ) (server : σ),
    number (Backend.query sql session server).2.1 = number session
  ping_number : forall (session : κ) (server : σ),
    number (Backend.ping session server).2.1 = number session

/-- The sessions in somebody's hands, by number: those that are his own, those that a pool has lent
him, and those that are on their way to a pool, with what is left to be run there. -/
structure Hands where
  own : List Nat
  lent : List Nat
  underWay : List Route

namespace Hands

def empty : Hands := ⟨[], [], []⟩

/-- Hands that have some sessions. -/
def having (own : List Nat) : Hands := ⟨own, [], []⟩

/-- Hands that a pool has lent some sessions. -/
def lending (lent : List Nat) : Hands := ⟨[], lent, []⟩

/-- Hands that have one session. -/
def holding (number : Nat) : Hands := having [number]

/-- Hands that a pool has lent one session. -/
def borrowing (number : Nat) : Hands := lending [number]

/-- Hands that lead a session on its way.  If nothing is left to be run, then the pool has taken it
in and lends it. -/
def leading (number : Nat) : List String -> Hands
  | [] => borrowing number
  | sql :: rest => ⟨[], [], [⟨number, sql :: rest⟩]⟩

/-- What is in hand after a statement for a session on its way. -/
def following (number : Nat) (rest : List String) : Except Error Nat -> Hands
  | .ok _ => leading number rest
  | .error _ => holding number

def join (hands more : Hands) : Hands :=
  ⟨hands.own ++ more.own, hands.lent ++ more.lent, hands.underWay ++ more.underWay⟩

theorem join_assoc (first second third : Hands) :
    (first.join second).join third = first.join (second.join third) := by
  simp only [join, List.append_assoc]

/-- A way to have a session in hand, as one's own or lent, so that it can be used. -/
def Grip (grip : Nat -> Hands) : Prop :=
  forall number, number ∈ (grip number).own ++ (grip number).lent

theorem grip_holding : Grip holding := fun _ => List.mem_cons_self

theorem grip_borrowing : Grip borrowing := fun _ => List.mem_cons_self

end Hands

namespace Custody

variable [Backend σ κ] (custody : Custody σ κ)

/-! ## The accounts of a server -/

/-- The sessions that are out are those that somebody owns, those under way to a pool, and those
that pools have taken in. -/
structure Accounts (own : List Nat) (underWay : List Route) (server : σ) (routes : List Route) :
    Prop where
  out : custody.Out (own ++ (underWay.map Route.session ++ taken (custody.said server) routes))
    server
  tracked : Tracked (custody.said server) underWay routes

namespace Accounts

variable {custody} {own own' : List Nat} {underWay underWay' routes : List Route}
  {server server' : σ} {number : Nat} {sql : String} {rest : List String} {succeeded : Bool}

theorem perm (accounts : custody.Accounts own underWay server routes) (sameOwn : own.Perm own')
    (same : underWay.Perm underWay') : custody.Accounts own' underWay' server routes :=
  ⟨custody.perm (sameOwn.append ((same.map _).append_right _)) accounts.out,
    accounts.tracked.perm same (List.Perm.refl _)⟩

/-- A session that can be used is out. -/
theorem known_out
    (known : number ∈ own ++ taken (custody.said server) routes) : number ∈
      own ++ (underWay.map Route.session ++ taken (custody.said server) routes) := by
  rcases List.mem_append.mp known with mine | kept
  · exact List.mem_append_left _ mine
  · exact List.mem_append_right _ (List.mem_append_right _ kept)

/-- A session that can be used is not on its way. -/
theorem away (accounts : custody.Accounts own underWay server routes)
    (known : number ∈ own ++ taken (custody.said server) routes) :
    number ∉ underWay.map Route.session := by
  have distinct := custody.nodup accounts.out
  rw [List.nodup_append, List.nodup_append] at distinct
  intro member
  rcases List.mem_append.mp known with mine | kept
  · exact distinct.2.2 number mine number (List.mem_append_left _ member) rfl
  · exact distinct.2.1.2.2 number member number kept rfl

/-- No two sessions under way have one number. -/
theorem first_away {first : Route}
    (accounts : custody.Accounts own (first :: underWay) server routes) :
    first.session ∉ underWay.map Route.session := by
  have distinct := custody.nodup accounts.out
  rw [List.map_cons, List.cons_append, List.nodup_append, List.nodup_cons] at distinct
  exact fun member => distinct.2.1.1 (List.mem_append_left _ member)

/-- As long as no statement is run, pools take in no session. -/
theorem silent (accounts : custody.Accounts own underWay server routes)
    (said : custody.said server' = custody.said server)
    (out : custody.Out (own' ++ (underWay.map Route.session ++ taken (custody.said server) routes))
      server') :
    custody.Accounts own' underWay server' routes ∧
      taken (custody.said server') routes = taken (custody.said server) routes :=
  ⟨⟨said.symm ▸ out, said.symm ▸ accounts.tracked⟩, by rw [said]⟩

/-- A statement on a session that is not on its way to a pool changes nothing. -/
theorem speak (accounts : custody.Accounts own underWay server routes)
    (known : number ∈ own ++ taken (custody.said server) routes)
    (leaves : forall out, custody.Out out server -> number ∈ out -> custody.Out out server')
    (said : custody.said server' = (custody.said server).more number sql succeeded) :
    custody.Accounts own underWay server' routes ∧
      taken (custody.said server') routes = taken (custody.said server) routes := by
  rcases accounts.tracked.other (accounts.away known) sql succeeded with ⟨tracked, same⟩
  rw [← said] at tracked same
  exact ⟨⟨same.symm ▸ leaves _ accounts.out (known_out known), tracked⟩, same⟩

/-- A session that was opened for a pool sets out on its way. -/
theorem enter (accounts : custody.Accounts (number :: own) underWay server routes)
    (fresh : custody.said server number = []) (sqls : List String) :
    custody.Accounts own ((Hands.leading number sqls).underWay ++ underWay) server
        (⟨number, sqls⟩ :: routes) ∧
      taken (custody.said server) (⟨number, sqls⟩ :: routes) =
        (Hands.leading number sqls).lent ++ taken (custody.said server) routes := by
  cases sqls with
  | nil =>
      rcases accounts.tracked.enterTaken fresh with ⟨tracked, same⟩
      refine ⟨⟨?_, tracked⟩, same⟩
      rw [same, ← List.append_assoc]
      refine custody.perm ?_ accounts.out
      rw [List.cons_append, ← List.append_assoc]
      exact List.perm_middle.symm
  | cons sql rest =>
      rcases accounts.tracked.enter fresh sql rest with ⟨tracked, same⟩
      refine ⟨⟨?_, tracked⟩, same⟩
      rw [same]
      exact custody.perm List.perm_middle.symm accounts.out

/-- A session on its way is led on by a statement that succeeds. -/
theorem succeed (accounts : custody.Accounts own (⟨number, sql :: rest⟩ :: underWay) server routes)
    (leaves : forall out, custody.Out out server -> number ∈ out -> custody.Out out server')
    (said : custody.said server' = (custody.said server).more number sql true) :
    custody.Accounts own ((Hands.leading number rest).underWay ++ underWay) server' routes ∧
      (taken (custody.said server') routes).Perm
        ((Hands.leading number rest).lent ++ taken (custody.said server) routes) := by
  have out := leaves _ accounts.out (List.mem_append_right _ List.mem_cons_self)
  cases rest with
  | nil =>
      rcases accounts.tracked.arrive accounts.first_away with ⟨tracked, grown⟩
      rw [← said] at tracked grown
      refine ⟨⟨custody.perm ?_ out, tracked⟩, grown⟩
      apply List.Perm.append_left
      exact List.perm_middle.symm.trans (grown.symm.append_left _)
  | cons next rest =>
      rcases accounts.tracked.advance accounts.first_away with ⟨tracked, same⟩
      rw [← said] at tracked same
      exact ⟨⟨custody.perm ((same.symm.append_left _).append_left _) out, tracked⟩, same⟩

/-- A statement that fails ends the way of a session, which is then somebody's own. -/
theorem fail (accounts : custody.Accounts own (⟨number, sql :: rest⟩ :: underWay) server routes)
    (leaves : forall out, custody.Out out server -> number ∈ out -> custody.Out out server')
    (said : custody.said server' = (custody.said server).more number sql false) :
    custody.Accounts (number :: own) underWay server' routes ∧
      (taken (custody.said server') routes).Perm (taken (custody.said server) routes) := by
  have out := leaves _ accounts.out (List.mem_append_right _ List.mem_cons_self)
  rcases accounts.tracked.fail accounts.first_away with ⟨tracked, same⟩
  rw [← said] at tracked same
  refine ⟨⟨custody.perm ?_ out, tracked⟩, same⟩
  exact List.perm_middle.trans (((same.symm.append_left _).append_left _).cons _)

end Accounts

/-! ## The accounts of a world -/

/-- What a task has in hand. -/
def handsOf : Task κ -> Hands
  | .abandon session _ => .holding (custody.number session)
  | .position _ session sql rest => .leading (custody.number session) (sql :: rest)
  | _ => .empty

/-- What the background work has in hand. -/
def background (w : World σ κ) : Hands :=
  ⟨w.errands.flatMap (fun errand => (custody.handsOf errand.task).own), [],
    w.errands.flatMap (fun errand => (custody.handsOf errand.task).underWay)⟩

/-- The routes of all sessions that were opened for pools. -/
def routes (w : World σ κ) : List Route :=
  w.openings.map (fun opening => ⟨custody.number opening.session, opening.pinned⟩)

/-- The sessions that pools have taken in, as what was run on them tells. -/
def takenIn (w : World σ κ) : List Nat :=
  taken (custody.said w.server) (custody.routes w)

/-- If the task opens a session, then for statements that were asked for. -/
def Asks : Task κ -> Prop
  | .connect _ _ pinned => custody.asks pinned
  | _ => True

/-- All sessions that are opened for pools are opened for statements that were asked for. -/
structure Asked (w : World σ κ) : Prop where
  openings : forall opening, opening ∈ w.openings -> custody.asks opening.pinned
  errands : forall errand, errand ∈ w.errands -> custody.Asks errand.task

variable {custody} in
/-- Whatever is asked of the server, no session is opened for a pool by it. -/
theorem Asked.call {w : World σ κ} (asked : custody.Asked w) (server : σ) :
    custody.Asked { w with server := server } :=
  ⟨asked.openings, asked.errands⟩

/-- All open sessions of a world are accounted for, if these hands and the background work have what
pools have not taken in. -/
structure Complete (hands : Hands) (w : World σ κ) : Prop where
  lent : hands.lent ⊆ custody.takenIn w
  idle : forall kept, kept ∈ w.idle -> custody.number kept.2 ∈ custody.takenIn w
  accounts : custody.Accounts (hands.own ++ (custody.background w).own)
    (hands.underWay ++ (custody.background w).underWay) w.server (custody.routes w)
  asked : custody.Asked w

variable {custody} in
/-- Who owns which session matters, not in which order. -/
theorem Complete.perm {own own' : List Nat} {w : World σ κ}
    (complete : custody.Complete (.having own) w) (same : own.Perm own') :
    custody.Complete (.having own') w :=
  ⟨complete.lent, complete.idle,
    complete.accounts.perm (same.append_right _) (List.Perm.refl _), complete.asked⟩

/-- From one world to another no session is lost: what somebody had in hand before he has then, or
it is somewhere else where it belongs.  Of the hands of others nothing is assumed. -/
def Passes (before : Hands) (w : World σ κ) (after : Hands) (w' : World σ κ) : Prop :=
  forall others, custody.Complete (before.join others) w -> custody.Complete (after.join others) w'

namespace Passes

variable {custody} {before after last hands more : Hands} {w w' w'' : World σ κ}
  {session : κ} {own lent : List Nat}

theorem refl : custody.Passes hands w hands w :=
  fun _ complete => complete

theorem trans (first : custody.Passes before w after w')
    (second : custody.Passes after w' last w'') : custody.Passes before w last w'' :=
  fun others complete => second others (first others complete)

/-- It may be taken for granted that sessions are opened only for what was asked for. -/
theorem ofAsked (passes : custody.Asked w -> custody.Passes before w after w') :
    custody.Passes before w after w' :=
  fun others complete => passes complete.asked others complete

/-- More in hand is no hindrance. -/
theorem lift (passes : custody.Passes before w after w') (more : Hands) :
    custody.Passes (before.join more) w (after.join more) w' := by
  intro others complete
  rw [Hands.join_assoc] at complete ⊢
  exact passes (more.join others) complete

/-- It does not matter which session is named first. -/
theorem swap (first second : List Nat) :
    custody.Passes (.having (first ++ second)) w (.having (second ++ first)) w :=
  fun _ complete => ⟨complete.lent, complete.idle, complete.accounts.perm
    ((List.perm_append_comm.append_right _).append_right _) (List.Perm.refl _), complete.asked⟩

/-- Time may go by, tokens and pools may come and go, and pools may forget sessions. -/
theorem calm (server : w'.server = w.server) (errands : w'.errands = w.errands)
    (openings : w'.openings = w.openings) (idle : w'.idle ⊆ w.idle) :
    custody.Passes hands w hands w' := by
  intro others complete
  have routes : custody.routes w' = custody.routes w := by rw [Custody.routes, openings]; rfl
  have background : custody.background w' = custody.background w := by
    rw [Custody.background, errands]
    rfl
  have takenIn : custody.takenIn w' = custody.takenIn w := by
    rw [Custody.takenIn, server, routes]
    rfl
  refine ⟨takenIn ▸ complete.lent, fun kept member => takenIn ▸ complete.idle kept (idle member),
    ?_, ⟨openings ▸ complete.asked.openings, errands ▸ complete.asked.errands⟩⟩
  rw [background, server, routes]
  exact complete.accounts

/-- A call to the server that leaves what is out, and what pools have taken in. -/
theorem call {server : σ} {number : Nat} (known : number ∈ hands.own ++ hands.lent)
    (leaves : forall own underWay routes, custody.Accounts own underWay w.server routes ->
      number ∈ own ++ taken (custody.said w.server) routes ->
        custody.Accounts own underWay server routes ∧
          taken (custody.said server) routes = taken (custody.said w.server) routes) :
    custody.Passes hands w hands { w with server := server } := by
  intro others complete
  have here : number ∈ (hands.join others).own ++ (custody.background w).own ++
      taken (custody.said w.server) (custody.routes w) := by
    rcases List.mem_append.mp known with mine | borrowed
    · exact List.mem_append_left _ (List.mem_append_left _ (List.mem_append_left _ mine))
    · exact List.mem_append_right _ (complete.lent (List.mem_append_left _ borrowed))
  rcases leaves _ _ _ complete.accounts here with ⟨accounts, same⟩
  have takenIn : custody.takenIn { w with server := server } = custody.takenIn w := same
  exact ⟨takenIn ▸ complete.lent, takenIn ▸ complete.idle, accounts, complete.asked.call _⟩

section Calls
variable (custody) {grip : Nat -> Hands} (grips : Hands.Grip grip) (session : κ) (w : World σ κ)
include grips

/-- Who has a session in hand still has it after a statement. -/
theorem execute (sql : String) : custody.Passes (grip (custody.number session)) w
    (grip (custody.number (w.execute sql session).2.1)) (w.execute sql session).2.2 := by
  rw [World.execute, custody.execute_number]
  exact call (grips _) fun _ _ _ accounts known => accounts.speak known
    (fun _ => custody.execute sql) (custody.execute_said sql session w.server)

theorem query (sql : String) : custody.Passes (grip (custody.number session)) w
    (grip (custody.number (w.query sql session).2.1)) (w.query sql session).2.2 := by
  rw [World.query, custody.query_number]
  exact call (grips _) fun _ _ _ accounts known => accounts.speak known
    (fun _ => custody.query sql) (custody.query_said sql session w.server)

theorem ping : custody.Passes (grip (custody.number session)) w
    (grip (custody.number (w.ping session).2.1)) (w.ping session).2.2 := by
  rw [World.ping, custody.ping_number]
  refine call (grips (custody.number session)) ?_
  intro own underWay routes accounts known
  exact accounts.silent (custody.ping_said session w.server)
    (custody.ping accounts.out (Accounts.known_out known))

end Calls

theorem connect (custody : Custody σ κ) (w : World σ κ) (target : Target) :
    custody.Passes .empty w (.having (heldBy custody.number (w.connect target).1))
      (w.connect target).2 := by
  intro others complete
  have out := custody.connect target complete.accounts.out
  rw [← List.append_assoc] at out
  rcases complete.accounts.silent (custody.connect_said target w.server) out
    with ⟨accounts, same⟩
  have takenIn : custody.takenIn (w.connect target).2 = custody.takenIn w := same
  exact ⟨takenIn ▸ complete.lent, takenIn ▸ complete.idle,
    accounts.perm (.of_eq (List.append_assoc _ _ _).symm) (List.Perm.refl _),
    complete.asked.call _⟩

theorem close : custody.Passes (.holding (custody.number session)) w .empty (w.close session) := by
  intro others complete
  rcases complete.accounts.silent (custody.close_said session w.server)
    (custody.close complete.accounts.out) with ⟨accounts, same⟩
  have takenIn : custody.takenIn (w.close session) = custody.takenIn w := same
  exact ⟨takenIn ▸ complete.lent, takenIn ▸ complete.idle, accounts, complete.asked.call _⟩

/-! ## Tasks -/

/-- A session that is in hand goes into a task. -/
theorem spawn (wait : Nat) (task : Task κ) (asks : custody.Asks task) :
    custody.Passes (custody.handsOf task) w .empty (w.spawn wait task) := by
  intro others complete
  have perm := World.insertErrand_perm ⟨w.now + wait, task⟩ w.errands
  have own := perm.flatMap_right (fun errand => (custody.handsOf errand.task).own)
  have underWay := perm.flatMap_right (fun errand => (custody.handsOf errand.task).underWay)
  have asked : forall errand, errand ∈ (w.spawn wait task).errands -> custody.Asks errand.task := by
    intro errand member
    rcases List.mem_cons.mp (perm.subset member) with rfl | before
    · exact asks
    · exact complete.asked.errands errand before
  refine ⟨fun _ member => complete.lent (List.mem_append_right _ member), complete.idle, ?_,
    ⟨complete.asked.openings, asked⟩⟩
  refine complete.accounts.perm ?_ ?_
  · rw [Hands.join, List.append_assoc]
    exact (List.perm_append_comm_assoc _ _ _).trans (own.symm.append_left _)
  · rw [Hands.join, List.append_assoc]
    exact (List.perm_append_comm_assoc _ _ _).trans (underWay.symm.append_left _)

/-- The first errand is taken up: what it has is in hand. -/
theorem takeUp {errand : Errand κ} {rest : List (Errand κ)} (first : w.errands = errand :: rest)
    (now : Nat) : custody.Passes .empty w (custody.handsOf errand.task)
      { w with errands := rest, now := now } := by
  intro others complete
  have accounts := complete.accounts
  rw [background, first, List.flatMap_cons, List.flatMap_cons] at accounts
  have none : (custody.handsOf errand.task).lent = [] := by
    cases errand.task <;> rfl
  have asked : forall errand, errand ∈ rest -> custody.Asks errand.task := fun errand member =>
    complete.asked.errands errand (first ▸ List.mem_cons_of_mem _ member)
  refine ⟨?_, complete.idle, accounts.perm ?_ ?_, ⟨complete.asked.openings, asked⟩⟩
  · rw [Hands.join, none]
    exact complete.lent
  · exact (List.perm_append_comm_assoc others.own _ _).trans
      (.of_eq (List.append_assoc _ _ _).symm)
  · exact (List.perm_append_comm_assoc others.underWay _ _).trans
      (.of_eq (List.append_assoc _ _ _).symm)

/-! ## Pools -/

/-- A session that is opened for a pool is led on its way. -/
theorem connectFor {target : Target} (opened : w.connect target = (.ok session, w'))
    {pinned : List String} (asks : custody.asks pinned) :
    custody.Passes .empty w (.leading (custody.number session) pinned) (w'.note session pinned) := by
  intro others complete
  have entered := connect custody w target others complete
  rw [opened] at entered
  simp only [World.connect, Prod.mk.injEq] at opened
  have fresh := custody.fresh complete.accounts.out
    (Prod.ext opened.1 (congrArg World.server opened.2))
  rcases entered.accounts.enter fresh pinned with ⟨accounts, same⟩
  have takenIn : custody.takenIn (w'.note session pinned) =
      (Hands.leading (custody.number session) pinned).lent ++ custody.takenIn w' := same
  have mine : (Hands.leading (custody.number session) pinned).own = [] := by
    cases pinned <;> rfl
  refine ⟨?_, ?_, ?_, ⟨?_, entered.asked.errands⟩⟩
  · rw [takenIn]
    exact List.append_subset.mpr ⟨List.subset_append_left _ _,
      fun _ member => List.mem_append_right _ (entered.lent member)⟩
  · intro kept member
    rw [takenIn]
    exact List.mem_append_right _ (entered.idle kept member)
  · simp only [Hands.join, mine, List.nil_append, List.append_assoc]
    exact accounts
  · exact List.forall_mem_cons.mpr ⟨asks, entered.asked.openings⟩

/-- A statement on a session that is on its way to a pool. -/
theorem lead (custody : Custody σ κ) (session : κ) (w : World σ κ) (sql : String)
    (rest : List String) :
    custody.Passes (.leading (custody.number session) (sql :: rest)) w
      (.following (custody.number (w.execute sql session).2.1) rest (w.execute sql session).1)
      (w.execute sql session).2.2 := by
  intro others complete
  have said := custody.execute_said sql session w.server
  have leaves : forall out, custody.Out out w.server -> custody.number session ∈ out ->
      custody.Out out (Backend.execute sql session w.server).2.2 := fun _ => custody.execute sql
  have accounts := complete.accounts
  have asked := complete.asked.call (Backend.execute sql session w.server).2.2
  rw [World.execute, custody.execute_number]
  simp only
  cases result : (Backend.execute sql session w.server).1 with
  | ok count =>
      rw [result] at said
      rcases accounts.succeed leaves said with ⟨onward, grown⟩
      have mine : (Hands.leading (custody.number session) rest).own = [] := by
        cases rest <;> rfl
      refine ⟨?_, ?_, ?_, asked⟩
      · refine List.append_subset.mpr ⟨?_, ?_⟩
        · exact fun _ member => grown.symm.subset (List.mem_append_left _ member)
        · exact fun _ member => grown.symm.subset (List.mem_append_right _ (complete.lent member))
      · exact fun kept member =>
          grown.symm.subset (List.mem_append_right _ (complete.idle kept member))
      · simp only [Hands.following, Hands.join, mine, List.nil_append, List.append_assoc]
        exact onward
  | error e =>
      rw [result] at said
      rcases accounts.fail leaves said with ⟨ended, same⟩
      exact ⟨fun _ member => same.symm.subset (complete.lent member),
        fun kept member => same.symm.subset (complete.idle kept member), ended, asked⟩

/-- A session that was lent goes back, or it is forgotten. -/
theorem putBack (pool : Nat) :
    custody.Passes (.borrowing (custody.number session)) w .empty (w.putBack pool session) := by
  intro others complete
  have rest : (Hands.empty.join others).lent ⊆ custody.takenIn w :=
    fun _ member => complete.lent (List.mem_append_right _ member)
  unfold World.putBack
  split
  · refine ⟨rest, ?_, complete.accounts, ⟨complete.asked.openings, complete.asked.errands⟩⟩
    intro kept member
    rcases List.mem_cons.mp member with rfl | member
    · exact complete.lent List.mem_cons_self
    · exact complete.idle kept member
  · exact ⟨rest, complete.idle, complete.accounts, complete.asked⟩

/-- What is only lent may be forgotten. -/
theorem forget : custody.Passes (.lending lent) w .empty w :=
  fun _ complete => ⟨fun _ member => complete.lent (List.mem_append_right _ member), complete.idle,
    complete.accounts, complete.asked⟩

/-- A pool lends the session that it keeps. -/
theorem takeIdle (custody : Custody σ κ) {pool : Nat} (keeps : w.idle? pool = some session) :
    custody.Passes .empty w (.borrowing (custody.number session)) (w.takeIdle pool) := by
  intro others complete
  have kept : (pool, session) ∈ w.idle := by
    rcases List.lookup_eq_some_iff.mp keeps with ⟨before, after, split, _⟩
    rw [split]
    exact List.mem_append_right _ List.mem_cons_self
  refine ⟨List.cons_subset.mpr ⟨complete.idle _ kept, complete.lent⟩, ?_, complete.accounts,
    ⟨complete.asked.openings, complete.asked.errands⟩⟩
  exact fun kept member => complete.idle kept (List.mem_filter.mp member).1

theorem removePool (pool : Nat) : custody.Passes hands w hands (w.removePool pool) :=
  calm rfl rfl rfl (List.filter_subset_self _)

/-! ## Time -/

/-- A session on its way to a pool is put through what is left and handed to the pool, or given to a
task, or closed. -/
theorem position (pool : Nat) (session : κ) (sqls : List String) (w : World σ κ) :
    custody.Passes (.leading (custody.number session) sqls) w .empty
      (World.position pool session sqls w) := by
  induction sqls generalizing session w with
  | nil => exact putBack pool
  | cons sql rest inductionHypothesis =>
      rw [World.position]
      split
      · have said := lead custody session w sql rest
        generalize w.execute sql session = answer at said ⊢
        rcases answer with ⟨e | count, session', w'⟩
        · exact said.trans close
        · exact said.trans (inductionHypothesis session' w')
      · exact spawn _ (.position pool session sql rest) True.intro

theorem run (w : World σ κ) {task : Task κ} (asks : custody.Asks task) :
    custody.Passes (custody.handsOf task) w .empty (w.run task) := by
  cases task with
  | cancel token => exact calm rfl rfl rfl (List.Subset.refl _)
  | abandon session inTime =>
      cases inTime with
      | false => exact close
      | true => exact (execute custody Hands.grip_holding session w "ROLLBACK").trans close
  | connect pool target pinned =>
      rw [World.run]
      split
      · rename_i session w' opened
        exact (connectFor opened asks).trans (position pool session pinned _)
      · rename_i w' failed
        have opened := connect custody w target
        rw [failed] at opened
        exact opened
  | position pool session sql rest =>
      have said := lead custody session w sql rest
      rw [World.run]
      generalize w.execute sql session = answer at said ⊢
      rcases answer with ⟨e | count, session', w'⟩
      · exact said.trans close
      · exact said.trans (position pool session' rest w')

theorem elapseWith (stop : World σ κ -> Bool) (limit fuel : Nat) (w : World σ κ) :
    custody.Passes .empty w .empty (World.elapseWith stop limit fuel w) := by
  induction fuel generalizing w with
  | zero => exact refl
  | succ fuel inductionHypothesis =>
      rw [World.elapseWith]
      split
      · exact refl
      · split
        · exact refl
        · rename_i errand rest first
          split
          · refine ofAsked fun asked => ?_
            have asks := asked.errands errand (first ▸ List.mem_cons_self)
            exact ((takeUp first _).trans (run _ asks)).trans (inductionHypothesis _)
          · exact refl

/-- Whoever has sessions in hand has them still when time has gone by. -/
theorem elapse (custody : Custody σ κ) (hands : Hands) (stop : World σ κ -> Bool) (limit : Nat)
    (w : World σ κ) : custody.Passes hands w hands (w.elapse stop limit) :=
  (elapseWith stop limit w.load w).lift hands

theorem moveTo (time : Nat) : custody.Passes hands w hands (w.moveTo time) :=
  calm rfl rfl rfl (List.Subset.refl _)

theorem advance (w : World σ κ) (time : Nat) : custody.Passes hands w hands (w.advance time) :=
  (elapse custody hands _ _ w).trans (moveTo _)

theorem await (custody : Custody σ κ) (hands : Hands) (w : World σ κ) (context : Context)
    (operation : String) (time : Nat) :
    custody.Passes hands w hands (w.await context operation time).2 := by
  rw [World.await]
  split
  · exact refl
  · split
    · exact refl
    · simp only
      split
      · exact elapse custody hands _ _ w
      · split
        · exact (elapse custody hands _ _ w).trans (moveTo _)
        · exact (elapse custody hands _ _ w).trans (moveTo _)

/-! ## Calls within a context -/

theorem connectIn (custody : Custody σ κ) (context : Context) (target : Target) (w : World σ κ) :
    custody.Passes .empty w (.having (heldBy custody.number (w.connectIn context target).1))
      (w.connectIn context target).2 := by
  have waited := await custody .empty w context "connect" 0
  rw [World.connectIn]
  generalize w.await context "connect" 0 = answer at waited ⊢
  rcases answer with ⟨e | _, w'⟩
  · exact waited
  · exact waited.trans (connect custody w' target)

section Contexts
variable (custody) {grip : Nat -> Hands} (grips : Hands.Grip grip) (context : Context) (session : κ)
  (w : World σ κ)
include grips

theorem executeIn (operation sql : String) : custody.Passes (grip (custody.number session)) w
    (grip (custody.number (w.executeIn context operation sql session).2.1))
    (w.executeIn context operation sql session).2.2 := by
  have waited := await custody (grip (custody.number session)) w context operation (w.delay sql)
  rw [World.executeIn]
  generalize w.await context operation (w.delay sql) = answer at waited ⊢
  rcases answer with ⟨e | _, w'⟩
  · exact waited
  · exact waited.trans (execute custody grips session w' sql)

theorem queryIn (operation sql : String) : custody.Passes (grip (custody.number session)) w
    (grip (custody.number (w.queryIn context operation sql session).2.1))
    (w.queryIn context operation sql session).2.2 := by
  have waited := await custody (grip (custody.number session)) w context operation (w.delay sql)
  rw [World.queryIn]
  generalize w.await context operation (w.delay sql) = answer at waited ⊢
  rcases answer with ⟨e | _, w'⟩
  · exact waited
  · exact waited.trans (query custody grips session w' sql)

theorem pingIn : custody.Passes (grip (custody.number session)) w
    (grip (custody.number (w.pingIn context session).2.1)) (w.pingIn context session).2.2 := by
  have waited := await custody (grip (custody.number session)) w context "ping" 0
  rw [World.pingIn]
  generalize w.await context "ping" 0 = answer at waited ⊢
  rcases answer with ⟨e | _, w'⟩
  · exact waited
  · exact waited.trans (ping custody grips session w')

end Contexts

end Passes
end Custody
end ScopedSql
