import Mathlib.Data.List.Basic

namespace ScopedSql

/-!
# Sessions on their way to a pool

A session that is opened for a pool has a route: statements that put it in its place.
The pool takes it in if all of them succeed, and this can be told from what was run on
the session.  As long as it is on its way, what was run is the first part of its route.
Once the matter is decided, nothing that is run later changes it.
-/

/-- What was run on each session, by number, and whether it succeeded. -/
abbrev Said := Nat -> List (String × Bool)

/-- One more statement was run on a session. -/
def Said.more (said : Said) (number : Nat) (sql : String) (succeeded : Bool) : Said :=
  fun other => said other ++ if other = number then [(sql, succeeded)] else []

/-- The number of a session, and statements for it. -/
structure Route where
  session : Nat
  statements : List String
  deriving DecidableEq, Repr

namespace Route

variable {said : Said} {route left : Route} {number : Nat} {sql : String} {succeeded : Bool}

/-- What is run on the session if all goes well. -/
def wanted (route : Route) : List (String × Bool) :=
  route.statements.map (fun sql => (sql, true))

/-- The statements were run on the session before any others, and they succeeded. -/
def Done (said : Said) (route : Route) : Prop :=
  route.wanted <+: said route.session

instance (said : Said) (route : Route) : Decidable (route.Done said) :=
  inferInstanceAs (Decidable (route.wanted <+: said route.session))

/-- What was run on the session does not stop short of the end of its route. -/
def Decided (said : Said) (route : Route) : Prop :=
  said route.session <+: route.wanted -> said route.session = route.wanted

/-- The session is on its way, and these statements are left. -/
structure UnderWay (said : Said) (left : Route) : Prop where
  filled : left.statements ≠ []
  succeeded : forall spoken, spoken ∈ said left.session -> spoken.2 = true

/-- The whole route of a session for which these statements are left. -/
def whole (said : Said) (left : Route) : Route :=
  ⟨left.session, (said left.session).map (fun spoken => spoken.1) ++ left.statements⟩

theorem more_self (said : Said) (number : Nat) (sql : String) (succeeded : Bool) :
    said.more number sql succeeded number = said number ++ [(sql, succeeded)] := by
  rw [Said.more, if_pos rfl]

theorem more_of_ne (other : left.session ≠ number) :
    said.more number sql succeeded left.session = said left.session := by
  rw [Said.more, if_neg other, List.append_nil]

theorem UnderWay.wanted_whole (underWay : UnderWay said left) :
    (whole said left).wanted = said left.session ++ left.wanted := by
  rw [wanted, whole, List.map_append, List.map_map]
  congr 1
  calc (said left.session).map ((fun sql => (sql, true)) ∘ fun spoken => spoken.1)
      = (said left.session).map id :=
        List.map_congr_left fun spoken member =>
          Prod.ext rfl (underWay.succeeded spoken member).symm
    _ = said left.session := List.map_id _

theorem UnderWay.not_done (underWay : UnderWay said left) : ¬ (whole said left).Done said := by
  intro done
  have short := List.IsPrefix.length_le done
  rw [underWay.wanted_whole, List.length_append, wanted, List.length_map] at short
  have some := List.length_pos_iff.mpr underWay.filled
  have same : (whole said left).session = left.session := rfl
  rw [same] at short
  omega

/-- What is run on another session does not matter. -/
theorem UnderWay.other (underWay : UnderWay said left) (other : left.session ≠ number) :
    UnderWay (said.more number sql succeeded) left ∧
      whole (said.more number sql succeeded) left = whole said left := by
  have same : said.more number sql succeeded left.session = said left.session := more_of_ne other
  refine ⟨⟨underWay.filled, same ▸ underWay.succeeded⟩, ?_⟩
  rw [whole, whole, same]

/-- What is run on a session later decides nothing any more. -/
theorem Decided.more (decided : route.Decided said) (number : Nat) (sql : String)
    (succeeded : Bool) : route.Decided (said.more number sql succeeded) ∧
      (route.Done (said.more number sql succeeded) ↔ route.Done said) := by
  rw [Decided, Done, Said.more]
  generalize (if route.session = number then [(sql, succeeded)] else []) = later
  constructor
  · intro short
    have within := (List.prefix_append _ later).trans short
    have whole := decided within
    rw [whole] at short ⊢
    exact short.eq_of_length_le (by simp)
  · constructor
    · intro done
      rcases List.prefix_or_prefix_of_prefix done (List.prefix_append _ later) with here | within
      · exact here
      · exact ⟨[], (List.append_nil _).trans (decided within).symm⟩
    · exact fun done => List.IsPrefix.trans done (List.prefix_append _ later)

end Route

/-! ## All sessions that were opened for pools -/

namespace Routes

open Route

/-- The sessions, by number, that went through all of their statements. -/
def taken (said : Said) (routes : List Route) : List Nat :=
  (routes.filter (fun route => route.Done said)).map Route.session

/-- Of the sessions with routes some are under way, with statements left for each of them, and the
matter of the others is decided. -/
structure Tracked (said : Said) (left routes : List Route) : Prop where
  underWay : forall route, route ∈ left -> UnderWay said route
  others : exists decided, routes.Perm (left.map (whole said) ++ decided) ∧
    forall route, route ∈ decided -> Decided said route

variable {said : Said} {left left' routes routes' : List Route} {route : Route} {number : Nat}
  {sql : String} {rest : List String}

theorem taken_perm (said : Said) (same : routes.Perm routes') :
    (taken said routes).Perm (taken said routes') :=
  (same.filter _).map _

theorem taken_cons_of_done (done : route.Done said) :
    taken said (route :: routes) = route.session :: taken said routes := by
  rw [taken, List.filter_cons_of_pos (by simpa using done), List.map_cons]
  rfl

theorem taken_cons_of_not_done (undone : ¬ route.Done said) :
    taken said (route :: routes) = taken said routes := by
  rw [taken, List.filter_cons_of_neg (by simpa using undone)]
  rfl

/-- A session that is not taken in, before or after, does not count. -/
theorem taken_perm_of_undone {said' : Said} (split : routes.Perm (route :: routes'))
    (before : ¬ route.Done said) (after : ¬ route.Done said')
    (same : taken said' routes' = taken said routes') :
    (taken said' routes).Perm (taken said routes) := by
  have first := taken_perm said split
  have second := taken_perm said' split
  rw [taken_cons_of_not_done before] at first
  rw [taken_cons_of_not_done after, same] at second
  exact second.trans first.symm

theorem tracked_nil (said : Said) : Tracked said [] [] :=
  ⟨fun _ member => (nomatch member), [], List.Perm.refl _, fun _ member => nomatch member⟩

namespace Tracked

theorem perm (tracked : Tracked said left routes) (same : left.Perm left')
    (sameRoutes : routes.Perm routes') : Tracked said left' routes' := by
  rcases tracked.others with ⟨decided, split, settled⟩
  exact ⟨fun route member => tracked.underWay route (same.symm.subset member), decided,
    sameRoutes.symm.trans (split.trans ((same.map _).append_right _)), settled⟩

/-- One session that is under way, apart from the rest. -/
theorem apart (tracked : Tracked said (route :: left) routes) :
    UnderWay said route ∧ exists others, routes.Perm (whole said route :: others) ∧
      Tracked said left others := by
  rcases tracked.others with ⟨decided, split, settled⟩
  exact ⟨tracked.underWay route List.mem_cons_self, left.map (whole said) ++ decided, split,
    fun route member => tracked.underWay route (List.mem_cons_of_mem _ member),
    decided, List.Perm.refl _, settled⟩

theorem cons_underWay (tracked : Tracked said left routes) (underWay : UnderWay said route) :
    Tracked said (route :: left) (whole said route :: routes) := by
  rcases tracked.others with ⟨decided, split, settled⟩
  exact ⟨List.forall_mem_cons.mpr ⟨underWay, tracked.underWay⟩, decided, split.cons _, settled⟩

theorem cons_decided (tracked : Tracked said left routes) (decides : Decided said route) :
    Tracked said left (route :: routes) := by
  rcases tracked.others with ⟨decided, split, settled⟩
  exact ⟨tracked.underWay, route :: decided, (split.cons route).trans List.perm_middle.symm,
    List.forall_mem_cons.mpr ⟨decides, settled⟩⟩

/-- What is run on a session that is not under way changes nothing. -/
theorem other (tracked : Tracked said left routes) (away : number ∉ left.map Route.session)
    (sql : String) (succeeded : Bool) :
    Tracked (said.more number sql succeeded) left routes ∧
      taken (said.more number sql succeeded) routes = taken said routes := by
  have differs : forall route, route ∈ left -> route.session ≠ number :=
    fun route member same => away (List.mem_map.mpr ⟨route, member, same⟩)
  have onward : forall route, route ∈ left ->
      UnderWay (said.more number sql succeeded) route ∧
        whole (said.more number sql succeeded) route = whole said route :=
    fun route member => (tracked.underWay route member).other (differs route member)
  rcases tracked.others with ⟨decided, split, settled⟩
  have wholes : left.map (whole (said.more number sql succeeded)) = left.map (whole said) :=
    List.map_congr_left fun route member => (onward route member).2
  refine ⟨⟨fun route member => (onward route member).1, decided, wholes ▸ split,
    fun route member => ((settled route member).more number sql succeeded).1⟩, ?_⟩
  have same : forall route, route ∈ routes ->
      (route.Done (said.more number sql succeeded) ↔ route.Done said) := by
    intro route member
    rcases List.mem_append.mp (split.subset member) with under | decides
    · rcases List.mem_map.mp under with ⟨before, here, rfl⟩
      rcases onward before here with ⟨still, unchanged⟩
      exact iff_of_false (unchanged ▸ still.not_done) (tracked.underWay before here).not_done
    · exact ((settled route decides).more number sql succeeded).2
  rw [taken, taken]
  congr 1
  exact List.filter_congr fun route member => decide_eq_decide.mpr (same route member)

/-- A session gets its route when it is opened. -/
theorem enter (tracked : Tracked said left routes) (fresh : said number = [])
    (first : String) (rest : List String) :
    Tracked said (⟨number, first :: rest⟩ :: left) (⟨number, first :: rest⟩ :: routes) ∧
      taken said (⟨number, first :: rest⟩ :: routes) = taken said routes := by
  have underWay : UnderWay said ⟨number, first :: rest⟩ :=
    ⟨List.cons_ne_nil _ _, by rw [fresh]; exact fun _ member => nomatch member⟩
  have same : whole said ⟨number, first :: rest⟩ = ⟨number, first :: rest⟩ := by
    rw [whole, fresh]
    rfl
  have entered := tracked.cons_underWay underWay
  rw [same] at entered
  exact ⟨entered, taken_cons_of_not_done (same ▸ underWay.not_done)⟩

/-- A session that no statements are wanted for is taken in as it is opened. -/
theorem enterTaken (tracked : Tracked said left routes) (fresh : said number = []) :
    Tracked said left (⟨number, []⟩ :: routes) ∧
      taken said (⟨number, []⟩ :: routes) = number :: taken said routes :=
  ⟨tracked.cons_decided fun _ => fresh, taken_cons_of_done (List.nil_prefix)⟩

/-- A statement that succeeds and is not the last brings the session further on its way. -/
theorem advance {next : String}
    (tracked : Tracked said (⟨number, sql :: next :: rest⟩ :: left) routes)
    (away : number ∉ left.map Route.session) :
    Tracked (said.more number sql true) (⟨number, next :: rest⟩ :: left) routes ∧
      (taken (said.more number sql true) routes).Perm (taken said routes) := by
  rcases tracked.apart with ⟨underWay, others, split, tracked'⟩
  rcases tracked'.other away sql true with ⟨still, same⟩
  have said' := more_self said number sql true
  have onward : UnderWay (said.more number sql true) ⟨number, next :: rest⟩ := by
    refine ⟨List.cons_ne_nil _ _, ?_⟩
    rw [said']
    intro spoken member
    rcases List.mem_append.mp member with member | member
    · exact underWay.succeeded spoken member
    · rw [List.mem_singleton.mp member]
  have sameWhole : whole (said.more number sql true) ⟨number, next :: rest⟩ =
      whole said ⟨number, sql :: next :: rest⟩ := by
    rw [whole, whole, said']
    simp
  have entered := still.cons_underWay onward
  rw [sameWhole] at entered
  exact ⟨entered.perm (List.Perm.refl _) split.symm,
    taken_perm_of_undone split underWay.not_done (sameWhole ▸ onward.not_done) same⟩

/-- The last statement, if it succeeds, brings the session to the end of its way. -/
theorem arrive (tracked : Tracked said (⟨number, [sql]⟩ :: left) routes)
    (away : number ∉ left.map Route.session) :
    Tracked (said.more number sql true) left routes ∧
      (taken (said.more number sql true) routes).Perm (number :: taken said routes) := by
  rcases tracked.apart with ⟨underWay, others, split, tracked'⟩
  rcases tracked'.other away sql true with ⟨still, same⟩
  have run : (whole said ⟨number, [sql]⟩).wanted = said.more number sql true number :=
    underWay.wanted_whole.trans (more_self said number sql true).symm
  have done : (whole said ⟨number, [sql]⟩).Done (said.more number sql true) :=
    ⟨[], (List.append_nil _).trans run⟩
  refine ⟨(still.cons_decided fun _ => run.symm).perm (List.Perm.refl _) split.symm, ?_⟩
  have before := taken_perm said split
  have after := taken_perm (said.more number sql true) split
  rw [taken_cons_of_not_done underWay.not_done] at before
  rw [taken_cons_of_done done, same] at after
  exact after.trans (before.symm.cons _)

/-- A statement that fails ends the way of the session before its end. -/
theorem fail (tracked : Tracked said (⟨number, sql :: rest⟩ :: left) routes)
    (away : number ∉ left.map Route.session) :
    Tracked (said.more number sql false) left routes ∧
      (taken (said.more number sql false) routes).Perm (taken said routes) := by
  rcases tracked.apart with ⟨underWay, others, split, tracked'⟩
  rcases tracked'.other away sql false with ⟨still, same⟩
  have said' := more_self said number sql false
  have run : (whole said ⟨number, sql :: rest⟩).wanted =
      said number ++ (sql, true) :: rest.map (fun sql => (sql, true)) := underWay.wanted_whole
  -- The statement is wanted to succeed where it failed, so neither list begins the other.
  have decides : Decided (said.more number sql false) (whole said ⟨number, sql :: rest⟩) := by
    intro short
    rw [run] at short
    have here := said' ▸ short
    rw [List.prefix_append_right_inj] at here
    simp at here
  have undone : ¬ (whole said ⟨number, sql :: rest⟩).Done (said.more number sql false) := by
    intro done
    rw [Done, run] at done
    have here := said' ▸ done
    rw [List.prefix_append_right_inj] at here
    simp at here
  exact ⟨(still.cons_decided decides).perm (List.Perm.refl _) split.symm,
    taken_perm_of_undone split underWay.not_done undone same⟩

end Tracked
end Routes
end ScopedSql
