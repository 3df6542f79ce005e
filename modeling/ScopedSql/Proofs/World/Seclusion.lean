import ScopedSql.Proofs.Scripted.Veil
import ScopedSql.Proofs.World.Lapse

namespace ScopedSql

open Scripted

/-!
# What is done out of sight of the others

Some sessions are secluded if nobody has them in circulation.  What is done with them
adds to the ledger, and it takes time.  All else goes on behind it as it would if time
had just gone by.
-/

/-- What is added to the ledger, and how long that takes. -/
structure Share where
  entries : List Entry
  committed : List String
  closed : List Nat
  time : Nat

namespace Share

def none : Share := ⟨[], [], [], 0⟩

/-- A wait adds nothing. -/
def wait (time : Nat) : Share := ⟨[], [], [], time⟩

def say (rules : Rules) (session : Session) (sql : String) : Share :=
  ⟨[session.entry sql], rules.delivery session sql, [], 0⟩

def close (session : Session) : Share := ⟨[], [], [session.number], 0⟩

instance : Append Share :=
  ⟨fun first second => ⟨first.entries ++ second.entries, first.committed ++ second.committed,
    first.closed ++ second.closed, first.time + second.time⟩⟩

end Share

namespace World

/-- Nobody has some sessions in circulation, and the background work commits nothing. -/
structure Secluded (rules : Rules) (hidden : List Nat) (w : World Server Session) : Prop where
  tame : Tame (rules.licence True).shut w
  sameRules : w.server.rules = rules
  absent : forall number, number ∈ hidden -> (w.circulation []).Absent number

/-- What shows of a world if some sessions are out of sight. -/
def outside (w : World Server Session) (hidden : List Nat) : World (Veiled hidden) Session :=
  w.image (Veiled.see hidden)

/-- From one world to another a share was added to the ledger of some sessions, and the rest is what
it is after that time. -/
structure Advances (rules : Rules) (hidden : List Nat) (share : Share)
    (w w' : World Server Session) : Prop where
  secluded : Secluded rules hidden w'
  now : w'.now = w.now + share.time
  outside : forall last, w'.now ≤ last ->
    (w'.outside hidden).upTo last = (w.outside hidden).upTo last
  log : forall number, number ∈ hidden -> w'.server.log number =
    w.server.log number ++ share.entries.filter (fun entry => entry.session = number)
  closings : forall number, number ∈ hidden ->
    w'.server.closings number = w.server.closings number + share.closed.count number
  committed : w'.server.ledger.committed = w.server.ledger.committed ++ share.committed

variable {rules : Rules} {hidden : List Nat} {w w' w'' : World Server Session}
  {session : Session} {first second : Share}

theorem Advances.refl (secluded : Secluded rules hidden w) :
    Advances rules hidden Share.none w w :=
  ⟨secluded, rfl, fun _ _ => rfl, fun _ _ => (List.append_nil _).symm, fun _ _ => rfl,
    (List.append_nil _).symm⟩

theorem Advances.trans (advances : Advances rules hidden first w w')
    (next : Advances rules hidden second w' w'') :
    Advances rules hidden (first ++ second) w w'' where
  secluded := next.secluded
  now := by
    rw [next.now, advances.now]
    exact Nat.add_assoc _ _ _
  outside := by
    intro last within
    rw [next.outside last within]
    apply advances.outside
    exact Nat.le_trans (next.now ▸ Nat.le_add_right _ _) within
  log := by
    intro number member
    rw [next.log number member, advances.log number member, List.append_assoc,
      ← List.filter_append]
    rfl
  closings := by
    intro number member
    rw [next.closings number member, advances.closings number member, Nat.add_assoc,
      ← List.count_append]
    rfl
  committed := by
    rw [next.committed, advances.committed]
    exact List.append_assoc _ _ _

/-- Time that goes by adds nothing of one's own. -/
theorem Advances.ofPassage (secluded : Secluded rules hidden w)
    (passed : Passage (rules.licence True).shut [] w [] w') {time : Nat}
    (now : w'.now = w.now + time)
    (outside : forall last, w'.now ≤ last ->
      (w'.outside hidden).upTo last = (w.outside hidden).upTo last) :
    Advances rules hidden (Share.wait time) w w' := by
  have conduct := passed.conduct secluded.tame
  rcases passed.hushed secluded.tame secluded.sameRules with ⟨sameRules, _, committed⟩
  refine ⟨⟨passed.tame secluded.tame, sameRules, ?_⟩, now, outside, ?_, ?_, ?_⟩
  · exact fun number member => (conduct.bystander (secluded.absent number member)).1
  · intro number member
    exact (conduct.bystander (secluded.absent number member)).2.1.trans (List.append_nil _).symm
  · exact fun number member => (conduct.bystander (secluded.absent number member)).2.2
  · rw [committed]
    exact (List.append_nil _).symm

theorem pause_passage (licence : Licence) (w : World Server Session) (time : Nat) :
    Passage licence [] w [] (w.pause time) := by
  rw [pause]
  split
  · exact .refl
  · exact (elapse_passage _ _).trans (moveTo_passage _)

theorem outside_pause (w : World Server Session) (hidden : List Nat) (time : Nat) :
    (w.pause time).outside hidden = (w.outside hidden).pause time := by
  rw [pause, pause]
  split
  · rfl
  · exact (image_advance (Veiled.seen hidden) w time).symm

theorem Advances.pause (secluded : Secluded rules hidden w) (time : Nat) :
    Advances rules hidden (Share.wait time) w (w.pause time) := by
  refine .ofPassage secluded (pause_passage _ w time) (w.pause_now time) ?_
  intro last within
  rw [pause_now] at within
  rw [outside_pause]
  exact upTo_pause (w.outside hidden) within

theorem Advances.settle (secluded : Secluded rules hidden w) :
    Advances rules hidden (Share.wait 0) w w.settle := by
  refine .ofPassage secluded settle_passage w.settle_now ?_
  intro last within
  rw [settle_now] at within
  have settled : w.settle.outside hidden = (w.outside hidden).settle :=
    (image_settle (Veiled.seen hidden) w).symm
  rw [settled]
  exact upTo_settle (w.outside hidden) within

/-- A statement on a session that is out of sight. -/
theorem Advances.say (secluded : Secluded rules hidden w) (member : session.number ∈ hidden)
    (sql : String) :
    Advances rules hidden (Share.say rules session sql) w (w.say sql session) where
  secluded := ⟨⟨secluded.tame.ordered, secluded.tame.spoken, secluded.tame.prompt⟩,
    secluded.sameRules, fun number other =>
      have absent := secluded.absent number other
      ⟨absent.opened, absent.absent⟩⟩
  now := rfl
  outside := by
    intro last within
    have same : (w.say sql session).outside hidden = w.outside hidden := by
      rw [World.outside, World.outside, image, image]
      simp only [World.say, Veiled.see_afterRun_hidden member]
    rw [same]
  log := by
    intro number other
    by_cases here : session.number = number
    · subst here
      exact (Server.afterRun_log_self w.server session sql).trans
        (by simp [Share.say, Session.entry])
    · exact (Server.afterRun_log_of_ne w.server sql here).trans
        (by simp [Share.say, Session.entry, here])
  closings := fun _ _ => rfl
  committed := by
    rw [← secluded.sameRules]
    rfl

theorem Advances.close (secluded : Secluded rules hidden w) (member : session.number ∈ hidden) :
    Advances rules hidden (Share.close session) w (w.close session) where
  secluded := ⟨⟨secluded.tame.ordered, secluded.tame.spoken, secluded.tame.prompt⟩,
    secluded.sameRules, fun number other =>
      have absent := secluded.absent number other
      ⟨absent.opened, absent.absent⟩⟩
  now := rfl
  outside := by
    intro last within
    have same : (w.close session).outside hidden = w.outside hidden := by
      have see := Veiled.see_close_hidden member w.server
      rw [World.outside, World.outside, image, image]
      simp only [World.close, Backend.close, see]
    rw [same]
  log := fun _ _ => (List.append_nil _).symm
  closings := by
    intro number other
    exact List.count_append
  committed := (List.append_nil _).symm

end World
end ScopedSql
