import ScopedSql.Proofs.Desk.Sound

namespace ScopedSql
namespace Desk

open Scripted World

/-!
# Runs of requests

A run starts on a server on which nothing happened.  Between two requests the
background work that is due is done, and then nothing is left that opens a
session.  So the desk is sound after every run, and what was closed for good
during some run is found unchanged after every longer one.
-/

variable {origin : World Server Session} {rules : Rules} {plain : Prop}
  {desk : Desk Server Session} {history : History}

/-- No statement that callers bring begins or ends a transaction. -/
def SpeaksPlainly (requests : List Request) : Prop :=
  forall request, request ∈ requests -> forall sql, sql ∈ request.statements -> Plain sql

instance (requests : List Request) : Decidable (SpeaksPlainly requests) :=
  inferInstanceAs (Decidable (forall request, request ∈ requests ->
    forall sql, sql ∈ request.statements -> Plain sql))

namespace Sound

theorem settle (sound : Sound origin rules plain (rules.licence plain) desk history) :
    Sound origin rules plain (rules.licence plain).shut desk.settle history where
  books := sound.books.pass (settle_passage.conduct sound.tame)
  tame := settle_tame sound.tame
  names := sound.names
  named := sound.named
  pool := sound.pool
  actions := sound.actions

theorem perform (sound : Sound origin rules plain (rules.licence plain).shut desk history)
    (request : Request)
    (plainly : plain -> forall sql, sql ∈ request.statements -> Plain sql) :
    Sound origin rules plain (rules.licence plain).shut (desk.perform request).2
      (history ++ desk.events request) :=
  (sound.answer request plainly).settle

/-- Requests lead from a sound desk to a sound desk. -/
theorem run (sound : Sound origin rules plain (rules.licence plain).shut desk history)
    (requests : List Request) (plainly : plain -> SpeaksPlainly requests) :
    Sound origin rules plain (rules.licence plain).shut (desk.run requests)
      (history ++ desk.history requests) := by
  induction requests generalizing desk history with
  | nil =>
      rw [Desk.history, List.append_nil]
      exact sound
  | cons request rest inductionHypothesis =>
      have next := sound.perform request fun isPlain => plainly isPlain request List.mem_cons_self
      rw [Desk.history, ← List.append_assoc]
      exact inductionHypothesis next fun isPlain other member =>
        plainly isPlain other (List.mem_cons_of_mem _ member)

/-- The present is a past of what comes. -/
theorem rebase (sound : Sound origin rules plain (rules.licence plain).shut desk history) :
    Sound desk.world rules plain (rules.licence plain).shut desk history where
  books := { sound.books with lasting := fun _ _ spent => spent }
  tame := sound.tame
  names := sound.names
  named := sound.named
  pool := sound.pool
  actions := sound.actions

end Sound

theorem sound_ofRules (rules : Rules) (plain : Prop) :
    Sound (ofRules rules).world rules plain (rules.licence plain).shut (ofRules rules) [] where
  books :=
    { sameRules := rfl
      numbered := ⟨fun _ member => (nomatch member), fun _ _ => ⟨rfl, rfl⟩⟩
      distinct := List.nodup_nil
      chapters := fun _ => .silent rfl List.not_mem_nil
      durable := fun _ => rfl
      lasting := fun _ _ spent => spent }
  tame := ⟨List.Pairwise.nil, fun _ member => (nomatch member), fun _ member => nomatch member⟩
  names := List.nodup_nil
  named := fun _ _ found => nomatch found
  pool := fun _ present => nomatch present
  actions := fun _ present => nomatch present

theorem sound_run (rules : Rules) (plain : Prop) (requests : List Request)
    (plainly : plain -> SpeaksPlainly requests) :
    Sound ((ofRules rules).run requests).world rules plain (rules.licence plain).shut
      ((ofRules rules).run requests) ((ofRules rules).history requests) :=
  ((sound_ofRules rules plain).run requests plainly).rebase

/-- The desk after a longer run is sound, and remembers the end of the shorter one. -/
theorem sound_later (rules : Rules) (requests later : List Request)
    (plainly : plain -> SpeaksPlainly (requests ++ later)) :
    Sound ((ofRules rules).run requests).world rules plain (rules.licence plain).shut
      ((ofRules rules).run (requests ++ later)) ((ofRules rules).history (requests ++ later)) := by
  have early := sound_run rules plain requests fun isPlain request member =>
    plainly isPlain request (List.mem_append.mpr (Or.inl member))
  rw [run_append, history_append]
  exact early.run later fun isPlain request member =>
    plainly isPlain request (List.mem_append.mpr (Or.inr member))

end Desk
end ScopedSql
