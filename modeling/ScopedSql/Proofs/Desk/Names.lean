import ScopedSql.Proofs.Desk.Standing

namespace ScopedSql
namespace Desk

open Scripted

/-!
# Transactions by name

A desk keeps at most one transaction under a name, and a name stands for the
transaction that last began under it.
-/

variable {desk : Desk Server Session}
  {history events : History} {name : String} {tx tx' : Transaction Session}

/-- The sessions of the transactions that a desk keeps. -/
def sessions (desk : Desk Server Session) : List Session :=
  desk.transactions.flatMap (fun kept => kept.2.sessions)

/-- A name stands for the transaction that last began under it, which is live on its session or has
ended as the history tells. -/
def Named (history : History) (name : String) (tx : Transaction Session) : Prop :=
  exists number, history.lastBegun? name = some number ∧
    Event.began number (some name) tx.scope ∈ history ∧
      match tx.phase with
      | .live session => session.number = number
      | .ended ending => Event.ceased number ending.fate ∈ history

/-! ## Names -/

/-- Events that begin nothing under a name leave what it stands for, if its transaction is the one
that went on. -/
theorem Named.continues (named : Named history name tx) (continues : tx.Continues tx' events)
    (none : events.filterMap (Event.begunAs? name) = []) : Named (history ++ events) name tx' := by
  rcases named with ⟨number, last, began, phase⟩
  refine ⟨number, (History.lastBegun?_append none).trans last, ?_, ?_⟩
  · rw [continues.scope]
    exact List.mem_append.mpr (Or.inl began)
  · cases phase' : tx'.phase with
    | live session' =>
        rcases continues.live session' phase' with ⟨session, live, same⟩
        rw [live] at phase
        exact same.trans phase
    | ended ending =>
        rcases continues.ended ending phase' with ended | ⟨session, live, told⟩
        · rw [ended] at phase
          exact List.mem_append.mpr (Or.inl phase)
        · rw [live] at phase
          exact List.mem_append.mpr (Or.inr (phase ▸ told))

/-- The name of a transaction that begins stands for it. -/
theorem Named.begun (scope : Scope) (session : Session)
    (none : events.filterMap (Event.begunAs? name) = []) :
    Named (history ++ .began session.number (some name) scope :: events) name
      ⟨scope, .live session⟩ := by
  refine ⟨session.number, ?_, ?_, rfl⟩
  · have begun : Event.begunAs? name (.began session.number (some name) scope) =
        some session.number := if_pos rfl
    rw [History.lastBegun?, List.filterMap_append, List.filterMap_cons_some begun, none,
      List.getLast?_concat]
  · exact List.mem_append.mpr (Or.inr List.mem_cons_self)

/-! ## Keeping transactions -/

section Keeping
variable {σ κ : Type} {desk : Desk σ κ} {tx : Transaction κ}

/-- What is kept under a name, apart from the rest. -/
theorem perm_of_lookup {β : Type} {kept : List (String × β)} {value : β}
    (names : (kept.map (fun kept => kept.1)).Nodup) (found : kept.lookup name = some value) :
    kept.Perm ((name, value) :: kept.filter (fun kept => kept.1 ≠ name)) := by
  induction kept with
  | nil => cases found
  | cons first rest inductionHypothesis =>
      rcases first with ⟨other, held⟩
      rw [List.map_cons, List.nodup_cons] at names
      by_cases same : other = name
      · subst same
        rw [List.lookup_cons_self, Option.some_inj] at found
        subst found
        rw [List.filter_cons_of_neg (by simp)]
        have all : rest.filter (fun kept => kept.1 ≠ other) = rest := by
          apply List.filter_eq_self.mpr
          intro kept member
          apply decide_eq_true
          intro equal
          exact names.1 (List.mem_map.mpr ⟨kept, member, equal⟩)
        rw [all]
      · have differs : (name == other) = false := beq_false_of_ne (Ne.symm same)
        rw [List.lookup_cons, differs] at found
        rw [List.filter_cons_of_pos (by simpa using same)]
        exact ((inductionHypothesis names.2 found).cons _).trans (List.Perm.swap _ _ _)

theorem sessions_perm {desk : Desk Server Session} {tx : Transaction Session}
    (names : (desk.transactions.map (fun kept => kept.1)).Nodup)
    (found : desk.transaction? name = some tx) :
    desk.sessions.Perm (tx.sessions ++ (desk.withoutTransaction name).sessions) :=
  (perm_of_lookup names found).flatMap_right _

theorem withoutTransaction_of_none (none : desk.transaction? name = none) :
    desk.withoutTransaction name = desk := by
  have all : desk.transactions.filter (fun kept => kept.1 ≠ name) = desk.transactions := by
    apply List.filter_eq_self.mpr
    intro kept member
    apply decide_eq_true
    intro equal
    have missing := List.lookup_eq_none_iff.mp none kept member
    rw [equal, bne_self_eq_false] at missing
    cases missing
  rw [withoutTransaction, all]

theorem names_withoutTransaction (names : (desk.transactions.map (fun kept => kept.1)).Nodup)
    (name : String) :
    ((desk.withoutTransaction name).transactions.map (fun kept => kept.1)).Nodup :=
  names.sublist (List.filter_sublist.map _)

theorem names_withTransaction (names : (desk.transactions.map (fun kept => kept.1)).Nodup)
    (name : String) (tx : Transaction κ) :
    ((desk.withTransaction name tx).transactions.map (fun kept => kept.1)).Nodup := by
  apply List.nodup_cons.mpr
  refine ⟨?_, names_withoutTransaction names name⟩
  intro member
  rcases List.mem_map.mp member with ⟨kept, member, equal⟩
  exact of_decide_eq_true (List.mem_filter.mp member).2 equal

/-- Other names stand for what they stood for. -/
theorem lookup_filter_of_ne {β : Type} {kept : List (String × β)} {other : String}
    (differs : other ≠ name) :
    (kept.filter (fun kept => kept.1 ≠ name)).lookup other = kept.lookup other := by
  induction kept with
  | nil => rfl
  | cons first rest inductionHypothesis =>
      rcases first with ⟨key, value⟩
      by_cases same : key = name
      · have skipped : (other == key) = false := beq_false_of_ne (same ▸ differs)
        rw [List.filter_cons_of_neg (by simpa using same), List.lookup_cons, skipped]
        exact inductionHypothesis
      · rw [List.filter_cons_of_pos (by simpa using same), List.lookup_cons, List.lookup_cons,
          inductionHypothesis]

theorem transaction?_withoutTransaction {other : String}
    (found : (desk.withoutTransaction name).transaction? other = some tx) :
    other ≠ name ∧ desk.transaction? other = some tx := by
  have differs : other ≠ name := by
    rintro rfl
    have missing : (desk.withoutTransaction other).transaction? other = none := by
      apply List.lookup_eq_none_iff.mpr
      intro kept member
      apply bne_iff_ne.mpr
      exact Ne.symm (of_decide_eq_true (List.mem_filter.mp member).2)
    rw [missing] at found
    cases found
  exact ⟨differs, (lookup_filter_of_ne differs).symm.trans found⟩

theorem transaction?_withTransaction_self (name : String) (tx : Transaction κ) :
    (desk.withTransaction name tx).transaction? name = some tx :=
  List.lookup_cons_self

theorem transaction?_withTransaction_of_ne {other : String} (tx : Transaction κ)
    (differs : other ≠ name) :
    (desk.withTransaction name tx).transaction? other = desk.transaction? other := by
  have skipped : (other == name) = false := beq_false_of_ne differs
  rw [transaction?, withTransaction, List.lookup_cons, skipped]
  exact lookup_filter_of_ne differs

theorem transaction?_withTransaction {other : String} {new : Transaction κ}
    (found : (desk.withTransaction name new).transaction? other = some tx) :
    (other = name ∧ tx = new) ∨ (other ≠ name ∧ desk.transaction? other = some tx) := by
  by_cases same : other = name
  · subst same
    rw [transaction?_withTransaction_self, Option.some_inj] at found
    exact Or.inl ⟨rfl, found.symm⟩
  · rw [transaction?_withTransaction_of_ne new same] at found
    exact Or.inr ⟨same, found⟩

end Keeping
end Desk
end ScopedSql
