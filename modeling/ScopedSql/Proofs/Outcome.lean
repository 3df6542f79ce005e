namespace ScopedSql

/-!
# Outcomes of calls

A call ends in an error or in a value.  A chain of calls ends in a value exactly if
each call does, and two chains end alike if their first calls show the same and
the rest depends on nothing else.
-/

section Success

variable {ε α β : Type}

theorem bind_eq_ok {first : Except ε α} {next : α -> Except ε β} {value : β} :
    (first >>= next) = .ok value ↔ exists found, first = .ok found ∧ next found = .ok value := by
  cases first <;> simp [bind, Except.bind]

theorem bind_eq_error {first : Except ε α} {next : α -> Except ε β} {e : ε} :
    (first >>= next) = .error e ↔
      first = .error e ∨ exists found, first = .ok found ∧ next found = .error e := by
  cases first <;> simp [bind, Except.bind]

theorem pure_eq_ok {found value : α} : (pure found : Except ε α) = .ok value ↔ found = value := by
  simp [pure, Except.pure]

theorem map_eq_ok {result : Except ε α} {f : α -> β} {value : β} :
    result.map f = .ok value ↔ exists found, result = .ok found ∧ f found = value := by
  cases result <;> simp [Except.map]

end Success

/-! ## Calls that agree up to a view -/

section Views

variable {ε α β γ δ : Type} {view : α -> β} {first second : Except ε α}

/-- Two calls that show the same go on in the same way, if what follows depends on what they show. -/
theorem bind_eq_of_map_eq {f g : α -> Except ε γ} (same : first.map view = second.map view)
    (alike : forall x y, view x = view y -> f x = g y) : first.bind f = second.bind g := by
  cases first with
  | error e =>
      cases second with
      | error e' =>
          cases same
          rfl
      | ok y => cases same
  | ok x =>
      cases second with
      | error e' => cases same
      | ok y => exact alike x y (Except.ok.inj same)

theorem map_bind (first : Except ε α) (f : α -> Except ε γ) (shown : γ -> δ) :
    (first >>= f).map shown = first.bind (fun x => (f x).map shown) := by
  cases first <;> rfl

end Views

end ScopedSql
