/-!
# Steps that may end in a fault

Running such steps by `simp`, and what a result tells about them.
-/

namespace StudioMigration

variable {ε α β : Type} {first : Except ε α} {next : α → Except ε β}

@[simp] theorem ok_bind (value : α) (next : α → Except ε β) : (Except.ok value >>= next) = next value := rfl

@[simp] theorem error_bind (fault : ε) (next : α → Except ε β) : (Except.error fault >>= next) = .error fault := rfl

@[simp] theorem pure_eq_ok (value : α) : (pure value : Except ε α) = .ok value := rfl

@[simp] theorem throw_eq_error (fault : ε) : (throw fault : Except ε α) = .error fault := rfl

/-- Two steps have a result if the first has one and the second has one for it. -/
theorem bind_eq_ok_iff {result : β} : first >>= next = .ok result ↔ ∃ value, first = .ok value ∧ next value = .ok result := by
  cases first <;> simp

end StudioMigration
