/-!
# Checked values

A computation that fails for the first of several faults, and otherwise gives a value that can be told
without it, is `checked fault value`. Checked values compose: the faults of two steps are tried one after
the other, and the faults of a traversal in the order of the list. So what a long computation refuses and
what it gives can be said apart.
-/

namespace ActionForge

variable {ε α β : Type}

/-- Fails for a fault, if there is one, and gives the value otherwise. -/
def checked (fault : Option ε) (value : α) : Except ε α :=
  match fault with
  | some e => .error e
  | none => .ok value

@[simp]
theorem checked_none (value : α) : checked (none : Option ε) value = .ok value := rfl

@[simp]
theorem checked_some (e : ε) (value : α) : checked (some e) value = .error e := rfl

/-- A checked value is given when there is no fault. -/
theorem checked_eq_ok_iff {fault : Option ε} {value result : α} :
    checked fault value = .ok result ↔ fault = none ∧ value = result := by
  cases fault <;> simp

/-- The failure of a checked value is its fault. -/
theorem checked_eq_error_iff {fault : Option ε} {value : α} {e : ε} :
    checked fault value = .error e ↔ fault = some e := by
  cases fault <;> simp

/-- A result that was mapped comes from one before. -/
theorem exists_of_map_eq_ok {f : α → β} {outcome : Except ε α} {result : β}
    (h : outcome.map f = .ok result) : ∃ value, outcome = .ok value ∧ f value = result := by
  cases outcome with
  | error e => cases h
  | ok value => exact ⟨value, rfl, Except.ok.inj h⟩

/-- Two steps succeed when both do. -/
theorem bind_eq_ok_iff {first : Except ε α} {next : α → Except ε β} {result : β} :
    (first >>= next) = .ok result ↔ ∃ value, first = .ok value ∧ next value = .ok result := by
  cases first with
  | error e => simp [bind, Except.bind]
  | ok value => simp [bind, Except.bind]

/-! ## Composition -/

/-- The faults of the first step come before those of the second. -/
theorem checked_bind_eq {fault more : Option ε} {value : α} {next : α → Except ε β} {result : β}
    (h : next value = checked more result) :
    (checked fault value >>= next) = checked (fault.or more) result := by
  cases fault with
  | some e => rfl
  | none => exact h

/-- A last step that cannot fail. -/
theorem checked_bind_pure (fault : Option ε) (value : α) (f : α → β) :
    (checked fault value >>= fun a => pure (f a)) = checked fault (f value) := by
  cases fault <;> rfl

/-- A check that has been passed once is passed again. -/
theorem or_or_self_left (a b : Option ε) : a.or (a.or b) = a.or b := by
  cases a <;> rfl

/-- A value may be changed after it is checked or before. -/
theorem map_checked (f : α → β) (fault : Option ε) (value : α) :
    f <$> checked fault value = checked fault (f value) := by
  cases fault <;> rfl

/-- A traversal fails for the first fault on its way. -/
theorem mapM_checked {f : α → Except ε β} {fault : α → Option ε} {value : α → β}
    (h : ∀ a, f a = checked (fault a) (value a)) (items : List α) :
    items.mapM f = checked (items.findSome? fault) (items.map value) := by
  induction items with
  | nil => rfl
  | cons a rest ih =>
    rw [List.mapM_cons, h, ih]
    -- The head is tried first, so its fault hides those of the rest.
    cases ha : fault a with
    | some e =>
      rw [List.findSome?_cons, ha]
      rfl
    | none =>
      rw [List.findSome?_cons, ha]
      cases rest.findSome? fault <;> rfl

/-- A traversal of encoded items gives the items back, unless one of them has a fault. -/
theorem mapM_map_checked {read : β → Except ε α} {encode : α → β} {fault : α → Option ε}
    (h : ∀ a, read (encode a) = checked (fault a) a) (items : List α) :
    (items.map encode).mapM read = checked (items.findSome? fault) items := by
  have hread : ∀ a, (read ∘ encode) a = checked (fault a) (id a) := h
  rw [List.mapM_map, mapM_checked hread, List.map_id]

/-- A traversal of encoded items in which nothing fails. -/
theorem mapM_map_ok {γ : Type} {read : β → Except ε γ} {encode : α → β} {value : α → γ}
    (h : ∀ a, read (encode a) = .ok (value a)) (items : List α) :
    (items.map encode).mapM read = .ok (items.map value) := by
  induction items with
  | nil => rfl
  | cons a rest ih =>
    rw [List.map_cons, List.mapM_cons, h, ih]
    rfl

end ActionForge
