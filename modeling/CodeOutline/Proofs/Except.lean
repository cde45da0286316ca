namespace CodeOutline

variable {ε α β : Type}

theorem exists_of_bind_eq_ok {x : Except ε α} {f : α → Except ε β} {b : β}
    (hok : x >>= f = .ok b) : ∃ a, x = .ok a ∧ f a = .ok b := by
  cases x with
  | error e => cases hok
  | ok a => exact ⟨a, rfl, hok⟩

theorem exists_of_map_eq_ok {x : Except ε α} {f : α → β} {b : β} (hok : x.map f = .ok b) :
    ∃ a, x = .ok a ∧ f a = b := by
  cases x with
  | error e => cases hok
  | ok a =>
    cases hok
    exact ⟨a, rfl, rfl⟩

theorem eq_ok_of_mapError_eq_ok {δ : Type} {x : Except ε α} {f : ε → δ} {a : α}
    (hok : x.mapError f = .ok a) : x = .ok a := by
  cases x with
  | error e => cases hok
  | ok b =>
    cases hok
    rfl

theorem eq_ok_of_toOption_eq_some {x : Except ε α} {a : α} (hsome : x.toOption = some a) :
    x = .ok a := by
  cases x with
  | error e => cases hsome
  | ok b =>
    cases hsome
    rfl

/-- What every step keeps holds at the end. -/
theorem foldlM_induction {P : α → Prop} {step : α → β → Except ε α}
    (hstep : ∀ a b next, P a → step a b = .ok next → P next) {bs : List β} {start last : α}
    (hstart : P start) (hrun : bs.foldlM step start = .ok last) : P last := by
  induction bs generalizing start with
  | nil =>
    cases hrun
    exact hstart
  | cons b bs ih =>
    rw [List.foldlM_cons] at hrun
    obtain ⟨next, hnext, hrest⟩ := exists_of_bind_eq_ok hrun
    exact ih (hstep start b next hstart hnext) hrest

end CodeOutline
