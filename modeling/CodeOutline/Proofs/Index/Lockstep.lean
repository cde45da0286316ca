import CodeOutline.Proofs.Index.Orders

namespace CodeOutline

namespace Slots

variable {ν : Type}

/-- Which declaration is kept depends on the one kept before and on the files that have cells. -/
theorem kept_congr_cells {t s : Slots ν} {d : Declaration} {file other : Path}
    (hkey : t.key? d.name = s.key? d.name)
    (hcells : ∀ i, (t.cell d.name i).isSome ↔ (s.cell d.name i).isSome)
    (hident : ident file = ident other) : kept t d file = kept s d other := by
  cases hstored : t.key? d.name with
  | none =>
    rw [kept_of_key?_eq_none hstored, kept_of_key?_eq_none (hkey ▸ hstored)]
  | some stored =>
    have hstored' : s.key? d.name = some stored := hkey ▸ hstored
    by_cases hstays : stored.kind = d.kind ∨
        ∃ i, (t.cell d.name i).isSome ∧ compare (ident file) i = .gt
    · rw [kept_eq_stored hstored hstays]
      simp only [hcells, hident] at hstays
      rw [kept_eq_stored hstored' hstays]
    · rw [not_or] at hstays
      obtain ⟨hkind, hnone⟩ := hstays
      have hfirst : ∀ i, (t.cell d.name i).isSome → compare (ident file) i ≠ .gt :=
        fun i hcell hgt => hnone ⟨i, hcell, hgt⟩
      rw [kept_eq_new hstored hkind hfirst]
      simp only [hcells, hident] at hfirst
      rw [kept_eq_new hstored' hkind hfirst]

end Slots

namespace Index

/-- Two indices agree, and they show the same declaration of every name, its kind and its package
    included. -/
structure AgreesFully (a b : Index) : Prop extends Agrees a b where
  lookup : ∀ name, a.lookup? name = b.lookup? name
  units : a.units = b.units

/-- Two indices stand for the same outlines and keep the same declarations. -/
structure InStep (a b : Index) (contents : Contents) : Prop where
  left : a.Represents contents
  right : b.Represents contents
  lookup : ∀ name, a.lookup? name = b.lookup? name

variable {a b : Index} {contents : Contents}

theorem InStep.agreesFully (hstep : InStep a b contents) : a.AgreesFully b where
  toAgrees := hstep.left.agrees hstep.right
  lookup := hstep.lookup
  units := by
    refine Table.eq_of_ascending ident a.signatures.keys_ascending b.signatures.keys_ascending ?_
    intro k
    show k ∈ a.units ↔ k ∈ b.units
    rw [mem_units_iff, mem_units_iff, hstep.lookup]

/-- Where what is kept was kept before, two indices of the same outlines keep the same. -/
theorem lookup?_eq_of_before {before : Index} {name : String} (ha : a.Represents contents)
    (hb : b.Represents contents)
    (hbeforeA : ∀ k, a.lookup? name = some k → before.lookup? name = some k)
    (hbeforeB : ∀ k, b.lookup? name = some k → before.lookup? name = some k) :
    a.lookup? name = b.lookup? name := by
  have hknown := (ha.isSome_lookup?_iff name).trans (hb.isSome_lookup?_iff name).symm
  cases hlookupA : a.lookup? name with
  | none =>
    cases hlookupB : b.lookup? name with
    | none => rfl
    | some k => simp [hlookupA, hlookupB] at hknown
  | some k =>
    cases hlookupB : b.lookup? name with
    | none => simp [hlookupA, hlookupB] at hknown
    | some l => rw [← hbeforeA k hlookupA, ← hbeforeB l hlookupB]

/-- The same change keeps two indices in step, whichever spelling each is told. -/
theorem InStep.change (hstep : InStep a b contents) {c e : Change} (hc : c.WellFormed)
    (he : e.WellFormed) (hfile : ident c.file = ident e.file) (houtline : c.outline? = e.outline?) :
    InStep (a.change c) (b.change e) (Function.update contents (ident c.file) c.outline?) := by
  have hleft := hstep.left.change hc
  have hright := hstep.right.change he
  rw [← hfile, ← houtline] at hright
  refine ⟨hleft, hright, ?_⟩
  intro name
  by_cases hdeclared : ∃ o, c.outline? = some o ∧ o.Declares name
  · obtain ⟨o, ho, hdeclares⟩ := hdeclared
    obtain ⟨d, hd, rfl⟩ := List.mem_map.mp hdeclares
    rw [lookup?_change_of_mem hc ho hd, lookup?_change_of_mem he (houtline ▸ ho) hd]
    refine congrArg some (Slots.kept_congr_cells (hstep.lookup d.name) ?_ hfile)
    intro i
    rw [hstep.left.isSome_cell_iff, hstep.right.isSome_cell_iff]
  · have hundeclared : ∀ o, c.outline? = some o → ¬ o.Declares name :=
      fun o ho hdeclares => hdeclared ⟨o, ho, hdeclares⟩
    apply lookup?_eq_of_before hleft hright
    · intro k hlookup
      exact lookup?_of_change hundeclared hlookup
    · intro k hlookup
      rw [hstep.lookup]
      exact lookup?_of_change (houtline ▸ hundeclared) hlookup

end Index

end CodeOutline
