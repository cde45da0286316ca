import CodeOutline.Table
import Mathlib.Data.List.Sort

namespace CodeOutline.Table

variable {κ ι ν μ : Type} [Identity κ ι] [Ord ι]

theorem contains_eq_isSome_find? (t : Table κ ν) (i : ι) :
    t.contains i = (t.find? i).isSome := by
  simp [contains, find?]

theorem keys_ascending (t : Table κ ν) :
    t.keys.Pairwise fun a b => compare (ident a) (ident b) = .lt :=
  List.pairwise_map.mpr t.ascending

theorem idents_ascending (t : Table κ ν) :
    (t.keys.map ident).Pairwise fun i j => compare i j = .lt :=
  List.pairwise_map.mpr t.keys_ascending

theorem find?_empty (i : ι) : (∅ : Table κ ν).find? i = none := rfl

/-- Storing leaves the entries of other identities where they were. -/
theorem mem_settle_other {fresh e : κ × ν} {revise : κ × ν → κ × ν} {es : List (κ × ν)}
    (hne : compare (ident fresh.1) (ident e.1) ≠ .eq) (hmem : e ∈ es) :
    e ∈ settle fresh revise es := by
  induction es with
  | nil => cases hmem
  | cons a rest ih =>
    rw [settle]
    split
    · exact List.mem_cons_of_mem _ hmem
    · rename_i heq
      rcases List.mem_cons.mp hmem with rfl | hmem
      · exact absurd heq hne
      · exact List.mem_cons_of_mem _ hmem
    · rcases List.mem_cons.mp hmem with rfl | hmem
      · exact List.mem_cons_self
      · exact List.mem_cons_of_mem _ (ih hmem)

section Lawful

variable [Std.LawfulEqOrd ι]

/-- A look-up finds an entry exactly when the entry is there under that identity: the entries
    ascend, so no other entry of the identity can stand before it. -/
theorem stored?_eq_some_iff {t : Table κ ν} {i : ι} {e : κ × ν} :
    t.stored? i = some e ↔ e ∈ t.entries ∧ ident e.1 = i := by
  constructor
  · intro hfound
    have hident := List.find?_some hfound
    exact ⟨List.mem_of_find?_eq_some hfound, by simpa using hident⟩
  · rintro ⟨hmem, rfl⟩
    obtain ⟨before, after, hsplit⟩ := List.append_of_mem hmem
    have hasc := t.ascending
    rw [hsplit] at hasc
    obtain ⟨_, _, hbefore⟩ := List.pairwise_append.mp hasc
    rw [stored?, List.find?_eq_some_iff_append]
    refine ⟨by simp, before, after, hsplit, ?_⟩
    intro a ha
    have hlt := hbefore a ha e List.mem_cons_self
    simp [hlt]

theorem find?_eq_some_iff {t : Table κ ν} {i : ι} {v : ν} :
    t.find? i = some v ↔ ∃ k, (k, v) ∈ t.entries ∧ ident k = i := by
  simp only [find?, Option.map_eq_some_iff, stored?_eq_some_iff]
  constructor
  · rintro ⟨⟨k, w⟩, ⟨hmem, hident⟩, rfl⟩
    exact ⟨k, hmem, hident⟩
  · rintro ⟨k, hmem, hident⟩
    exact ⟨(k, v), ⟨hmem, hident⟩, rfl⟩

/-- Each stored entry is what a look-up of its own key finds. -/
theorem find?_of_mem {t : Table κ ν} {e : κ × ν} (hmem : e ∈ t.entries) :
    t.find? (ident e.1) = some e.2 :=
  find?_eq_some_iff.mpr ⟨e.1, hmem, rfl⟩

/-- The identities of the stored keys are those that a look-up knows. -/
theorem mem_idents_iff {t : Table κ ν} {i : ι} :
    i ∈ t.keys.map ident ↔ (t.find? i).isSome := by
  simp only [Option.isSome_iff_exists, find?_eq_some_iff, keys, List.map_map, List.mem_map]
  constructor
  · rintro ⟨e, hmem, rfl⟩
    exact ⟨e.2, e.1, hmem, rfl⟩
  · rintro ⟨v, k, hmem, rfl⟩
    exact ⟨(k, v), hmem, rfl⟩

theorem entries_eq_nil_iff {t : Table κ ν} : t.entries = [] ↔ ∀ i, t.find? i = none := by
  constructor
  · intro hnil i
    simp [find?, stored?, hnil]
  · intro hnone
    cases hentries : t.entries with
    | nil => rfl
    | cons e rest =>
      have hmem : e ∈ t.entries := by rw [hentries]; exact List.mem_cons_self
      have hfound := find?_of_mem hmem
      rw [hnone] at hfound
      cases hfound

theorem stored?_erase [DecidableEq ι] (t : Table κ ν) (i j : ι) :
    (t.erase i).stored? j = if i = j then none else t.stored? j := by
  apply Option.ext
  intro e
  split
  · rename_i heq
    subst heq
    simp only [stored?_eq_some_iff, erase, List.mem_filter]
    constructor
    · rintro ⟨⟨_, hkept⟩, hident⟩
      simp [hident] at hkept
    · rintro ⟨⟩
  · rename_i hne
    simp only [stored?_eq_some_iff, erase, List.mem_filter]
    constructor
    · rintro ⟨⟨hmem, _⟩, hident⟩
      exact ⟨hmem, hident⟩
    · rintro ⟨hmem, hident⟩
      refine ⟨⟨hmem, ?_⟩, hident⟩
      simpa [hident] using Ne.symm hne

theorem find?_erase [DecidableEq ι] (t : Table κ ν) (i j : ι) :
    (t.erase i).find? j = if i = j then none else t.find? j := by
  rw [find?, stored?_erase]
  split
  · rfl
  · rfl

theorem find?_map (t : Table κ ν) (f : ν → μ) (i : ι) :
    (t.map fun _ v => f v).find? i = (t.find? i).map f := by
  apply Option.ext
  intro w
  simp only [find?_eq_some_iff, Option.map_eq_some_iff, map, List.mem_map]
  constructor
  · rintro ⟨k, ⟨e, hmem, heq⟩, hident⟩
    cases heq
    exact ⟨e.2, ⟨e.1, hmem, hident⟩, rfl⟩
  · rintro ⟨v, ⟨k, hmem, hident⟩, rfl⟩
    exact ⟨k, ⟨(k, v), hmem, rfl⟩, hident⟩

section Store

variable [Std.TransOrd ι]

/-- What stands at the place of a key once something has been stored there. -/
theorem mem_settle_fresh (t : Table κ ν) (fresh : κ × ν) (revise : κ × ν → κ × ν) :
    ((t.stored? (ident fresh.1)).elim fresh revise) ∈ settle fresh revise t.entries := by
  obtain ⟨es, hasc⟩ := t
  simp only [stored?]
  induction es with
  | nil => simp [settle]
  | cons a rest ih =>
    obtain ⟨hhead, htail⟩ := List.pairwise_cons.mp hasc
    rw [settle]
    split
    · rename_i hlt
      -- every entry lies beyond the fresh key, so the look-up finds none
      have hnone : (a :: rest).find? (fun e => compare (ident e.1) (ident fresh.1) == .eq) = none := by
        rw [List.find?_eq_none]
        intro b hb heq
        have hident : ident b.1 = ident fresh.1 := by simpa using heq
        rcases List.mem_cons.mp hb with rfl | hb
        · simp [hident] at hlt
        · have hbeyond := Std.TransCmp.lt_trans hlt (hhead b hb)
          simp [hident] at hbeyond
      simp [hnone]
    · rename_i heq
      have hident : ident fresh.1 = ident a.1 := by simpa using heq
      simp [hident]
    · rename_i hgt
      have hne : ¬ ident a.1 = ident fresh.1 := by
        intro hident
        simp [hident] at hgt
      rw [List.find?_cons_of_neg (by simpa using hne)]
      exact List.mem_cons_of_mem _ (ih htail)

/-- A look-up after storing, by the one rule that `insert`, `put` and `insertNew` share. -/
theorem stored?_store [DecidableEq ι] (t : Table κ ν) {fresh : κ × ν} {revise : κ × ν → κ × ν}
    (hkeeps : KeepsPlace fresh revise) (i : ι) :
    (t.store fresh revise hkeeps).stored? i =
      if ident fresh.1 = i then some ((t.stored? i).elim fresh revise) else t.stored? i := by
  split
  · rename_i heq
    subst heq
    refine stored?_eq_some_iff.mpr ⟨mem_settle_fresh t fresh revise, ?_⟩
    cases hfound : t.stored? (ident fresh.1) with
    | none => rfl
    | some e =>
      have hident := (stored?_eq_some_iff.mp hfound).2
      have hplace := hkeeps e (by simp [hident])
      simpa [hident] using hplace
  · rename_i hne
    apply Option.ext
    intro e
    simp only [stored?_eq_some_iff, store]
    constructor
    · rintro ⟨hmem, hident⟩
      rcases mem_settle hmem with rfl | hold | ⟨a, _, heq, rfl⟩
      · exact absurd hident hne
      · exact ⟨hold, hident⟩
      · have hplace : ident (revise a).1 = ident a.1 := by simpa using hkeeps a heq
        have hfresh : ident fresh.1 = ident a.1 := by simpa using heq
        exact absurd (hfresh.trans (hplace.symm.trans hident)) hne
    · rintro ⟨hmem, hident⟩
      refine ⟨mem_settle_other ?_ hmem, hident⟩
      simpa [hident] using hne

theorem find?_insert [DecidableEq ι] (t : Table κ ν) (k : κ) (v : ν) (i : ι) :
    (t.insert k v).find? i = if ident k = i then some v else t.find? i := by
  rw [find?, find?, insert, stored?_store]
  split
  · cases t.stored? i <;> rfl
  · rfl

theorem find?_put [DecidableEq ι] (t : Table κ ν) (k : κ) (v : ν) (i : ι) :
    (t.put k v).find? i = if ident k = i then some v else t.find? i := by
  rw [find?, find?, put, stored?_store]
  split
  · cases t.stored? i <;> rfl
  · rfl

/-- Inserting keeps the key that is stored already. -/
theorem key?_insert [DecidableEq ι] (t : Table κ ν) (k : κ) (v : ν) (i : ι) :
    (t.insert k v).key? i = if ident k = i then some ((t.key? i).getD k) else t.key? i := by
  rw [key?, key?, insert, stored?_store]
  split
  · cases t.stored? i <;> rfl
  · rfl

theorem key?_put [DecidableEq ι] (t : Table κ ν) (k : κ) (v : ν) (i : ι) :
    (t.put k v).key? i = if ident k = i then some k else t.key? i := by
  rw [key?, key?, put, stored?_store]
  split
  · cases t.stored? i <;> rfl
  · rfl

theorem find?_insertNew [DecidableEq ι] (t : Table κ ν) (k : κ) (v : ν) (i : ι) :
    (t.insertNew k v).find? i =
      if ident k = i then some ((t.find? i).getD v) else t.find? i := by
  rw [find?, find?, insertNew, stored?_store]
  split
  · cases t.stored? i <;> rfl
  · rfl

theorem key?_insertNew [DecidableEq ι] (t : Table κ ν) (k : κ) (v : ν) (i : ι) :
    (t.insertNew k v).key? i = if ident k = i then some ((t.key? i).getD k) else t.key? i := by
  rw [key?, key?, insertNew, stored?_store]
  split
  · cases t.stored? i <;> rfl
  · rfl

end Store

end Lawful

end CodeOutline.Table
