import CodeOutline.Proofs.Table.Lookup

namespace CodeOutline.Table

variable {κ ι ν : Type} [Identity κ ι] [Ord ι] [Std.LawfulEqOrd ι]

omit [Identity κ ι] in
theorem eq_of_compare_ne_gt [Std.OrientedOrd ι] {i j : ι} (hij : compare i j ≠ .gt)
    (hji : compare j i ≠ .gt) : i = j := by
  cases hcompare : compare i j with
  | lt => exact absurd (Std.OrientedCmp.gt_of_lt hcompare) hji
  | eq => exact Std.LawfulEqOrd.eq_of_compare hcompare
  | gt => exact absurd hcompare hij

/-- Lists that ascend hold their members in one order only. -/
theorem eq_of_ascending {α : Type} [Std.OrientedOrd ι] (key : α → ι) {xs ys : List α}
    (hxs : xs.Pairwise fun a b => compare (key a) (key b) = .lt)
    (hys : ys.Pairwise fun a b => compare (key a) (key b) = .lt)
    (hmem : ∀ a, a ∈ xs ↔ a ∈ ys) : xs = ys := by
  have hnodup : ∀ {zs : List α}, (zs.Pairwise fun a b => compare (key a) (key b) = .lt) →
      zs.Nodup := by
    intro zs hzs
    refine hzs.imp ?_
    rintro a b hlt rfl
    simp at hlt
  have hperm := (List.perm_ext_iff_of_nodup (hnodup hxs) (hnodup hys)).mpr hmem
  refine hperm.eq_of_pairwise ?_ hxs hys
  intro a b _ _ hab hba
  exact absurd hba (Std.OrientedCmp.not_lt_of_lt hab)

/-- Entries are told apart by their identities. -/
theorem entries_nodup (t : Table κ ν) : t.entries.Nodup := by
  refine t.ascending.imp ?_
  rintro a b hlt rfl
  simp at hlt

theorem mem_entries_iff {t : Table κ ν} {e : κ × ν} :
    e ∈ t.entries ↔ t.stored? (ident e.1) = some e := by
  simp [stored?_eq_some_iff]

theorem mem_keys_iff {t : Table κ ν} {k : κ} : k ∈ t.keys ↔ t.key? (ident k) = some k := by
  constructor
  · intro hk
    obtain ⟨e, he, rfl⟩ := List.mem_map.mp hk
    exact congrArg (Option.map Prod.fst) (mem_entries_iff.mp he)
  · intro hkey
    obtain ⟨e, hstored, rfl⟩ := Option.map_eq_some_iff.mp hkey
    exact List.mem_map_of_mem (stored?_eq_some_iff.mp hstored).1

theorem least?_eq_none_iff {t : Table κ ν} : t.least? = none ↔ ∀ i, t.find? i = none := by
  rw [least?, List.head?_eq_none_iff, entries_eq_nil_iff]

/-- An entry and all the others. -/
theorem entries_perm_erase {t : Table κ ν} {i : ι} {e : κ × ν} (hstored : t.stored? i = some e) :
    t.entries.Perm (e :: (t.erase i).entries) := by
  obtain ⟨hmem, hident⟩ := stored?_eq_some_iff.mp hstored
  have hout : e ∉ (t.erase i).entries := by
    simp [erase, hident]
  refine (List.perm_ext_iff_of_nodup t.entries_nodup
    (List.nodup_cons.mpr ⟨hout, (t.erase i).entries_nodup⟩)).mpr ?_
  intro a
  simp only [List.mem_cons, erase, List.mem_filter]
  constructor
  · intro ha
    by_cases hsame : ident a.1 = i
    · have hfound := stored?_eq_some_iff.mpr ⟨ha, hsame⟩
      rw [hstored] at hfound
      exact .inl (Option.some.inj hfound).symm
    · exact .inr ⟨ha, by simpa using hsame⟩
  · rintro (rfl | ⟨ha, _⟩)
    · exact hmem
    · exact ha

variable [Std.TransOrd ι]

/-- The least entry is the one that no other entry precedes. -/
theorem least?_eq_some_iff {t : Table κ ν} {e : κ × ν} :
    t.least? = some e ↔
      e ∈ t.entries ∧ ∀ a ∈ t.entries, compare (ident e.1) (ident a.1) ≠ .gt := by
  have hasc := t.ascending
  unfold least?
  cases hentries : t.entries with
  | nil => simp
  | cons first rest =>
    rw [hentries] at hasc
    obtain ⟨hhead, _⟩ := List.pairwise_cons.mp hasc
    simp only [List.head?_cons, Option.some.injEq]
    constructor
    · rintro rfl
      refine ⟨List.mem_cons_self, ?_⟩
      intro a ha
      rcases List.mem_cons.mp ha with rfl | ha
      · simp
      · simp [hhead a ha]
    · rintro ⟨hmem, hleast⟩
      rcases List.mem_cons.mp hmem with rfl | hmem
      · rfl
      · have hgt := Std.OrientedCmp.gt_of_lt (hhead e hmem)
        exact absurd hgt (hleast first List.mem_cons_self)

/-- The least entry in terms of look-ups: it is stored, and nothing is stored before it. -/
theorem find?_of_least? {t : Table κ ν} {k : κ} {v : ν} (hleast : t.least? = some (k, v)) :
    t.find? (ident k) = some v ∧
      ∀ i, (t.find? i).isSome → compare (ident k) i ≠ .gt := by
  obtain ⟨hmem, hbefore⟩ := least?_eq_some_iff.mp hleast
  refine ⟨find?_of_mem hmem, ?_⟩
  intro i hsome
  obtain ⟨w, hw⟩ := Option.isSome_iff_exists.mp hsome
  obtain ⟨a, ha, rfl⟩ := find?_eq_some_iff.mp hw
  exact hbefore (a, w) ha

/-- The values are what look-ups find along any ascending keys that miss no entry. -/
theorem values_eq_filterMap {κ' : Type} [Identity κ' ι] (t : Table κ ν) {keys : List κ'}
    (hasc : keys.Pairwise fun a b => compare (ident a) (ident b) = .lt)
    (hcover : ∀ i, (t.find? i).isSome → ∃ k ∈ keys, ident k = i) :
    t.values = keys.filterMap fun k => t.find? (ident k) := by
  have hentries : t.entries = keys.filterMap fun k => t.stored? (ident k) := by
    -- both sides ascend and hold the same entries
    have hright : (keys.filterMap fun k => t.stored? (ident k)).Pairwise
        fun a b => compare (ident a.1) (ident b.1) = .lt := by
      rw [List.pairwise_filterMap]
      refine hasc.imp ?_
      intro a b hlt e he e' he'
      rw [(stored?_eq_some_iff.mp he).2, (stored?_eq_some_iff.mp he').2]
      exact hlt
    have hmem : ∀ e, e ∈ t.entries ↔ e ∈ keys.filterMap fun k => t.stored? (ident k) := by
      intro e
      rw [List.mem_filterMap]
      constructor
      · intro he
        obtain ⟨k, hk, hident⟩ := hcover (ident e.1) (by simp [find?_of_mem he])
        exact ⟨k, hk, by rw [hident]; exact mem_entries_iff.mp he⟩
      · rintro ⟨k, _, he⟩
        exact (stored?_eq_some_iff.mp he).1
    exact eq_of_ascending (fun e => ident e.1) t.ascending hright hmem
  rw [values, hentries, List.map_filterMap]
  rfl

/-- What is stored, and all the entries of other identities. -/
theorem store_perm [DecidableEq ι] (t : Table κ ν) {fresh : κ × ν} {revise : κ × ν → κ × ν}
    (hkeeps : KeepsPlace fresh revise) :
    (t.store fresh revise hkeeps).entries.Perm
      ((t.stored? (ident fresh.1)).elim fresh revise :: (t.erase (ident fresh.1)).entries) := by
  have hstored : (t.store fresh revise hkeeps).stored? (ident fresh.1) =
      some ((t.stored? (ident fresh.1)).elim fresh revise) := by
    rw [stored?_store, if_pos rfl]
  refine (entries_perm_erase hstored).trans ?_
  refine List.Perm.cons _ ((List.perm_ext_iff_of_nodup (entries_nodup _) (entries_nodup _)).mpr ?_)
  intro a
  simp only [erase, List.mem_filter, mem_entries_iff, stored?_store]
  constructor
  · rintro ⟨hfound, hother⟩
    have hne : ¬ ident fresh.1 = ident a.1 := by
      intro heq
      simp [heq] at hother
    rw [if_neg hne] at hfound
    exact ⟨hfound, hother⟩
  · rintro ⟨hfound, hother⟩
    have hne : ¬ ident fresh.1 = ident a.1 := by
      intro heq
      simp [heq] at hother
    rw [if_neg hne]
    exact ⟨hfound, hother⟩

/-- A fresh entry comes on top of all the others. -/
theorem store_perm_of_absent [DecidableEq ι] (t : Table κ ν) {fresh : κ × ν}
    {revise : κ × ν → κ × ν} (hkeeps : KeepsPlace fresh revise)
    (habsent : t.find? (ident fresh.1) = none) :
    (t.store fresh revise hkeeps).entries.Perm (fresh :: t.entries) := by
  have hstored : t.stored? (ident fresh.1) = none := Option.map_eq_none_iff.mp habsent
  have hrest : (t.erase (ident fresh.1)).entries = t.entries := by
    refine List.filter_eq_self.mpr ?_
    intro e he
    have hother := List.find?_eq_none.mp hstored e he
    simpa using hother
  have hperm := t.store_perm hkeeps
  rw [hstored, hrest] at hperm
  exact hperm

theorem entries_foldl_put_perm [DecidableEq ι] {l : List (κ × ν)} {t : Table κ ν}
    (hdistinct : (l.map fun e => ident e.1).Nodup)
    (hnew : ∀ e ∈ l, t.find? (ident e.1) = none) :
    (l.foldl (fun t e => t.put e.1 e.2) t).entries.Perm (l ++ t.entries) := by
  induction l generalizing t with
  | nil => exact .refl _
  | cons e l ih =>
    rw [List.map_cons, List.nodup_cons] at hdistinct
    obtain ⟨hfirst, hnew⟩ := List.forall_mem_cons.mp hnew
    have hstill : ∀ a ∈ l, (t.put e.1 e.2).find? (ident a.1) = none := by
      intro a ha
      have hne : ident e.1 ≠ ident a.1 := by
        intro heq
        exact hdistinct.1 (List.mem_map.mpr ⟨a, ha, heq.symm⟩)
      rw [find?_put, if_neg hne, hnew a ha]
    refine (ih hdistinct.2 hstill).trans ?_
    refine ((store_perm_of_absent t (keepsPlace_fresh (e.1, e.2)) hfirst).append_left l).trans ?_
    exact List.perm_middle

theorem entries_ofList_perm [DecidableEq ι] {l : List (κ × ν)}
    (hdistinct : (l.map fun e => ident e.1).Nodup) : (ofList l).entries.Perm l := by
  have hperm := entries_foldl_put_perm (t := empty) hdistinct fun _ _ => rfl
  rw [show (empty : Table κ ν).entries = [] from rfl, List.append_nil] at hperm
  exact hperm

/-- The table of entries with distinct identities has just these entries. -/
theorem mem_entries_ofList_iff [DecidableEq ι] {l : List (κ × ν)}
    (hdistinct : (l.map fun e => ident e.1).Nodup) (e : κ × ν) :
    e ∈ (ofList l).entries ↔ e ∈ l :=
  (entries_ofList_perm hdistinct).mem_iff

/-- A revised entry comes in the place of the stored one, and all the others stay. -/
theorem store_perm_of_stored [DecidableEq ι] (t : Table κ ν) {fresh e : κ × ν}
    {revise : κ × ν → κ × ν} (hkeeps : KeepsPlace fresh revise)
    (hstored : t.stored? (ident fresh.1) = some e) :
    ∃ rest, (∀ a ∈ rest, ident a.1 ≠ ident fresh.1) ∧ t.entries.Perm (e :: rest) ∧
      (t.store fresh revise hkeeps).entries.Perm (revise e :: rest) := by
  refine ⟨(t.erase (ident fresh.1)).entries, ?_, entries_perm_erase hstored, ?_⟩
  · intro a ha
    have hother := (List.mem_filter.mp ha).2
    simpa using hother
  · have hperm := t.store_perm hkeeps
    rw [hstored] at hperm
    exact hperm

omit [Std.LawfulEqOrd ι] in
/-- Storing brings in no key but the fresh one, if revised entries keep theirs. -/
theorem mem_keys_store {t : Table κ ν} {fresh : κ × ν} {revise : κ × ν → κ × ν}
    {hkeeps : KeepsPlace fresh revise} {a : κ} (hmem : a ∈ (t.store fresh revise hkeeps).keys)
    (hrevise : ∀ e, (revise e).1 = e.1) : a = fresh.1 ∨ a ∈ t.keys := by
  obtain ⟨e, he, rfl⟩ := List.mem_map.mp hmem
  rcases mem_settle he with rfl | hold | ⟨b, hb, _, rfl⟩
  · exact .inl rfl
  · exact .inr (List.mem_map_of_mem hold)
  · rw [hrevise]
    exact .inr (List.mem_map_of_mem hb)

omit [Std.LawfulEqOrd ι] in
theorem mem_keys_insert {t : Table κ ν} {k a : κ} {v : ν} (hmem : a ∈ (t.insert k v).keys) :
    a = k ∨ a ∈ t.keys :=
  mem_keys_store hmem fun _ => rfl

omit [Std.LawfulEqOrd ι] in
theorem firstDistinct_ascending (xs : List κ) :
    (firstDistinct xs).Pairwise fun a b => compare (ident a) (ident b) = .lt :=
  keys_ascending _

/-- Of the members with one identity, the key is what came first. -/
theorem key?_foldl_insertNew [DecidableEq ι] (xs : List κ) (t : Table κ Unit) (i : ι) :
    (xs.foldl (fun t x => t.insertNew x ()) t).key? i =
      (t.key? i).or (xs.find? fun x => ident x = i) := by
  induction xs generalizing t with
  | nil => simp
  | cons x xs ih =>
    rw [List.foldl_cons, ih, key?_insertNew, List.find?_cons]
    by_cases hident : ident x = i
    · cases hkey : t.key? i <;> simp [hident]
    · simp [hident]

/-- A member stays exactly if it is the first of its identity. -/
theorem mem_firstDistinct_iff_find? [DecidableEq ι] {xs : List κ} {x : κ} :
    x ∈ firstDistinct xs ↔ xs.find? (fun y => ident y = ident x) = some x := by
  rw [firstDistinct, mem_keys_iff, key?_foldl_insertNew]
  rfl

/-- Of the members with one identity only one is kept. -/
theorem eq_of_mem_firstDistinct [DecidableEq ι] (xs : List κ) :
    ∀ x ∈ firstDistinct xs, ∀ y ∈ firstDistinct xs, ident x = ident y → x = y := by
  intro x hx y hy hident
  rw [mem_firstDistinct_iff_find?] at hx hy
  rw [hident, hy] at hx
  exact (Option.some.inj hx).symm

/-- Of every identity a member stays. -/
theorem mem_idents_firstDistinct_iff [DecidableEq ι] {xs : List κ} {i : ι} :
    i ∈ (firstDistinct xs).map ident ↔ i ∈ xs.map ident := by
  constructor
  · intro hi
    obtain ⟨x, hx, rfl⟩ := List.mem_map.mp hi
    exact List.mem_map_of_mem (List.mem_of_find?_eq_some (mem_firstDistinct_iff_find?.mp hx))
  · intro hi
    obtain ⟨x, hx, rfl⟩ := List.mem_map.mp hi
    have hsome : (xs.find? fun y => ident y = ident x).isSome :=
      List.find?_isSome.mpr ⟨x, hx, decide_eq_true rfl⟩
    obtain ⟨y, hy⟩ := Option.isSome_iff_exists.mp hsome
    have hident : ident y = ident x := by simpa using List.find?_some hy
    refine List.mem_map.mpr ⟨y, ?_, hident⟩
    rw [mem_firstDistinct_iff_find?, hident]
    exact hy

/-- Members that are told apart by their identities all stay. -/
theorem mem_firstDistinct_iff [DecidableEq ι] {xs : List κ}
    (hdistinct : ∀ x ∈ xs, ∀ y ∈ xs, ident x = ident y → x = y) (x : κ) :
    x ∈ firstDistinct xs ↔ x ∈ xs := by
  rw [mem_firstDistinct_iff_find?]
  refine ⟨List.mem_of_find?_eq_some, ?_⟩
  intro hmem
  cases hfound : xs.find? fun y => ident y = ident x with
  | none => simpa using List.find?_eq_none.mp hfound x hmem
  | some y =>
    have hident : ident y = ident x := by simpa using List.find?_some hfound
    rw [hdistinct y (List.mem_of_find?_eq_some hfound) x hmem hident]

/-- Of members with distinct identities none is left out. -/
theorem lastDistinct_perm [DecidableEq ι] {xs : List κ} (hdistinct : (xs.map ident).Nodup) :
    (lastDistinct xs).Perm xs := by
  have hentries : (ofList (xs.map fun x => (x, ()))).entries.Perm (xs.map fun x => (x, ())) := by
    apply entries_ofList_perm
    rw [List.map_map]
    exact hdistinct
  have hkeys := hentries.map Prod.fst
  rw [List.map_map] at hkeys
  exact hkeys.trans (.of_eq (List.map_id' xs))

end CodeOutline.Table
