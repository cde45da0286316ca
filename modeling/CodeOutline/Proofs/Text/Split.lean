import CodeOutline.Text.Blank

namespace CodeOutline.Text

theorem pieces_eq_splitOnP (cut : Char → Bool) (cs : List Char) :
    pieces cut cs = cs.splitOnP cut := by
  induction cs with
  | nil => rfl
  | cons c rest ih =>
    rw [pieces, List.splitOnP_cons_eq_if_modifyHead, ih]
    split
    · rfl
    · cases hrest : rest.splitOnP cut with
      | nil => exact absurd hrest (List.splitOnP_ne_nil cut rest)
      | cons p ps => rfl

theorem pieces_of_clean {cut : Char → Bool} {cs : List Char} (hcs : ∀ c ∈ cs, cut c = false) :
    pieces cut cs = [cs] := by
  induction cs with
  | nil => rfl
  | cons c cs ih =>
    rw [List.forall_mem_cons] at hcs
    rw [pieces, hcs.1, ih hcs.2]
    rfl

/-- A cut comes between the pieces before it and those after it. -/
theorem pieces_append {cut : Char → Bool} {sep : Char} (hsep : cut sep) (cs rest : List Char) :
    pieces cut (cs ++ sep :: rest) = pieces cut cs ++ pieces cut rest := by
  induction cs with
  | nil => simp [pieces, hsep]
  | cons c cs ih =>
    rw [List.cons_append, pieces, pieces, ih]
    split
    · rfl
    · cases hcs : pieces cut cs with
      | nil =>
        rw [pieces_eq_splitOnP] at hcs
        exact absurd hcs (List.splitOnP_ne_nil cut cs)
      | cons p ps => rfl

theorem split_eq (sep : Char) (s : String) :
    split sep s = (s.toList.splitOn sep).map String.ofList := by
  rw [split, pieces_eq_splitOnP]
  rfl

/-- Joined pieces are found again when the separator is in none of them. -/
theorem split_intercalate (sep : Char) {names : List String} (hne : names ≠ [])
    (hclean : ∀ name ∈ names, sep ∉ name.toList) :
    split sep ((String.singleton sep).intercalate names) = names := by
  have hjoined : ((String.singleton sep).intercalate names).toList =
      [sep].intercalate (names.map String.toList) := by
    rw [String.toList_intercalate, String.toList_singleton]
  rw [split_eq, hjoined, List.splitOn_intercalate sep]
  · simp
  · intro piece hpiece
    obtain ⟨name, hname, rfl⟩ := List.mem_map.mp hpiece
    exact hclean name hname
  · simpa using hne

/-- Joined names tell the names that were joined. -/
theorem intercalate_inj (sep : Char) {names others : List String}
    (hnames : ∀ name ∈ names, name ≠ "" ∧ sep ∉ name.toList)
    (hothers : ∀ name ∈ others, name ≠ "" ∧ sep ∉ name.toList)
    (hsame : (String.singleton sep).intercalate names =
      (String.singleton sep).intercalate others) : names = others := by
  have hfound : ∀ {names : List String}, (∀ name ∈ names, name ≠ "" ∧ sep ∉ name.toList) →
      (split sep ((String.singleton sep).intercalate names)).filter (· ≠ "") = names := by
    intro names hnames
    by_cases hne : names = []
    · subst hne
      rfl
    · rw [split_intercalate sep hne fun name hname => (hnames name hname).2, List.filter_eq_self]
      intro name hname
      simpa using (hnames name hname).1
  rw [← hfound hnames, hsame, hfound hothers]

theorem split_append (sep : Char) (s t : String) :
    split sep (s ++ String.singleton sep ++ t) = split sep s ++ split sep t := by
  have hchars : (s ++ String.singleton sep ++ t).toList = s.toList ++ sep :: t.toList := by simp
  rw [split, hchars, pieces_append (by simp), List.map_append]
  rfl

theorem split_of_clean {sep : Char} {s : String} (hclean : sep ∉ s.toList) : split sep s = [s] := by
  have hpieces : pieces (· == sep) s.toList = [s.toList] := by
    apply pieces_of_clean
    rintro c hc
    rw [beq_eq_false_iff_ne]
    rintro rfl
    exact hclean hc
  rw [split, hpieces, List.map_singleton, String.ofList_toList]

theorem intercalate_split (sep : Char) (s : String) :
    (String.singleton sep).intercalate (split sep s) = s := by
  rw [← String.toList_inj, String.toList_intercalate, String.toList_singleton, split_eq,
    List.map_map]
  have hid : String.toList ∘ String.ofList = id := by
    funext cs
    exact String.toList_ofList
  rw [hid, List.map_id]
  exact List.intercalate_splitOn sep

theorem notMem_of_mem_pieces {cut : Char → Bool} {cs piece : List Char}
    (hpiece : piece ∈ pieces cut cs) : ∀ c ∈ piece, cut c = false := by
  induction cs generalizing piece with
  | nil =>
    intro c hc
    rw [List.mem_singleton.mp hpiece] at hc
    cases hc
  | cons c rest ih =>
    rw [pieces] at hpiece
    split at hpiece
    · rcases List.mem_cons.mp hpiece with rfl | htail
      · simp
      · exact ih htail
    · rename_i hkeep
      split at hpiece
      · rw [List.mem_singleton.mp hpiece]
        simpa using hkeep
      · rename_i p ps hpieces
        rcases List.mem_cons.mp hpiece with rfl | htail
        · have hfirst : ∀ d ∈ p, cut d = false := ih (by rw [hpieces]; exact List.mem_cons_self)
          simpa using ⟨by simpa using hkeep, hfirst⟩
        · exact ih (by rw [hpieces]; exact List.mem_cons_of_mem _ htail)

/-- No piece holds the separator. -/
theorem notMem_of_mem_split {sep : Char} {s piece : String} (hpiece : piece ∈ split sep s) :
    sep ∉ piece.toList := by
  obtain ⟨cs, hcs, rfl⟩ := List.mem_map.mp hpiece
  intro hmem
  rw [String.toList_ofList] at hmem
  simpa using notMem_of_mem_pieces hcs sep hmem

end CodeOutline.Text
