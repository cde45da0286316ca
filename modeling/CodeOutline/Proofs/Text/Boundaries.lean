import CodeOutline.Text.Slice

namespace CodeOutline.Text

/-- A byte that does not start a character. -/
def IsContinuation (byte : UInt8) : Prop := byte &&& 0xC0 = 0x80

theorem isContinuation_tail (bits : UInt8) : IsContinuation (bits &&& 0x3F ||| 0x80) := by
  have hbits : ∀ v : BitVec 8, (v &&& 0x3F#8 ||| 0x80#8) &&& 0xC0#8 = 0x80#8 := by decide
  exact UInt8.eq_of_toBitVec_eq (hbits bits.toBitVec)

/-- All bytes of a character but the first continue it. -/
theorem isContinuation_of_mem_tail {c : Char} {byte : UInt8}
    (hbyte : byte ∈ (String.utf8EncodeChar c).tail) : IsContinuation byte := by
  have hsize := c.utf8Size_le_four
  have hpositive := c.utf8Size_pos
  obtain hone | htwo | hthree | hfour :
      c.utf8Size = 1 ∨ c.utf8Size = 2 ∨ c.utf8Size = 3 ∨ c.utf8Size = 4 := by omega
  · simp [String.utf8EncodeChar_eq_singleton hone] at hbyte
  · simp only [String.utf8EncodeChar_eq_cons_cons htwo, List.tail_cons, List.mem_singleton] at hbyte
    rw [hbyte]
    exact isContinuation_tail _
  · simp only [String.utf8EncodeChar_eq_cons_cons_cons hthree, List.tail_cons, List.mem_cons,
      List.not_mem_nil, or_false] at hbyte
    rcases hbyte with rfl | rfl <;> exact isContinuation_tail _
  · simp only [String.utf8EncodeChar_eq_cons_cons_cons_cons hfour, List.tail_cons, List.mem_cons,
      List.not_mem_nil, or_false] at hbyte
    rcases hbyte with rfl | rfl | rfl <;> exact isContinuation_tail _

/-- Every byte of a text starts a character or continues one. -/
theorem isUTF8FirstByte_or_isContinuation {s : String} {byte : UInt8}
    (hbyte : byte ∈ s.toByteArray.data.toList) :
    byte.IsUTF8FirstByte ∨ IsContinuation byte := by
  obtain ⟨cs, rfl⟩ := s.exists_eq_ofList
  rw [String.toByteArray_ofList, List.utf8Encode, List.data_toByteArray] at hbyte
  obtain ⟨c, _, hc⟩ := List.mem_flatMap.mp hbyte
  obtain ⟨first, rest, hencoded⟩ :=
    List.exists_cons_of_ne_nil (String.utf8EncodeChar_ne_nil (c := c))
  rw [hencoded] at hc
  rcases List.mem_cons.mp hc with rfl | hrest
  · have hfirst := UInt8.isUTF8FirstByte_getElem_zero_utf8EncodeChar (c := c)
    simp only [hencoded, List.getElem_cons_zero] at hfirst
    exact .inl hfirst
  · refine .inr (isContinuation_of_mem_tail (c := c) ?_)
    rwa [hencoded, List.tail_cons]

/-- An offset on a boundary is a position of the text. -/
theorem isValid_of_isBoundary {s : String} {offset : Nat} (hboundary : isBoundary s offset) :
    String.Pos.Raw.IsValid s ⟨offset⟩ := by
  unfold isBoundary at hboundary
  rw [String.Pos.Raw.isValid_iff_isUTF8FirstByte]
  split at hboundary
  · rename_i hinside
    refine .inr ⟨hinside, ?_⟩
    have hbyte : s.toByteArray[offset] ∈ s.toByteArray.data.toList :=
      List.getElem_mem (l := s.toByteArray.data.toList) hinside
    exact (isUTF8FirstByte_or_isContinuation hbyte).resolve_right
      (by simpa [IsContinuation] using hboundary)
  · left
    rw [beq_iff_eq] at hboundary
    rw [hboundary]
    rfl

/-- Between two boundaries lies a text, and slicing gives it. -/
theorem exists_slice? {s : String} {start stop : Nat} (hle : start ≤ stop)
    (hstart : isBoundary s start) (hstop : isBoundary s stop) :
    ∃ text, slice? s start stop = some text ∧
      text.toByteArray = s.toByteArray.extract start stop := by
  have hvalid : (s.toByteArray.extract start stop).IsValidUTF8 := by
    refine (String.Pos.Raw.isValidUTF8_extract_iff ⟨start⟩ ⟨stop⟩ hle ?_).mpr
      (.inr ⟨isValid_of_isBoundary hstart, isValid_of_isBoundary hstop⟩)
    exact (isValid_of_isBoundary hstop).le_rawEndPos
  refine ⟨String.fromUTF8 _ hvalid, ?_, rfl⟩
  simp [slice?, hle, hstart, hstop, String.fromUTF8?, hvalid]

/-- Two texts that lie side by side make up the text around both. -/
theorem exists_slice?_append {s : String} {start middle stop : Nat} (hleft : start ≤ middle)
    (hright : middle ≤ stop) (hstart : isBoundary s start) (hmiddle : isBoundary s middle)
    (hstop : isBoundary s stop) :
    ∃ left right, slice? s start middle = some left ∧ slice? s middle stop = some right ∧
      slice? s start stop = some (left ++ right) := by
  obtain ⟨left, hsliceLeft, hbytesLeft⟩ := exists_slice? hleft hstart hmiddle
  obtain ⟨right, hsliceRight, hbytesRight⟩ := exists_slice? hright hmiddle hstop
  obtain ⟨whole, hslice, hbytes⟩ := exists_slice? (Nat.le_trans hleft hright) hstart hstop
  have hwhole : whole = left ++ right := by
    rw [← String.toByteArray_inj, String.toByteArray_append, hbytes, hbytesLeft, hbytesRight]
    exact ByteArray.extract_eq_extract_append_extract middle hleft hright
  exact ⟨left, right, hsliceLeft, hsliceRight, hwhole ▸ hslice⟩

/-- The first byte of a character continues none. -/
theorem not_isContinuation_of_isUTF8FirstByte {byte : UInt8} (hfirst : byte.IsUTF8FirstByte) :
    ¬ IsContinuation byte := by
  have hbits : ∀ v : BitVec 8, v &&& 0x80#8 = 0#8 ∨ v &&& 0xE0#8 = 0xC0#8 ∨
      v &&& 0xF0#8 = 0xE0#8 ∨ v &&& 0xF8#8 = 0xF0#8 → v &&& 0xC0#8 ≠ 0x80#8 := by decide
  intro hcontinues
  refine hbits byte.toBitVec ?_ (congrArg UInt8.toBitVec hcontinues)
  exact hfirst.imp (congrArg UInt8.toBitVec) fun hlonger =>
    hlonger.imp (congrArg UInt8.toBitVec) fun hlonger =>
      hlonger.imp (congrArg UInt8.toBitVec) (congrArg UInt8.toBitVec)

/-- A position of the text is an offset on a boundary. -/
theorem isBoundary_of_isValid {s : String} {offset : Nat}
    (hvalid : String.Pos.Raw.IsValid s ⟨offset⟩) : isBoundary s offset := by
  unfold isBoundary
  rcases String.Pos.Raw.isValid_iff_isUTF8FirstByte.mp hvalid with hend | ⟨hinside, hfirst⟩
  · have hoffset : offset = s.toByteArray.size := congrArg String.Pos.Raw.byteIdx hend
    simp [hoffset]
  · rw [dif_pos (show offset < s.toByteArray.size from hinside), bne_iff_ne]
    exact not_isContinuation_of_isUTF8FirstByte hfirst

/-- Where two texts are joined is a boundary. -/
theorem isBoundary_append (s t : String) : isBoundary (s ++ t) s.utf8ByteSize := by
  apply isBoundary_of_isValid
  rw [String.Pos.Raw.isValid_append]
  exact .inl String.Pos.Raw.isValid_rawEndPos

/-- The middle one of three joined texts lies between the ends of the first two. -/
theorem slice?_append (before middle after : String) :
    slice? (before ++ middle ++ after) before.utf8ByteSize (before ++ middle).utf8ByteSize =
      some middle := by
  have hstart : isBoundary (before ++ middle ++ after) before.utf8ByteSize := by
    rw [String.append_assoc]
    exact isBoundary_append before (middle ++ after)
  have hstop := isBoundary_append (before ++ middle) after
  have hle : before.utf8ByteSize ≤ (before ++ middle).utf8ByteSize := by
    rw [String.utf8ByteSize_append]
    exact Nat.le_add_right _ _
  obtain ⟨text, hslice, hbytes⟩ := exists_slice? hle hstart hstop
  have htext : text = middle := by
    rw [← String.toByteArray_inj, hbytes]
    calc (before ++ middle ++ after).toByteArray.extract before.utf8ByteSize
          (before ++ middle).utf8ByteSize
      _ = (before ++ middle).toByteArray.extract before.utf8ByteSize
            (before ++ middle).utf8ByteSize := by
        rw [String.toByteArray_append]
        exact ByteArray.extract_append_size_left
      _ = middle.toByteArray := by
        rw [String.toByteArray_append]
        exact ByteArray.extract_append_eq_right rfl String.utf8ByteSize_append
  rw [hslice, htext]

theorem slice?_zero_append (before after : String) :
    slice? (before ++ after) 0 before.utf8ByteSize = some before := by
  simpa using slice?_append "" before after

theorem sliceFrom?_append (before after : String) :
    sliceFrom? (before ++ after) before.utf8ByteSize = some after := by
  simpa [sliceFrom?] using slice?_append before after ""

theorem offsetsFrom_append (cut : Char → Bool) (start : Nat) (cs rest : List Char) :
    offsetsFrom cut start (cs ++ rest) = offsetsFrom cut start cs ++
      offsetsFrom cut (start + (String.ofList cs).utf8ByteSize) rest := by
  induction cs generalizing start with
  | nil => simp [offsetsFrom]
  | cons c cs ih =>
    have hsize : (String.ofList (c :: cs)).utf8ByteSize =
        c.utf8Size + (String.ofList cs).utf8ByteSize := by
      rw [String.ofList_cons, String.utf8ByteSize_append, String.utf8ByteSize_singleton]
    rw [List.cons_append, offsetsFrom, offsetsFrom, ih, hsize, Nat.add_assoc]
    split <;> rfl

theorem offsetsFrom_of_clean {cut : Char → Bool} {cs : List Char}
    (hclean : ∀ c ∈ cs, cut c = false) (start : Nat) : offsetsFrom cut start cs = [] := by
  induction cs generalizing start with
  | nil => rfl
  | cons c cs ih =>
    rw [List.forall_mem_cons] at hclean
    rw [offsetsFrom, hclean.1, ih hclean.2]
    rfl

theorem offsets_of_clean {cut : Char → Bool} {s : String}
    (hclean : ∀ c ∈ s.toList, cut c = false) : offsets cut s = [] :=
  offsetsFrom_of_clean hclean 0

/-- The last offset is the size of what stands before the last cut. -/
theorem offsets_append_of_clean {cut : Char → Bool} {sep : Char} (hsep : cut sep) (before : String)
    {after : String} (hclean : ∀ c ∈ after.toList, cut c = false) :
    offsets cut (before ++ String.singleton sep ++ after) =
      offsets cut before ++ [before.utf8ByteSize] := by
  have hchars : (before ++ String.singleton sep ++ after).toList =
      before.toList ++ sep :: after.toList := by simp
  rw [offsets, hchars, offsetsFrom_append, offsetsFrom, if_pos hsep, offsetsFrom_of_clean hclean,
    String.ofList_toList, Nat.zero_add, offsets]

/-- A text without a cut, or else with a last one. -/
theorem clean_or_exists_last (cut : Char → Bool) (s : String) :
    (∀ c ∈ s.toList, cut c = false) ∨ ∃ before sep after,
      s = before ++ String.singleton sep ++ after ∧ cut sep ∧
        ∀ c ∈ after.toList, cut c = false := by
  obtain ⟨cs, rfl⟩ := s.exists_eq_ofList
  rw [String.toList_ofList]
  induction cs with
  | nil => simp
  | cons c cs ih =>
    rcases ih with hclean | ⟨before, sep, after, hsplit, hsep, hafter⟩
    · by_cases hc : cut c
      · refine .inr ⟨"", c, String.ofList cs, ?_, hc, ?_⟩
        · rw [String.ofList_cons, String.empty_append]
        · rwa [String.toList_ofList]
      · exact .inl (List.forall_mem_cons.mpr ⟨by simpa using hc, hclean⟩)
    · refine .inr ⟨String.singleton c ++ before, sep, after, ?_, hsep, hafter⟩
      rw [String.ofList_cons, hsplit, String.append_assoc, String.append_assoc, String.append_assoc]

theorem clean_iff_notMem {sep : Char} {cs : List Char} :
    (∀ c ∈ cs, (c == sep) = false) ↔ sep ∉ cs := by
  simp only [beq_eq_false_iff_ne]
  exact ⟨fun hclean hsep => hclean sep hsep rfl, fun habsent c hc heq => habsent (heq ▸ hc)⟩

/-- The offset of the last occurrence of a character comes last. -/
theorem offsets_append_of_notMem (sep : Char) (before : String) {after : String}
    (hafter : sep ∉ after.toList) :
    offsets (· == sep) (before ++ String.singleton sep ++ after) =
      offsets (· == sep) before ++ [before.utf8ByteSize] :=
  @offsets_append_of_clean (· == sep) sep (beq_self_eq_true sep) before after
    (clean_iff_notMem.mpr hafter)

/-- A text without a character, or else with a last occurrence of it. -/
theorem notMem_or_exists_last (sep : Char) (s : String) :
    sep ∉ s.toList ∨ ∃ before after,
      s = before ++ String.singleton sep ++ after ∧ sep ∉ after.toList := by
  rcases clean_or_exists_last (· == sep) s with hclean | ⟨before, c, after, hs, hc, hafter⟩
  · exact .inl (clean_iff_notMem.mp hclean)
  · obtain rfl : c = sep := by simpa using hc
    exact .inr ⟨before, after, hs, clean_iff_notMem.mp hafter⟩

end CodeOutline.Text
