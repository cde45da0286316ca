import Mathlib.Data.List.Basic
import CodeOutline.Text.Fold

namespace CodeOutline.Text

theorem Run.holds_iff {r : Run} {n : Nat} :
    r.holds n = true ↔ r.lo ≤ n ∧ n ≤ r.hi ∧ (n - r.lo) % r.step = 0 := by
  simp [Run.holds, and_assoc]

theorem toNat_ofNat_of_isValidChar {n : Nat} (h : n.isValidChar) : (Char.ofNat n).toNat = n := by
  rw [Char.ofNat, dif_pos h]
  rfl

namespace Shift

/-- The runs of a table stand in ascending order, from a code point on. -/
def Ascends (bound : Nat) : List Shift → Prop
  | [] => True
  | s :: rest => bound ≤ s.run.lo ∧ s.run.lo ≤ s.run.hi ∧ Ascends (s.run.hi + 1) rest

instance Ascends.decidable (bound : Nat) : (table : List Shift) → Decidable (Ascends bound table)
  | [] => inferInstanceAs (Decidable True)
  | s :: rest =>
    have := Ascends.decidable (s.run.hi + 1) rest
    inferInstanceAs (Decidable (_ ∧ _ ∧ _))

/-- The code points of the run are characters, and so are their images. -/
def Sound (s : Shift) : Prop :=
  (s.run.hi < 0xD800 ∨ 0xDFFF < s.run.lo ∧ s.run.hi < 0x110000) ∧ 0 ≤ s.run.lo + s.offset ∧
    (s.run.hi + s.offset < 0xD800 ∨
      0xDFFF < s.run.lo + s.offset ∧ s.run.hi + s.offset < 0x110000)

instance (s : Shift) : Decidable s.Sound := inferInstanceAs (Decidable (_ ∧ _ ∧ _))

/-- Whether the runs of an ascending table pass by the code points from `lo` to `hi`. If only every
    second one of these counts, a run of every second code point may run between them. -/
def passBy (lo hi : Nat) (alternate : Bool) : List Shift → Bool
  | [] => true
  | s :: rest =>
    if Nat.blt hi s.run.lo then true
    else if Nat.blt s.run.hi lo then passBy lo hi alternate rest
    else alternate && s.run.step == 2 && (lo + s.run.lo) % 2 == 1 && passBy lo hi alternate rest

/-- Whether no image of the run lies in a run of the table. -/
def settles (table : List Shift) (s : Shift) : Bool :=
  passBy (s.run.lo + s.offset).toNat (s.run.hi + s.offset).toNat
    (s.run.step == 2 || s.run.lo == s.run.hi) table

/-- What makes a table of shifts one of representatives. -/
structure Folds (table : List Shift) : Prop where
  ascends : Ascends 0 table
  sound : ∀ s ∈ table, s.Sound
  settles : ∀ s ∈ table, settles table s = true

variable {table : List Shift} {s : Shift} {bound n lo hi : Nat} {alternate : Bool} {c d : Char}

theorem Ascends.le_lo (h : Ascends bound table) (hs : s ∈ table) :
    bound ≤ s.run.lo ∧ s.run.lo ≤ s.run.hi := by
  induction table generalizing bound with
  | nil => simp at hs
  | cons t rest ih =>
    obtain ⟨hbound, hle, hrest⟩ := h
    rcases List.mem_cons.mp hs with rfl | hs
    · exact ⟨hbound, hle⟩
    · have := ih hrest hs
      omega

/-- No run of a table holds a code point that the table passes by. -/
theorem not_holds_of_passBy (hascends : Ascends bound table)
    (h : passBy lo hi alternate table = true) (hlo : lo ≤ n) (hhi : n ≤ hi)
    (halternate : alternate = true → (n - lo) % 2 = 0) (hs : s ∈ table) : s.run.holds n = false := by
  rw [← Bool.not_eq_true, Run.holds_iff]
  rintro ⟨hslo, hshi, hstep⟩
  induction table generalizing bound with
  | nil => simp at hs
  | cons t rest ih =>
    obtain ⟨-, hle, hrest⟩ := hascends
    rw [passBy] at h
    split at h
    case isTrue hbefore =>
      have hbefore : hi < t.run.lo := by simpa using hbefore
      rcases List.mem_cons.mp hs with rfl | hs
      · omega
      · have := hrest.le_lo hs
        omega
    case isFalse =>
      split at h
      case isTrue hafter =>
        have hafter : t.run.hi < lo := by simpa using hafter
        rcases List.mem_cons.mp hs with rfl | hs
        · omega
        · exact ih hrest h hs
      case isFalse =>
        simp only [Bool.and_eq_true, beq_iff_eq] at h
        obtain ⟨⟨⟨halt, htwo⟩, hodd⟩, hpass⟩ := h
        rcases List.mem_cons.mp hs with rfl | hs
        · have := halternate halt
          rw [htwo] at hstep
          omega
        · exact ih hrest hpass hs

/-- A table sends the code points of each run where the run says. -/
theorem apply_of_holds (hascends : Ascends bound table) (hs : s ∈ table)
    (hc : s.run.holds c.toNat = true) : apply table c = Char.ofNat (c.toNat + s.offset).toNat := by
  induction table generalizing bound with
  | nil => simp at hs
  | cons t rest ih =>
    obtain ⟨-, hle, hrest⟩ := hascends
    obtain ⟨hlo, hhi, -⟩ := Run.holds_iff.mp hc
    rcases List.mem_cons.mp hs with rfl | hs
    · rw [apply, if_neg (by omega), if_pos hc]
    · have hbeyond := (hrest.le_lo hs).1
      have hnot : ¬ t.run.holds c.toNat = true := by
        rw [Run.holds_iff]
        omega
      rw [apply, if_neg (by omega), if_neg hnot]
      exact ih hrest hs

theorem apply_of_not_holds (h : ∀ s ∈ table, s.run.holds c.toNat = false) : apply table c = c := by
  induction table with
  | nil => rfl
  | cons t rest ih =>
    rw [apply, h t (by simp), ih fun s hs => h s (by simp [hs])]
    simp

theorem Sound.image (h : s.Sound) (hn : s.run.holds n = true) :
    n.isValidChar ∧ 0 ≤ n + s.offset ∧ ((n + s.offset).toNat).isValidChar := by
  obtain ⟨hlo, hhi, -⟩ := Run.holds_iff.mp hn
  obtain ⟨hrun, hzero, himage⟩ := h
  simp only [Nat.isValidChar]
  omega

/-- The characters that a table moves to another one are those of the runs that reach it. -/
theorem mem_sources_iff (h : Folds table) :
    c ∈ sources table d ↔ ∃ s ∈ table, s.run.holds c.toNat = true ∧ apply table c = d := by
  simp only [sources, List.mem_filterMap]
  refine exists_congr fun s => and_congr_right fun hs => ?_
  constructor
  · intro hc
    simp only [Option.ite_none_right_eq_some, Bool.and_eq_true, beq_iff_eq, Option.some.injEq] at hc
    obtain ⟨⟨hholds, hd⟩, rfl⟩ := hc
    have hvalid := ((h.sound s hs).image hholds).1
    rw [← toNat_ofNat_of_isValidChar hvalid] at hholds hd
    refine ⟨hholds, ?_⟩
    rw [apply_of_holds h.ascends hs hholds, hd]
    simp
  · rintro ⟨hholds, hd⟩
    obtain ⟨-, hzero, himage⟩ := (h.sound s hs).image hholds
    have hd : (d.toNat : Int) = c.toNat + s.offset := by
      rw [← hd, apply_of_holds h.ascends hs hholds, toNat_ofNat_of_isValidChar himage]
      omega
    have hn : ((d.toNat : Int) - s.offset).toNat = c.toNat := by omega
    simp only [hn, hholds, ← hd, Bool.true_and, beq_self_eq_true, if_true, Char.ofNat_toNat]

/-- The image of a character is its own image. -/
theorem apply_apply (h : Folds table) (c : Char) : apply table (apply table c) = apply table c := by
  by_cases hmoved : ∃ s ∈ table, s.run.holds c.toNat = true
  · obtain ⟨s, hs, hholds⟩ := hmoved
    apply apply_of_not_holds
    intro t ht
    obtain ⟨-, hzero, himage⟩ := (h.sound s hs).image hholds
    rw [apply_of_holds h.ascends hs hholds, toNat_ofNat_of_isValidChar himage]
    obtain ⟨hlo, hhi, hstep⟩ := Run.holds_iff.mp hholds
    refine not_holds_of_passBy h.ascends (h.settles s hs) (by omega) (by omega) ?_ ht
    intro halternate
    have hzero' := (h.sound s hs).2.1
    have heven : (c.toNat - s.run.lo) % 2 = 0 := by
      simp only [Bool.or_eq_true, beq_iff_eq] at halternate
      rcases halternate with htwo | hone
      · rwa [htwo] at hstep
      · omega
    omega
  · have hstay : apply table c = c := apply_of_not_holds (by simpa using hmoved)
    rw [hstay, hstay]

/-- Two characters have one image where one is the image of the other, or both are moved to it. -/
theorem apply_eq_apply_iff (h : Folds table) :
    apply table c = apply table d ↔
      d = c ∨ apply table d = c ∨ c ∈ sources table (apply table d) := by
  rw [mem_sources_iff h]
  constructor
  · intro heq
    by_cases hmoved : ∃ s ∈ table, s.run.holds c.toNat = true
    · obtain ⟨s, hs, hholds⟩ := hmoved
      exact .inr (.inr ⟨s, hs, hholds, heq⟩)
    · have hstay : apply table c = c := apply_of_not_holds (by simpa using hmoved)
      exact .inr (.inl (heq.symm.trans hstay))
  · rintro (rfl | rfl | ⟨-, -, -, heq⟩)
    · rfl
    · exact apply_apply h d
    · exact heq

end Shift

theorem folds_foldings : Shift.Folds foldings :=
  ⟨by decide +kernel, by decide +kernel, by decide +kernel⟩

end CodeOutline.Text
