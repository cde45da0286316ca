import Mathlib.Data.List.Basic
import CodeOutline.Search.Basic

namespace CodeOutline.Search

open Matching

@[simp] theorem skipSpace_start (inComment : Bool) (cs : List Char) :
    skipSpace .start inComment cs = cs := by
  cases cs <;> rfl

/-- How a character is written so that it stands for itself. -/
def escaped (c : Char) : List Char := if isMeta c then ['\\', c] else [c]

theorem toList_escape (text : String) : (escape text).toList = text.toList.flatMap escaped := by
  rw [escape, String.toList_ofList]
  rfl

/-- The part that matches a character. -/
def literally (c : Char) : Expr Char := oneOf (charSet .start c)

theorem readEscape_of_isMeta {c : Char} (h : isMeta c = true) (f : Flags) (rest : List Char) :
    readEscape f (c :: rest) = some (.char c, rest) := by
  simp only [isMeta, List.contains_eq_mem, List.mem_cons, List.not_mem_nil, or_false,
    decide_eq_true_eq] at h
  rcases h with rfl | rfl | rfl | rfl | rfl | rfl | rfl | rfl | rfl | rfl | rfl | rfl | rfl | rfl |
    rfl | rfl | rfl | rfl <;> rfl

variable {b : Branches}

/-- A backslash takes its meaning from the character after it. -/
theorem readBranches_escaped_meta {c : Char} (h : isMeta c = true) (hb : b.flags = .start)
    (fuel depth : Nat) (rest : List Char) :
    readBranches (fuel + 1) depth b ('\\' :: c :: rest) =
      readBranches fuel depth (b.push (literally c)) rest := by
  rw [readBranches]
  simp only [hb, skipSpace_start, readEscape_of_isMeta h]
  rfl

/-- A character without a meaning of its own stands for itself. -/
theorem readBranches_plain {c : Char} (h : isMeta c = false) (hb : b.flags = .start)
    (fuel depth : Nat) (rest : List Char) :
    readBranches (fuel + 1) depth b (c :: rest) =
      readBranches fuel depth (b.push (literally c)) rest := by
  rw [readBranches]
  simp only [hb, skipSpace_start]
  split
  any_goals contradiction
  rfl

theorem readBranches_escaped (c : Char) (hb : b.flags = .start) (fuel depth : Nat)
    (rest : List Char) :
    readBranches (fuel + 1) depth b (escaped c ++ rest) =
      readBranches fuel depth (b.push (literally c)) rest := by
  cases h : isMeta c with
  | true => simpa [escaped, h] using readBranches_escaped_meta h hb fuel depth rest
  | false => simpa [escaped, h] using readBranches_plain h hb fuel depth rest

/-- Adds parts to the current branch, the first of them first. -/
def Branches.pushAll (b : Branches) (es : List (Expr Char)) : Branches := es.foldl .push b

theorem readBranches_escape (cs : List Char) (hb : b.flags = .start) (fuel depth : Nat)
    (rest : List Char) :
    readBranches (fuel + cs.length) depth b (cs.flatMap escaped ++ rest) =
      readBranches fuel depth (b.pushAll (cs.map literally)) rest := by
  induction cs generalizing b with
  | nil => rfl
  | cons c cs ih =>
    rw [List.flatMap_cons, List.append_assoc, List.length_cons, ← Nat.add_assoc,
      readBranches_escaped c hb, ih (show (b.push (literally c)).flags = .start from hb)]
    rfl

theorem Branches.pushAll_eq (b : Branches) (es : List (Expr Char)) :
    b.pushAll es = { b with
      parts := es.reverse ++ b.parts, repeatable := b.repeatable || !es.isEmpty } := by
  induction es generalizing b with
  | nil => simp [Branches.pushAll]
  | cons e es ih =>
    have hrest : b.pushAll (e :: es) = (b.push e).pushAll es := rfl
    rw [hrest, ih]
    simp [Branches.push]

/-- Any character of the same line. -/
def inLine : Expr Char := .one (· != '\n')

theorem skipLazy_of_head_ne {rest : List Char} (h : rest.head? ≠ some '?') :
    skipLazy .start rest = rest := by
  rw [skipLazy, skipSpace_start]
  split
  · simp at h
  · rfl

/-- The dot and the star together: any number of characters of the same line. -/
theorem readBranches_dotStar (hb : b.flags = .start) (fuel depth : Nat) {rest : List Char}
    (hrest : rest.head? ≠ some '?') :
    readBranches (fuel + 2) depth b ('.' :: '*' :: rest) =
      readBranches fuel depth (b.push inLine.star) rest := by
  have hdot : readBranches (fuel + 2) depth b ('.' :: '*' :: rest) =
      readBranches (fuel + 1) depth (b.push inLine) ('*' :: rest) := by
    rw [readBranches]
    simp only [hb, skipSpace_start]
    rfl
  have hflags : (b.push inLine).flags = .start := hb
  rw [hdot, readBranches]
  simp only [hflags, skipSpace_start, skipLazy_of_head_ne hrest]
  rfl

theorem head?_escaped_ne (cs : List Char) {rest : List Char} (hrest : rest.head? ≠ some '?') :
    (cs.flatMap escaped ++ rest).head? ≠ some '?' := by
  cases cs with
  | nil => exact hrest
  | cons c cs =>
    rw [List.flatMap_cons, escaped]
    split
    · simp
    · rintro h
      have heq : c = '?' := by simpa using h
      subst heq
      contradiction

theorem length_le_flatMap_escaped (cs : List Char) :
    cs.length ≤ (cs.flatMap escaped).length := by
  induction cs with
  | nil => simp
  | cons c cs ih =>
    have hone : 1 ≤ (escaped c).length := by
      unfold escaped
      split <;> simp
    simp only [List.flatMap_cons, List.length_append, List.length_cons]
    omega

/-- With wildcards around it, an escaped text is read as the characters of the text. -/
theorem parse?_escape (text : String) :
    parse? (".*" ++ escape text ++ ".*") =
      some (Expr.all (inLine.star :: text.toList.map literally ++ [inLine.star])) := by
  have hlist : (".*" ++ escape text ++ ".*").toList =
      '.' :: '*' :: (text.toList.flatMap escaped ++ ['.', '*']) := by
    simp [String.toList_append, toList_escape]
  have hfuel : 1 + 2 + text.toList.length + 2 ≤ 2 * (".*" ++ escape text ++ ".*").length + 2 := by
    have := length_le_flatMap_escaped text.toList
    rw [← String.length_toList, hlist]
    simp only [List.length_cons, List.length_append, List.length_nil]
    omega
  obtain ⟨spare, hspare⟩ := Nat.exists_eq_add_of_le' hfuel
  rw [parse?, hspare, hlist]
  simp only [← Nat.add_assoc]
  rw [readBranches_dotStar rfl _ _ (head?_escaped_ne _ (by simp)), readBranches_escape _ rfl,
    Branches.pushAll_eq, readBranches_dotStar rfl _ _ (by simp), readBranches]
  simp [Branches.expr, Branches.push, Branches.start, Expr.any]

end CodeOutline.Search
