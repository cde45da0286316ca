import Mathlib.Data.List.Forall2
import CodeOutline.Matching.Expr

namespace CodeOutline.Matching

namespace Expr

variable {α : Type} {text : Array α} {R : Nat → Nat → Prop} {step : List Nat → List Nat}

/-- Reaching a position in a number of steps. -/
def Steps (R : Nat → Nat → Prop) : Nat → Nat → Nat → Prop
  | 0, i, j => j = i
  | n + 1, i, j => ∃ k, R i k ∧ Steps R n k j

/-- Whether the expression matches what stands in `text` from one position to another. -/
def Matches (text : Array α) : Expr α → Nat → Nat → Prop
  | .nothing, i, j => j = i
  | .one test, i, j => (∃ c, text[i]? = some c ∧ test c) ∧ j = i + 1
  | .look test, i, j => test (if i = 0 then none else text[i - 1]?) text[i]? ∧ j = i
  | .seq first second, i, j => ∃ k, first.Matches text i k ∧ second.Matches text k j
  | .alt left right, i, j => left.Matches text i j ∨ right.Matches text i j
  | .times least most? body, i, j =>
    ∃ n, least ≤ n ∧ (∀ most, most? = some most → n ≤ max least most) ∧
      Steps (body.Matches text) n i j

theorem steps_add {m n i j : Nat} :
    Steps R (m + n) i j ↔ ∃ k, Steps R m i k ∧ Steps R n k j := by
  induction m generalizing i with
  | zero => simp [Steps]
  | succ m ih =>
    rw [Nat.succ_add]
    simp only [Steps, ih]
    constructor
    · rintro ⟨k, hik, l, hkl, hlj⟩
      exact ⟨l, ⟨k, hik, hkl⟩, hlj⟩
    · rintro ⟨l, ⟨k, hik, hkl⟩, hlj⟩
      exact ⟨k, hik, l, hkl, hlj⟩

/-- What every step keeps, any number of steps keep. -/
theorem Steps.closed {P : Nat → Prop} (hstep : ∀ i j, P i → R i j → P j) :
    ∀ {n i j}, Steps R n i j → P i → P j
  | 0, i, j, h, hi => by
    have heq : j = i := h
    rwa [heq]
  | n + 1, i, j, ⟨k, hik, hkj⟩, hi => hkj.closed hstep (hstep i k hi hik)

/-- Where no step goes back, the steps that stay can be left out. -/
theorem Steps.shorten (hle : ∀ i j, R i j → i ≤ j) :
    ∀ {n i j}, Steps R n i j → i ≤ j ∧ ∃ m, m ≤ j - i ∧ Steps R m i j
  | 0, i, j, h => by
    have heq : j = i := h
    exact ⟨by omega, 0, by omega, heq⟩
  | n + 1, i, j, ⟨k, hik, hkj⟩ => by
    obtain ⟨hk, m, hm, hrest⟩ := hkj.shorten hle
    have hi := hle i k hik
    by_cases hstay : k = i
    · subst hstay
      exact ⟨hk, m, hm, hrest⟩
    · exact ⟨by omega, m + 1, by omega, k, hik, hrest⟩

theorem mem_union {a b : List Nat} {i : Nat} : i ∈ union a b ↔ i ∈ a ∨ i ∈ b := by
  simp only [union, List.mem_append, List.mem_filter, decide_eq_true_eq]
  tauto

/-- A union that is no longer has nothing new in it. -/
theorem subset_of_length_union {a b : List Nat} (h : (union a b).length = a.length) {i : Nat}
    (hi : i ∈ b) : i ∈ a := by
  have hnone : b.filter (· ∉ a) = [] := by
    have : (b.filter (· ∉ a)).length = 0 := by simpa [union] using h
    exact List.length_eq_zero_iff.mp this
  simpa using List.filter_eq_nil_iff.mp hnone i hi

theorem mem_repeatStep (hstep : ∀ s j, j ∈ step s ↔ ∃ i ∈ s, R i j) (n : Nat) (s : List Nat)
    (j : Nat) : j ∈ repeatStep step n s ↔ ∃ i ∈ s, Steps R n i j := by
  induction n generalizing s with
  | zero => simp [repeatStep, Steps]
  | succ n ih =>
    cases s with
    | nil => simp [repeatStep]
    | cons i rest =>
      simp only [repeatStep, List.isEmpty_cons, Bool.false_eq_true, if_false, ih, hstep, Steps]
      constructor
      · rintro ⟨k, ⟨i, hi, hik⟩, hkj⟩
        exact ⟨i, hi, k, hik, hkj⟩
      · rintro ⟨i, hi, k, hik, hkj⟩
        exact ⟨k, ⟨i, hi, hik⟩, hkj⟩

theorem mem_spread (hstep : ∀ s j, j ∈ step s ↔ ∃ i ∈ s, R i j) (n : Nat) (s : List Nat)
    (j : Nat) : j ∈ spread step n s ↔ ∃ i ∈ s, ∃ m, m ≤ n ∧ Steps R m i j := by
  induction n generalizing s with
  | zero => simp [spread, Steps]
  | succ n ih =>
    simp only [spread]
    split
    case isTrue hsame =>
      -- The set is closed under steps, so that more rounds find nothing else.
      have hclosed : ∀ i k, i ∈ s → R i k → k ∈ s := fun i k hi hik =>
        subset_of_length_union hsame ((hstep s k).mpr ⟨i, hi, hik⟩)
      constructor
      · intro hj
        exact ⟨j, hj, 0, by omega, rfl⟩
      · rintro ⟨i, hi, m, -, hsteps⟩
        exact hsteps.closed hclosed hi
    case isFalse =>
      simp only [ih, mem_union, hstep]
      constructor
      · rintro ⟨k, hk | ⟨i, hi, hik⟩, m, hm, hkj⟩
        · exact ⟨k, hk, m, by omega, hkj⟩
        · exact ⟨i, hi, m + 1, by omega, k, hik, hkj⟩
      · rintro ⟨i, hi, m, hm, hij⟩
        cases m with
        | zero => exact ⟨i, .inl hi, 0, by omega, hij⟩
        | succ m =>
          obtain ⟨k, hik, hkj⟩ := hij
          exact ⟨k, .inr ⟨i, hi, hik⟩, m, by omega, hkj⟩

/-- A match does not go back, and goes nowhere beyond the end of the text. -/
theorem Matches.bounds {e : Expr α} :
    ∀ {i j}, e.Matches text i j → i ≤ j ∧ (j = i ∨ j ≤ text.size) := by
  induction e with
  | nothing => rintro i j rfl; simp
  | one test =>
    rintro i j ⟨⟨c, hc, -⟩, rfl⟩
    obtain ⟨hi, -⟩ := Array.getElem?_eq_some_iff.mp hc
    omega
  | look test => rintro i j ⟨-, rfl⟩; simp
  | seq first second ihFirst ihSecond =>
    rintro i j ⟨k, hik, hkj⟩
    have := ihFirst hik
    have := ihSecond hkj
    omega
  | alt left right ihLeft ihRight =>
    rintro i j (h | h)
    · exact ihLeft h
    · exact ihRight h
  | times least most? body ih =>
    rintro i j ⟨n, -, -, hsteps⟩
    refine hsteps.closed (P := fun k => i ≤ k ∧ (k = i ∨ k ≤ text.size)) ?_ (by simp)
    intro k l hk hkl
    have := ih hkl
    omega

/-- Running an expression on a set of positions reaches the ends of its matches from there. -/
theorem mem_advance_iff {e : Expr α} {s : List Nat} {j : Nat} :
    j ∈ e.advance text s ↔ ∃ i ∈ s, e.Matches text i j := by
  induction e generalizing s j with
  | nothing => simp [advance, Matches]
  | one test =>
    simp only [advance, List.mem_filterMap, Matches]
    refine exists_congr fun i => and_congr_right fun _ => ?_
    cases text[i]? with
    | none => simp
    | some c => by_cases hc : test c <;> simp [hc, @eq_comm Nat j]
  | look test =>
    simp only [advance, List.mem_filter, Matches]
    constructor
    · rintro ⟨hj, htest⟩
      exact ⟨j, hj, htest, rfl⟩
    · rintro ⟨i, hi, htest, rfl⟩
      exact ⟨hi, htest⟩
  | seq first second ihFirst ihSecond =>
    simp only [advance, ihSecond, ihFirst, Matches]
    constructor
    · rintro ⟨k, ⟨i, hi, hik⟩, hkj⟩
      exact ⟨i, hi, k, hik, hkj⟩
    · rintro ⟨i, hi, k, hik, hkj⟩
      exact ⟨k, ⟨i, hi, hik⟩, hkj⟩
  | alt left right ihLeft ihRight =>
    simp only [advance, mem_union, ihLeft, ihRight, Matches, and_or_left, exists_or]
  | times least most? body ih =>
    have hstep : ∀ s j, j ∈ advance text body s ↔ ∃ i ∈ s, body.Matches text i j :=
      fun s j => ih
    simp only [advance, mem_spread hstep, mem_repeatStep hstep, Matches]
    constructor
    · rintro ⟨k, ⟨i, hi, hik⟩, m, hm, hkj⟩
      refine ⟨i, hi, least + m, by omega, ?_, steps_add.mpr ⟨k, hik, hkj⟩⟩
      rintro most rfl
      simp only at hm
      omega
    · rintro ⟨i, hi, n, hleast, hmost, hij⟩
      obtain ⟨m, rfl⟩ := Nat.exists_eq_add_of_le hleast
      obtain ⟨k, hik, hkj⟩ := steps_add.mp hij
      refine ⟨k, ⟨i, hi, hik⟩, ?_⟩
      cases most? with
      | some most => exact ⟨m, by have := hmost most rfl; simp only; omega, hkj⟩
      | none =>
        -- Steps that stay do not count, and the others are at most as many as there are positions.
        obtain ⟨-, m', hm', hshort⟩ := hkj.shorten fun i j h => h.bounds.1
        refine ⟨m', ?_, hshort⟩
        have hbounds : j = k ∨ j ≤ text.size := by
          refine hkj.closed (P := fun l => l = k ∨ l ≤ text.size) ?_ (by simp)
          intro l l' hl hll'
          have := hll'.bounds
          omega
        simp only
        omega

theorem occursIn_iff {e : Expr α} :
    e.occursIn text = true ↔ ∃ i j, i ≤ text.size ∧ e.Matches text i j := by
  have hne : e.occursIn text = true ↔ ∃ j, j ∈ e.advance text (List.range (text.size + 1)) := by
    simp only [occursIn, Bool.not_eq_true', List.isEmpty_eq_false_iff_exists_mem]
  simp only [hne, mem_advance_iff, List.mem_range, Nat.lt_succ_iff]
  exact exists_comm.trans (by simp only [exists_and_left])

theorem matches_all_append {es fs : List (Expr α)} {i j : Nat} :
    (all (es ++ fs)).Matches text i j ↔
      ∃ k, (all es).Matches text i k ∧ (all fs).Matches text k j := by
  induction es generalizing i with
  | nil => simp [all, Matches]
  | cons e es ih =>
    simp only [all, List.cons_append, List.foldr_cons, Matches] at ih ⊢
    simp only [ih]
    constructor
    · rintro ⟨k, hik, l, hkl, hlj⟩
      exact ⟨l, ⟨k, hik, hkl⟩, hlj⟩
    · rintro ⟨l, ⟨k, hik, hkl⟩, hlj⟩
      exact ⟨k, hik, l, hkl, hlj⟩

theorem matches_all_singleton {e : Expr α} {i j : Nat} :
    (all [e]).Matches text i j ↔ e.Matches text i j := by
  simp [all, Matches]

theorem star_stays (e : Expr α) (i : Nat) : e.star.Matches text i i :=
  ⟨0, by omega, by simp, rfl⟩

/-- An expression that is looked for anywhere is not helped by any number of anything around it. -/
theorem occursIn_around (e : Expr α) (es : List (Expr α)) :
    (all (e.star :: es ++ [e.star])).occursIn text = (all es).occursIn text := by
  rw [Bool.eq_iff_iff, occursIn_iff, occursIn_iff, ← List.singleton_append]
  simp only [matches_all_append, matches_all_singleton]
  constructor
  · rintro ⟨i, j, hi, l, ⟨k, hik, hkl⟩, -⟩
    have := hik.bounds
    exact ⟨k, l, by omega, hkl⟩
  · rintro ⟨i, j, hi, hij⟩
    exact ⟨i, j, hi, j, ⟨i, star_stays e i, hij⟩, star_stays e j⟩

/-- The symbols pass the tests one by one. -/
def Pass (tests : List (α → Bool)) (part : List α) : Prop :=
  List.Forall₂ (fun test c => test c = true) tests part

theorem matches_tests_iff {tests : List (α → Bool)} {i j : Nat} :
    (all (tests.map .one)).Matches text i j ↔
      ∃ part, Pass tests part ∧ part <+: text.toList.drop i ∧ j = i + part.length := by
  induction tests generalizing i with
  | nil => simp [all, Matches, Pass, List.forall₂_nil_left_iff]
  | cons test tests ih =>
    have hcons : (all ((test :: tests).map .one)).Matches text i j ↔
        (∃ c, text[i]? = some c ∧ test c) ∧ (all (tests.map .one)).Matches text (i + 1) j := by
      simp only [all, List.map_cons, List.foldr_cons, Matches]
      constructor
      · rintro ⟨_, ⟨hc, rfl⟩, hrest⟩
        exact ⟨hc, hrest⟩
      · rintro ⟨hc, hrest⟩
        exact ⟨i + 1, ⟨hc, rfl⟩, hrest⟩
    rw [hcons, ih]
    constructor
    · rintro ⟨⟨c, hc, htest⟩, part, hpass, hpart, rfl⟩
      refine ⟨c :: part, hpass.cons htest, ?_, by simp; omega⟩
      obtain ⟨hi, rfl⟩ := Array.getElem?_eq_some_iff.mp hc
      rw [List.drop_eq_getElem_cons (by simpa using hi), List.prefix_cons_iff]
      exact .inr ⟨part, by simp, hpart⟩
    · rintro ⟨_, hpass, ⟨rest, hpart⟩, rfl⟩
      cases hpass with
      | @cons _ c _ part htest hpass =>
        have hc : text[i]? = some c := by
          rw [← Array.getElem?_toList, ← List.head?_drop, ← hpart]
          rfl
        have hrest : part ++ rest = text.toList.drop (i + 1) := by
          rw [← List.tail_drop, ← hpart]
          rfl
        exact ⟨⟨c, hc, htest⟩, part, hpass, ⟨rest, hrest⟩, by simp; omega⟩

/-- A row of tests is met somewhere if the symbols of some part of the text pass them. -/
theorem occursIn_tests_iff {tests : List (α → Bool)} :
    (all (tests.map .one)).occursIn text = true ↔
      ∃ before part after, text.toList = before ++ part ++ after ∧ Pass tests part := by
  simp only [occursIn_iff, matches_tests_iff]
  constructor
  · rintro ⟨i, _, -, part, hpass, ⟨after, hpart⟩, -⟩
    refine ⟨text.toList.take i, part, after, ?_, hpass⟩
    rw [List.append_assoc, hpart, List.take_append_drop]
  · rintro ⟨before, part, after, htext, hpass⟩
    have hlen : before.length ≤ text.size := by
      rw [← Array.length_toList, htext]
      simp
    refine ⟨before.length, _, hlen, part, hpass, ⟨after, ?_⟩, rfl⟩
    rw [htext, List.append_assoc, List.drop_left]

end Expr

end CodeOutline.Matching
