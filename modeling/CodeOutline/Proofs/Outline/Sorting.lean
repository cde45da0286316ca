import CodeOutline.Proofs.Outline.Definitions
import Mathlib.Data.List.Sort

namespace CodeOutline

/-- A stable sort has one result. -/
theorem mergeSort_eq_insertionSort {α : Type} {le : α → α → Bool}
    (htrans : ∀ a b c, le a b → le b c → le a c) (htotal : ∀ a b, le a b || le b a)
    (xs : List α) : xs.mergeSort le = xs.insertionSort (le · ·) := by
  induction xs with
  | nil => rw [List.mergeSort_nil, List.insertionSort_nil]
  | cons x xs ih =>
    obtain ⟨smaller, larger, hcons, hrest, hsmaller⟩ := List.mergeSort_cons htrans htotal x xs
    have hsorted := List.pairwise_mergeSort htrans htotal (x :: xs)
    rw [hcons, List.pairwise_append, List.pairwise_cons] at hsorted
    have hlarger : ∀ y ∈ larger, le x y := hsorted.2.1.1
    rw [List.insertionSort_cons, ← ih, hrest, hcons, List.orderedInsert_eq_take_drop,
      List.takeWhile_append_of_pos (by simpa using hsmaller),
      List.dropWhile_append_of_pos (by simpa using hsmaller)]
    -- insertion stops right before what comes after `x`
    cases larger with
    | nil => simp
    | cons y larger => simp [hlarger y List.mem_cons_self]

namespace Pattern

theorem comesBefore_trans (a b c : Place) (hab : comesBefore a b) (hbc : comesBefore b c) :
    comesBefore a c := by
  simp only [comesBefore, bne_iff_ne, ne_eq, ← Ordering.isLE_iff_ne_gt] at *
  exact Std.TransCmp.isLE_trans hab hbc

theorem comesBefore_total (a b : Place) : comesBefore a b || comesBefore b a := by
  have hswap : compare b.position a.position = (compare a.position b.position).swap :=
    Std.OrientedCmp.eq_swap
  rw [comesBefore, comesBefore, hswap]
  cases compare a.position b.position <;> rfl

theorem matchAll_eq_insertionSort (patterns : List Pattern) (t : Tree) : matchAll patterns t =
    ((Place.root t).descendants.flatMap fun p => patterns.flatMap (matchAt p)).insertionSort
      fun a b => comesBefore a.last b.last :=
  mergeSort_eq_insertionSort (fun a b c => comesBefore_trans a.last b.last c.last)
    (fun a b => comesBefore_total a.last b.last) _

end Pattern

theorem Definition.all_eq_insertionSort (rules : Rules) (file : Path) (source : String) (t : Tree) :
    Definition.all rules file source t =
      let (found, notices) :=
        (((Place.root t).descendants.flatMap fun p =>
          rules.patterns.flatMap (Pattern.matchAt p)).insertionSort
            fun a b => Pattern.comesBefore a.last b.last).foldl
          (fun found m => m.captures.foldl (collect rules file source m) found) ([], [])
      (found.insertionSort fun a b => notAfter a b, notices) := by
  unfold Definition.all
  rw [Pattern.matchAll_eq_insertionSort]
  dsimp only
  rw [mergeSort_eq_insertionSort notAfter_trans notAfter_total]

namespace Tree

def named (kind : String) (field? : Option String) (startByte endByte : Nat)
    (children : List Tree) : Tree :=
  .node ⟨kind, true, false, false, startByte, endByte, field?⟩ children

def token (text : String) (startByte : Nat) : Tree :=
  .node ⟨text, false, false, false, startByte, startByte + text.utf8ByteSize, none⟩ []

/-- A Rust structure after some modifiers, `struct A { x: u8 }` with any two letters. -/
def structItem (modifiers : List Tree) (startByte keyword : Nat) : Tree :=
  let field := named "field_declaration" none (keyword + 11) (keyword + 16)
    [named "field_identifier" (some "name") (keyword + 11) (keyword + 12) [],
      token ":" (keyword + 12), named "primitive_type" (some "type") (keyword + 14) (keyword + 16) []]
  named "struct_item" none startByte (keyword + 18) (modifiers ++
    [token "struct" keyword, named "type_identifier" (some "name") (keyword + 7) (keyword + 8) [],
      named "field_declaration_list" (some "body") (keyword + 9) (keyword + 18)
        [token "\x7b" (keyword + 9), field, token "\x7d" (keyword + 17)]])

end Tree

end CodeOutline
