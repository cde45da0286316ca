namespace CodeOutline.Matching

/-- A regular expression over any alphabet, with look-around at single symbols. -/
inductive Expr (α : Type) where
  /-- Matches where it stands. -/
  | nothing
  /-- Matches one symbol that passes the test. -/
  | one (test : α → Bool)
  /-- Matches where it stands if the symbols before and after pass the test. -/
  | look (test : Option α → Option α → Bool)
  | seq (first second : Expr α)
  | alt (left right : Expr α)
  /-- Matches at least `least` times in a row, and at most `most?` times if that is given. -/
  | times (least : Nat) (most? : Option Nat) (body : Expr α)

namespace Expr

variable {α : Type}

/-- Matches the expressions one after the other. -/
def all (es : List (Expr α)) : Expr α := es.foldr .seq .nothing

/-- Matches never. -/
def never : Expr α := .one fun _ => false

/-- Matches a text symbol by symbol, as `same` compares symbols. -/
def literal (same : α → α → Bool) (text : List α) : Expr α :=
  all (text.map fun symbol => .one (same symbol))

/-- Matches one of the expressions. -/
def any : List (Expr α) → Expr α
  | [] => never
  | e :: es => es.foldl .alt e

/-- Matches any number of times. -/
def star (e : Expr α) : Expr α := .times 0 none e

/-- Matches once or not at all. -/
def optional (e : Expr α) : Expr α := .times 0 (some 1) e

/-- The members of two sets of positions. -/
def union (a b : List Nat) : List Nat := a ++ b.filter (· ∉ a)

/-- Takes a step a number of times. -/
def repeatStep (step : List Nat → List Nat) : Nat → List Nat → List Nat
  | 0, s => s
  | n + 1, s => if s.isEmpty then [] else repeatStep step n (step s)

/-- Takes a step up to a number of times, and keeps all that is reached on the way. -/
def spread (step : List Nat → List Nat) : Nat → List Nat → List Nat
  | 0, s => s
  | n + 1, s =>
    let wider := union s (step s)
    if wider.length = s.length then s else spread step n wider

/-- The positions in `text` that the expression can reach from the positions of a set. -/
def advance (text : Array α) : Expr α → List Nat → List Nat
  | .nothing, s => s
  | .one test, s => s.filterMap fun i =>
    match text[i]? with
    | some c => if test c then some (i + 1) else none
    | none => none
  | .look test, s => s.filter fun i =>
    test (if i = 0 then none else text[i - 1]?) text[i]?
  | .seq first second, s => advance text second (advance text first s)
  | .alt left right, s => union (advance text left s) (advance text right s)
  | .times least most? body, s =>
    let step := advance text body
    let rounds := match most? with
      | some most => most - least
      | none => text.size + 1
    spread step rounds (repeatStep step least s)

/-- Whether the expression matches somewhere in the text. -/
def occursIn (e : Expr α) (text : Array α) : Bool :=
  !(e.advance text (List.range (text.size + 1))).isEmpty

/-- Whether the expression matches the whole text. -/
def matchesAll (e : Expr α) (text : Array α) : Bool :=
  (e.advance text [0]).contains text.size

end Expr

end CodeOutline.Matching
