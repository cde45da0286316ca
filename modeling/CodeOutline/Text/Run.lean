namespace CodeOutline.Text

/-- The code points `lo`, `lo + step`, `lo + 2 * step` and so on up to `hi`. -/
structure Run where
  lo : Nat
  hi : Nat
  step : Nat

/-- Whether `n` is one of the run's code points. -/
def Run.holds (r : Run) (n : Nat) : Bool :=
  r.lo ≤ n && n ≤ r.hi && (n - r.lo) % r.step == 0

/-- Whether `c` lies in one of the runs of an ascending table. -/
def Run.covers (table : List Run) (c : Char) : Bool :=
  match table with
  | [] => false
  | r :: rest => if c.toNat < r.lo then false else r.holds c.toNat || Run.covers rest c

/-- A run whose code points all lie at the same distance from their image. -/
structure Shift where
  run : Run
  offset : Int

/-- The image of `c` under an ascending table of shifts; a character of no run is its own image. -/
def Shift.apply (table : List Shift) (c : Char) : Char :=
  match table with
  | [] => c
  | s :: rest =>
    if c.toNat < s.run.lo then c
    else if s.run.holds c.toNat then Char.ofNat (c.toNat + s.offset).toNat
    else Shift.apply rest c

/-- The characters that a table of shifts sends to `c`, other than `c` itself. -/
def Shift.sources (table : List Shift) (c : Char) : List Char :=
  table.filterMap fun s =>
    let n := ((c.toNat : Int) - s.offset).toNat
    if s.run.holds n && (n : Int) + s.offset == c.toNat then some (Char.ofNat n) else none

end CodeOutline.Text
