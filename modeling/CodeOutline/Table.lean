namespace CodeOutline

/-- What tells the keys of a table apart. -/
class Identity (κ : Type) (ι : outParam Type) where
  ident : κ → ι

export Identity (ident)

instance : Identity String String where
  ident s := s

/-- A map from keys to values. Its entries ascend, so there is at most one for each identity. An
    identity may be less than the whole key, so it matters which of two equal keys is kept. -/
structure Table (κ ν : Type) {ι : Type} [Identity κ ι] [Ord ι] where
  entries : List (κ × ν)
  ascending : entries.Pairwise fun a b => compare (ident a.1) (ident b.1) = .lt

namespace Table

variable {κ ι ν μ : Type} [Identity κ ι] [Ord ι]

/-- The table without entries. -/
def empty : Table κ ν := ⟨[], .nil⟩

instance : Inhabited (Table κ ν) := ⟨empty⟩

instance : EmptyCollection (Table κ ν) := ⟨empty⟩

/-- The stored keys, in ascending order. -/
def keys (t : Table κ ν) : List κ := t.entries.map Prod.fst

/-- The values, in the order of their keys. -/
def values (t : Table κ ν) : List ν := t.entries.map Prod.snd

/-- The number of entries. -/
def size (t : Table κ ν) : Nat := t.entries.length

/-- Whether there is no entry. -/
def isEmpty (t : Table κ ν) : Bool := t.entries.isEmpty

/-- The entry with the least key. -/
def least? (t : Table κ ν) : Option (κ × ν) := t.entries.head?

/-- The entry of an identity. -/
def stored? (t : Table κ ν) (i : ι) : Option (κ × ν) :=
  t.entries.find? fun e => compare (ident e.1) i == .eq

/-- The value stored for an identity. -/
def find? (t : Table κ ν) (i : ι) : Option ν := (t.stored? i).map Prod.snd

/-- The key stored for an identity. -/
def key? (t : Table κ ν) (i : ι) : Option κ := (t.stored? i).map Prod.fst

/-- Whether an identity has an entry. -/
def contains (t : Table κ ν) (i : ι) : Bool := (t.stored? i).isSome

/-- Other values under the same keys. -/
def map (t : Table κ ν) (f : κ → ν → μ) : Table κ μ where
  entries := t.entries.map fun e => (e.1, f e.1 e.2)
  ascending := List.pairwise_map.mpr t.ascending

/-- Drops the entry of an identity. -/
def erase (t : Table κ ν) (i : ι) : Table κ ν where
  entries := t.entries.filter fun e => compare (ident e.1) i != .eq
  ascending := t.ascending.filter _

/-- Puts `fresh` at the place of its key, or revises the entry that is already there. -/
def settle (fresh : κ × ν) (revise : κ × ν → κ × ν) : List (κ × ν) → List (κ × ν)
  | [] => [fresh]
  | e :: rest =>
    match compare (ident fresh.1) (ident e.1) with
    | .lt => fresh :: e :: rest
    | .eq => revise e :: rest
    | .gt => e :: settle fresh revise rest

/-- Whatever is revised keeps the place of its key. -/
def KeepsPlace (fresh : κ × ν) (revise : κ × ν → κ × ν) : Prop :=
  ∀ e, compare (ident fresh.1) (ident e.1) = .eq →
    compare (ident (revise e).1) (ident e.1) = .eq

theorem mem_settle {fresh e : κ × ν} {revise : κ × ν → κ × ν} {es : List (κ × ν)}
    (hmem : e ∈ settle fresh revise es) :
    e = fresh ∨ e ∈ es ∨
      ∃ a ∈ es, compare (ident fresh.1) (ident a.1) = .eq ∧ e = revise a := by
  induction es with
  | nil => exact .inl (List.mem_singleton.mp hmem)
  | cons a rest ih =>
    rw [settle] at hmem
    split at hmem
    · rcases List.mem_cons.mp hmem with hfresh | hold
      · exact .inl hfresh
      · exact .inr (.inl hold)
    · rename_i heq
      rcases List.mem_cons.mp hmem with hrevised | hold
      · exact .inr (.inr ⟨a, List.mem_cons_self, heq, hrevised⟩)
      · exact .inr (.inl (List.mem_cons_of_mem _ hold))
    · rcases List.mem_cons.mp hmem with hhead | htail
      · exact .inr (.inl (hhead ▸ List.mem_cons_self))
      · rcases ih htail with hfresh | hold | ⟨b, hb, heq, hrevised⟩
        · exact .inl hfresh
        · exact .inr (.inl (List.mem_cons_of_mem _ hold))
        · exact .inr (.inr ⟨b, List.mem_cons_of_mem _ hb, heq, hrevised⟩)

variable [Std.TransOrd ι]

theorem settle_ascending {fresh : κ × ν} {revise : κ × ν → κ × ν}
    (hkeeps : KeepsPlace fresh revise) {es : List (κ × ν)}
    (hasc : es.Pairwise fun a b => compare (ident a.1) (ident b.1) = .lt) :
    (settle fresh revise es).Pairwise fun a b => compare (ident a.1) (ident b.1) = .lt := by
  induction es with
  | nil => exact List.pairwise_singleton _ _
  | cons a rest ih =>
    obtain ⟨hhead, htail⟩ := List.pairwise_cons.mp hasc
    rw [settle]
    split
    · rename_i hlt
      refine List.pairwise_cons.mpr ⟨fun b hb => ?_, hasc⟩
      rcases List.mem_cons.mp hb with rfl | hb
      · exact hlt
      · exact Std.TransCmp.lt_trans hlt (hhead b hb)
    · rename_i heq
      refine List.pairwise_cons.mpr ⟨fun b hb => ?_, htail⟩
      exact Std.TransCmp.lt_of_eq_of_lt (hkeeps a heq) (hhead b hb)
    · rename_i hgt
      have hafter : compare (ident a.1) (ident fresh.1) = .lt := Std.OrientedCmp.lt_of_gt hgt
      refine List.pairwise_cons.mpr ⟨fun b hb => ?_, ih htail⟩
      rcases mem_settle hb with rfl | hold | ⟨c, hc, heq, rfl⟩
      · exact hafter
      · exact hhead b hold
      · exact Std.TransCmp.lt_of_lt_of_eq (hhead c hc) (Std.OrientedCmp.eq_symm (hkeeps c heq))

theorem keepsPlace_value (k : κ) (v : ν) : KeepsPlace (k, v) fun e => (e.1, v) := by
  intro e _
  exact Std.ReflOrd.compare_self

omit [Std.TransOrd ι] in
theorem keepsPlace_fresh (fresh : κ × ν) : KeepsPlace fresh fun _ => fresh := by
  intro e heq
  exact heq

theorem keepsPlace_id (fresh : κ × ν) : KeepsPlace fresh id := by
  intro e _
  exact Std.ReflOrd.compare_self

/-- Stores `fresh`, or revises the entry that is already there. -/
def store (t : Table κ ν) (fresh : κ × ν) (revise : κ × ν → κ × ν)
    (hkeeps : KeepsPlace fresh revise) : Table κ ν where
  entries := settle fresh revise t.entries
  ascending := settle_ascending hkeeps t.ascending

/-- Stores a value; the key of an entry that is already there stays. -/
def insert (t : Table κ ν) (k : κ) (v : ν) : Table κ ν :=
  t.store (k, v) (fun e => (e.1, v)) (keepsPlace_value k v)

/-- Stores a value under exactly this key. -/
def put (t : Table κ ν) (k : κ) (v : ν) : Table κ ν :=
  t.store (k, v) (fun _ => (k, v)) (keepsPlace_fresh (k, v))

/-- Stores a value unless there is an entry already. -/
def insertNew (t : Table κ ν) (k : κ) (v : ν) : Table κ ν :=
  t.store (k, v) id (keepsPlace_id (k, v))

/-- The table of a list of entries, of which a later one replaces an earlier one. -/
def ofList (entries : List (κ × ν)) : Table κ ν :=
  entries.foldl (fun t e => t.put e.1 e.2) empty

/-- The distinct members of a list in ascending order; of equal ones the first stays. -/
def firstDistinct (xs : List κ) : List κ :=
  (xs.foldl (fun t x => t.insertNew x ()) (empty : Table κ Unit)).keys

/-- The distinct members of a list in ascending order; of equal ones the last stays. -/
def lastDistinct (xs : List κ) : List κ :=
  (ofList (xs.map fun x => (x, ()))).keys

end Table

end CodeOutline
