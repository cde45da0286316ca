import CodeOutline.Analyzer.Answer
import CodeOutline.Proofs.Declaration.Components
import CodeOutline.Proofs.Members.Closure
import CodeOutline.Proofs.Skeleton.Visiting
import CodeOutline.Proofs.Table.Order
import CodeOutline.Rules.Registry

namespace CodeOutline

namespace Analyzer

variable {a : Analyzer} {sources : List Declaration}

theorem mem_symbols_iff (hcopies : a.index.members.CopiesAgree sources) {symbol : String} :
    symbol ∈ a.symbols sources ↔
      symbol ≠ "" ∧ ∃ d, a.index.members.Reaches sources d ∧ d.identifier = symbol := by
  have hreversed : a.index.members.CopiesAgree sources.reverse :=
    hcopies.mono fun d hd => List.mem_reverse.mp hd
  have hreaches : ∀ d, a.index.members.Reaches sources.reverse d ↔
      a.index.members.Reaches sources d := by
    intro d
    exact ⟨.mono fun s hs => List.mem_reverse.mp hs, .mono fun s hs => List.mem_reverse.mpr hs⟩
  rw [symbols, Table.mem_firstDistinct_iff (fun _ _ _ _ hsame => hsame), List.mem_filter,
    List.mem_map]
  simp only [hreversed.mem_walk_iff, hreaches, decide_eq_true_eq]
  exact and_comm

theorem symbols_ascending (a : Analyzer) (sources : List Declaration) :
    (a.symbols sources).Pairwise fun s t => compare s t = .lt :=
  Table.firstDistinct_ascending _

/-- Of whatever index, and whether or not declarations hold each other: where the copies of each
    name agree, the symbols of some declarations are the identifiers, if not empty, of all that can
    be reached from them, in ascending order. They do not depend on order and repetition of the
    declarations, and of fewer declarations there are no others. -/
theorem symbols_eq_reached (a : Analyzer) (sources : List Declaration)
    (hcopies : a.index.members.CopiesAgree sources) :
    (∀ symbol, symbol ∈ a.symbols sources ↔
      symbol ≠ "" ∧ ∃ d, a.index.members.Reaches sources d ∧ d.identifier = symbol) ∧
    ((a.symbols sources).Pairwise fun s t => compare s t = .lt) ∧
    (∀ others : List Declaration, (∀ d, d ∈ others ↔ d ∈ sources) →
      a.symbols others = a.symbols sources) ∧
    ∀ fewer : List Declaration, fewer ⊆ sources → a.symbols fewer ⊆ a.symbols sources := by
  have hmono : ∀ fewer : List Declaration, fewer ⊆ sources →
      a.symbols fewer ⊆ a.symbols sources := by
    intro fewer hfewer symbol hsymbol
    obtain ⟨hne, d, hd, hidentifier⟩ := (mem_symbols_iff (hcopies.mono hfewer)).mp hsymbol
    exact (mem_symbols_iff hcopies).mpr ⟨hne, d, hd.mono hfewer, hidentifier⟩
  refine ⟨fun _ => mem_symbols_iff hcopies, symbols_ascending a sources, ?_, hmono⟩
  intro others hsame
  have hothers : a.index.members.CopiesAgree others := hcopies.mono fun d hd => (hsame d).mp hd
  refine Table.eq_of_ascending id (symbols_ascending a others) (symbols_ascending a sources) ?_
  intro symbol
  rw [mem_symbols_iff hothers, mem_symbols_iff hcopies]
  refine and_congr_right fun _ => exists_congr fun d => and_congr_left fun _ => ?_
  exact ⟨.mono fun s hs => (hsame s).mp hs, .mono fun s hs => (hsame s).mpr hs⟩

open Index (ring link linkedRing)

/-- Two classes that hold themselves and each other. -/
def ringKnown : Analyzer := ⟨Rules.python, linkedRing⟩

theorem mem_children_ringKnown {owner : String} {d : Declaration}
    (hd : d ∈ ringKnown.index.members.children owner) : d = ring ∨ d = link := by
  have howner := ringKnown.index.childrenOf_owner owner (List.ne_nil_of_mem hd)
  have hnames : ringKnown.index.children.keys.map Declaration.name = ["Link", "Ring"] := by decide
  have hring : linkedRing.childrenOf "Ring" = [ring, link] := by decide
  have hlink : linkedRing.childrenOf "Link" = [ring, link] := by decide
  rw [hnames, List.mem_cons, List.mem_singleton] at howner
  rcases howner with rfl | rfl
  · rw [show ringKnown.index.members.children "Link" = [ring, link] from hlink] at hd
    simpa using hd
  · rw [show ringKnown.index.members.children "Ring" = [ring, link] from hring] at hd
    simpa using hd

/-- The one class leads to both, also when it is given twice. -/
theorem symbols_eq_reached_ring : ringKnown.index.members.CopiesAgree [ring, ring] ∧
    link ∈ ringKnown.index.childrenOf "Ring" ∧ ring ∈ ringKnown.index.childrenOf "Link" ∧
    ringKnown.symbols [ring, ring] = ["Link", "Ring"] := by
  have hcopies : ringKnown.index.members.CopiesAgree [ring, ring] := by
    have hlisted : ∀ d, (d ∈ [ring, ring] ∨ ∃ owner, d ∈ ringKnown.index.members.children owner) →
        d = ring ∨ d = link := by
      rintro d (hd | ⟨owner, hd⟩)
      · exact .inl (by simpa using hd)
      · exact mem_children_ringKnown hd
    intro d e hd he
    rcases hlisted d hd with rfl | rfl <;> rcases hlisted e he with rfl | rfl <;> decide
  have hmember : link ∈ ringKnown.index.childrenOf "Ring" := by decide
  refine ⟨hcopies, hmember, by decide, ?_⟩
  obtain ⟨hmem, hascending, _⟩ := symbols_eq_reached ringKnown [ring, ring] hcopies
  have hring : ring.identifier = "Ring" := by
    rw [Declaration.identifier_eq, Declaration.shortName_eq, Declaration.relativeName_eq]
    decide
  have hlink : link.identifier = "Link" := by
    rw [Declaration.identifier_eq, Declaration.shortName_eq, Declaration.relativeName_eq]
    decide
  have hstart : ringKnown.index.members.Reaches [ring, ring] ring := .source List.mem_cons_self
  refine Table.eq_of_ascending id hascending (by decide) ?_
  intro symbol
  rw [hmem, List.mem_cons, List.mem_singleton]
  constructor
  · rintro ⟨_, d, hd, rfl⟩
    have hboth : d = ring ∨ d = link := by
      rcases hd.listed with hsource | ⟨owner, hchild⟩
      · exact .inl (by simpa using hsource)
      · exact mem_children_ringKnown hchild
    rcases hboth with rfl | rfl
    · exact .inr hring
    · exact .inl hlink
  · rintro (rfl | rfl)
    · exact ⟨by decide, link, hstart.member hmember, hlink⟩
    · exact ⟨by decide, ring, hstart, hring⟩

end Analyzer

end CodeOutline
