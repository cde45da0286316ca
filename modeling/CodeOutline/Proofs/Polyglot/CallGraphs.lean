import CodeOutline.Proofs.Analyzer.Integrity
import CodeOutline.Proofs.Distinct
import CodeOutline.Proofs.Polyglot.Hearing
import CodeOutline.Proofs.Table.Lookup

namespace CodeOutline

theorem CallSite.same_iff {a b : CallSite} :
    a.same b = true ↔ a.target.name = b.target.name ∧ a.line = b.line := by
  simp [same]

theorem CallSite.same_equivalence : Equivalence fun a b => CallSite.same a b = true where
  refl _ := same_iff.mpr ⟨rfl, rfl⟩
  symm h := same_iff.mpr ⟨(same_iff.mp h).1.symm, (same_iff.mp h).2.symm⟩
  trans h h' := same_iff.mpr
    ⟨(same_iff.mp h).1.trans (same_iff.mp h').1, (same_iff.mp h).2.trans (same_iff.mp h').2⟩

namespace CallGraph

/-- The calls that a graph lists for a caller. -/
def sitesOf (graph : CallGraph) (caller : String) : List CallSite := (graph.find? caller).getD []

theorem mem_keys_iff_isSome {graph : CallGraph} {caller : String} :
    caller ∈ graph.keys ↔ (graph.find? caller).isSome := by
  rw [← Table.mem_idents_iff]
  show _ ↔ caller ∈ graph.keys.map id
  rw [List.map_id]

/-- Adding calls to what is left of others leaves what adding both to none leaves. -/
theorem addSites_eraseDupsBy (known sites : List CallSite) :
    addSites (known.eraseDupsBy CallSite.same) sites =
      (known ++ sites).eraseDupsBy CallSite.same := by
  rw [addSites, ← foldl_keep_eq_eraseDupsBy, ← foldl_keep_eq_eraseDupsBy, List.foldl_append]

/-- The entries of a graph are added one by one, and no caller has two of them. -/
theorem find?_foldl_insert {entries : List (String × List CallSite)}
    (hascending : entries.Pairwise fun a b => compare (ident a.1) (ident b.1) = .lt)
    (graph : CallGraph) (caller : String) :
    (entries.foldl (fun graph e => graph.insert e.1 (addSites ((graph.find? e.1).getD []) e.2))
        graph).find? caller =
      match (entries.find? fun e => compare (ident e.1) caller == .eq).map Prod.snd with
      | none => graph.find? caller
      | some sites => some (addSites (graph.sitesOf caller) sites) := by
  induction entries generalizing graph with
  | nil => rfl
  | cons e rest ih =>
    obtain ⟨hfirst, hrest⟩ := List.pairwise_cons.mp hascending
    rw [List.foldl_cons, ih hrest]
    by_cases hcaller : ident e.1 = caller
    · subst hcaller
      have hlater : rest.find? (fun a => compare (ident a.1) (ident e.1) == .eq) = none := by
        rw [List.find?_eq_none]
        intro a ha heq
        have hless := hfirst a ha
        rw [show ident a.1 = ident e.1 by simpa using heq] at hless
        simp at hless
      rw [hlater, List.find?_cons_of_pos (by simp), Option.map_none, Table.find?_insert]
      exact if_pos rfl
    · have hother : (graph.insert e.1 (addSites ((graph.find? e.1).getD []) e.2)).find? caller =
          graph.find? caller := by
        rw [Table.find?_insert, if_neg hcaller]
      rw [List.find?_cons_of_neg (by simpa using hcaller), hother, sitesOf, hother]
      rfl

/-- A second graph adds its calls to those of the first, caller by caller. -/
theorem find?_union (a b : CallGraph) (caller : String) :
    (a.union b).find? caller =
      match b.find? caller with
      | none => a.find? caller
      | some sites => some (addSites (a.sitesOf caller) sites) :=
  find?_foldl_insert b.ascending a caller

/-- A graph has all callers of some graphs, and for each the calls that these list for it one after
    the other, without those that are the same as an earlier one. -/
structure IsOrderedUnion (graphs : List CallGraph) (merged : CallGraph) : Prop where
  mem_keys_iff : ∀ caller, caller ∈ merged.keys ↔ ∃ graph ∈ graphs, caller ∈ graph.keys
  sitesOf_eq : ∀ caller, merged.sitesOf caller =
    (graphs.flatMap fun graph => graph.sitesOf caller).eraseDupsBy CallSite.same

theorem isOrderedUnion_empty : IsOrderedUnion [] ∅ where
  mem_keys_iff caller := by simp [Table.keys, EmptyCollection.emptyCollection, Table.empty]
  sitesOf_eq caller := rfl

/-- One more graph adds its callers, and its calls after those of the others. -/
theorem IsOrderedUnion.union {graphs : List CallGraph} {merged : CallGraph}
    (hmerged : IsOrderedUnion graphs merged) (graph : CallGraph) :
    IsOrderedUnion (graphs ++ [graph]) (merged.union graph) where
  mem_keys_iff caller := by
    have hcallers := hmerged.mem_keys_iff caller
    rw [mem_keys_iff_isSome] at hcallers
    rw [mem_keys_iff_isSome, find?_union]
    cases hfound : graph.find? caller with
    | none => simp [hcallers, mem_keys_iff_isSome, hfound, or_and_right, exists_or]
    | some sites =>
      refine iff_of_true rfl ⟨graph, List.mem_append_right _ (List.mem_singleton_self graph), ?_⟩
      rw [mem_keys_iff_isSome, hfound]
      rfl
  sitesOf_eq caller := by
    have hadded : (merged.union graph).sitesOf caller =
        addSites (merged.sitesOf caller) (graph.sitesOf caller) := by
      rw [sitesOf, find?_union, sitesOf, sitesOf]
      cases graph.find? caller with
      | none => rfl
      | some sites => rfl
    rw [hadded, hmerged.sitesOf_eq, addSites_eraseDupsBy, List.flatMap_append,
      List.flatMap_singleton]

theorem isOrderedUnion_foldl (graphs : List CallGraph) :
    IsOrderedUnion graphs (graphs.foldl union ∅) := by
  induction graphs using List.reverseRecOn with
  | nil => exact isOrderedUnion_empty
  | append_singleton graphs graph ih =>
    rw [List.foldl_append]
    exact ih.union graph

end CallGraph

namespace Polyglot

variable {σ : Type} [Engine σ]

/-- Calls are not supported exactly if no engine has call graphs. Otherwise the callers in the answer
    are those of the graphs that such engines give, and the calls of a caller are what these graphs
    list for it, in the order of the languages, without what is the same as an earlier call. So
    every call is there, and none twice. -/
theorem answer_callGraph (p : Polyglot σ) (project : Project) (name : String) (depth : Nat)
    (q : Query CallGraph) (hq : q ∈ [Query.callGraphTo name depth, .callGraphFrom name depth]) :
    let graphs := given project q
      (p.engines.entries.filter fun e => (Engine.capabilities e.2).callGraph)
    ((p.answer project q).1 = .error (.unsupported q.operation) ↔
      ∀ e ∈ p.engines.entries, (Engine.capabilities e.2).callGraph = false) ∧
    ((∃ e ∈ p.engines.entries, (Engine.capabilities e.2).callGraph = true) →
      ∃ merged, (p.answer project q).1 = .ok merged ∧
        (∀ caller, caller ∈ merged.keys ↔ ∃ graph ∈ graphs, caller ∈ graph.keys) ∧
        ∀ caller, merged.sitesOf caller =
            (graphs.flatMap fun graph => graph.sitesOf caller).eraseDupsBy CallSite.same ∧
          (∀ graph ∈ graphs, ∀ site ∈ graph.sitesOf caller,
            ∃ kept ∈ merged.sitesOf caller, site.same kept) ∧
          (merged.sitesOf caller).Pairwise fun a b => a.same b = false) := by
  intro graphs
  have hmerge : q.merge? =
      some (Capabilities.callGraph, fun graphs => graphs.foldl CallGraph.union ∅) := by
    simp only [List.mem_cons, List.not_mem_nil, or_false] at hq
    rcases hq with rfl | rfl <;> rfl
  have hmerged : (∃ e ∈ p.engines.entries, (Engine.capabilities e.2).callGraph = true) →
      (p.answer project q).1 = .ok (graphs.foldl CallGraph.union ∅) :=
    fun hcapable => answer_eq_merge hmerge hcapable project
  refine ⟨⟨?_, fun hnone => answer_eq_unsupported hmerge hnone project⟩, ?_⟩
  · intro hunsupported e he
    rw [Bool.eq_false_iff]
    intro hcapable
    rw [hmerged ⟨e, he, hcapable⟩] at hunsupported
    cases hunsupported
  · intro hcapable
    have hunion := CallGraph.isOrderedUnion_foldl graphs
    refine ⟨_, hmerged hcapable, hunion.mem_keys_iff, ?_⟩
    intro caller
    rw [hunion.sitesOf_eq]
    refine ⟨rfl, ?_, ?_⟩
    · intro graph hgraph site hsite
      exact exists_mem_eraseDupsBy CallSite.same_equivalence
        (List.mem_flatMap.mpr ⟨graph, hgraph, hsite⟩)
    · refine (pairwise_eraseDupsBy CallSite.same _).imp ?_
      intro a b hnew
      rw [Bool.eq_false_iff] at hnew ⊢
      exact fun hsame => hnew (CallSite.same_equivalence.symm hsame)

/-- An engine that answers about calls only, if it is not broken, whether it says that it does or
    not. -/
structure CallBook where
  advertised : Bool
  calls? : Option CallGraph

def CallBook.answer {α : Type} : CallBook → Query α → Answer α
  | ⟨_, some calls⟩, .callGraphTo _ _ => .ok calls
  | ⟨_, some calls⟩, .callGraphFrom _ _ => .ok calls
  | _, q => q.unsupported

instance : Engine CallBook where
  capabilities book := ⟨false, false, book.advertised, false⟩
  answer book _ q := book.answer q
  update book _ _ _ := (book, .ok 0)

def savedFunction : Declaration := ⟨.function, some "app.db", "save", by decide⟩

def savedField : Declaration := ⟨.field, some "app.db", "save", by decide⟩

def loadedFunction : Declaration := ⟨.function, some "app.db", "load", by decide⟩

/-- Two engines know calls of one caller, in part the same ones, between them one is broken, and one
    knows calls and does not say so. -/
def callBooks : Polyglot CallBook :=
  let java : CallGraph :=
    .ofList [("app.post", [⟨savedFunction, 10⟩, ⟨savedFunction, 12⟩, ⟨savedFunction, 10⟩])]
  let go : CallGraph := .ofList [("app.post", [⟨loadedFunction, 1⟩])]
  let rust : CallGraph :=
    .ofList [("app.post", [⟨savedField, 12⟩, ⟨loadedFunction, 12⟩]), ("app.flush", [])]
  (((empty.add .java ⟨true, some java⟩).add .python ⟨true, none⟩).add .go ⟨false, some go⟩).add
    .rust ⟨true, some rust⟩

theorem answer_callGraph_callBooks :
    ∃ merged, (callBooks.answer Analyzer.pointProject (.callGraphTo "app.db.save" 1)).1 =
        .ok merged ∧
      "app.flush" ∈ merged.keys ∧
      merged.sitesOf "app.post" =
        [⟨savedFunction, 10⟩, ⟨savedFunction, 12⟩, ⟨loadedFunction, 12⟩] := by
  obtain ⟨_, hcapable⟩ := answer_callGraph callBooks Analyzer.pointProject "app.db.save" 1
    (.callGraphTo "app.db.save" 1) List.mem_cons_self
  obtain ⟨merged, hanswer, hkeys, hsites⟩ := hcapable ⟨_, List.mem_cons_self, rfl⟩
  refine ⟨merged, hanswer, (hkeys "app.flush").mpr ?_, ?_⟩
  · exact ⟨_, List.mem_cons_of_mem _ List.mem_cons_self, List.mem_cons_self⟩
  · rw [(hsites "app.post").1]
    decide +kernel

end Polyglot

end CodeOutline
