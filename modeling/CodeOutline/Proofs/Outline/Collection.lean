import CodeOutline.Proofs.Distinct
import CodeOutline.Proofs.Members.Levels
import CodeOutline.Proofs.Outline.Definitions
import CodeOutline.Proofs.Tree.Matches

namespace CodeOutline

theorem Text.dropTail?_eq_some_iff {tail s stem : String} :
    dropTail? tail s = some stem ↔ s = stem ++ tail := by
  simp only [dropTail?, Option.map_eq_some_iff, List.isPrefixOf?_eq_some_iff_append_eq]
  constructor
  · rintro ⟨cs, hsplit, rfl⟩
    rw [← String.toList_inj, ← List.reverse_inj, ← hsplit]
    simp
  · rintro rfl
    exact ⟨stem.toList.reverse, by simp, by simp⟩

namespace Definition

theorem stem?_eq_some_iff {profile : Profile} {capture stem : String} :
    stem? profile capture = some stem ↔ profile.isIgnored capture = false ∧
      (profile.shape? capture).isSome ∧ capture = stem ++ definitionEnding := by
  rw [stem?, ← Text.dropTail?_eq_some_iff]
  split
  · rename_i hpassed
    simp only [Bool.or_eq_true, Option.isNone_iff_eq_none] at hpassed
    rcases hpassed with hignored | hunmapped
    · simp [hignored]
    · simp [hunmapped]
  · rename_i htaken
    simp only [Bool.or_eq_true, not_or, Bool.not_eq_true, Option.isNone_eq_false_iff] at htaken
    simp [htaken]

/-- Of the nodes that a match captures under a name, the given one is the last. -/
def LastCaptured (m : Pattern.Match) (capture : String) (q : Place) : Prop :=
  ∃ before after, m.captures = before ++ (capture, q) :: after ∧ ∀ c ∈ after, c.1 ≠ capture

theorem lookup_reverse_eq_some_iff {m : Pattern.Match} {capture : String} {q : Place} :
    m.captures.reverse.lookup capture = some q ↔ LastCaptured m capture q := by
  rw [List.lookup_eq_some_iff]
  constructor
  · rintro ⟨after, before, hsplit, hlast⟩
    refine ⟨before.reverse, after.reverse, ?_, ?_⟩
    · rw [← List.reverse_inj, hsplit]
      simp
    · intro c hc hsame
      have hother := hlast c (List.mem_reverse.mp hc)
      simp [hsame] at hother
  · rintro ⟨before, after, hsplit, hlast⟩
    refine ⟨after.reverse, before.reverse, by simp [hsplit], ?_⟩
    intro c hc
    simpa using Ne.symm (hlast c (List.mem_reverse.mp hc))

/-- The name for a node is the text, without blanks around it, of what the match captures last as
    such, unless that is empty or nothing is captured; then it is the name that the node itself
    has. -/
theorem nameIn?_eq_some_iff {rules : Rules} {source : String} {m : Pattern.Match}
    {stem name : String} {p : Place} :
    nameIn? rules source m stem p = some name ↔
      (∃ q, LastCaptured m (stem ++ nameEnding) q ∧ Text.trim (q.text source) = name ∧
        name ≠ "") ∨
      (∀ q, LastCaptured m (stem ++ nameEnding) q → Text.trim (q.text source) = "") ∧
        rules.simpleName? p source = some name := by
  simp only [← lookup_reverse_eq_some_iff]
  rw [nameIn?]
  cases m.captures.reverse.lookup (stem ++ nameEnding) with
  | none => simp
  | some q =>
    by_cases hempty : Text.trim (q.text source) = ""
    · simp [hempty]
    · simp [hempty]

variable (rules : Rules) (source : String)

/-- A match offers a node as a definition: it captures the node under a name that marks a
    declaration and that the profile maps and does not ignore, and there is a name for the node,
    the text that the match captures as such, or else the name that the node itself has. -/
structure Offers (m : Pattern.Match) (d : Definition) : Prop where
  captured : (d.capture, d.place) ∈ m.captures
  notIgnored : rules.profile.isIgnored d.capture = false
  mapped : (rules.profile.shape? d.capture).isSome
  named : ∃ stem, d.capture = stem ++ definitionEnding ∧
    nameIn? rules source m stem d.place = some d.simpleName

/-- What one captured node is offered as, if it is. -/
def offer? (m : Pattern.Match) (captured : String × Place) : Option Definition :=
  (stem? rules.profile captured.1).bind fun stem =>
    (nameIn? rules source m stem captured.2).map fun name => ⟨captured.2, captured.1, name⟩

/-- All that a match offers, in the order of its captures. -/
def offers (m : Pattern.Match) : List Definition := m.captures.filterMap (offer? rules source m)

/-- Whether two definitions are of one node. -/
def samePlace (a b : Definition) : Bool := b.place.position = a.place.position

theorem samePlace_iff {a b : Definition} :
    samePlace a b = true ↔ b.place.position = a.place.position := decide_eq_true_iff

theorem samePlace_equivalence : Equivalence fun a b => samePlace a b = true where
  refl _ := samePlace_iff.mpr rfl
  symm h := samePlace_iff.mpr (samePlace_iff.mp h).symm
  trans h h' := samePlace_iff.mpr ((samePlace_iff.mp h').trans (samePlace_iff.mp h))

variable {rules source} {m : Pattern.Match} {d : Definition}

theorem offer?_eq_some_iff {captured : String × Place} :
    offer? rules source m captured = some d ↔ captured = (d.capture, d.place) ∧
      rules.profile.isIgnored d.capture = false ∧ (rules.profile.shape? d.capture).isSome ∧
      ∃ stem, d.capture = stem ++ definitionEnding ∧
        nameIn? rules source m stem d.place = some d.simpleName := by
  obtain ⟨place, capture, simpleName⟩ := d
  simp only [offer?, Option.bind_eq_some_iff, stem?_eq_some_iff, Option.map_eq_some_iff,
    Definition.mk.injEq]
  constructor
  · rintro ⟨stem, ⟨hignored, hmapped, hstem⟩, name, hname, rfl, rfl, rfl⟩
    exact ⟨rfl, hignored, hmapped, stem, hstem, hname⟩
  · rintro ⟨rfl, hignored, hmapped, stem, hstem, hname⟩
    exact ⟨stem, ⟨hignored, hmapped, hstem⟩, simpleName, hname, rfl, rfl, rfl⟩

theorem mem_offers_iff : d ∈ offers rules source m ↔ Offers rules source m d := by
  rw [offers, List.mem_filterMap]
  constructor
  · rintro ⟨captured, hcaptured, hoffer⟩
    obtain ⟨rfl, hignored, hmapped, hnamed⟩ := offer?_eq_some_iff.mp hoffer
    exact ⟨hcaptured, hignored, hmapped, hnamed⟩
  · intro hoffers
    exact ⟨_, hoffers.captured, offer?_eq_some_iff.mpr
      ⟨rfl, hoffers.notIgnored, hoffers.mapped, hoffers.named⟩⟩

variable (rules source) (file : Path) (t : Tree)

/-- Taking up a captured node keeps what it is offered as, unless a definition of the node is
    there. -/
theorem collect_fst (m : Pattern.Match) (found : List Definition × List Notice)
    (captured : String × Place) :
    (collect rules file source m found captured).1 =
      (offer? rules source m captured).elim found.1 fun d =>
        if found.1.any (samePlace d) then found.1 else found.1 ++ [d] := by
  unfold collect offer?
  cases stem? rules.profile captured.1 with
  | none => rfl
  | some stem =>
    dsimp only [Option.bind_some]
    rw [apply_ite Prod.fst]
    cases nameIn? rules source m stem captured.2 with
    | none => exact ite_self found.1
    | some name => rfl

theorem foldl_collect_fst (m : Pattern.Match) (captures : List (String × Place))
    (found : List Definition × List Notice) :
    (captures.foldl (collect rules file source m) found).1 =
      (captures.filterMap (offer? rules source m)).foldl
        (fun kept d => if kept.any (samePlace d) then kept else kept ++ [d]) found.1 := by
  induction captures generalizing found with
  | nil => rfl
  | cons captured captures ih =>
    rw [List.foldl_cons, ih, collect_fst]
    cases hoffer : offer? rules source m captured with
    | none => rw [List.filterMap_cons_none hoffer]; rfl
    | some d => rw [List.filterMap_cons_some hoffer]; rfl

theorem foldl_matches_fst (ms : List Pattern.Match) (found : List Definition × List Notice) :
    (ms.foldl (fun found m => m.captures.foldl (collect rules file source m) found) found).1 =
      (ms.flatMap (offers rules source)).foldl
        (fun kept d => if kept.any (samePlace d) then kept else kept ++ [d]) found.1 := by
  induction ms generalizing found with
  | nil => rfl
  | cons m ms ih =>
    rw [List.foldl_cons, ih, foldl_collect_fst, List.flatMap_cons, List.foldl_append]
    rfl

/-- The definitions of a tree are the first offers of their nodes, sorted. -/
theorem all_fst : (all rules file source t).1 =
    (((Pattern.matchAll rules.patterns t).flatMap (offers rules source)).eraseDupsBy
      samePlace).mergeSort notAfter := by
  rw [← foldl_keep_eq_eraseDupsBy, ← foldl_matches_fst rules source file _ ([], [])]
  rfl

variable {rules source file t}

theorem mem_all_iff : d ∈ (all rules file source t).1 ↔
    (Pattern.matchAll rules.patterns t).findSome?
      (fun m => (offers rules source m).find? (samePlace d)) = some d := by
  rw [all_fst, List.mem_mergeSort, mem_eraseDupsBy_iff samePlace_equivalence, List.find?_flatMap]

theorem Offers.within (hoffers : Offers rules source m d)
    (hm : m ∈ Pattern.matchAll rules.patterns t) : d.place.Within t :=
  Pattern.within_of_matchAll hm hoffers.captured

/-- Whatever is offered is a definition, perhaps under another name. -/
theorem exists_mem_all_of_offers (file : Path) (hoffers : Offers rules source m d)
    (hm : m ∈ Pattern.matchAll rules.patterns t) :
    ∃ found ∈ (all rules file source t).1, found.place = d.place := by
  obtain ⟨found, hfound, hsame⟩ := exists_mem_eraseDupsBy samePlace_equivalence
    (List.mem_flatMap.mpr ⟨m, hm, mem_offers_iff.mpr hoffers⟩)
  have hall : found ∈ (all rules file source t).1 := by
    rw [all_fst, List.mem_mergeSort]
    exact hfound
  exact ⟨found, hall, (within_of_mem_all hall).eq_of_position (hoffers.within hm)
    (samePlace_iff.mp hsame)⟩

/-- The first of the captures that offer a node. -/
theorem exists_capture_of_find? (hfirst : (offers rules source m).find? (samePlace d) = some d) :
    Offers rules source m d ∧ ∃ before after, m.captures = before ++ (d.capture, d.place) :: after ∧
      ∀ c ∈ before, c.2 = d.place → ∀ name, ¬ Offers rules source m ⟨c.2, c.1, name⟩ := by
  have hoffers := mem_offers_iff.mp (List.mem_of_find?_eq_some hfirst)
  refine ⟨hoffers, ?_⟩
  rw [offers, List.find?_filterMap] at hfirst
  obtain ⟨captured, hcaptured, hoffer⟩ := Option.bind_eq_some_iff.mp hfirst
  obtain ⟨rfl, _⟩ := offer?_eq_some_iff.mp hoffer
  obtain ⟨_, before, after, hsplit, hbefore⟩ := List.find?_eq_some_iff_append.mp hcaptured
  refine ⟨before, after, hsplit, ?_⟩
  intro c hc hplace name hearlier
  have hoffered : offer? rules source m c = some ⟨c.2, c.1, name⟩ :=
    offer?_eq_some_iff.mpr ⟨rfl, hearlier.notIgnored, hearlier.mapped, hearlier.named⟩
  have hsame : samePlace d ⟨c.2, c.1, name⟩ = true :=
    samePlace_iff.mpr (congrArg Place.position hplace)
  have hnot := hbefore c hc
  rw [hoffered, Option.any_some, hsame] at hnot
  cases hnot

/-- Of two definitions that are not in the opposite order, the first comes before the second. -/
theorem sublist_of_not_notAfter {a b : Definition} (ha : a ∈ (all rules file source t).1)
    (hb : b ∈ (all rules file source t).1) (hnot : ¬ notAfter b a = true) :
    [a, b].Sublist (all rules file source t).1 := by
  have hsorted := pairwise_all rules file source t
  obtain ⟨before, after, hall⟩ := List.append_of_mem hb
  rw [hall] at ha hsorted ⊢
  rcases List.mem_append.mp ha with hbefore | hrest
  · exact pair_sublist_append hbefore List.mem_cons_self
  · rcases List.mem_cons.mp hrest with rfl | hafter
    · exact absurd (notAfter_iff.mpr (.inr ⟨rfl, Nat.le_refl _⟩)) hnot
    · exact absurd ((List.pairwise_cons.mp (List.pairwise_append.mp hsorted).2.1).1 a hafter) hnot

variable (rules source) in
/-- What it means that some definitions are those of some matches. -/
structure Collects (ms : List Pattern.Match) (found : List Definition) : Prop where
  /-- Definitions are of exactly the nodes that some match offers. -/
  place_iff : ∀ p, (∃ d ∈ found, d.place = p) ↔
    ∃ m ∈ ms, ∃ d, Offers rules source m d ∧ d.place = p
  places_nodup : (found.map Definition.place).Nodup
  /-- Capture and name of a definition come from the first match that offers its node, and in that
      match from the first capture of the node that can be used. -/
  first : ∀ d ∈ found, ∃ before m after, ms = before ++ m :: after ∧
    (∀ earlier ∈ before, ∀ other, Offers rules source earlier other → other.place ≠ d.place) ∧
    Offers rules source m d ∧
    ∃ outer inner, m.captures = outer ++ (d.capture, d.place) :: inner ∧
      ∀ c ∈ outer, c.2 = d.place → ∀ name, ¬ Offers rules source m ⟨c.2, c.1, name⟩
  ordered : found.Pairwise fun a b => a.place.startByte < b.place.startByte ∨
    a.place.startByte = b.place.startByte ∧ b.place.endByte ≤ a.place.endByte
  /-- What has another definition strictly inside its range comes before it. -/
  outer_first : ∀ a ∈ found, ∀ b ∈ found, a.place.startByte ≤ b.place.startByte →
    b.place.endByte ≤ a.place.endByte →
    a.place.startByte < b.place.startByte ∨ b.place.endByte < a.place.endByte →
      [a, b].Sublist found

variable (rules source file t) in
theorem collects_all :
    Collects rules source (Pattern.matchAll rules.patterns t) (all rules file source t).1 := by
  have hfirst : ∀ d ∈ (all rules file source t).1, ∃ before m after,
      Pattern.matchAll rules.patterns t = before ++ m :: after ∧
      (offers rules source m).find? (samePlace d) = some d ∧
      ∀ earlier ∈ before, (offers rules source earlier).find? (samePlace d) = none :=
    fun d hd => List.findSome?_eq_some_iff.mp (mem_all_iff.mp hd)
  refine ⟨?_, ?_, ?_, ?_, ?_⟩
  · intro p
    constructor
    · rintro ⟨d, hd, rfl⟩
      obtain ⟨before, m, after, hsplit, hfound, _⟩ := hfirst d hd
      refine ⟨m, ?_, d, (exists_capture_of_find? hfound).1, rfl⟩
      rw [hsplit]
      exact List.mem_append_right _ List.mem_cons_self
    · rintro ⟨m, hm, d, hoffers, rfl⟩
      exact exists_mem_all_of_offers file hoffers hm
  · have hpositions : (((all rules file source t).1.map Definition.place).map
        Place.position).Nodup := by
      rw [List.map_map]
      exact positions_nodup_all rules file source t
    exact hpositions.of_map
  · intro d hd
    obtain ⟨before, m, after, hsplit, hfound, hearlier⟩ := hfirst d hd
    refine ⟨before, m, after, hsplit, ?_, exists_capture_of_find? hfound⟩
    intro earlier hbefore other hoffers hplace
    exact List.find?_eq_none.mp (hearlier earlier hbefore) other (mem_offers_iff.mpr hoffers)
      (samePlace_iff.mpr (congrArg Place.position hplace))
  · exact (pairwise_all rules file source t).imp fun hordered => notAfter_iff.mp hordered
  · intro a ha b hb hstart hend hstrict
    refine sublist_of_not_notAfter ha hb ?_
    rw [notAfter_iff]
    omega

theorem Offers.simpleName_ne (hoffers : Offers rules source m d) (hrules : rules.NamesCaptures)
    (hm : m ∈ Pattern.matchAll rules.patterns t) : d.simpleName ≠ "" := by
  obtain ⟨stem, _, hname⟩ := hoffers.named
  intro hempty
  rw [hempty] at hname
  exact nameIn?_ne (hrules t m hm _ hoffers.captured source) m stem hname

/-- The definitions of a tree are collected from the matches in it, which are all ways in which the
    patterns match anywhere in the tree. Where nodes go by their identifiers, and in all of the
    languages, nothing is offered under an empty name. -/
theorem all_collected_from_matches (rules : Rules) (file : Path) (source : String) (t : Tree) :
    (∀ captures, (∃ m ∈ Pattern.matchAll rules.patterns t, m.captures = captures) ↔
      ∃ p ∈ (Place.root t).descendants, ∃ pattern ∈ rules.patterns, pattern.MatchesAt p captures) ∧
    Collects rules source (Pattern.matchAll rules.patterns t) (all rules file source t).1 ∧
    (rules.simpleName? = Rules.identifierText? rules.profile ∨
        (∃ language, rules = Rules.of language) →
      ∀ m ∈ Pattern.matchAll rules.patterns t, ∀ d, Offers rules source m d → d.simpleName ≠ "") := by
  refine ⟨Pattern.exists_matchAll_iff rules.patterns t, collects_all rules source file t, ?_⟩
  intro hrules m hm d hoffers
  have hnames : rules.NamesCaptures := by
    rcases hrules with hidentifier | ⟨language, rfl⟩
    · intro t m _ c _ source
      rw [hidentifier]
      exact Rules.identifierText?_ne _ _ _
    · exact Rules.namesCaptures_of language
  exact hoffers.simpleName_ne hnames hm

end Definition

end CodeOutline
