import CodeOutline.Proofs.Outline.Sorting
import CodeOutline.Proofs.Text.Split
import CodeOutline.Proofs.Tree.Apart
import CodeOutline.Proofs.Tree.Fitting
import CodeOutline.Rules.Java
import CodeOutline.Signature.Render

namespace CodeOutline

namespace Text

/-- A text without white space in it. -/
structure IsWord (s : String) : Prop where
  ne_empty : s ≠ ""
  not_blank : ∀ c ∈ s.toList, isBlank c = false

instance (s : String) : Decidable (IsWord s) :=
  decidable_of_iff (s ≠ "" ∧ s.toList.all fun c => !isBlank c) (by
    simp only [List.all_eq_true, Bool.not_eq_true']
    exact ⟨fun h => ⟨h.1, h.2⟩, fun h => ⟨h.ne_empty, h.not_blank⟩⟩)

/-- Spaced words are found again. -/
theorem words_spaced {ws : List String} (hws : ∀ w ∈ ws, IsWord w) :
    words (Rules.spaced ws) = ws := by
  induction ws with
  | nil => rfl
  | cons w ws ih =>
    rw [List.forall_mem_cons] at hws
    have hjoined : (Rules.spaced (w :: ws)).toList =
        w.toList ++ ' ' :: (Rules.spaced ws).toList := by
      simp [Rules.spaced, String.join_cons]
    have hne : w.toList ≠ [] := mt String.toList_eq_nil_iff.mp hws.1.ne_empty
    rw [words, hjoined, pieces_append (by decide), pieces_of_clean hws.1.not_blank,
      List.singleton_append, List.filter_cons_of_pos (by simpa using hne), List.map_cons,
      String.ofList_toList]
    exact congrArg (w :: ·) (ih hws.2)

theorem trimEnd_prefix (s : String) : (trimEnd s).toList <+: s.toList := by
  rw [trimEnd, String.toList_ofList, ← List.reverse_suffix, List.reverse_reverse]
  exact List.dropWhile_suffix _

/-- A text that neither starts nor ends with white space. -/
structure IsTight (s : String) : Prop where
  first : ∃ c, s.toList.head? = some c ∧ isBlank c = false
  last : ∃ c, s.toList.getLast? = some c ∧ isBlank c = false

theorem IsWord.isTight {s : String} (hword : IsWord s) : IsTight s := by
  have hne : s.toList ≠ [] := mt String.toList_eq_nil_iff.mp hword.ne_empty
  exact ⟨⟨_, List.head?_eq_some_head hne, hword.not_blank _ (List.head_mem hne)⟩,
    ⟨_, List.getLast?_eq_some_getLast hne, hword.not_blank _ (List.getLast_mem hne)⟩⟩

theorem IsTight.append {s u : String} (hs : IsTight s) (hu : IsTight u) (gap : String) :
    IsTight (s ++ (gap ++ u)) := by
  obtain ⟨c, hc, hfirst⟩ := hs.first
  obtain ⟨d, hd, hlast⟩ := hu.last
  refine ⟨⟨c, ?_, hfirst⟩, ⟨d, ?_, hlast⟩⟩
  · rw [String.toList_append, List.head?_append, hc, Option.some_or]
  · rw [String.toList_append, String.toList_append, List.getLast?_append, List.getLast?_append, hd,
      Option.some_or, Option.some_or]

theorem IsTight.not_blank_append {s : String} (hs : IsTight s) (rest : String) :
    isBlankText (s ++ rest) = false := by
  obtain ⟨c, hc, hfirst⟩ := hs.first
  rw [isBlankText, List.all_eq_false]
  refine ⟨c, ?_, by simp [hfirst]⟩
  rw [String.toList_append]
  exact List.mem_append_left _ (List.mem_of_head? hc)

theorem dropWhile_eq_self {cs : List Char} (hhead : ∃ c, cs.head? = some c ∧ isBlank c = false) :
    cs.dropWhile isBlank = cs := by
  obtain ⟨c, hc, hkeep⟩ := hhead
  obtain ⟨rest, rfl⟩ := List.head?_eq_some_iff.mp hc
  rw [List.dropWhile_cons_of_neg (by simp [hkeep])]

/-- Trimming does not reach into a tight text at the start. -/
theorem trim_append {text : String} (htight : IsTight text) (rest : String) :
    trim (text ++ rest) = text ++ trimEnd rest := by
  have hstart : trimStart (text ++ rest) = text ++ rest := by
    obtain ⟨c, hc, hfirst⟩ := htight.first
    rw [trimStart, dropWhile_eq_self, String.ofList_toList]
    exact ⟨c, by rw [String.toList_append, List.head?_append, hc, Option.some_or], hfirst⟩
  have hkept : text.toList.reverse.dropWhile isBlank = text.toList.reverse := by
    apply dropWhile_eq_self
    rw [List.head?_reverse]
    exact htight.last
  rw [trim, hstart, ← String.toList_inj, trimEnd, trimEnd]
  simp only [String.toList_append, String.toList_ofList, List.reverse_append,
    List.dropWhile_append, hkept]
  split
  · rename_i hempty
    simp [List.isEmpty_iff.mp hempty]
  · simp

end Text

namespace Signature

open Text

/-- The word is followed by the end of the text, or by what does not continue a word. -/
theorem startsWithWord_iff {text word : String} :
    startsWithWord text word ↔ ∃ rest, text.toList = word.toList ++ rest ∧
      ∀ c, rest.head? = some c → isWordChar c = false := by
  rw [startsWithWord]
  constructor
  · intro hstarts
    split at hstarts
    · cases hstarts
    · rename_i hrest
      exact ⟨[], (List.isPrefixOf?_eq_some_iff_append_eq.mp hrest).symm, nofun⟩
    · rename_i c rest hrest
      refine ⟨c :: rest, (List.isPrefixOf?_eq_some_iff_append_eq.mp hrest).symm, ?_⟩
      rintro d hd
      cases hd
      simpa using hstarts
  · rintro ⟨rest, htext, hends⟩
    rw [List.isPrefixOf?_eq_some_iff_append_eq.mpr htext.symm]
    cases rest with
    | nil => rfl
    | cons c rest => simp [hends c rfl]

theorem startsWithWord_append_left {before text word : String} :
    startsWithWord (before ++ text) (before ++ word) ↔ startsWithWord text word := by
  simp only [startsWithWord_iff, String.toList_append, List.append_assoc,
    List.append_cancel_left_eq]

/-- Where words stand apart by white space, the text after a first blank starts with the next words
    only if the blank is all there is between them. -/
theorem startsWithWord_gap {gap joined rest : String} (hgap : gap ≠ "" ∧ isBlankText gap)
    (hjoined : IsTight joined) :
    startsWithWord (gap ++ rest) (" " ++ joined) ↔ gap = " " ∧ startsWithWord rest joined := by
  constructor
  · intro hstarts
    obtain ⟨after, htext, -⟩ := startsWithWord_iff.mp hstarts
    obtain ⟨c, hc, hfirst⟩ := hjoined.first
    obtain ⟨cs, hcs⟩ := List.head?_eq_some_iff.mp hc
    obtain ⟨g, gs, hgs⟩ := List.exists_cons_of_ne_nil (mt String.toList_eq_nil_iff.mp hgap.1)
    have hblank : ∀ d ∈ g :: gs, isBlank d := by
      rw [← hgs]
      exact List.all_eq_true.mp hgap.2
    rw [String.toList_append, String.toList_append, hgs, hcs] at htext
    obtain ⟨rfl, htail⟩ := List.cons.inj htext
    cases gs with
    | nil =>
      obtain rfl : gap = " " := String.toList_inj.mp hgs
      exact ⟨rfl, startsWithWord_append_left.mp hstarts⟩
    | cons d ds =>
      obtain ⟨rfl, -⟩ := List.cons.inj htail
      have hd := hblank d (by simp)
      rw [hfirst] at hd
      cases hd
  · rintro ⟨rfl, hstarts⟩
    exact startsWithWord_append_left.mpr hstarts

/-- Words one after the other, with the given texts between them. -/
inductive Spread : List String → List String → String → Prop where
  | last (word : String) : Spread [word] [] word
  | next {words gaps : List String} {text : String} (word gap : String)
      (hspread : Spread words gaps text) :
      Spread (word :: words) (gap :: gaps) (word ++ (gap ++ text))

namespace Spread

variable {words gaps : List String} {text : String}

theorem words_ne_nil (hspread : Spread words gaps text) : words ≠ [] := by
  cases hspread <;> simp

theorem isTight (hspread : Spread words gaps text) (hwords : ∀ w ∈ words, IsWord w) :
    IsTight text := by
  induction hspread with
  | last word => exact (hwords word List.mem_cons_self).isTight
  | next word gap _ ih =>
    rw [List.forall_mem_cons] at hwords
    exact hwords.1.isTight.append (ih hwords.2) gap

theorem intercalate (hspread : Spread words gaps text) :
    Spread words (gaps.map fun _ => " ") (" ".intercalate words) := by
  induction hspread with
  | last word =>
    rw [String.intercalate_singleton]
    exact .last word
  | next word gap hspread ih =>
    rw [String.intercalate_cons_of_ne_nil hspread.words_ne_nil, String.append_assoc]
    exact .next word " " ih

/-- A spread text starts with its words, single blanks between them, exactly if single blanks are
    between them there too. -/
theorem startsWithWord_iff_gaps (hspread : Spread words gaps text)
    (hwords : ∀ w ∈ words, IsWord w) (hgaps : ∀ gap ∈ gaps, gap ≠ "" ∧ isBlankText gap)
    {rest : String} (hends : ∀ c, rest.toList.head? = some c → isWordChar c = false) :
    startsWithWord (text ++ rest) (" ".intercalate words) ↔ ∀ gap ∈ gaps, gap = " " := by
  induction hspread with
  | last word =>
    rw [String.intercalate_singleton, startsWithWord_iff]
    exact ⟨fun _ => nofun, fun _ => ⟨rest.toList, String.toList_append, hends⟩⟩
  | next word gap hspread ih =>
    rw [List.forall_mem_cons] at hwords hgaps
    have hjoined := hspread.intercalate.isTight hwords.2
    simp only [String.intercalate_cons_of_ne_nil hspread.words_ne_nil, String.append_assoc]
    rw [startsWithWord_append_left, startsWithWord_gap hgaps.1 hjoined, ih hwords.2 hgaps.2,
      List.forall_mem_cons]

end Spread

/-- Without decorators the signature is the text in the given shape. -/
theorem render?_of_undecorated {rules : Rules} {p : Place} {source : String}
    (hundecorated : rules.decorators p (rules.content p) = []) (name : String) (shape : Shape) :
    (render? rules shape p name source).1 =
      (undecorated? rules (settledShape rules.profile shape (rules.content p)) (rules.content p)
        (rules.content p).startByte name source).1.filter fun text => !isBlankText text := by
  simp only [render?, hundecorated, contentStart, decoratorLines, List.filter_nil, List.map_nil,
    List.foldl_nil, List.nil_append, String.intercalate_singleton, Option.map_id']

theorem missingWords_eq_nil_iff {text : String} {words : List String} (hne : words ≠ []) :
    missingWords text words = [] ↔ startsWithWord text (" ".intercalate words) := by
  cases words with
  | nil => exact absurd rfl hne
  | cons word rest =>
    rw [missingWords]
    split
    · rename_i hstarts
      exact ⟨fun _ => hstarts, fun _ => rfl⟩
    · rename_i hmissing
      exact ⟨nofun, fun hstarts => absurd hstarts hmissing⟩

/-- Words are put before a text, or it stays as it is. -/
theorem applyLead_eq_self_iff {lead text : String} :
    applyLead lead text = text ↔ missingWords text (words lead) = [] := by
  rw [applyLead]
  split
  · rename_i hnil
    exact ⟨fun _ => hnil, fun _ => rfl⟩
  · rename_i hsome
    refine ⟨fun hsame => ?_, fun hnil => absurd hnil hsome⟩
    have hlength := congrArg (fun s => s.toList.length) hsame
    simp only [String.toList_append, List.length_append] at hlength
    have hblank : " ".toList.length = 1 := rfl
    omega

/-- The modifiers with which a declaration starts are keywords that stand apart by the given white
    space. A keyword ends where it ends: what comes after the modifiers does not continue a word. -/
structure StartsWithKeywords (source : String) (p m : Place) (gaps : List String) : Prop where
  found : Rules.Java.modifiers? p = some m
  begins : m.startByte = p.startByte
  keywords : ∀ c ∈ m.children,
    Rules.Java.profile.isDecorator c.kind = false ∧ IsWord (c.text source)
  spread : Spread (m.children.map fun c => c.text source) gaps (m.text source)
  blank : ∀ gap ∈ gaps, gap ≠ "" ∧ isBlankText gap
  ends : ∀ rest c, Text.slice? source m.endByte p.endByte = some rest →
    rest.toList.head? = some c → isWordChar c = false

namespace StartsWithKeywords

variable {source name : String} {p m : Place} {gaps : List String}

theorem isWord (h : StartsWithKeywords source p m gaps) :
    ∀ w ∈ m.children.map (fun c => c.text source), IsWord w := by
  intro w hw
  obtain ⟨c, hc, rfl⟩ := List.mem_map.mp hw
  exact (h.keywords c hc).2

theorem decorators_eq_nil (h : StartsWithKeywords source p m gaps) :
    Rules.java.decorators p p = [] := by
  have hdecorators : Rules.java.decorators p p =
      m.namedChildren.filter fun c => Rules.Java.profile.isDecorator c.kind := by
    change Rules.Java.decorators p p = _
    rw [Rules.Java.decorators, h.found]
  rw [hdecorators, List.filter_eq_nil_iff]
  intro c hc
  rw [(h.keywords c (List.mem_filter.mp hc).1).1]
  exact Bool.false_ne_true

theorem words_lead (h : StartsWithKeywords source p m gaps) :
    words (Rules.java.lead p source) = m.children.map fun c => c.text source := by
  have hkept : m.children.filter (fun c => !Rules.Java.profile.isDecorator c.kind) =
      m.children := by
    rw [List.filter_eq_self]
    intro c hc
    rw [(h.keywords c hc).1]
    rfl
  change words (Rules.Java.lead p source) = _
  rw [Rules.Java.lead, h.found]
  dsimp only
  rw [hkept, words_spaced h.isWord]

/-- Nothing is put before the trimmed text of the declaration exactly if only single blanks are
    between the keywords. -/
theorem applyLead_trim_iff (h : StartsWithKeywords source p m gaps) {rest : String}
    (hends : ∀ c, rest.toList.head? = some c → isWordChar c = false) :
    applyLead (Rules.java.lead p source) (trim (m.text source ++ rest)) =
        trim (m.text source ++ rest) ↔ ∀ gap ∈ gaps, gap = " " := by
  have htight := h.spread.isTight h.isWord
  have hkept : ∀ c, (trimEnd rest).toList.head? = some c → isWordChar c = false := by
    intro c hc
    obtain ⟨cs, hcs⟩ := List.head?_eq_some_iff.mp hc
    obtain ⟨dropped, hrest⟩ := trimEnd_prefix rest
    apply hends c
    rw [← hrest, hcs]
    rfl
  rw [applyLead_eq_self_iff, h.words_lead, missingWords_eq_nil_iff h.spread.words_ne_nil,
    trim_append htight, h.spread.startsWithWord_iff_gaps h.isWord h.blank hkept]

theorem render?_eq (h : StartsWithKeywords source p m gaps) (name : String) (shape : Shape) :
    (render? Rules.java shape p name source).1 =
      (undecorated? Rules.java (settledShape Rules.java.profile shape p) p p.startByte name
        source).1.filter fun text => !isBlankText text :=
  render?_of_undecorated h.decorators_eq_nil name shape

theorem slice?_eq (h : StartsWithKeywords source p m gaps) {stop : Nat} {rest : String}
    (hhead : Text.slice? source p.startByte stop = some (m.text source ++ rest)) :
    slice? source p.startByte stop = some (trim (m.text source ++ rest)) := by
  have htight := h.spread.isTight h.isWord
  have hne : trim (m.text source ++ rest) ≠ "" := by
    intro hempty
    have hblank := htight.not_blank_append (trimEnd rest)
    rw [← trim_append htight, hempty] at hblank
    cases hblank
  rw [slice?, hhead, Option.map_some, Option.filter_some, if_pos (by simpa using hne)]

/-- The signature is the trimmed text with what a shape puts behind it, exactly if nothing is put
    before it. -/
theorem render?_iff (h : StartsWithKeywords source p m gaps) {name : String} {shape : Shape}
    {rest behind : String} (hends : ∀ c, rest.toList.head? = some c → isWordChar c = false)
    (hshape : (undecorated? Rules.java (settledShape Rules.java.profile shape p) p p.startByte name
      source).1 =
        some (applyLead (Rules.java.lead p source) (trim (m.text source ++ rest)) ++ behind)) :
    (render? Rules.java shape p name source).1 = some (trim (m.text source ++ rest) ++ behind) ↔
      ∀ gap ∈ gaps, gap = " " := by
  have htight := h.spread.isTight h.isWord
  have hprintable : isBlankText (trim (m.text source ++ rest) ++ behind) = false := by
    rw [trim_append htight, String.append_assoc]
    exact htight.not_blank_append _
  rw [h.render?_eq, hshape, Option.filter_eq_some_iff, hprintable, Option.some_inj,
    String.append_left_inj, h.applyLead_trim_iff hends]
  exact and_iff_left rfl

/-- The text of the declaration, as far as any offset after the modifiers, is theirs and what comes
    after them. -/
theorem exists_rest (h : StartsWithKeywords source p m gaps) (hm : m.tree.fits source)
    (hp : p.tree.fits source) {stop : Nat} (hstop : Text.isBoundary source stop)
    (hafter : m.endByte ≤ stop) (hinside : stop ≤ p.endByte) :
    ∃ rest, Text.slice? source p.startByte stop = some (m.text source ++ rest) ∧
      ∀ c, rest.toList.head? = some c → isWordChar c = false := by
  obtain ⟨hle, hstart, hend⟩ := Place.bounds_of_fits hm
  obtain ⟨own, rest, hown, hrest, hwhole⟩ :=
    Text.exists_slice?_append hle hafter hstart hend hstop
  obtain ⟨_, more, hsame, _, hall⟩ := Text.exists_slice?_append hafter hinside hend hstop
    (Place.bounds_of_fits hp).2.2
  obtain rfl : m.text source = own := Option.some.inj ((Tree.slice?_of_fits hm).1.symm.trans hown)
  obtain rfl := Option.some.inj (hrest.symm.trans hsame)
  refine ⟨rest, ?_, ?_⟩
  · rw [← h.begins]
    exact hwhole
  · intro c hc
    apply h.ends _ c hall
    rw [String.toList_append, List.head?_append, hc, Option.some_or]

end StartsWithKeywords

/-- A declaration that starts with keywords as its modifiers is shown by its own text, as far as its
    body or as a whole, exactly if only single blanks stand between the keywords. -/
theorem render?_java_eq_text_iff {t : Tree} (hnested : t.isNested) {source : String}
    (hfits : t.fits source) {p m : Place} (hp : p.Within t) {gaps : List String}
    (h : StartsWithKeywords source p m gaps) (name : String) :
    (∀ body, p.child? "body" = some body → m.endByte ≤ body.startByte →
      ∃ head, Text.slice? source p.startByte body.startByte = some head ∧
        ((render? Rules.java .classLike p name source).1 = some (trim head ++ " \x7b") ↔
          ∀ gap ∈ gaps, gap = " ")) ∧
    ((render? Rules.java .fieldLike p name source).1 = some (trim (p.text source)) ↔
      ∀ gap ∈ gaps, gap = " ") := by
  have hmchild : m ∈ p.children := (List.mem_filter.mp (List.mem_of_find?_eq_some h.found)).1
  have hpfits := hp.fits hfits
  have hmfits := (hp.child hmchild).fits hfits
  constructor
  · intro body hbody hafter
    have hchild : body ∈ p.children := List.mem_of_find?_eq_some hbody
    obtain ⟨hle, hstop, _⟩ := Place.bounds_of_fits ((hp.child hchild).fits hfits)
    have hinside : body.startByte ≤ p.endByte := Nat.le_trans hle (hp.range_child hnested hchild).2
    obtain ⟨rest, hhead, hends⟩ := h.exists_rest hmfits hpfits hstop hafter hinside
    refine ⟨m.text source ++ rest, hhead, h.render?_iff hends ?_⟩
    have hfield : Rules.java.profile.bodyField = "body" := rfl
    change class? Rules.java p p.startByte source = _
    rw [class?, hfield, hbody, Option.map_some, Option.getD_some, h.slice?_eq hhead]
    rfl
  · obtain ⟨rest, hwhole, hends⟩ := h.exists_rest hmfits hpfits (Place.bounds_of_fits hpfits).2.2
      (hp.range_child hnested hmchild).2 (Nat.le_refl _)
    have htext : p.text source = m.text source ++ rest :=
      Option.some.inj ((Tree.slice?_of_fits hpfits).1.symm.trans hwhole)
    rw [htext, ← String.append_empty (s := trim (m.text source ++ rest))]
    apply h.render?_iff hends
    change field? Rules.java p p.startByte source = _
    rw [field?, h.slice?_eq hwhole, Option.map_some, String.append_empty]

def finalClassModifiers : Tree :=
  .named "modifiers" none 0 12 [.token "public" 0, .token "final" 7]

def finalClassBody : Tree :=
  .named "class_body" (some "body") 21 23 [.token "\x7b" 21, .token "\x7d" 22]

/-- The tree of `public final class A {}`, with any one character between the two keywords. -/
def finalClass : Tree :=
  .named "class_declaration" none 0 23 [finalClassModifiers, .token "class" 13,
    .named "identifier" (some "name") 19 20 [], finalClassBody]

def finalClassSource (gap : String) : String := "public" ++ gap ++ "final class A \x7b\x7d"

theorem startsWithKeywords_finalClass {gap : String} (hgap : gap = " " ∨ gap = "\n") :
    StartsWithKeywords (finalClassSource gap) (.root finalClass)
      ⟨finalClassModifiers, [(finalClass, 0)]⟩ [gap] where
  found := rfl
  begins := rfl
  keywords := by
    have hchildren : Place.children ⟨finalClassModifiers, [(finalClass, 0)]⟩ =
        [⟨.token "public" 0, [(finalClassModifiers, 0), (finalClass, 0)]⟩,
          ⟨.token "final" 7, [(finalClassModifiers, 1), (finalClass, 0)]⟩] := rfl
    have hpublic : (Tree.token "public" 0).text (finalClassSource gap) = "public" := by
      rcases hgap with rfl | rfl <;> decide +kernel
    have hfinal : (Tree.token "final" 7).text (finalClassSource gap) = "final" := by
      rcases hgap with rfl | rfl <;> decide +kernel
    rw [hchildren, List.forall_mem_cons, List.forall_mem_singleton, Place.text, Place.text,
      hpublic, hfinal]
    decide +kernel
  spread := by rcases hgap with rfl | rfl <;> exact .next "public" _ (.last "final")
  blank := by rcases hgap with rfl | rfl <;> decide
  ends := by
    have hrest : Text.slice? (finalClassSource gap) 12 23 = some " class A \x7b\x7d" := by
      rcases hgap with rfl | rfl <;> decide +kernel
    intro rest c hsome hc
    obtain rfl := Option.some.inj (hrest.symm.trans hsome)
    obtain rfl : ' ' = c := Option.some.inj hc
    decide +kernel

theorem render?_java_eq_text_iff_blank :
    Text.slice? (finalClassSource " ") 0 21 = some "public final class A " ∧
      (render? Rules.java .classLike (.root finalClass) "A" (finalClassSource " ")).1 =
        some "public final class A \x7b" := by
  have hhead : Text.slice? (finalClassSource " ") 0 21 = some "public final class A " := by
    decide +kernel
  obtain ⟨hclass, _⟩ := render?_java_eq_text_iff (by decide) (by decide +kernel) .root
    (startsWithKeywords_finalClass (.inl rfl)) "A"
  obtain ⟨head, hsome, hiff⟩ := hclass ⟨finalClassBody, [(finalClass, 3)]⟩ rfl (by decide)
  obtain rfl := Option.some.inj (hhead.symm.trans hsome)
  exact ⟨hhead, hiff.mpr (by decide)⟩

/-- With a line break between them both keywords are shown twice. -/
theorem render?_java_repeats_keywords :
    StartsWithKeywords (finalClassSource "\n") (.root finalClass)
        ⟨finalClassModifiers, [(finalClass, 0)]⟩ ["\n"] ∧
      Text.slice? (finalClassSource "\n") 0 21 = some "public\nfinal class A " ∧
      (render? Rules.java .classLike (.root finalClass) "A" (finalClassSource "\n")).1 =
        some "public final public\nfinal class A \x7b" ∧
      (render? Rules.java .classLike (.root finalClass) "A" (finalClassSource "\n")).1 ≠
        some (trim "public\nfinal class A " ++ " \x7b") := by
  have hshown : (render? Rules.java .classLike (.root finalClass) "A"
      (finalClassSource "\n")).1 = some "public final public\nfinal class A \x7b" := by
    decide +kernel
  refine ⟨startsWithKeywords_finalClass (.inr rfl), by decide +kernel, hshown, ?_⟩
  rw [hshown]
  decide +kernel

end Signature

end CodeOutline
