import CodeOutline.Proofs.Outline.Definitions
import CodeOutline.Proofs.Signature.Modifiers
import CodeOutline.Rules.Go

namespace CodeOutline

/-- Without kinds of decorators there are no decorators. -/
theorem Rules.standardDecorators_eq_nil {profile : Profile} (hnone : profile.decorators = [])
    (p content : Place) : standardDecorators profile p content = [] := by
  have hkind : ∀ kind, profile.isDecorator kind = false := by
    intro kind
    rw [Profile.isDecorator, hnone]
    rfl
  have hbefore : p.namedBefore.takeWhile (fun _ => false) = [] := by
    cases p.namedBefore <;> rfl
  simp [standardDecorators, hkind, hbefore]

namespace Rules.Go

open Signature

/-- The first word of a text that is no keyword. -/
def firstWord? (text : String) : Option String :=
  ((Text.pieces (fun c => !isWordChar c) text.toList).map String.ofList).find? fun w =>
    w ≠ "" && !keywords.contains w

theorem isExported_eq (signature : String) :
    isExported signature = (firstWord? signature).any Declaration.isCapitalized := by
  have hcut : (fun c => !Text.isAlphanumeric c && c != '_') = fun c => !isWordChar c := by
    funext c
    rw [isWordChar, Bool.not_or]
    rfl
  have htest : ((fun w : String => decide (w ≠ "") && !keywords.contains w) ∘ String.ofList) =
      fun w => decide (w ≠ []) && !keywords.contains (String.ofList w) := by
    funext w
    simp
  rw [isExported, hcut, firstWord?, List.find?_map, htest]
  split
  · rename_i c cs hfound
    rw [hfound, Option.map_some, Option.any_some, Declaration.isCapitalized, String.toList_ofList]
  · rename_i hnone
    cases hfound : (Text.pieces (fun c => !isWordChar c) signature.toList).find?
        fun w => decide (w ≠ []) && !keywords.contains (String.ofList w) with
    | none => rfl
    | some w =>
      cases w with
      | nil => rfl
      | cons c cs => exact absurd hfound (hnone c cs)

theorem firstWord?_empty : firstWord? "" = none := by decide

/-- The words before a break come first. -/
theorem firstWord?_append {sep : Char} (hsep : isWordChar sep = false) (s t : String) :
    firstWord? (s ++ String.singleton sep ++ t) = (firstWord? s).or (firstWord? t) := by
  have hchars : (s ++ String.singleton sep ++ t).toList = s.toList ++ sep :: t.toList := by simp
  rw [firstWord?, hchars, Text.pieces_append (by simp [hsep]), List.map_append, List.find?_append]
  rfl

/-- A text that does not go on with a word before it. -/
def EndsWord (text : String) : Prop := ∀ c, text.toList.head? = some c → isWordChar c = false

instance (text : String) : Decidable (EndsWord text) :=
  decidable_of_iff (text.toList.head?.all fun c => !isWordChar c) (by
    simp [EndsWord, Option.all_eq_true])

theorem endsWord_empty : EndsWord "" := by decide

theorem isWordChar_blank : isWordChar ' ' = false := by decide

theorem EndsWord.append {s t : String} (hs : EndsWord s) (ht : EndsWord t) : EndsWord (s ++ t) := by
  intro c hc
  rw [String.toList_append, List.head?_append, Option.or_eq_some_iff] at hc
  rcases hc with hfirst | ⟨_, hsecond⟩
  · exact hs c hfirst
  · exact ht c hsecond

theorem EndsWord.append_left {s : String} (hs : EndsWord s) (hne : s ≠ "") (t : String) :
    EndsWord (s ++ t) := by
  intro c hc
  have hhead := List.head?_eq_some_head (mt String.toList_eq_nil_iff.mp hne)
  rw [String.toList_append, List.head?_append, hhead, Option.some_or] at hc
  exact hs c (hhead.trans hc)

theorem firstWord?_append_of_endsWord (s : String) {t : String} (hends : EndsWord t) :
    firstWord? (s ++ t) = (firstWord? s).or (firstWord? t) := by
  cases hchars : t.toList with
  | nil =>
    obtain rfl : t = "" := String.toList_eq_nil_iff.mp hchars
    rw [String.append_empty, firstWord?_empty, Option.or_none]
  | cons sep rest =>
    have hsep : isWordChar sep = false := hends sep (by rw [hchars, List.head?_cons])
    obtain rfl : t = String.singleton sep ++ String.ofList rest := by
      rw [← String.toList_inj, hchars]
      simp
    have hrest : firstWord? (String.singleton sep ++ String.ofList rest) =
        firstWord? (String.ofList rest) := by
      have hbreak := firstWord?_append hsep "" (String.ofList rest)
      rwa [String.empty_append, firstWord?_empty, Option.none_or] at hbreak
    rw [hrest, ← String.append_assoc, firstWord?_append hsep]

theorem firstWord?_of_word {name : String} (hne : name ≠ "")
    (hword : ∀ c ∈ name.toList, isWordChar c) (hkeyword : name ∉ keywords) :
    firstWord? name = some name := by
  have hpieces : Text.pieces (fun c => !isWordChar c) name.toList = [name.toList] := by
    apply Text.pieces_of_clean
    intro c hc
    rw [hword c hc]
    rfl
  rw [firstWord?, hpieces, List.map_singleton, String.ofList_toList, List.find?_singleton,
    if_pos (by simpa using ⟨hne, hkeyword⟩)]

/-- The first word of the receiver of a method. -/
def receiverWord? (p : Place) (source : String) : Option String :=
  (p.fieldText? "receiver" source).bind firstWord?

/-- What a signature shows behind the name. -/
def behindName (parts : FunctionParts) : String :=
  parts.typeParameters ++ parts.parameters ++
    ((if parts.returnType = "" then "" else " " ++ parts.returnType) ++
      if parts.hasBody then elidedBody parts.placeholder else "")

/-- What the signature adds to the lists of parameters starts with a blank. -/
theorem endsWord_behindName {parts : FunctionParts}
    (hends : EndsWord (parts.typeParameters ++ parts.parameters)) :
    EndsWord (behindName parts) := by
  refine hends.append (.append ?_ ?_)
  · split
    · exact endsWord_empty
    · exact EndsWord.append_left (by decide) (by decide) _
  · split
    · rw [elidedBody, String.append_assoc]
      exact EndsWord.append_left (by decide) (by decide) _
    · exact endsWord_empty

/-- The words of the receiver come first, then the name, then what is behind it. -/
theorem firstWord?_functionSignature {parts : FunctionParts}
    (hends : EndsWord (parts.typeParameters ++ parts.parameters)) :
    firstWord? (functionSignature parts) =
      (receiverWord? parts.place parts.source).or
        ((firstWord? parts.name).or (firstWord? (behindName parts))) := by
  have hnamed := firstWord?_append_of_endsWord parts.name (endsWord_behindName hends)
  have hkeyword : firstWord? "func" = none := by decide +kernel
  have hfunc : ∀ rest, firstWord? ("func " ++ rest) = firstWord? rest := by
    intro rest
    have hbreak := firstWord?_append isWordChar_blank "func" rest
    rwa [hkeyword, Option.none_or] at hbreak
  cases hreceiver : parts.place.fieldText? "receiver" parts.source with
  | none =>
    have hshown : functionSignature parts = "func " ++ (parts.name ++ behindName parts) := by
      simp only [functionSignature, behindName, hreceiver, String.append_assoc,
        String.empty_append]
    rw [hshown, hfunc, hnamed, receiverWord?, hreceiver, Option.bind_none, Option.none_or]
  | some text =>
    have hshown : functionSignature parts =
        "func " ++ (text ++ String.singleton ' ' ++ (parts.name ++ behindName parts)) := by
      simp only [functionSignature, behindName, hreceiver, String.append_assoc]
      rfl
    rw [hshown, hfunc, firstWord?_append isWordChar_blank, hnamed, receiverWord?, hreceiver,
      Option.bind_some]

end Rules.Go

namespace Definition

open Rules.Go Declaration

/-- A definition of a function or a method in Go, with a list of parameters and a name made of
    letters, digits and underscores. Neither that list nor one of type parameters starts with such
    a character. -/
structure IsGoFunction (source : String) (d : Definition) : Prop where
  shape : Rules.go.profile.shape? d.capture = some .functionLike
  name_ne : d.simpleName ≠ ""
  word : ∀ c ∈ d.simpleName.toList, Signature.isWordChar c
  parameters : ∃ text, d.place.fieldText? "parameters" source = some text ∧
    EndsWord ((d.place.fieldText? "type_parameters" source).getD "" ++ text)

instance (source : String) (d : Definition) : Decidable (IsGoFunction source d) :=
  decidable_of_iff
    (Rules.go.profile.shape? d.capture = some .functionLike ∧ d.simpleName ≠ "" ∧
      d.simpleName.toList.all Signature.isWordChar ∧
      (d.place.fieldText? "parameters" source).any fun text =>
        EndsWord ((d.place.fieldText? "type_parameters" source).getD "" ++ text)) (by
    simp only [List.all_eq_true, Option.any_eq_true, decide_eq_true_eq]
    exact ⟨fun ⟨hshape, hne, hword, hends⟩ => ⟨hshape, hne, hword, hends⟩,
      fun h => ⟨h.shape, h.name_ne, h.word, h.parameters⟩⟩)

variable {source : String} {d : Definition}

theorem IsGoFunction.signature?_eq (h : IsGoFunction source d) :
    ∃ signature, d.signature? Rules.go source = some signature ∧
      ∃ behind, firstWord? signature =
        (receiverWord? d.place source).or ((firstWord? d.simpleName).or behind) := by
  obtain ⟨text, htext, hends⟩ := h.parameters
  let parts := Signature.functionParts Rules.go d.place d.simpleName text source
  refine ⟨functionSignature parts, ?_, firstWord? (behindName parts),
    firstWord?_functionSignature hends⟩
  have hundecorated : Rules.go.decorators d.place (Rules.go.content d.place) = [] :=
    Rules.standardDecorators_eq_nil rfl d.place d.place
  have hparameters : Signature.parameters? Rules.go d.place source = some text := by
    change (d.place.fieldText? "parameters" source).or _ = _
    rw [htext, Option.some_or]
  have hprintable : Text.isBlankText (functionSignature parts) = false := by
    have hkeyword : Text.IsWord "func" := by decide
    have htight := hkeyword.isTight.not_blank_append
    simp only [functionSignature, String.append_assoc]
    exact htight (" " ++ _)
  rw [Definition.signature?, h.shape, Option.bind_some,
    Signature.render?_of_undecorated hundecorated]
  change ((Signature.function? Rules.go d.place d.place.startByte d.simpleName source).1.filter
    fun text => !Text.isBlankText text) = _
  rw [Signature.function?, hparameters]
  exact Option.filter_eq_some_iff.mpr ⟨rfl, by simpa using hprintable⟩

/-- Where a receiver has a word, the test for export follows the name exactly if that word is
    capitalized like the name. Everywhere else it follows the name, as names are no keywords. -/
theorem isExported_signature?_iff (h : IsGoFunction source d) :
    ∃ signature, d.signature? Rules.go source = some signature ∧
      (∀ word, receiverWord? d.place source = some word →
        (Rules.go.isExported signature = isCapitalized d.simpleName ↔
          isCapitalized word = isCapitalized d.simpleName)) ∧
      (receiverWord? d.place source = none → d.simpleName ∉ keywords →
        Rules.go.isExported signature = isCapitalized d.simpleName) := by
  obtain ⟨signature, hsignature, behind, hfirst⟩ := h.signature?_eq
  have hexported : Rules.go.isExported signature =
      (firstWord? signature).any isCapitalized := isExported_eq signature
  refine ⟨signature, hsignature, ?_, ?_⟩
  · intro word hword
    rw [hexported, hfirst, hword, Option.some_or, Option.any_some]
  · intro hnone hkeyword
    rw [hexported, hfirst, hnone, Option.none_or, firstWord?_of_word h.name_ne h.word hkeyword,
      Option.some_or, Option.any_some]

/-- The tree of a method of `Point` with a name of four letters. -/
def methodTree : Tree :=
  .named "source_file" none 0 26 [.named "method_declaration" none 0 25 [.token "func" 0,
    .named "parameter_list" (some "receiver") 5 15 [.token "(" 5,
      .named "parameter_declaration" none 6 14 [.named "identifier" (some "name") 6 7 [],
        .named "pointer_type" (some "type") 8 14 [.token "*" 8,
          .named "type_identifier" none 9 14 []]],
      .token ")" 14],
    .named "field_identifier" (some "name") 16 20 [],
    .named "parameter_list" (some "parameters") 20 22 [.token "(" 20, .token ")" 21],
    .named "block" (some "body") 23 25 [.token "\x7b" 23, .token "\x7d" 24]]]

def methodSource (name : String) : String := "func (p *Point) " ++ name ++ "() \x7b\x7d\n"

theorem isExported_signature?_iff_small :
    Rules.go.isExported "func (p *Point) dist() \x7b ... \x7d" = isCapitalized "dist" := by
  have hfound : ∃ d ∈ (all Rules.go ⟨"geometry/point.go"⟩ (methodSource "dist") methodTree).1,
      IsGoFunction (methodSource "dist") d ∧ d.simpleName = "dist" ∧
      receiverWord? d.place (methodSource "dist") = some "p" ∧
      d.signature? Rules.go (methodSource "dist") =
        some "func (p *Point) dist() \x7b ... \x7d" := by
    rw [Definition.all_eq_insertionSort]
    decide +kernel
  obtain ⟨d, -, hd, hname, hreceiver, hshown⟩ := hfound
  obtain ⟨signature, hsignature, hword, -⟩ := isExported_signature?_iff hd
  obtain rfl := Option.some.inj (hsignature.symm.trans hshown)
  rw [← hname, hword "p" hreceiver, hname]
  decide +kernel

/-- A capitalized method does not count as exported, because its receiver starts with a small
    letter. -/
theorem not_isExported_of_receiver :
    ∃ d ∈ (all Rules.go ⟨"geometry/point.go"⟩ (methodSource "Dist") methodTree).1,
      IsGoFunction (methodSource "Dist") d ∧ isCapitalized d.simpleName ∧
      ∃ signature ∈ d.signature? Rules.go (methodSource "Dist"),
        signature = "func (p *Point) Dist() \x7b ... \x7d" ∧
        ¬ Rules.go.isExported signature := by
  rw [Definition.all_eq_insertionSort]
  decide +kernel

end Definition

end CodeOutline
