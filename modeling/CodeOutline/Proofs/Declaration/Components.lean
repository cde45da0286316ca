import CodeOutline.Declaration
import CodeOutline.Proofs.Text.Boundaries
import CodeOutline.Proofs.Text.Split

namespace CodeOutline

theorem Text.splitTerminated_empty (sep : Char) : splitTerminated sep "" = [] := rfl

theorem Text.splitTerminated_append (sep : Char) (s : String) :
    splitTerminated sep (s ++ String.singleton sep) = split sep s := by
  have hsplit : split sep (s ++ String.singleton sep) = split sep s ++ [""] := by
    have happend := split_append sep s ""
    rw [String.append_empty] at happend
    exact happend
  rw [splitTerminated, hsplit, if_pos List.getLast?_concat, List.dropLast_concat]

namespace Declaration

/-- What stands in `s` after the last character that satisfies `cut`, found by splitting. -/
def afterLast (cut : Char → Bool) (s : String) : String :=
  match (Text.pieces cut s.toList).getLast? with
  | some piece => String.ofList piece
  | none => s

theorem afterLast_of_clean {cut : Char → Bool} {s : String} (hs : ∀ c ∈ s.toList, cut c = false) :
    afterLast cut s = s := by
  rw [afterLast, Text.pieces_of_clean hs]
  exact String.ofList_toList

theorem afterLast_append {cut : Char → Bool} (sep : Char) (hsep : cut sep) (s : String)
    {t : String} (ht : ∀ c ∈ t.toList, cut c = false) :
    afterLast cut (s ++ String.singleton sep ++ t) = t := by
  have hchars : (s ++ String.singleton sep ++ t).toList = s.toList ++ sep :: t.toList := by simp
  rw [afterLast, hchars, Text.pieces_append hsep, Text.pieces_of_clean ht, List.getLast?_concat]
  exact String.ofList_toList

/-- Right after the last cut there is a boundary, since a cut takes up one byte. -/
theorem afterLast?_eq {cut : Char → Bool} (hcut : ∀ c, cut c → c.utf8Size = 1) (s : String) :
    afterLast? cut s = some (afterLast cut s) := by
  rcases Text.clean_or_exists_last cut s with hclean | ⟨before, sep, after, rfl, hsep, hafter⟩
  · rw [afterLast?, Text.offsets_of_clean hclean, afterLast_of_clean hclean]
    rfl
  · have hsize : (before ++ String.singleton sep).utf8ByteSize = before.utf8ByteSize + 1 := by
      rw [String.utf8ByteSize_append, String.utf8ByteSize_singleton, hcut sep hsep]
    rw [afterLast?, Text.offsets_append_of_clean hsep before hafter, List.getLast?_concat,
      afterLast_append sep hsep before hafter]
    simp only
    rw [← hsize]
    exact Text.sliceFrom?_append _ after

/-- The components of a name that form its package when none is recorded: the leading ones that
    are not capitalized, and never the last. -/
def packageComponents (name : String) : List String :=
  (Text.split '.' name).dropLast.takeWhile fun component => !isCapitalized component

/-- The two offsets of the loop stay one dot apart. -/
theorem packageEnd_eq (stop start : Nat) (components : List String) :
    packageEnd stop start components =
      if components.takeWhile (fun component => !isCapitalized component) = [] then stop
      else start + (".".intercalate
        (components.takeWhile fun component => !isCapitalized component)).utf8ByteSize := by
  induction components generalizing stop start with
  | nil => rfl
  | cons component rest ih =>
    rw [packageEnd]
    cases hcapital : isCapitalized component with
    | true => simp [hcapital]
    | false =>
      rw [if_neg (by decide), ih, List.takeWhile_cons_of_pos (by simp [hcapital]),
        if_neg (List.cons_ne_nil _ _)]
      split
      · rename_i hlast
        rw [hlast, String.intercalate_singleton]
      · rename_i hmore
        rw [String.intercalate_cons_of_ne_nil hmore, String.utf8ByteSize_append,
          String.utf8ByteSize_append]
        have hdot : (".").utf8ByteSize = 1 := rfl
        omega

/-- What stands before the last component is cut out whole, and splits into the other ones. -/
theorem exists_before_leaf (name : String) :
    ∃ before, Text.slice? name 0 (leafStart name) = some before ∧
      Text.splitTerminated '.' before = (Text.split '.' name).dropLast := by
  rcases Text.notMem_or_exists_last '.' name with hnone | ⟨before, leaf, rfl, hleaf⟩
  · refine ⟨"", ?_, ?_⟩
    · rw [leafStart, Text.offsets_of_clean (Text.clean_iff_notMem.mpr hnone)]
      simpa using Text.slice?_zero_append "" name
    · rw [Text.split_of_clean hnone, Text.splitTerminated_empty]
      rfl
  · refine ⟨before ++ String.singleton '.', ?_, ?_⟩
    · have hsize : (before ++ String.singleton '.').utf8ByteSize = before.utf8ByteSize + 1 :=
        String.utf8ByteSize_append
      rw [leafStart, Text.offsets_append_of_notMem '.' before hleaf, List.getLast?_concat]
      simp only
      rw [← hsize]
      exact Text.slice?_zero_append (before ++ String.singleton '.') leaf
    · rw [Text.splitTerminated_append, Text.split_append, Text.split_of_clean hleaf,
        List.dropLast_concat]

/-- The last component never belongs to the package. -/
theorem exists_split_eq (name : String) :
    ∃ others, others ≠ [] ∧ Text.split '.' name = packageComponents name ++ others := by
  have hne : Text.split '.' name ≠ [] := by
    simp [Text.split_eq]
  obtain ⟨middle, hmiddle⟩ : packageComponents name <+: (Text.split '.' name).dropLast :=
    List.takeWhile_prefix _
  refine ⟨middle ++ [(Text.split '.' name).getLast hne], by simp, ?_⟩
  rw [← List.append_assoc, hmiddle, List.dropLast_concat_getLast]

/-- A name is its package and what follows after a dot, unless it has no package. -/
theorem name_eq_of_packageComponents {name : String} (hpackage : packageComponents name ≠ []) :
    name = ".".intercalate (packageComponents name) ++ "." ++
      ".".intercalate ((Text.split '.' name).drop (packageComponents name).length) := by
  obtain ⟨others, hothers, hsplit⟩ := exists_split_eq name
  have hdrop : (Text.split '.' name).drop (packageComponents name).length = others := by
    rw [hsplit, List.drop_left]
  rw [hdrop, ← String.intercalate_append_of_ne_nil hpackage hothers, ← hsplit]
  exact (Text.intercalate_split '.' name).symm

theorem packageIn?_eq (name : String) :
    packageIn? name = some (".".intercalate (packageComponents name)) := by
  obtain ⟨before, hbefore, hcomponents⟩ := exists_before_leaf name
  have hstop : packageEnd 0 0 (Text.splitTerminated '.' before) =
      (".".intercalate (packageComponents name)).utf8ByteSize := by
    rw [hcomponents, packageEnd_eq, ← packageComponents]
    split
    · rename_i hnone
      rw [hnone]
      rfl
    · exact Nat.zero_add _
  rw [packageIn?, hbefore]
  show Text.slice? name 0 (packageEnd 0 0 (Text.splitTerminated '.' before)) = _
  rw [hstop]
  obtain ⟨after, hname⟩ : ∃ after, name = ".".intercalate (packageComponents name) ++ after := by
    by_cases hnone : packageComponents name = []
    · exact ⟨name, by simp [hnone]⟩
    · exact ⟨_, (name_eq_of_packageComponents hnone).trans (String.append_assoc ..)⟩
  have hslice := Text.slice?_zero_append (".".intercalate (packageComponents name)) after
  rwa [← hname] at hslice

variable {d : Declaration}

theorem packageName?_eq (d : Declaration) : d.packageName? =
    some (d.package?.getD (".".intercalate (packageComponents d.name))) := by
  unfold packageName?
  split
  · rename_i hpackage
    rw [hpackage]
    rfl
  · rename_i hnone
    rw [packageIn?_eq, hnone]
    rfl

/-- Behind a package that is not empty stands a dot, so the name goes on one byte later. -/
theorem relativeName?_eq (d : Declaration) : d.relativeName? = some (
    match d.package? with
    | some _ => d.localName
    | none =>
      if ".".intercalate (packageComponents d.name) = "" then d.name
      else ".".intercalate
        ((Text.split '.' d.name).drop (packageComponents d.name).length)) := by
  have hcut : ∀ package after : String,
      Text.sliceFrom? (package ++ "." ++ after) (package.utf8ByteSize + 1) = some after := by
    intro package after
    have hsize : (package ++ ".").utf8ByteSize = package.utf8ByteSize + 1 :=
      String.utf8ByteSize_append
    rw [← hsize]
    exact Text.sliceFrom?_append (package ++ ".") after
  rw [relativeName?, packageName?_eq]
  show (if d.package?.getD (".".intercalate (packageComponents d.name)) = "" then _ else _) = _
  cases hpackage : d.package? with
  | some package =>
    simp only [Option.getD_some, name, hpackage, qualify]
    split
    · rfl
    · exact hcut package d.localName
  | none =>
    simp only [Option.getD_none]
    split
    · rfl
    · rename_i hsome
      have hne : packageComponents d.name ≠ [] := fun hnone => hsome (by rw [hnone]; rfl)
      have hslice := hcut (".".intercalate (packageComponents d.name))
        (".".intercalate ((Text.split '.' d.name).drop (packageComponents d.name).length))
      rwa [← name_eq_of_packageComponents hne] at hslice

/-- The last two members of a list, or all of it. -/
def lastTwo (components : List String) : List String :=
  components.drop (components.length - 2)

theorem lastTwo_append (components : List String) (owner leaf : String) :
    lastTwo (components ++ [owner] ++ [leaf]) = [owner, leaf] := by
  simp [lastTwo]

/-- The part of a name behind the last dot but one. -/
theorem cut_lastTwo (rest : String) :
    (match (Text.offsets (· == '.') rest).reverse[1]? with
      | some i => Text.sliceFrom? rest (i + 1)
      | none => some rest) = some (".".intercalate (lastTwo (Text.split '.' rest))) := by
  rcases Text.notMem_or_exists_last '.' rest with hnone | ⟨before, leaf, rfl, hleaf⟩
  · rw [Text.offsets_of_clean (Text.clean_iff_notMem.mpr hnone), Text.split_of_clean hnone]
    rfl
  · rw [Text.offsets_append_of_notMem '.' before hleaf, Text.split_append,
      Text.split_of_clean hleaf]
    rcases Text.notMem_or_exists_last '.' before with hnone | ⟨first, owner, rfl, howner⟩
    · rw [Text.offsets_of_clean (Text.clean_iff_notMem.mpr hnone), Text.split_of_clean hnone]
      rfl
    · rw [Text.offsets_append_of_notMem '.' first howner, Text.split_append,
        Text.split_of_clean howner, lastTwo_append]
      have hsize : (first ++ String.singleton '.').utf8ByteSize = first.utf8ByteSize + 1 :=
        String.utf8ByteSize_append
      have hsecond : ∀ (offsets : List Nat) (i j : Nat),
          (offsets ++ [i] ++ [j]).reverse[1]? = some i := by simp
      have hjoined : ".".intercalate [owner, leaf] = owner ++ (String.singleton '.' ++ leaf) := by
        rw [String.intercalate_cons_of_ne_nil (List.cons_ne_nil _ _), String.intercalate_singleton]
        exact String.append_assoc ..
      rw [hsecond, hjoined, String.append_assoc, String.append_assoc]
      simp only
      rw [← hsize]
      exact Text.sliceFrom?_append (first ++ String.singleton '.') _

theorem shortName?_eq {rest : String} (hrest : d.relativeName? = some rest) :
    d.shortName? = some (
      match d.kind with
      | .type => (Text.split '.' rest).headD rest
      | .function | .field => ".".intercalate (lastTwo (Text.split '.' rest))) := by
  rw [shortName?, hrest]
  cases hkind : d.kind with
  | type => rfl
  | function => exact cut_lastTwo rest
  | field => exact cut_lastTwo rest

theorem identifier?_eq {short : String} (hshort : d.shortName? = some short) :
    d.identifier? = some (afterLast (fun c => c == '.' || c == '$') short) := by
  rw [identifier?, hshort]
  refine afterLast?_eq ?_ short
  intro c hc
  rcases (by simpa using hc : c = '.' ∨ c = '$') with rfl | rfl <;> rfl

theorem simpleName?_eq (d : Declaration) :
    d.simpleName? = some (afterLast (· == '.') d.name) := by
  refine afterLast?_eq ?_ d.name
  intro c hc
  obtain rfl : c = '.' := by simpa using hc
  rfl

/-- No part of the declaration is cut outside its name or inside a character. -/
structure PartsFit (d : Declaration) : Prop where
  packageName : d.packageName? = some d.packageName
  relativeName : d.relativeName? = some d.relativeName
  shortName : d.shortName? = some d.shortName
  simpleName : d.simpleName? = some d.simpleName
  identifier : d.identifier? = some d.identifier

/-- Whether its package is recorded or not. -/
theorem partsFit (d : Declaration) : d.PartsFit := by
  have hrelative := relativeName?_eq d
  have hshort := shortName?_eq hrelative
  refine ⟨?_, ?_, ?_, ?_, ?_⟩
  · rw [packageName, packageName?_eq, Option.getD_some]
  · rw [relativeName, hrelative, Option.getD_some]
  · rw [shortName, hshort, Option.getD_some]
  · rw [simpleName, simpleName?_eq, Option.getD_some]
  · rw [identifier, identifier?_eq hshort, Option.getD_some]

theorem packageName_eq (d : Declaration) :
    d.packageName = d.package?.getD (".".intercalate (packageComponents d.name)) :=
  Option.some.inj (d.partsFit.packageName.symm.trans (packageName?_eq d))

theorem relativeName_eq (d : Declaration) : d.relativeName =
    match d.package? with
    | some _ => d.localName
    | none =>
      if ".".intercalate (packageComponents d.name) = "" then d.name
      else ".".intercalate ((Text.split '.' d.name).drop (packageComponents d.name).length) :=
  Option.some.inj (d.partsFit.relativeName.symm.trans (relativeName?_eq d))

theorem shortName_eq (d : Declaration) : d.shortName =
    match d.kind with
    | .type => (Text.split '.' d.relativeName).headD d.relativeName
    | .function | .field => ".".intercalate (lastTwo (Text.split '.' d.relativeName)) :=
  Option.some.inj (d.partsFit.shortName.symm.trans (shortName?_eq d.partsFit.relativeName))

theorem identifier_eq (d : Declaration) :
    d.identifier = afterLast (fun c => c == '.' || c == '$') d.shortName :=
  Option.some.inj (d.partsFit.identifier.symm.trans (identifier?_eq d.partsFit.shortName))

/-- Of some components, the longest beginning in which none starts with an uppercase letter. -/
structure Leads (package components : List String) : Prop where
  beginning : package <+: components
  uncapitalized : ∀ component ∈ package, isCapitalized component = false
  longest : ∀ other, other <+: components →
    (∀ component ∈ other, isCapitalized component = false) → other <+: package

theorem leads_takeWhile (components : List String) :
    Leads (components.takeWhile fun component => !isCapitalized component) components := by
  refine ⟨List.takeWhile_prefix _, ?_, ?_⟩
  · intro component hcomponent
    simpa using List.all_eq_true.mp List.all_takeWhile component hcomponent
  · rintro other ⟨rest, rfl⟩ hother
    rw [List.takeWhile_append_of_pos (by simpa using hother)]
    exact List.prefix_append _ _

/-- Any name that is not empty names a declaration of any kind. Its package is made of the longest
    beginning of the components before the last one in which none is capitalized, and no part is cut
    outside the name or inside a character. Components may be empty. -/
theorem named_package_leads (kind : Kind) (name : String) (hne : name ≠ "") :
    ∃ d package, named kind name = .ok d ∧ Leads package (Text.split '.' name).dropLast ∧
      d.packageName = ".".intercalate package ∧ d.PartsFit := by
  let d : Declaration := ⟨kind, none, name, hne⟩
  refine ⟨d, packageComponents name, dif_neg hne, leads_takeWhile _, ?_, d.partsFit⟩
  exact packageName_eq d

/-- Components that are empty, and characters of more than one byte. -/
theorem named_package_leads_umlauts : ".ü..Äh$ß.x" ≠ "" ∧
    ∃ d, named .function ".ü..Äh$ß.x" = .ok d ∧ d.PartsFit ∧ d.packageName = ".ü." ∧
      d.shortName = "Äh$ß.x" ∧ d.identifier = "x" := by
  obtain ⟨d, package, hnamed, _, _, hfit⟩ :=
    named_package_leads .function ".ü..Äh$ß.x" (by decide)
  obtain rfl : ⟨.function, none, ".ü..Äh$ß.x", by decide⟩ = d := Except.ok.inj hnamed
  have hshort : shortName ⟨.function, none, ".ü..Äh$ß.x", by decide⟩ = "Äh$ß.x" := by
    rw [shortName_eq, relativeName_eq]
    decide
  refine ⟨by decide, _, hnamed, hfit, ?_, hshort, ?_⟩
  · rw [packageName_eq]
    decide
  · rw [identifier_eq, hshort]
    decide

end Declaration

end CodeOutline
