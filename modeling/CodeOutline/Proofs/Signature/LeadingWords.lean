import CodeOutline.Proofs.Signature.Modifiers

namespace CodeOutline

theorem Rules.spaced_cons (word : String) (ws : List String) :
    spaced (word :: ws) = word ++ (" " ++ spaced ws) := by
  rw [spaced, List.map_cons, String.join_cons, String.append_assoc]
  rfl

/-- A blank after each word is a blank between them and one after the last. -/
theorem Rules.spaced_eq_intercalate {ws : List String} (hne : ws ≠ []) :
    spaced ws = " ".intercalate ws ++ " " := by
  induction ws with
  | nil => exact absurd rfl hne
  | cons word ws ih =>
    rw [spaced_cons]
    by_cases hlast : ws = []
    · subst hlast
      rw [String.intercalate_singleton]
      rfl
    · rw [ih hlast, String.intercalate_cons_of_ne_nil hlast]
      simp only [String.append_assoc]

namespace Signature

open Text

/-- The text starts with some words, single blanks between them, and the last one ends there: the
    text is over, or its next character is neither alphanumeric nor an underscore. Of no words there
    is nothing to ask. -/
def StartsWithWords (text : String) (ws : List String) : Prop :=
  ws = [] ∨ ∃ rest, text = " ".intercalate ws ++ rest ∧
    ∀ c, rest.toList.head? = some c → isWordChar c = false

variable {text : String} {ws before after : List String}

theorem startsWithWords_iff (hne : ws ≠ []) :
    StartsWithWords text ws ↔ startsWithWord text (" ".intercalate ws) := by
  rw [StartsWithWords, startsWithWord_iff, or_iff_right hne]
  constructor
  · rintro ⟨rest, rfl, hends⟩
    exact ⟨rest.toList, String.toList_append, hends⟩
  · rintro ⟨rest, htext, hends⟩
    refine ⟨String.ofList rest, ?_, ?_⟩
    · rw [← String.toList_inj, htext, String.toList_append, String.toList_ofList]
    · rwa [String.toList_ofList]

/-- With some words before it, a text starts with these and others exactly if it starts with the
    others itself. -/
theorem startsWithWords_spaced_append :
    StartsWithWords (Rules.spaced before ++ text) (before ++ after) ↔
      StartsWithWords text after := by
  induction before with
  | nil => rfl
  | cons word before ih =>
    rw [Rules.spaced_cons, String.append_assoc, String.append_assoc, List.cons_append]
    by_cases hlast : before ++ after = []
    · -- all the words stand before the text, and the blank after the last one ends it
      obtain ⟨rfl, rfl⟩ := List.append_eq_nil_iff.mp hlast
      refine ⟨fun _ => .inl rfl, fun _ => .inr ⟨" " ++ text, ?_, ?_⟩⟩
      · rw [List.append_nil, String.intercalate_singleton]
        rfl
      · intro c hc
        obtain rfl : ' ' = c := by simpa using hc
        decide
    · rw [startsWithWords_iff (List.cons_ne_nil _ _), String.intercalate_cons_of_ne_nil hlast,
        String.append_assoc, startsWithWord_append_left, startsWithWord_append_left,
        ← startsWithWords_iff hlast]
      exact ih

theorem missingWords_eq_nil (hstarts : StartsWithWords text ws) : missingWords text ws = [] := by
  by_cases hne : ws = []
  · subst hne
    rfl
  · exact (missingWords_eq_nil_iff hne).mpr ((startsWithWords_iff hne).mp hstarts)

/-- The missing words come first, and the text starts with the rest. -/
theorem exists_missingWords_append (text : String) (ws : List String) :
    ∃ after, ws = missingWords text ws ++ after ∧ StartsWithWords text after := by
  induction ws with
  | nil => exact ⟨[], rfl, .inl rfl⟩
  | cons word ws ih =>
    rw [missingWords]
    split
    · rename_i hstarts
      exact ⟨word :: ws, rfl, (startsWithWords_iff (List.cons_ne_nil _ _)).mpr hstarts⟩
    · obtain ⟨after, hsplit, hstarts⟩ := ih
      exact ⟨after, congrArg (word :: ·) hsplit, hstarts⟩

/-- Whatever stands before words with which the text starts, no more than that is missing. -/
theorem missingWords_prefix (hothers : StartsWithWords text after) :
    missingWords text (before ++ after) <+: before := by
  induction before with
  | nil => exact List.prefix_nil.mpr (missingWords_eq_nil hothers)
  | cons word before ih =>
    rw [List.cons_append, missingWords]
    split
    · exact List.nil_prefix
    · exact (List.prefix_cons_inj word).mpr ih

/-- The missing words go before the text, each with a blank after it. -/
theorem applyLead_eq (lead text : String) :
    applyLead lead text = Rules.spaced (missingWords text (words lead)) ++ text := by
  rw [applyLead]
  split
  · rename_i hnone
    rw [hnone]
    rfl
  · rename_i hsome
    rw [Rules.spaced_eq_intercalate hsome]

theorem startsWithWords_applyLead (lead text : String) :
    StartsWithWords (applyLead lead text) (words lead) := by
  obtain ⟨after, hsplit, hstarts⟩ := exists_missingWords_append text (words lead)
  have hall : StartsWithWords (Rules.spaced (missingWords text (words lead)) ++ text)
      (missingWords text (words lead) ++ after) := startsWithWords_spaced_append.mpr hstarts
  rwa [← hsplit, ← applyLead_eq] at hall

/-- A lead puts some of its first words before a text, which itself starts with the others. No
    shorter list of first words makes the text start with all of them. Without words nothing
    changes, and with words the result starts with all of them, so that the same lead has nothing
    more to put before it. -/
theorem applyLead_shortest (lead text : String) :
    (∃ before after, words lead = before ++ after ∧
      applyLead lead text = Rules.spaced before ++ text ∧ StartsWithWords text after ∧
      ∀ other, other <+: words lead →
        StartsWithWords (Rules.spaced other ++ text) (words lead) → before <+: other) ∧
    (words lead = [] → applyLead lead text = text) ∧
    (words lead ≠ [] → ∃ rest, applyLead lead text = " ".intercalate (words lead) ++ rest ∧
      ∀ c, rest.toList.head? = some c → isWordChar c = false) ∧
    applyLead lead (applyLead lead text) = applyLead lead text := by
  obtain ⟨after, hsplit, hothers⟩ := exists_missingWords_append text (words lead)
  have hstarts := startsWithWords_applyLead lead text
  refine ⟨⟨missingWords text (words lead), after, hsplit, applyLead_eq lead text, hothers, ?_⟩,
    ?_, ?_, ?_⟩
  · -- to start with all words with `other` before it, the text starts with those after `other`
    rintro other ⟨rest, hlead⟩ hall
    rw [← hlead] at hall ⊢
    exact missingWords_prefix (startsWithWords_spaced_append.mp hall)
  · intro hnone
    exact applyLead_eq_self_iff.mpr (missingWords_eq_nil (.inl hnone))
  · intro hsome
    exact hstarts.resolve_left hsome
  · exact applyLead_eq_self_iff.mpr (missingWords_eq_nil hstarts)

/-- Only the first of three words is missing, although the text starts with the same word. -/
theorem applyLead_shortest_static :
    words "static static\u2003final " = ["static", "static", "final"] ∧
      applyLead "static static\u2003final " "static final int x;" = "static static final int x;" ∧
      applyLead "static static\u2003final " "static static final int x;" =
        "static static final int x;" ∧
      ∃ rest, "static static final int x;" = "static static final" ++ rest ∧
        ∀ c, rest.toList.head? = some c → isWordChar c = false := by
  have hwords : words "static static\u2003final " = ["static", "static", "final"] := by
    decide +kernel
  have hput : applyLead "static static\u2003final " "static final int x;" =
      "static static final int x;" := by
    decide +kernel
  obtain ⟨-, -, hstarts, hagain⟩ :=
    applyLead_shortest "static static\u2003final " "static final int x;"
  rw [hput] at hstarts hagain
  refine ⟨hwords, hput, hagain, ?_⟩
  have hjoined : " ".intercalate ["static", "static", "final"] = "static static final" := by decide
  rw [hwords, hjoined] at hstarts
  exact hstarts (List.cons_ne_nil _ _)

end Signature

end CodeOutline
