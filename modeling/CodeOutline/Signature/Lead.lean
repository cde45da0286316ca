import CodeOutline.Text.Blank
import CodeOutline.Text.Number

namespace CodeOutline.Signature

/-- Whether a character continues a word. -/
def isWordChar (c : Char) : Bool := Text.isAlphanumeric c || c == '_'

/-- Whether `text` starts with `word`, and the word ends there. -/
def startsWithWord (text word : String) : Bool :=
  match word.toList.isPrefixOf? text.toList with
  | none => false
  | some [] => true
  | some (c :: _) => !isWordChar c

/-- The words that have to be put before `text`: those before the first place from which all the
    remaining words, with single blanks between them, start the text already. -/
def missingWords (text : String) : List String → List String
  | [] => []
  | word :: rest =>
    if startsWithWord text (" ".intercalate (word :: rest)) then []
    else word :: missingWords text rest

/-- `text` with the words of `lead` before it, less the last ones it starts with already. -/
def applyLead (lead text : String) : String :=
  match missingWords text (Text.words lead) with
  | [] => text
  | words => " ".intercalate words ++ " " ++ text

end CodeOutline.Signature
