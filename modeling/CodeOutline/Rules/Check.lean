import CodeOutline.Error
import CodeOutline.Rules.Basic

namespace CodeOutline.Rules

/-- What keeps rules from being used: first a pattern that the grammar does not allow, then a
    profile that does not fit the patterns. -/
def error? (rules : Rules) : Option EngineError :=
  match rules.unknownKind? with
  | some (line, column, kind) => some (.unknownNodeKind line column kind)
  | none => (rules.profile.fault? rules.patterns).map (.invalidProfile rules.language)

end CodeOutline.Rules
