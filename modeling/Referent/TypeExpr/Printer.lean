import Referent.TypeExpr.Basic

/-!
# Type text: printing

`TypeExpr.text` writes a type the way source code does, `java.util.Map<K, ? extends V>[]`.
-/

namespace Referent.TypeExpr

mutual

/-- The type as source text (`to_string`). -/
def text : TypeExpr → String
  | .basic name | .declared name => name
  | .generic base args => base.text ++ "<" ++ argsText args ++ ">"
  | .array element dimensions => element.text ++ brackets dimensions
  | .wildcard _ => "?"
  | .bounded true bound => "? extends " ++ bound.text
  | .bounded false bound => "? super " ++ bound.text
  | .unknown => "<unknown>"

/-- The arguments of a generic type, separated by a comma and a space. -/
def argsText : List TypeExpr → String
  | [] => ""
  | [t] => t.text
  | t :: u :: ts => t.text ++ ", " ++ argsText (u :: ts)

end

end Referent.TypeExpr
