/-!
# Values in messages

How an optional text and a truth value stand in messages and summaries.
-/

namespace Entitlement
namespace Text

def shown : Option String -> String
  | none => "None"
  | some s => s

def shownBool : Bool -> String
  | true => "True"
  | false => "False"

end Text
end Entitlement
