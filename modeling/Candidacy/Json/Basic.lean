import Candidacy.Number.Decimal

/-!
# JSON values

Whole numbers and numbers with a point are told apart, the second kept digit for digit. The fields
of an object keep their order.
-/

namespace Candidacy

inductive Json where
  | null
  | bool (b : Bool)
  | integer (n : Int)
  | decimal (d : Decimal)
  | text (s : String)
  | array (items : List Json)
  | object (fields : List (String × Json))
  deriving Repr, Inhabited

namespace Json

def field? : Json → String → Option Json
  | object fields, name => fields.lookup name
  | _, _ => none

def texts (ss : List String) : Json := array (ss.map text)

end Json

end Candidacy
