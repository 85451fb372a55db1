import SourceGrade.Binary64.Basic
import SourceGrade.Text.Basic

/-!
# JSON values

A number is a natural number or a double. The members of an object keep their order.
-/

namespace SourceGrade

inductive Json where
  | null
  | bool (value : Bool)
  | nat (value : Nat)
  | double (value : Binary64)
  | string (value : Text)
  | array (items : List Json)
  | object (members : List (Text × Json))

end SourceGrade
