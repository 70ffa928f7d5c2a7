import Worksheet.Value.Basic

/-!
# Values without infinite doubles

JSON has no number for an infinite double or for what is not a number; both become `null`.
-/

namespace Worksheet.Json

mutual

/-- The value with `null` in place of every double that is not finite. -/
def finite : Value → Value
  | .null => .null
  | .bool b => .bool b
  | .number (.int n) => .number (.int n)
  | .number (.float x) => if x.isFinite then .number (.float x) else .null
  | .number (.nan _) => .null
  | .text s => .text s
  | .list items => .list (finiteItems items)
  | .record fields => .record (finiteFields fields)

/-- The items of a list, each without infinite doubles. -/
def finiteItems : List Value → List Value
  | [] => []
  | v :: vs => finite v :: finiteItems vs

/-- The fields of a record, each without infinite doubles. -/
def finiteFields : List (String × Value) → List (String × Value)
  | [] => []
  | (k, v) :: fields => (k, finite v) :: finiteFields fields

end

end Worksheet.Json
