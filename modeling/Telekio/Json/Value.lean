import Mathlib.Data.List.Basic

/-!
# Values of JSON

A `serde_json` value and how it is read.
-/

namespace Telekio

/-- A number is kept as its text. -/
inductive Json where
  | null
  | bool (value : Bool)
  | number (text : String)
  | string (text : String)
  | array (elements : List Json)
  | object (entries : List (String × Json))

namespace Json

def get (value : Json) (key : String) : Option Json :=
  match value with
  | .object entries => entries.lookup key
  | _ => none

/-- `value[key]`, which is null where there is nothing. -/
def index (value : Json) (key : String) : Json :=
  (value.get key).getD .null

def asStr : Json → Option String
  | .string text => some text
  | _ => none

def asArray : Json → Option (List Json)
  | .array elements => some elements
  | _ => none

theorem asStr_eq_some {value : Json} {text : String} :
    value.asStr = some text ↔ value = .string text := by
  cases value <;> simp [asStr]

end Json

end Telekio
