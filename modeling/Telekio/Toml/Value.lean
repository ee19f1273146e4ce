import Mathlib.Data.String.Basic
import Telekio.Keyed.Entries

/-!
# TOML values

The values of a TOML document as the `toml` crate keeps them: a table is a map
from strings in the order of its keys. Numbers and dates are kept as texts.
-/

namespace Telekio.Toml

inductive Value where
  | string (text : String)
  | boolean (value : Bool)
  | scalar (text : String)
  | array (values : List Value)
  | table (entries : List (String × Value))

abbrev Table := List (String × Value)

namespace Value

def asTable : Value → Option Table
  | table entries => some entries
  | _ => none

def asArray : Value → Option (List Value)
  | array values => some values
  | _ => none

def asStr : Value → Option String
  | string text => some text
  | _ => none

def asBool : Value → Option Bool
  | boolean value => some value
  | _ => none

/-- Only a table has something under a key. -/
def get (value : Value) (key : String) : Option Value :=
  value.asTable.bind (List.lookup key)

@[simp]
theorem asTable_table (entries : Table) :
    (table entries).asTable = some entries :=
  rfl

@[simp]
theorem asArray_array (values : List Value) :
    (array values).asArray = some values :=
  rfl

@[simp]
theorem asStr_string (text : String) : (string text).asStr = some text :=
  rfl

@[simp]
theorem asBool_boolean (value : Bool) :
    (boolean value).asBool = some value :=
  rfl

@[simp]
theorem get_table (entries : Table) (key : String) :
    (table entries).get key = entries.lookup key :=
  rfl

theorem eq_table_of_asTable {value : Value} {entries : Table}
    (found : value.asTable = some entries) : value = table entries := by
  cases value <;> simp_all [asTable]

/-- `values.contains(&Value::String(text))`. -/
def containsString (values : List Value) (text : String) : Bool :=
  values.any fun value => value.asStr = some text

theorem containsString_append (values : List Value) (added text : String) :
    containsString (values ++ [string added]) text =
      (containsString values text || decide (added = text)) := by
  simp [containsString]

mutual

def decEq : (first second : Value) → Decidable (first = second)
  | string first, string second =>
      decidable_of_iff (first = second) (by simp)
  | boolean first, boolean second =>
      decidable_of_iff (first = second) (by simp)
  | scalar first, scalar second =>
      decidable_of_iff (first = second) (by simp)
  | array first, array second =>
      letI := decEqValues first second
      decidable_of_iff (first = second) (by simp)
  | table first, table second =>
      letI := decEqEntries first second
      decidable_of_iff (first = second) (by simp)
  | string _, boolean _ | string _, scalar _ | string _, array _
  | string _, table _ | boolean _, string _ | boolean _, scalar _
  | boolean _, array _ | boolean _, table _ | scalar _, string _
  | scalar _, boolean _ | scalar _, array _ | scalar _, table _
  | array _, string _ | array _, boolean _ | array _, scalar _
  | array _, table _ | table _, string _ | table _, boolean _
  | table _, scalar _ | table _, array _ => isFalse nofun

def decEqValues : (first second : List Value) → Decidable (first = second)
  | [], [] => isTrue rfl
  | [], _ :: _ | _ :: _, [] => isFalse nofun
  | value :: rest, second :: seconds =>
      letI := decEq value second
      letI := decEqValues rest seconds
      decidable_of_iff (value = second ∧ rest = seconds) (by simp)

def decEqEntries :
    (first second : List (String × Value)) → Decidable (first = second)
  | [], [] => isTrue rfl
  | [], _ :: _ | _ :: _, [] => isFalse nofun
  | (key, value) :: rest, (secondKey, second) :: seconds =>
      letI := decEq value second
      letI := decEqEntries rest seconds
      decidable_of_iff ((key = secondKey ∧ value = second) ∧ rest = seconds)
        (by simp)

end

instance : DecidableEq Value := decEq

/-- The keys of every table are in order, so there is one entry for each. -/
inductive WellFormed : Value → Prop where
  | string (text : String) : WellFormed (string text)
  | boolean (value : Bool) : WellFormed (boolean value)
  | scalar (text : String) : WellFormed (scalar text)
  | array {values : List Value}
      (inner : ∀ value ∈ values, WellFormed value) :
      WellFormed (array values)
  | table {entries : List (String × Value)}
      (sorted : Keyed.Sorted entries)
      (inner : ∀ entry ∈ entries, WellFormed entry.2) :
      WellFormed (table entries)

end Value

namespace Table

variable {table : Table} {key : String} {value : Value}

/-- A table that is a well-formed value. -/
def WellFormed (table : Table) : Prop :=
  (Value.table table).WellFormed

theorem WellFormed.sorted (wellFormed : table.WellFormed) :
    Keyed.Sorted table := by
  cases wellFormed with
  | table sorted inner => exact sorted

theorem WellFormed.of_lookup (wellFormed : table.WellFormed)
    (found : table.lookup key = some value) : value.WellFormed := by
  cases wellFormed with
  | table sorted inner => exact inner _ (Keyed.mem_of_lookup found)

theorem WellFormed.insert (wellFormed : table.WellFormed)
    (valueFormed : value.WellFormed) :
    WellFormed (Keyed.insert key value table) := by
  cases wellFormed with
  | table sorted inner =>
      refine .table (Keyed.sorted_insert sorted) ?_
      intro entry member
      rcases Keyed.mem_insert member with rfl | old
      · exact valueFormed
      · exact inner entry old

theorem WellFormed.remove (wellFormed : table.WellFormed) :
    WellFormed (Keyed.remove key table) := by
  cases wellFormed with
  | table sorted inner =>
      exact .table (Keyed.sorted_remove sorted)
        fun entry member => inner entry (Keyed.mem_remove member).1

theorem WellFormed.filterMap (wellFormed : table.WellFormed)
    {change : String × Value → Option (String × Value)}
    (keeps : ∀ {entry changed}, change entry = some changed →
      changed.1 = entry.1)
    (forms : ∀ {entry changed}, change entry = some changed →
      entry.2.WellFormed → changed.2.WellFormed) :
    WellFormed (List.filterMap change table) := by
  cases wellFormed with
  | table sorted inner =>
      refine .table (Keyed.sorted_filterMap sorted change keeps) ?_
      intro changed member
      obtain ⟨entry, old, found⟩ := List.mem_filterMap.mp member
      exact forms found (inner entry old)

theorem wellFormed_nil : WellFormed [] :=
  .table .nil (by simp)

end Table

/-- Reading and writing documents, and making values of JSON. -/
structure Format (json : Type) where
  fromStr : String → Option Value
  toString : Value → Option String
  tryFrom : json → Option Value

/-- What the format promises, with a comment that is put before a document. -/
structure Format.Lawful {json : Type} (format : Format json)
    (comment : String) : Prop where
  read : ∀ {text value}, format.fromStr text = some value → value.WellFormed
  converted : ∀ {source value}, format.tryFrom source = some value →
    value.WellFormed
  roundTrip : ∀ {text value}, value.WellFormed →
    format.toString value = some text →
    format.fromStr (comment ++ text) = some value

end Telekio.Toml
