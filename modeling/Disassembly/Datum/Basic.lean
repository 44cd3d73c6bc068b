import Disassembly.Text.Basic

/-!
# Structured data

The values that data formats exchange. What is written holds texts, what is read holds raw texts.
The fields of a record keep the order in which they were added, for it shows when the record is
written.
-/

set_option autoImplicit false

namespace Disassembly

/-- A structured value with texts of the given sort. -/
inductive Datum (σ : Type) where
  | null
  | bool (value : Bool)
  | int (value : Int)
  /-- A number that is not written as an integer, kept as it is written. -/
  | real (written : Text)
  | text (value : σ)
  | list (items : List (Datum σ))
  | record (fields : List (σ × Datum σ))

namespace Datum

variable {σ : Type}

/-- A text, or null in its absence. -/
def ofText? (t : Option σ) : Datum σ :=
  t.elim .null .text

/-- The text that a value is. -/
def text? : Datum σ → Option σ
  | .text t => some t
  | _ => none

/-- The texts in the fields of a record, if there is nothing else in them. -/
def texts? : Datum σ → Option (List (σ × σ))
  | .record fields => fields.mapM fun field => field.2.text?.map (field.1, ·)
  | _ => none

/-- The fields with a new value under a name: a field of that name keeps its place, a new one is
added at the end. -/
def setField {α : Type} [BEq σ] (fields : List (σ × α)) (name : σ) (value : α) : List (σ × α) :=
  if fields.any (·.1 == name) then
    fields.map fun field => if field.1 == name then (name, value) else field
  else fields ++ [(name, value)]

end Datum

end Disassembly
