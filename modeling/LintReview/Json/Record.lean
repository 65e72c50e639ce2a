import LintReview.Json.Tree

/-! JSON records: objects with known fields. A `Record` is written as an object, where a known field
occurs at most once and unknown ones are passed over, or as an array of the fields in their declared
order. An absent field is treated in one of three ways: `required`, `optional` and `defaulted`. -/

namespace LintReview.Json

/-- The known fields of a record that are present. -/
structure Record where
  /-- Whether the record was written as an array. -/
  positional : Bool
  fields : List (String × Tree)

namespace Record

/-- Keeps the members with known names; a known name must not repeat. -/
def select? (names : List String) : List (Option String × Tree) → Option (List (String × Tree))
  | [] => some []
  | (name, t) :: rest => do
    let name ← name
    let fields ← select? names rest
    if names.contains name then
      if (fields.lookup name).isSome then none else some ((name, t) :: fields)
    else some fields

def read? (names : List String) : Tree → Option Record
  | .object members => (select? names members).map (⟨false, ·⟩)
  | .array items => if names.length < items.length then none else some ⟨true, names.zip items⟩
  | _ => none

def required {α : Type} (r : Record) (name : String) (read? : Tree → Option α) : Option α :=
  (r.fields.lookup name).bind read?

/-- A field that may be `null`, or absent from an object. -/
def optional {α : Type} (r : Record) (name : String) (read? : Tree → Option α) :
    Option (Option α) :=
  match r.fields.lookup name with
  | some t => t.nullable? read?
  | none => if r.positional then none else some none

/-- A field that has a value of its own when it is absent. -/
def defaulted {α : Type} (r : Record) (name : String) (value : α) (read? : Tree → Option α) :
    Option α :=
  match r.fields.lookup name with
  | some t => read? t
  | none => some value

end Record

/-- Reads every item of an array. -/
def readItems? {α : Type} (read? : Tree → Option α) (t : Tree) : Option (List α) :=
  t.items?.bind fun items => items.mapM read?

end LintReview.Json
