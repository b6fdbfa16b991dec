import Leadertask.Model.Store

/-!
# The validator of the goals collection

`validation.js` creates the `goals` collection with a `$jsonSchema` validator that rejects
every insert which does not match. The part of `$jsonSchema` that it uses is here, with the
BSON values of goal documents.
-/

namespace Leadertask

inductive BsonType where
  | null
  | string
  | objectId
  | int
  | long
  deriving DecidableEq, Repr

inductive Bson where
  | null
  | string (s : String)
  | objectId (o : Oid)
  | int (n : Int32)
  | long (n : Int64)
  deriving DecidableEq

namespace Bson

def bsonType : Bson → BsonType
  | .null => .null
  | .string _ => .string
  | .objectId _ => .objectId
  | .int _ => .int
  | .long _ => .long

/-- The number, if it is one: `minimum` applies to numbers of either width. -/
def number? : Bson → Option ℤ
  | .int n => some n.toInt
  | .long n => some n.toInt
  | _ => none

/-- The length of a string: `minLength` and `maxLength` apply to strings only. -/
def length? : Bson → Option ℕ
  | .string s => some s.length
  | _ => none

end Bson

/-- The document that `CreateGoal` makes: `MakeDoc` stores a `std::int64_t` as a long, and an
absent description as null. -/
def GoalDoc.document (d : GoalDoc) : List (String × Bson) :=
  [("_id", .objectId d.id), ("title", .string d.title), ("userId", .long d.userId),
    ("description", match d.description with
      | some s => .string s
      | none => .null)]

/-! ## `$jsonSchema` -/

/-- The schema of one field. A field may have any of the types listed. -/
structure PropertySchema where
  bsonType : List BsonType
  minLength : Option ℕ := none
  maxLength : Option ℕ := none
  minimum : Option ℤ := none

structure JsonSchema where
  required : List String
  properties : List (String × PropertySchema)
  additionalProperties : Bool

/-- The keyword that a document breaks, and at which field. -/
inductive Violation where
  | required (field : String)
  | additionalProperties (field : String)
  | bsonType (field : String)
  | minLength (field : String)
  | maxLength (field : String)
  | minimum (field : String)
  deriving DecidableEq, Repr

/-- Any bound that is set holds of any size that the value has. -/
def withinBound {α β : Type} (size : Option α) (bound : Option β) (p : β → α → Bool) : Bool :=
  size.all fun n => bound.all fun k => p k n

def PropertySchema.violations (p : PropertySchema) (field : String) (v : Bson) : List Violation :=
  (if v.bsonType ∈ p.bsonType then [] else [.bsonType field]) ++
    (if withinBound v.length? p.minLength (fun k n => k ≤ n) then [] else [.minLength field]) ++
    (if withinBound v.length? p.maxLength (fun k n => n ≤ k) then [] else [.maxLength field]) ++
    (if withinBound v.number? p.minimum (fun k n => k ≤ n) then [] else [.minimum field])

/-- Everything in the document that breaks the schema; without any, it is accepted. -/
def JsonSchema.violations (s : JsonSchema) (doc : List (String × Bson)) : List Violation :=
  (s.required.filter fun field => field ∉ doc.map (·.1)).map .required ++
    doc.flatMap fun f =>
      match s.properties.lookup f.1 with
      | some p => p.violations f.1 f.2
      | none => if s.additionalProperties then [] else [.additionalProperties f.1]

/-- The validator of `validation.js`, with `validationAction: "error"`. -/
def goalsValidator : JsonSchema where
  required := ["title", "userId"]
  properties := [
    ("title", { bsonType := [.string], minLength := some 1, maxLength := some 200 }),
    ("description", { bsonType := [.string, .null], maxLength := some 2000 }),
    ("userId", { bsonType := [.int], minimum := some 1 })]
  additionalProperties := false

end Leadertask
