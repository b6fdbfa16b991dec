import Leadertask.Model.Validator
import Leadertask.Proof.Frame

/-!
# Goal documents against the validator

The validator of `validation.js` lists neither `_id` nor the type that `MakeDoc` stores a
user id in, so with it installed no goal can be created.

* `mem_violations`: everything that a goal document can break.
* `goal_documents_rejected`: whatever the body, the user and the object id, the document that
  goals-create inserts is rejected.
-/

namespace Leadertask

open Atomic

/-- What a value of one field breaks. -/
theorem PropertySchema.mem_violations {p : PropertySchema} {field : String} {x : Bson} {v : Violation} :
    v ∈ p.violations field x ↔
      (v = .bsonType field ∧ x.bsonType ∉ p.bsonType) ∨
        (v = .minLength field ∧ ∃ n ∈ x.length?, ∃ k ∈ p.minLength, n < k) ∨
        (v = .maxLength field ∧ ∃ n ∈ x.length?, ∃ k ∈ p.maxLength, k < n) ∨
        (v = .minimum field ∧ ∃ n ∈ x.number?, ∃ k ∈ p.minimum, n < k) := by
  have hbound {α β : Type} (size : Option α) (bound : Option β) (q : β → α → Bool) :
      withinBound size bound q = false ↔ ∃ n ∈ size, ∃ k ∈ bound, q k n = false := by
    cases size <;> cases bound <;> simp [withinBound]
  have hkeep {c : Prop} [Decidable c] (u : Violation) : v ∈ (if c then [] else [u]) ↔ v = u ∧ ¬ c := by
    by_cases h : c <;> simp [h]
  simp only [PropertySchema.violations, List.mem_append, hkeep, Bool.not_eq_true, hbound,
    decide_eq_false_iff_not, not_le, or_assoc]

/-- What a goal document breaks: always the closed list of fields and the type of `userId`,
and the bounds that its values exceed. -/
theorem mem_violations {d : GoalDoc} {v : Violation} :
    v ∈ goalsValidator.violations d.document ↔
      v = .additionalProperties "_id" ∨ v = .bsonType "userId" ∨
        (v = .minLength "title" ∧ d.title = "") ∨
        (v = .maxLength "title" ∧ 200 < d.title.length) ∨
        (v = .maxLength "description" ∧ ∃ s, d.description = some s ∧ 2000 < s.length) ∨
        (v = .minimum "userId" ∧ d.userId.toInt < 1) := by
  unfold JsonSchema.violations goalsValidator GoalDoc.document
  cases hd : d.description <;>
    simp [List.lookup_cons, PropertySchema.mem_violations, Bson.bsonType, Bson.length?, Bson.number?]
  all_goals grind

/-- The validator accepts what the program can insert under the object id. -/
def InsertsPass {α : Type} (oid : Oid) (p : Handler α) : Prop :=
  ∀ doc : GoalDoc, doc.id = oid → p.MayCall (.mongo (.insertOne doc)) →
    goalsValidator.violations doc.document = []

/-- Whatever a program inserts is rejected. -/
theorem not_insertsPass {α : Type} {p : Handler α} {doc : GoalDoc}
    (h : p.MayCall (.mongo (.insertOne doc))) : ¬ InsertsPass doc.id p := by
  intro hpass
  have hid : .additionalProperties "_id" ∈ goalsValidator.violations doc.document :=
    mem_violations.2 (.inl rfl)
  rw [hpass doc rfl h] at hid
  exact absurd hid List.not_mem_nil

theorem createGoal_mayCall (u : UserId) (title : String) (description : Option String) (oid : Oid) :
    (GoalsRepository.createGoal u title description).MayCall
      (.mongo (.insertOne ⟨oid, title, u, description⟩)) :=
  .inr ⟨.ok oid, .inl rfl⟩

/-- The schema's `minLength` makes the handler's own check of the title idle. -/
theorem CreateGoalRequestBody.title_nonempty {j : Json} {body : CreateGoalRequestBody}
    (h : CreateGoalRequestBody.parse j = .ok body) : body.title.isEmpty = false := by
  unfold CreateGoalRequestBody.parse at h
  obtain ⟨fs, -, h⟩ := bind_ok h
  obtain ⟨-, -, h⟩ := bind_ok h
  obtain ⟨title, htitle, h⟩ := bind_ok h
  obtain ⟨description, -, h⟩ := bind_ok h
  rw [← Except.ok.inj h, String.isEmpty_eq_false_iff]
  rintro rfl
  exact absurd (Json.required_ok htitle) (by decide)

/-- **No goal document passes the validator**: for every body that the schema accepts, every
user and every object id, the document that goals-create inserts is rejected; so is the one
that `CreateGoal` itself inserts. -/
theorem goal_documents_rejected {request : HttpRequest} {body : CreateGoalRequestBody}
    (hbody : CreateGoalRequestBody.parse request.body = .ok body) (u : UserId) (oid : Oid) :
    ¬ InsertsPass oid (Goals.Create.handleRequestJsonThrow request ⟨some u⟩) ∧
      ∀ title description, ¬ InsertsPass oid (GoalsRepository.createGoal u title description) := by
  have hcall : (Goals.Create.handleRequestJsonThrow request ⟨some u⟩).MayCall
      (.mongo (.insertOne ⟨oid, body.title, u, some (body.description.getD "")⟩)) := by
    rw [Goals.Create.handleRequestJsonThrow, hbody]
    simp only [Prog.ofExcept_ok, Prog.bind_eq, Prog.ret_andThen,
      CreateGoalRequestBody.title_nonempty hbody]
    -- past an admitting rate limiter
    exact .inr ⟨.ok (true, 0), .inr ⟨.ok oid, .inl rfl⟩⟩
  exact ⟨not_insertsPass hcall,
    fun title description => not_insertsPass (createGoal_mayCall u title description oid)⟩

/-- Create a goal `books`. -/
def booksRequest : HttpRequest where
  endpoint := .goalsCreate
  body := .obj [("title", .str "books")]

theorem books_rejected :
    ¬ InsertsPass goalOne (Goals.Create.handleRequestJsonThrow booksRequest ⟨some 1⟩) ∧
      ∀ title description, ¬ InsertsPass goalOne (GoalsRepository.createGoal 1 title description) :=
  goal_documents_rejected (show CreateGoalRequestBody.parse booksRequest.body = .ok ⟨"books", none⟩ from rfl)
    1 goalOne

/-- A goal `books` of user 1 does not pass. -/
theorem books_not_pass :
    ¬ InsertsPass goalOne (Goals.Create.handleRequestJsonThrow booksRequest ⟨some 1⟩) := by
  intro hpass
  have hcall : (Goals.Create.handleRequestJsonThrow booksRequest ⟨some 1⟩).MayCall
      (.mongo (.insertOne ⟨goalOne, "books", 1, some ""⟩)) :=
    .inr ⟨.ok (true, 0), .inr ⟨.ok goalOne, .inl rfl⟩⟩
  exact absurd (hpass ⟨goalOne, "books", 1, some ""⟩ rfl hcall) (by decide)

end Leadertask
