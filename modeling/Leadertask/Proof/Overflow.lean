import Leadertask.Proof.Runs

/-!
# Where an id can overflow

Reading a `BIGINT` into an `int` is the one source of `narrowingOverflow`: the parsers, the
lookup of a goal and the inserts throw other exceptions, and the goals' handlers read no such
field.

* `goalsCreate_ne_overflow`, `goalsList_ne_overflow`: the goals' handlers throw none.
-/

namespace Leadertask

open Atomic

variable {D : Type} {i : Input} {w : World} {c : Call}

/-! ## Parsers and stores -/

theorem Json.fields_ne_overflow (j : Json) : j.fields ≠ .error .narrowingOverflow := by
  cases j <;> simp [Json.fields]

theorem Json.asString_ne_overflow (minLength : ℕ) (j : Json) :
    j.asString minLength ≠ .error .narrowingOverflow := by
  cases j with
  | str s => by_cases h : minLength ≤ s.length <;> simp [Json.asString, h]
  | _ => simp [Json.asString]

theorem Json.required_ne_overflow (fs : List (String × Json)) (name : String) (minLength : ℕ) :
    Json.required fs name minLength ≠ .error .narrowingOverflow := by
  unfold Json.required
  split
  · exact Json.asString_ne_overflow _ _
  · simp

theorem CreateTaskRequestBody.parse_ne_overflow (body : Json) :
    CreateTaskRequestBody.parse body ≠ .error .narrowingOverflow :=
  bind_ne_error (Json.fields_ne_overflow body) fun fs =>
    bind_ne_error (Json.required_ne_overflow fs "title" 0) fun _ => by simp [pure, Except.pure]

theorem CreateGoalRequestBody.parse_ne_overflow (body : Json) :
    CreateGoalRequestBody.parse body ≠ .error .narrowingOverflow := by
  refine bind_ne_error (Json.fields_ne_overflow body) fun fs => bind_ne_error ?_ fun _ =>
    bind_ne_error (Json.required_ne_overflow fs "title" 3) fun _ => bind_ne_error ?_ fun _ => by
      simp [pure, Except.pure]
  · unfold Json.only
    split <;> simp
  · unfold Json.optional
    split
    · rename_i j _
      have := Json.asString_ne_overflow 0 j
      cases h : j.asString 0 with
      | error e => simpa [h, Except.map] using this
      | ok s => simp [Except.map]
    · simp

theorem World.findGoal_ne_overflow (w : World) (i : Input) (id : String) :
    w.findGoal i id ≠ .error .narrowingOverflow := by
  refine bind_ne_error ?_ fun oid => ?_
  · unfold Oid.ofString
    split
    · simp
    · split <;> simp
  · split <;> simp [throw, throwThe, MonadExceptOf.throw, pure, Except.pure]

theorem nextval_ne_overflow (last skip : ℕ) : nextval last skip ≠ .error .narrowingOverflow := by
  rcases nextval_cases last skip with ⟨k, hk, -⟩ | hk <;> simp [hk]

theorem Postgres.insertTask_ne_overflow (i : Input) (pg : Postgres) (goalId : Int64) (title : String) :
    pg.insertTask i goalId title ≠ .error .narrowingOverflow := by
  refine bind_ne_error (nextval_ne_overflow _ _) fun k => bind_ne_error ?_ fun t => bind_ne_error ?_ fun tasks => ?_
  · rcases varchar255_cases title with ⟨_, ht⟩ | ⟨-, ht | ht⟩ <;> simp [ht]
  · unfold TasksTable.insert
    split <;> simp
  · split <;> simp [throw, throwThe, MonadExceptOf.throw, pure, Except.pure]

/-! ## Handlers -/

/-- A handler that answers every exception throws none. -/
theorem catching_ne_error (p : Handler HttpResponse) (f : Exn → HttpResponse) (e : Exn) :
    ((p.catching fun exc => .ret (f exc)).run (World.exec i) w).1 ≠ .error e := by
  rw [Prog.run_catching]
  rcases p.run (World.exec i) w with ⟨_ | _, _⟩ <;> simp

theorem GoalsCollection.insertOne_ne_overflow (goals : GoalsCollection) (doc : GoalDoc) :
    goals.insertOne doc ≠ .error .narrowingOverflow := by
  unfold GoalsCollection.insertOne
  split <;> simp

theorem createGoal_ne_overflow (u : UserId) (title : String) (description : Option String) :
    ((GoalsRepository.createGoal u title description).run (World.exec i) w).1 ≠
      .error .narrowingOverflow := by
  simp only [GoalsRepository.createGoal, mongo, Prog.bind_eq, Prog.run_andThen, Prog.run_perform,
    World.exec]
  cases hf : i.fault (.mongo (.insertOne ⟨i.oid, title, u, description⟩)) with
  | true => simp
  | false =>
    have hne := GoalsCollection.insertOne_ne_overflow w.goals ⟨i.oid, title, u, description⟩
    cases h : w.goals.insertOne ⟨i.oid, title, u, description⟩ with
    | error e => simpa [GoalsCollection.exec, h, atomically] using hne
    | ok p => simp [GoalsCollection.exec, h, atomically]

theorem goalsCreate_ne_overflow (he : c.request.endpoint = .goalsCreate) (cfg : Config D) :
    (c.run cfg w).1 ≠ .error .narrowingOverflow := by
  rw [Call.run, dispatch, he]
  simp only [Goals.Create.handleRequestJsonThrow]
  cases hb : CreateGoalRequestBody.parse c.request.body with
  | error e =>
    have hne := CreateGoalRequestBody.parse_ne_overflow c.request.body
    simpa [hb] using hne
  | ok b =>
    simp only [Prog.ofExcept_ok, Prog.bind_eq, Prog.ret_andThen]
    by_cases ht : b.title.isEmpty = true
    · rw [if_pos ht]
      simp
    · rw [if_neg ht]
      refine (prologue_iff (P := fun p => p.1 ≠ .error .narrowingOverflow) (by simp) (by simp)).2 ?_
      intro u _ _
      have hne := createGoal_ne_overflow (i := c.input) (w := w.limited c.input .goalsCreate u) u b.title
        (some (b.description.getD ""))
      have hmap := Prog.run_andThen_ret (World.exec c.input)
        (GoalsRepository.createGoal u b.title (some (b.description.getD "")))
        (fun goal => ({ status := .kCreated, payload := .createdGoal goal } : HttpResponse))
        (w.limited c.input .goalsCreate u)
      refine (congrArg Prod.fst hmap).trans_ne ?_
      cases hans : ((GoalsRepository.createGoal u b.title (some (b.description.getD ""))).run
          (World.exec c.input) (w.limited c.input .goalsCreate u)).1 with
      | error e => simpa [Except.map, hans] using hne
      | ok goal => simp [Except.map]

theorem goalsList_ne_overflow (he : c.request.endpoint = .goalsList) (cfg : Config D) :
    (c.run cfg w).1 ≠ .error .narrowingOverflow := by
  rw [Call.run, dispatch, he]
  refine (prologue_iff (P := fun p => p.1 ≠ .error .narrowingOverflow) (by simp) (by simp)).2 ?_
  intro u _ _
  simp only [GoalsRepository.getByUser, mongo, Prog.bind_eq, Prog.run_andThen, Prog.run_perform,
    World.exec]
  cases hf : c.input.fault (.mongo (.find u)) with
  | true => simp
  | false => simp [GoalsCollection.exec]

end Leadertask
