import Leadertask.Proof.Runs

/-!
# The writes to Postgres come last

Signup, tasks-create and the status update each end with their write: whatever the stores
answer, a success comes right after the statement that it reports (`dispatch_afterWrite`).
-/

namespace Leadertask

open Atomic

variable {D : Type}

/-- The operation called last and its answer. -/
abbrev LastCall := Option ((o : Op) × Except Exn o.Ret)

/-- A relation that asks nothing of a failure. -/
def OnSuccess (R : LastCall → Except Exn HttpResponse → Prop) : Prop :=
  ∀ l r, ¬ IsSuccess r → R l r

section

variable {R : LastCall → Except Exn HttpResponse → Prop} {l : LastCall} {ctx : RequestContext}

theorem withUserId_ends (hno : OnSuccess R) {msg : String} {k : UserId → Handler HttpResponse}
    (hk : ∀ u, (k u).Ends R l) : (withUserId ctx msg k).Ends R l := by
  unfold withUserId
  split
  · exact hno _ _ (not_isSuccess_makeError (by decide))
  · exact hk _

theorem rateLimited_ends (hno : OnSuccess R) {e : Endpoint} {u : UserId} {k : Handler HttpResponse}
    (hk : ∀ l, k.Ends R l) : (rateLimited e u k).Ends R l := by
  intro r
  cases r with
  | error e => exact hno _ _ (not_isSuccess_error e)
  | ok r =>
    show (if r.1 then k else _ : Handler HttpResponse).Ends R _
    split
    · exact hk _
    · exact hno _ _ (not_isSuccess_rateLimitExceeded _)

theorem getById_ends (hno : OnSuccess R) {id : String} {k : Option Goal → Handler HttpResponse}
    (hk : ∀ goal l, (k goal).Ends R l) : ((GoalsRepository.getById id).andThen k).Ends R l := by
  unfold GoalsRepository.getById
  refine Prog.Ends.andThen (Prog.Ends.andThen (Prog.ends_ofExcept ?_))
  cases Oid.ofString id with
  | error e => exact hno _ _ (not_isSuccess_error e)
  | ok oid =>
    intro r
    cases r with
    | error e => exact hno _ _ (not_isSuccess_error e)
    | ok doc => exact hk _ _

theorem withOwnGoal_ends (hno : OnSuccess R) {u : UserId} {g : String}
    {k : Int64 → Handler HttpResponse}
    (hk : ∀ n pos l, stoll g = .ok (n, pos) → (k n).Ends R l) : (withOwnGoal u g k).Ends R l := by
  unfold withOwnGoal
  cases hn : stoll g with
  | error e => exact hno _ _ (not_isSuccess_makeError (by decide))
  | ok p =>
    refine getById_ends hno fun goal l => ?_
    cases goal with
    | none => exact hno _ _ (not_isSuccess_makeError (by decide))
    | some goal =>
      dsimp only
      split
      · exact hno _ _ (not_isSuccess_makeError (by decide))
      · exact hk _ _ _ hn

end

/-! ## The three writes -/

/-- The row as the body of an answer. -/
def TaskRow.toBody (r : TaskRow) : CreateTaskResponseBody :=
  ⟨r.id.toInt32, r.goalId.toInt32, r.title, r.status⟩

/-- A successful signup comes right after the insert of its account. -/
def SignupAfter (request : HttpRequest) (l : LastCall) (r : Except Exn HttpResponse) : Prop :=
  IsSuccess r → ∃ body id, CreateUserRequestBody.parse request.body = .ok body ∧
    body.login.isEmpty = false ∧ body.password.isEmpty = false ∧
    l = some ⟨.execute .kMaster
      (.insertUser body.login body.password body.firstName body.lastName), .ok id⟩

/-- A 201 of tasks-create comes right after the insert that returned its row. -/
def CreateAfter (request : HttpRequest) (l : LastCall) (r : Except Exn HttpResponse) : Prop :=
  IsSuccess r → ∃ n pos title row, stoll request.goalId = .ok (n, pos) ∧
    r = .ok ⟨.kCreated, [], .task (TaskRow.toBody row)⟩ ∧
    l = some ⟨.execute .kMaster (.insertTask n title), .ok row⟩

/-- A 200 of the status update comes right after the update that returned its row. The
repository takes the number of the path's goal for the task's id. -/
def UpdateAfter (request : HttpRequest) (l : LastCall) (r : Except Exn HttpResponse) : Prop :=
  IsSuccess r → ∃ id n status row, parseInt request.goalId 0 = (true, id) ∧
    parseInt request.taskId 0 = (true, n) ∧ r = .ok ⟨.kOk, [], .task (TaskRow.toBody row)⟩ ∧
    l = some ⟨.execute .kMaster (.updateTaskStatus id n status), .ok [row]⟩

theorem signup_ends (cfg : Config D) (request : HttpRequest) :
    (Signup.handleRequestJsonThrow cfg request).Ends (SignupAfter request) none := by
  have hno : OnSuccess (SignupAfter request) := fun l r hr h => absurd h hr
  unfold Signup.handleRequestJsonThrow
  refine Prog.Ends.catching (Prog.Ends.andThen (Prog.ends_ofExcept ?_))
  cases hb : CreateUserRequestBody.parse request.body with
  | error e => exact hno _ _ (not_isSuccess_makeError (by decide))
  | ok body =>
    dsimp only
    split
    · exact hno _ _ (not_isSuccess_makeError (by decide))
    rename_i hfields
    simp only [Bool.or_eq_true, not_or, Bool.not_eq_true] at hfields
    refine Prog.Ends.andThen (Prog.Ends.catching fun r => ?_)
    cases r with
    | error e => cases e <;> exact hno _ _ (not_isSuccess_makeError (by decide))
    | ok id => exact fun _ => ⟨body, id, hb, hfields.1.1.1, hfields.1.1.2, rfl⟩

theorem tasksCreate_ends (cfg : Config D) (request : HttpRequest) (ctx : RequestContext) :
    (Tasks.Create.handleRequestJsonThrow cfg request ctx).Ends (CreateAfter request) none := by
  have hno : OnSuccess (CreateAfter request) := fun l r hr h => absurd h hr
  unfold Tasks.Create.handleRequestJsonThrow
  refine Prog.Ends.andThen (Prog.ends_ofExcept ?_)
  cases CreateTaskRequestBody.parse request.body with
  | error e => exact hno _ _ (not_isSuccess_error e)
  | ok body =>
    dsimp only
    split
    · exact hno _ _ (not_isSuccess_makeError (by decide))
    refine withUserId_ends hno fun u => rateLimited_ends hno fun _ =>
      withOwnGoal_ends hno fun n pos _ hn r => ?_
    cases r with
    | error e => exact hno _ _ (not_isSuccess_error e)
    | ok row =>
      refine Prog.Ends.andThen (Prog.Ends.andThen (Prog.ends_ofExcept (Prog.ends_ofExcept ?_)))
      rw [TasksRepository.readCreateTaskResponseBody_eq, TasksRepository.readTask_eq]
      by_cases hc : row.Converts cfg.narrowing
      · rw [if_pos hc]
        exact fun _ => ⟨n, pos, body.title, row, hn, rfl, rfl⟩
      · rw [if_neg hc]
        exact hno _ _ (not_isSuccess_error _)

theorem tasksUpdateStatus_ends (cfg : Config D) (request : HttpRequest) (ctx : RequestContext) :
    (Tasks.UpdateTaskStatus.handleRequestJsonThrow cfg request ctx).Ends (UpdateAfter request)
      none := by
  have hno : OnSuccess (UpdateAfter request) := fun l r hr h => absurd h hr
  unfold Tasks.UpdateTaskStatus.handleRequestJsonThrow
  refine withUserId_ends hno fun u => rateLimited_ends hno fun _ => ?_
  rcases hg : parseInt request.goalId 0 with ⟨goalOk, id⟩
  rcases ht : parseInt request.taskId 0 with ⟨taskOk, n⟩
  dsimp only
  split
  · exact hno _ _ (not_isSuccess_makeError (by decide))
  rename_i hok
  obtain ⟨rfl, rfl⟩ : goalOk = true ∧ taskOk = true := by simpa using hok
  refine getById_ends hno fun goal _ => ?_
  cases goal with
  | none => exact hno _ _ (not_isSuccess_makeError (by decide))
  | some goal =>
    dsimp only
    split
    · exact hno _ _ (not_isSuccess_makeError (by decide))
    rename_i body _
    unfold TasksRepository.updateStatus
    refine Prog.Ends.andThen ?_
    split
    · exact hno _ _ (not_isSuccess_makeError (by decide))
    intro r
    cases r with
    | error e => exact hno _ _ (not_isSuccess_error e)
    | ok rows =>
      show (if rows.isEmpty = true then _ else _ : Handler (Option Task)).Ends _ _
      split
      · exact hno _ _ (not_isSuccess_makeError (by decide))
      refine Prog.Ends.andThen (Prog.ends_ofExcept ?_)
      -- more rows than one are refused by `AsSingleRow`
      match rows with
      | [] => exact hno _ _ (not_isSuccess_error _)
      | [row] =>
        have hread : asSingleRow [row] >>= TasksRepository.readTask cfg =
            TasksRepository.readTask cfg row := rfl
        rw [hread, TasksRepository.readTask_eq]
        by_cases hc : row.Converts cfg.narrowing
        · rw [if_pos hc]
          exact fun _ => ⟨id, n, body.status, row, hg, ht, rfl, rfl⟩
        · rw [if_neg hc]
          exact hno _ _ (not_isSuccess_error _)
      | _ :: _ :: _ => exact hno _ _ (not_isSuccess_error _)

/-- What a success of the request comes right after. -/
def AfterWrite (request : HttpRequest) : LastCall → Except Exn HttpResponse → Prop :=
  match request.endpoint with
  | .signup => SignupAfter request
  | .tasksCreate => CreateAfter request
  | .tasksUpdateStatus => UpdateAfter request
  | _ => fun _ _ => True

theorem dispatch_afterWrite (cfg : Config D) (request : HttpRequest) (ctx : RequestContext) :
    (dispatch cfg request ctx).Ends (AfterWrite request) none := by
  unfold dispatch AfterWrite
  cases request.endpoint with
  | signup => exact signup_ends cfg request
  | tasksCreate => exact tasksCreate_ends cfg request ctx
  | tasksUpdateStatus => exact tasksUpdateStatus_ends cfg request ctx
  | _ => exact Prog.ends_of_forall (fun _ _ => trivial) _

end Leadertask
