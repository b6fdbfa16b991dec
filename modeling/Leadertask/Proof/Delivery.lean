import Leadertask.Lib.Delivery
import Leadertask.Proof.Accounts

/-!
# Every request is answered once

A handler calls the limiter and at most two operations of the stores, so a request is over after
three turns of its own, whatever the stores answer, and even if they fail.

* `serve_within`: a request needs at most three operations.
* `answered_once`: no request is lost, none is answered twice, and all are answered after three
  turns for each that waits.
-/

namespace Leadertask

open Atomic

variable {D : Type} {β : Type}

/-! ## Three operations -/

theorem execute_within {host : ClusterHostType} {stmt : Sql} : (execute host stmt).Within 1 :=
  Prog.within_perform _

theorem mongo_within {cmd : MongoCommand} : (mongo cmd).Within 1 := Prog.within_perform _

/-- What is computed from a value needs no operation. -/
theorem within_bind {p : Handler β} {α : Type} {n : ℕ} {f : β → Handler α} (hp : p.Within n)
    (hf : ∀ b, (f b).Within 0) : (p.andThen f).Within n := hp.andThen hf

theorem parsed_within {x : Except Exn β} {α : Type} {n : ℕ} {f : β → Handler α} (hf : ∀ b, (f b).Within n) :
    ((Prog.ofExcept x).andThen f).Within n := by
  cases x with
  | error exc => exact Prog.within_raise n exc
  | ok b => exact hf b

theorem withUserId_within {ctx : RequestContext} {msg : String} {k : UserId → Handler HttpResponse} {n : ℕ}
    (hk : ∀ u, (k u).Within n) : (withUserId ctx msg k).Within n := by
  unfold withUserId
  split
  · exact Prog.within_ret _ _
  · exact hk _

theorem rateLimited_within {e : Endpoint} {u : UserId} {k : Handler HttpResponse} {n : ℕ} (hk : k.Within n) :
    (rateLimited e u k).Within (n + 1) := by
  rw [Nat.add_comm]
  refine Prog.Within.andThen (Prog.within_perform _) fun r => ?_
  show (if r.1 then k else _ : Handler HttpResponse).Within n
  split
  · exact hk
  · exact Prog.within_ret _ _

theorem getById_within {id : String} : (GoalsRepository.getById id).Within 1 :=
  parsed_within fun _ => within_bind mongo_within fun _ => Prog.within_ret _ _

theorem withOwnGoal_within {u : UserId} {g : String} {k : Int64 → Handler HttpResponse} {n : ℕ}
    (hk : ∀ goalId, (k goalId).Within n) : (withOwnGoal u g k).Within (1 + n) := by
  unfold withOwnGoal
  split
  · exact Prog.within_ret _ _
  · refine getById_within.andThen fun goal => ?_
    split
    · exact Prog.within_ret _ _
    · split
      · exact Prog.within_ret _ _
      · exact hk _

section

variable (cfg : Config D) (request : HttpRequest) (ctx : RequestContext)

theorem signup_within : (Signup.handleRequestJsonThrow cfg request).Within 1 := by
  refine Prog.Within.catching (m := 0) (parsed_within fun body => ?_)
    fun exc => Prog.within_ret _ _
  split
  · exact Prog.within_ret _ _
  · refine within_bind ?_ fun r => ?_
    · refine Prog.Within.catching (m := 0) (within_bind execute_within fun _ => Prog.within_ret _ _) fun exc => ?_
      cases exc <;> trivial
    · cases r <;> exact Prog.within_ret _ _

theorem login_within : (Login.handleRequestJsonThrow cfg request).Within 1 := by
  refine Prog.Within.catching (m := 0) (parsed_within fun body => ?_)
    fun exc => Prog.within_ret _ _
  split
  · exact Prog.within_ret _ _
  · refine within_bind (within_bind execute_within fun _ => Prog.within_ret _ _) fun user => ?_
    split
    · exact Prog.within_ret _ _
    · split <;> exact Prog.within_ret _ _

theorem search_within : (Search.handleRequestJsonThrow cfg request ctx).Within 2 := by
  refine withUserId_within fun u => rateLimited_within ?_
  split
  · exact Prog.within_ret _ _
  · exact within_bind (within_bind execute_within fun _ => Prog.within_ofExcept _ _)
      fun _ => Prog.within_ret _ _

theorem goalsCreate_within : (Goals.Create.handleRequestJsonThrow request ctx).Within 3 := by
  refine parsed_within fun body => ?_
  split
  · exact Prog.within_ret _ _
  · refine withUserId_within fun u => rateLimited_within (within_bind ?_ fun _ => Prog.within_ret _ _)
    exact (Prog.within_perform _).andThen fun _ => within_bind mongo_within fun _ => Prog.within_ret _ _

theorem goalsList_within : (Goals.List.handleRequestJsonThrow ctx).Within 2 :=
  withUserId_within fun _ => rateLimited_within
    (within_bind (within_bind mongo_within fun _ => Prog.within_ret _ _) fun _ => Prog.within_ret _ _)

theorem tasksCreate_within : (Tasks.Create.handleRequestJsonThrow cfg request ctx).Within 3 := by
  refine parsed_within fun body => ?_
  split
  · exact Prog.within_ret _ _
  · refine withUserId_within fun u => rateLimited_within (withOwnGoal_within (n := 1) fun n => ?_)
    exact within_bind (within_bind execute_within fun _ => Prog.within_ofExcept _ _) fun _ => Prog.within_ret _ _

theorem tasksList_within : (Tasks.List.handleRequestJsonThrow cfg request ctx).Within 3 :=
  withUserId_within fun _ => rateLimited_within (withOwnGoal_within fun _ =>
    within_bind (within_bind execute_within fun _ => Prog.within_ofExcept _ _) fun _ => Prog.within_ret _ _)

theorem tasksUpdateStatus_within : (Tasks.UpdateTaskStatus.handleRequestJsonThrow cfg request ctx).Within 3 := by
  refine withUserId_within fun u => rateLimited_within ?_
  rcases parseInt request.goalId 0 with ⟨goalOk, id⟩
  rcases parseInt request.taskId 0 with ⟨taskOk, n⟩
  dsimp only
  split
  · exact Prog.within_ret _ _
  refine Prog.Within.andThen (n := 1) (m := 1) getById_within fun goal => ?_
  split
  · exact Prog.within_ret _ _
  split
  · exact Prog.within_ret _ _
  refine within_bind ?_ fun task => ?_
  · unfold TasksRepository.updateStatus
    split
    · exact Prog.within_ret _ _
    · refine within_bind execute_within fun rows => ?_
      split
      · exact Prog.within_ret _ _
      · exact within_bind (Prog.within_ofExcept _ _) fun _ => Prog.within_ret _ _
  · cases task <;> exact Prog.within_ret _ _

end

/-- **A request needs at most three operations.** -/
theorem serve_within (cfg : Config D) (q : HttpRequest) : (serve cfg q).Within 3 := by
  have hhandler (ctx : RequestContext) : (dispatch cfg q ctx).Within 3 := by
    unfold dispatch
    cases q.endpoint with
    | signup => exact (signup_within cfg q).mono (by omega)
    | login => exact (login_within cfg q).mono (by omega)
    | usersSearch => exact (search_within cfg q ctx).mono (by omega)
    | goalsCreate => exact goalsCreate_within q ctx
    | goalsList => exact (goalsList_within ctx).mono (by omega)
    | tasksCreate => exact tasksCreate_within cfg q ctx
    | tasksList => exact tasksList_within cfg q ctx
    | tasksUpdateStatus => exact tasksUpdateStatus_within cfg q ctx
  unfold serve
  split
  · dsimp only
    split
    · exact hhandler _
    · exact Prog.within_ret _ _
  · exact hhandler _

/-- **Every request is answered once.** For stores that do anything at all with the operations, in every
run the requests that arrived are those answered and those that wait, and once there were three turns for
each of these, none of them lost, each request has been answered exactly once. -/
theorem answered_once {σ ι : Type} (exec : ι → (o : Op) → σ → Except Exn o.Ret × σ) (cfg : Config D) (w : σ)
    (es rest : List (Event HttpRequest ι))
    (hturns : Pool.Diligent exec (serve cfg) ((Pool.start w).run exec (serve cfg) es) rest)
    (hlen : 3 * ((Pool.start w).run exec (serve cfg) es).waiting.length ≤ rest.length) :
    ((Pool.start w).run exec (serve cfg) es).known.Perm (Pool.arrivals es) ∧
      ((Pool.start w).run exec (serve cfg) (es ++ rest)).waiting = [] ∧
      (((Pool.start w).run exec (serve cfg) (es ++ rest)).log.map Answer.req).Perm (Pool.arrivals es) :=
  ⟨Pool.run_conserves (Pool.start w) es, Pool.run_rests (serve_within cfg) w es rest hturns hlen⟩

/-- Two signups at once, on a store that fails every time. -/
theorem answered_once_failing :
    let exec : Unit → (o : Op) → Unit → Except Exn o.Ret × Unit := fun _ _ s => (.error .storeFailure, s)
    let es : List (Event HttpRequest Unit) := [.arrive annSignup, .arrive annSignup]
    let rest : List (Event HttpRequest Unit) := List.replicate 6 (.turn 0 ())
    ((Pool.start ()).run exec (serve (clearConfig .throws)) es).known.Perm (Pool.arrivals es) ∧
      ((Pool.start ()).run exec (serve (clearConfig .throws)) (es ++ rest)).waiting = [] ∧
      (((Pool.start ()).run exec (serve (clearConfig .throws)) (es ++ rest)).log.map Answer.req).Perm
        (Pool.arrivals es) := by
  intro exec es rest
  refine answered_once exec (clearConfig .throws) () es rest ?_ (by decide)
  exact ⟨.inr (by decide), .inr (by decide), .inl rfl, .inl rfl, .inl rfl, .inl rfl, trivial⟩

end Leadertask
