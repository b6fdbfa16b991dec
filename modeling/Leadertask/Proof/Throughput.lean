import Leadertask.Lib.Gate
import Leadertask.Proof.Buckets
import Leadertask.Proof.Calls
import Leadertask.Proof.Reads

/-!
# What the limiters let through

Six handlers ask their limiter before they do any work, and the answer comes when other requests
of the same user, of other users and of other handlers have stepped in between.

* `throughput_bounded`: in no run is a user answered 2xx by one handler more than
  `2 + 2 * ⌊T⌋` times, if the run takes `T` seconds.
* `refusals_exact`: a user is answered 429 once for each of his calls that comes third or later in
  a burst, whatever the others do.
-/

namespace Leadertask

open Atomic

variable {D : Type} {cfg : Config D} {e : Endpoint} {u : UserId}

/-! ## The handlers behind the gate -/

/-- The check that the handler of `e` makes for user `u`. -/
def limiterGate (e : Endpoint) (u : UserId) : Gate Op Op.Ret Exn HttpResponse where
  isGate := fun
    | .checkRateLimit e' u' => e' = e && u' = u
    | _ => false
  opens := fun
    | .checkRateLimit _ _, .ok r => r.1
    | _, _ => false
  shuts := fun
    | .checkRateLimit _ _, .ok r => !r.1
    | _, _ => false
  good := fun r => decide (IsSuccess r)
  refused := fun r => statusOf r = .kTooManyRequests

/-- The requests that the handler of `e` serves for user `u`. -/
def ofClient (cfg : Config D) (e : Endpoint) (u : UserId) (q : HttpRequest) : Bool :=
  q.endpoint = e && (q.context cfg).userData = some u

/-- A program behind the gate. -/
abbrev Admitted {β : Type} (e : Endpoint) (u : UserId) (Q : Except Exn β → Prop) (p : Handler β) : Prop :=
  p.Always (fun o => (limiterGate e u).isGate o = false) Q

theorem passed_ret {r : HttpResponse} (h : r.status ≠ .kTooManyRequests) :
    (limiterGate e u).Passed (.ret r) := decide_eq_false h

theorem before_ret {r : HttpResponse} (h : ¬ IsSuccess (.ok r)) (h' : r.status ≠ .kTooManyRequests) :
    (limiterGate e u).Before (.ret r) := ⟨decide_eq_false h, decide_eq_false h'⟩

theorem before_raise (exc : Exn) : (limiterGate e u).Before (.raise exc) :=
  ⟨decide_eq_false (not_isSuccess_error exc), rfl⟩

theorem before_makeError {status : HttpStatus} {msg : String}
    (h : status ≠ .kOk ∧ status ≠ .kCreated ∧ status ≠ .kTooManyRequests) :
    (limiterGate e u).Before (.ret (makeError status msg)) :=
  before_ret (not_isSuccess_makeError ⟨h.1, h.2.1⟩) h.2.2

theorem admitted_perform {o : Op} {Q : Except Exn o.Ret → Prop} (ho : (limiterGate e u).isGate o = false)
    (h : ∀ r, Q r) : Admitted e u Q (Prog.perform o) := Prog.always_perform ho h

theorem admitted_execute {host : ClusterHostType} {stmt : Sql} {Q : Except Exn stmt.Ret → Prop}
    (h : ∀ r, Q r) : Admitted e u Q (execute host stmt) := admitted_perform rfl h

theorem admitted_mongo {cmd : MongoCommand} {Q : Except Exn cmd.Ret → Prop} (h : ∀ r, Q r) :
    Admitted e u Q (mongo cmd) := admitted_perform rfl h

theorem getById_passed {id : String} {k : Option Goal → Handler HttpResponse}
    (hk : ∀ goal, (limiterGate e u).Passed (k goal)) :
    (limiterGate e u).Passed ((GoalsRepository.getById id).andThen k) := by
  refine Prog.Always.andThen (Prog.Always.andThen (Prog.always_ofExcept ?_))
  cases Oid.ofString id with
  | error exc => exact rfl
  | ok oid =>
    refine Prog.Always.andThen (admitted_mongo fun r => ?_)
    cases r with
    | error exc => exact rfl
    | ok doc => exact hk _

theorem withOwnGoal_passed {userId : UserId} {g : String} {k : Int64 → Handler HttpResponse}
    (hk : ∀ n, (limiterGate e u).Passed (k n)) :
    (limiterGate e u).Passed (withOwnGoal userId g k) := by
  unfold withOwnGoal
  split
  · exact passed_ret (by decide)
  · refine getById_passed fun goal => ?_
    split
    · exact passed_ret (by decide)
    · split
      · exact passed_ret (by decide)
      · exact hk _

/-- The user's own check, and what follows it. -/
theorem rateLimited_before {k : Handler HttpResponse} (hk : (limiterGate e u).Passed k) :
    (limiterGate e u).Before (rateLimited e u k) := by
  refine ⟨by simp [limiterGate], fun r => ?_⟩
  rcases r with exc | ⟨_ | _, remaining⟩
  · exact ⟨decide_eq_false (not_isSuccess_error exc), rfl⟩
  · exact ⟨decide_eq_false (not_isSuccess_rateLimitExceeded remaining), rfl⟩
  · exact ⟨rfl, hk⟩

theorem withUserId_before {ctx : RequestContext} {msg : String} {k : UserId → Handler HttpResponse}
    (hu : ctx.userData = some u) (hk : (limiterGate e u).Before (k u)) :
    (limiterGate e u).Before (withUserId ctx msg k) := by
  unfold withUserId RequestContext.getUserData
  rw [hu]; exact hk

section

variable (request : HttpRequest) {ctx : RequestContext} (hu : ctx.userData = some u)
include hu

theorem search_before :
    (limiterGate .usersSearch u).Before (Search.handleRequestJsonThrow cfg request ctx) := by
  refine withUserId_before hu (rateLimited_before ?_)
  split
  · exact passed_ret (by decide)
  · refine Prog.Always.andThen (Prog.Always.andThen (admitted_execute fun r => ?_))
    cases r with
    | error exc => exact rfl
    | ok rows =>
      refine Prog.always_ofExcept ?_
      cases rows.mapM (UsersRepository.readUser cfg) with
      | error exc => exact rfl
      | ok us => exact rfl

theorem goalsCreate_before :
    (limiterGate .goalsCreate u).Before (Goals.Create.handleRequestJsonThrow request ctx) := by
  unfold Goals.Create.handleRequestJsonThrow
  cases CreateGoalRequestBody.parse request.body with
  | error exc => exact before_raise exc
  | ok body =>
    show (limiterGate .goalsCreate u).Before (if body.title.isEmpty then _ else _)
    split
    · exact before_makeError (by decide)
    · refine withUserId_before hu (rateLimited_before ?_)
      refine Prog.Always.andThen (Prog.Always.andThen (admitted_perform rfl fun r => ?_))
      cases r with
      | error exc => exact rfl
      | ok oid =>
        refine Prog.Always.andThen (admitted_mongo fun r => ?_)
        cases r with
        | error exc => exact rfl
        | ok _ => exact rfl

theorem goalsList_before :
    (limiterGate .goalsList u).Before (Goals.List.handleRequestJsonThrow ctx) := by
  refine withUserId_before hu (rateLimited_before ?_)
  refine Prog.Always.andThen (Prog.Always.andThen (admitted_mongo fun r => ?_))
  cases r with
  | error exc => exact rfl
  | ok docs => exact rfl

theorem tasksCreate_before :
    (limiterGate .tasksCreate u).Before (Tasks.Create.handleRequestJsonThrow cfg request ctx) := by
  unfold Tasks.Create.handleRequestJsonThrow
  cases CreateTaskRequestBody.parse request.body with
  | error exc => exact before_raise exc
  | ok body =>
    show (limiterGate .tasksCreate u).Before (if body.title.isEmpty then _ else _)
    split
    · exact before_makeError (by decide)
    · refine withUserId_before hu (rateLimited_before (withOwnGoal_passed fun n => ?_))
      refine Prog.Always.andThen (Prog.Always.andThen (admitted_execute fun r => ?_))
      cases r with
      | error exc => exact rfl
      | ok row =>
        refine Prog.always_ofExcept ?_
        cases TasksRepository.readCreateTaskResponseBody cfg row with
        | error exc => exact rfl
        | ok task => exact rfl

theorem tasksList_before :
    (limiterGate .tasksList u).Before (Tasks.List.handleRequestJsonThrow cfg request ctx) := by
  refine withUserId_before hu (rateLimited_before (withOwnGoal_passed fun n => ?_))
  refine Prog.Always.andThen (Prog.Always.andThen (admitted_execute fun r => ?_))
  cases r with
  | error exc => exact rfl
  | ok rows =>
    refine Prog.always_ofExcept ?_
    cases rows.mapM (TasksRepository.readTask cfg) with
    | error exc => exact rfl
    | ok tasks => exact rfl

theorem tasksUpdateStatus_before :
    (limiterGate .tasksUpdateStatus u).Before (Tasks.UpdateTaskStatus.handleRequestJsonThrow cfg request ctx) := by
  refine withUserId_before hu (rateLimited_before ?_)
  rcases parseInt request.goalId 0 with ⟨goalOk, id⟩
  rcases parseInt request.taskId 0 with ⟨taskOk, n⟩
  dsimp only
  split
  · exact passed_ret (by decide)
  refine getById_passed fun goal => ?_
  split
  · exact passed_ret (by decide)
  split
  · exact passed_ret (by decide)
  refine Prog.Always.andThen ?_
  unfold TasksRepository.updateStatus
  split
  · exact passed_ret (by decide)
  refine Prog.Always.andThen (admitted_execute fun r => ?_)
  cases r with
  | error exc => exact rfl
  | ok rows =>
    dsimp only
    split
    · exact passed_ret (by decide)
    refine Prog.Always.andThen (Prog.always_ofExcept ?_)
    cases asSingleRow rows >>= TasksRepository.readTask cfg with
    | error exc => exact rfl
    | ok task => exact rfl

end

/-- **Every request of the client asks the limiter first**, or is over without it. -/
theorem serve_before (q : HttpRequest) (h : ofClient cfg e u q = true) :
    (limiterGate e u).Before (serve cfg q) := by
  obtain ⟨he, hu⟩ : q.endpoint = e ∧ (q.context cfg).userData = some u := by
    simpa [ofClient] using h
  subst he
  unfold HttpRequest.context at hu
  unfold serve
  split
  · rename_i hauth
    rw [if_pos hauth] at hu
    dsimp only
    split
    · unfold dispatch
      cases hq : q.endpoint with
      | signup => rw [hq] at hauth; simp [Endpoint.jwtAuth] at hauth
      | login => rw [hq] at hauth; simp [Endpoint.jwtAuth] at hauth
      | usersSearch => exact search_before q hu
      | goalsCreate => exact goalsCreate_before q hu
      | goalsList => exact goalsList_before hu
      | tasksCreate => exact tasksCreate_before q hu
      | tasksList => exact tasksList_before q hu
      | tasksUpdateStatus => exact tasksUpdateStatus_before q hu
    · exact before_makeError (by split <;> decide)
  · rename_i hauth
    rw [if_neg hauth] at hu
    simp at hu

/-! ## The limiter's calls in a run -/

abbrev ServiceEvent := Event HttpRequest Input

abbrev Trace := List (Pool.Executed Op Op.Ret HttpRequest Exn Input)

/-- The operations of a run of the service from the world `w₀`, and what it answers. -/
def serviceTrace (cfg : Config D) (w₀ : World) (es : List ServiceEvent) : Trace :=
  Pool.trace World.exec (serve cfg) (Pool.start w₀) es

def serviceLog (cfg : Config D) (w₀ : World) (es : List ServiceEvent) :
    List (Answer HttpRequest Exn HttpResponse World) :=
  ((Pool.start w₀).run World.exec (serve cfg) es).log

/-- An operation as a call of the limiter of `e`, with what it returned. -/
def limiterCall (e : Endpoint) :
    Pool.Executed Op Op.Ret HttpRequest Exn Input → Option (LimiterCall × (Bool × ℤ))
  | ⟨_, i, .checkRateLimit e' u, .ok r⟩ => if e' = e then some (⟨u, i.now, i.created⟩, r) else none
  | _ => none

/-- The calls of the limiter of `e`. -/
def limiterCalls (e : Endpoint) (tr : Trace) : List LimiterCall :=
  (tr.filterMap (limiterCall e)).map Prod.fst

/-- One operation, seen from the limiter of `e`: a call of it, or none. -/
theorem limiterCall_exec (q : HttpRequest) (i : Input) (o : Op) (w : World) :
    (∃ v, limiterCall e ⟨q, i, o, (World.exec i o w).1⟩ =
        some (⟨v, i.now, i.created⟩, (checkRateLimit (w.rateLimits e) v i.now i.created).1) ∧
      (World.exec i o w).2.rateLimits e = (checkRateLimit (w.rateLimits e) v i.now i.created).2) ∨
    (limiterCall e ⟨q, i, o, (World.exec i o w).1⟩ = none ∧
      (World.exec i o w).2.rateLimits e = w.rateLimits e) := by
  cases o with
  | checkRateLimit e' v =>
    by_cases h : e' = e
    · subst h
      exact .inl ⟨v, if_pos rfl, Function.update_self ..⟩
    · exact .inr ⟨if_neg h, Function.update_of_ne (Ne.symm h) ..⟩
  | newOid => exact .inr ⟨rfl, rfl⟩
  | execute host stmt =>
    refine .inr ⟨rfl, ?_⟩
    simp only [World.exec]; split <;> rfl
  | mongo cmd =>
    refine .inr ⟨rfl, ?_⟩
    simp only [World.exec]; split <;> rfl

/-- One event, seen from the limiter of `e`. -/
theorem limiterCall_step (cfg : Config D) (e : Endpoint) (c : Pool Op Op.Ret HttpRequest Exn HttpResponse World)
    (ev : ServiceEvent) :
    (∃ v now created, (Pool.executed World.exec c ev).toList.filterMap (limiterCall e) =
        [(⟨v, now, created⟩, (checkRateLimit (c.world.rateLimits e) v now created).1)] ∧
      (c.step World.exec (serve cfg) ev).world.rateLimits e =
        (checkRateLimit (c.world.rateLimits e) v now created).2) ∨
    ((Pool.executed World.exec c ev).toList.filterMap (limiterCall e) = [] ∧
      (c.step World.exec (serve cfg) ev).world.rateLimits e = c.world.rateLimits e) := by
  cases ev with
  | arrive q => exact .inr ⟨rfl, by rw [Pool.step, Pool.settle_world]⟩
  | turn n i =>
    rcases Pool.turn_cases World.exec (serve cfg) c n i with ⟨q, o, k, hn, hexec, hstep⟩ | ⟨hexec, hstep⟩
    · rw [hexec, hstep, Option.toList_some, Pool.settle_world]
      rcases limiterCall_exec (e := e) q i o c.world with ⟨v, hcall, hafter⟩ | ⟨hcall, hafter⟩
      · exact .inl ⟨v, i.now, i.created, by rw [List.filterMap_cons_some hcall]; rfl, hafter⟩
      · exact .inr ⟨by rw [List.filterMap_cons_none hcall]; rfl, hafter⟩
    · rw [hexec, hstep]
      exact .inr ⟨rfl, rfl⟩

/-- **What a run asks the limiter of `e`** is a run of that limiter. -/
theorem trace_limiterRun (c : Pool Op Op.Ret HttpRequest Exn HttpResponse World) (es : List ServiceEvent) :
    (Pool.trace World.exec (serve cfg) c es).filterMap (limiterCall e) =
      limiterRunFrom (c.world.rateLimits e)
        (limiterCalls e (Pool.trace World.exec (serve cfg) c es)) := by
  induction es generalizing c with
  | nil => rfl
  | cons ev es ih =>
    have ih := ih (c.step World.exec (serve cfg) ev)
    rw [limiterCalls, Pool.trace, List.filterMap_append]
    rcases limiterCall_step cfg e c ev with ⟨v, now, created, hcall, hafter⟩ | ⟨hcall, hafter⟩
    · rw [hafter] at ih
      rw [hcall, List.singleton_append, List.map_cons, limiterRunFrom, ← limiterCalls, ← ih]
    · rw [hafter] at ih
      rw [hcall, List.nil_append, ← limiterCalls, ← ih]

/-! ## Answers and calls -/

theorem limiterCall_now {x : Pool.Executed Op Op.Ret HttpRequest Exn Input} {y : LimiterCall × (Bool × ℤ)}
    (h : limiterCall e x = some y) : y.1.now = x.input.now := by
  unfold limiterCall at h
  split at h
  · split at h
    · rw [← Option.some.inj h]
    · simp at h
  · simp at h

/-- The readings of the clock never go back. -/
def Clocked (es : List ServiceEvent) : Prop := (Pool.inputs es).Pairwise fun i j => i.now ≤ j.now

instance (es : List ServiceEvent) : Decidable (Clocked es) := inferInstanceAs (Decidable (List.Pairwise _ _))

/-- The calls of one limiter read the clock in the order of the events. -/
theorem limiterCalls_steady {w₀ : World} {es : List ServiceEvent} (h : Clocked es) :
    Steady (limiterCalls e (serviceTrace cfg w₀ es)) := by
  have htrace : ((serviceTrace cfg w₀ es).map Pool.Executed.input).Pairwise fun i j => i.now ≤ j.now :=
    h.sublist Pool.trace_inputs
  rw [List.pairwise_map] at htrace
  refine List.pairwise_map.2 (List.pairwise_filterMap.2 (htrace.imp fun {x y} hxy a ha b hb => ?_))
  rw [limiterCall_now ha, limiterCall_now hb]; exact hxy

/-- The limiter's calls for one user are answered by the user's own bucket. -/
theorem limiterCalls_user (w₀ : World) (es : List ServiceEvent) :
    ((serviceTrace cfg w₀ es).filterMap (limiterCall e)).filter (fun y => y.1.user = u) =
      Keyed.runOne bucketStep (w₀.rateLimits e u)
        (callsOf u (limiterCalls e (serviceTrace cfg w₀ es))) := by
  rw [serviceTrace, trace_limiterRun, limiterRunFrom_eq]
  exact Keyed.filter_runAll bucketStep LimiterCall.user _ _ u

/-- A call of the limiter of `e` for `u` is made by a request of that client. -/
theorem serve_calls (q : HttpRequest) :
    (serve cfg q).Uses fun o => (limiterGate e u).isGate o = true → ofClient cfg e u q = true := by
  have hhandler : (dispatch cfg q (q.context cfg)).Uses fun o =>
      (limiterGate e u).isGate o = true → ofClient cfg e u q = true := by
    refine (dispatch_calls cfg q (q.context cfg)).mono fun o ho hgate => ?_
    cases o with
    | checkRateLimit e' v =>
      obtain ⟨rfl, rfl⟩ : e' = e ∧ v = u := by simpa [limiterGate] using hgate
      obtain ⟨he, hu⟩ := ho
      simp [ofClient, he, hu]
    | newOid => simp [limiterGate] at hgate
    | execute host stmt => simp [limiterGate] at hgate
    | mongo cmd => simp [limiterGate] at hgate
  unfold HttpRequest.context at hhandler
  unfold serve
  split
  · rename_i hauth
    rw [if_pos hauth] at hhandler
    dsimp only
    split
    · exact hhandler
    · trivial
  · rename_i hauth
    rw [if_neg hauth] at hhandler
    exact hhandler

/-- The gate of `e` and `u` in a run, seen as calls of the limiter. -/
theorem limiterCall_gate {x : Pool.Executed Op Op.Ret HttpRequest Exn Input}
    (hx : (limiterGate e u).isGate x.op = true → ofClient cfg e u x.req = true) :
    Pool.opened (limiterGate e u) (ofClient cfg e u) x =
        ((limiterCall e x).map fun y => y.2.1 && decide (y.1.user = u)).getD false ∧
      Pool.turnedAway (limiterGate e u) (ofClient cfg e u) x =
        ((limiterCall e x).map fun y => !y.2.1 && decide (y.1.user = u)).getD false := by
  obtain ⟨q, i, o, r⟩ := x
  cases o with
  | checkRateLimit e' v =>
    by_cases hev : e' = e ∧ v = u
    · obtain ⟨rfl, rfl⟩ := hev
      have hq : ofClient cfg e' v q = true := hx (by simp [limiterGate])
      cases r <;> simp [Pool.opened, Pool.turnedAway, limiterGate, limiterCall, hq]
    · have hno : (limiterGate e u).isGate (.checkRateLimit e' v) = false := by
        simpa [limiterGate] using hev
      simp only [Pool.opened, Pool.turnedAway, hno, Bool.and_false, Bool.false_and]
      by_cases he : e' = e
      · have hv : v ≠ u := fun hv => hev ⟨he, hv⟩
        cases r <;> simp [limiterCall, he, hv]
      · cases r <;> simp [limiterCall, he]
  | newOid => simp [Pool.opened, Pool.turnedAway, limiterGate, limiterCall]
  | execute host stmt => simp [Pool.opened, Pool.turnedAway, limiterGate, limiterCall]
  | mongo cmd => simp [Pool.opened, Pool.turnedAway, limiterGate, limiterCall]

/-- **The books of one client**: his 2xx answers against the openings of his bucket, his 429 answers
against its refusals. -/
theorem client_balanced (cfg : Config D) (e : Endpoint) (u : UserId) (w₀ : World) (es : List ServiceEvent) :
    (serviceLog cfg w₀ es).countP (fun a => ofClient cfg e u a.req && decide (IsSuccess a.result)) ≤
        (Keyed.runOne bucketStep (w₀.rateLimits e u)
          (callsOf u (limiterCalls e (serviceTrace cfg w₀ es)))).countP (fun y => y.2.1) ∧
      (serviceLog cfg w₀ es).countP (fun a => ofClient cfg e u a.req &&
          decide (statusOf a.result = .kTooManyRequests)) =
        (Keyed.runOne bucketStep (w₀.rateLimits e u)
          (callsOf u (limiterCalls e (serviceTrace cfg w₀ es)))).countP (fun y => !y.2.1) := by
  have huses : ∀ x ∈ serviceTrace cfg w₀ es,
      (limiterGate e u).isGate x.op = true → ofClient cfg e u x.req = true :=
    Pool.trace_uses serve_calls fun _ h => absurd h List.not_mem_nil
  rw [← limiterCalls_user, List.countP_filter, List.countP_filter, List.countP_filterMap,
    List.countP_filterMap]
  have hopened := List.countP_congr fun x hx => iff_of_eq (congrArg (· = true) (limiterCall_gate (huses x hx)).1)
  have haway := List.countP_congr fun x hx => iff_of_eq (congrArg (· = true) (limiterCall_gate (huses x hx)).2)
  rw [← hopened, ← haway]
  exact Pool.trace_balanced (limiterGate e u) (ofClient cfg e u) serve_before w₀ es

/-- The readings of a user's calls are among those of the events. -/
theorem limiterCalls_now {w₀ : World} {es : List ServiceEvent} {c : LimiterCall}
    (h : c ∈ limiterCalls e (serviceTrace cfg w₀ es)) : ∃ i ∈ Pool.inputs es, c.now = i.now := by
  obtain ⟨y, hy, rfl⟩ := List.mem_map.1 h
  obtain ⟨x, hx, hxy⟩ := List.mem_filterMap.1 hy
  exact ⟨x.input, Pool.trace_inputs.subset (List.mem_map_of_mem hx), limiterCall_now hxy⟩

/-- **No user is served too often.** In every run of the service from any world, with a clock that
never goes back and all readings within `[s, s + T]`, the handler of `e` answers user `u` 2xx at most
`2 + 2 * ⌊T in seconds⌋` times, however his requests and those of others interleave. -/
theorem throughput_bounded (cfg : Config D) (e : Endpoint) (u : UserId) (w₀ : World)
    (es : List ServiceEvent) (hclock : Clocked es) (s T : ℤ) (hT : 0 ≤ T)
    (hwindow : ∀ i ∈ Pool.inputs es, s ≤ i.now ∧ i.now ≤ s + T) :
    ((serviceLog cfg w₀ es).countP (fun a => ofClient cfg e u a.req && decide (IsSuccess a.result)) : ℤ) ≤
      2 + 2 * (T / second) := by
  have hlog := (client_balanced cfg e u w₀ es).1
  set calls := callsOf u (limiterCalls e (serviceTrace cfg w₀ es))
  have hsteady : Steady calls := (limiterCalls_steady hclock).sublist List.filter_sublist
  have hbucket := countP_window s hT calls (w₀.rateLimits e u) hsteady
  -- every admission of the run lies in the window
  have hall : (Keyed.runOne bucketStep (w₀.rateLimits e u) calls).countP (fun y => y.2.1) ≤
      (Keyed.runOne bucketStep (w₀.rateLimits e u) calls).countP (admittedBetween s (s + T)) := by
    refine List.countP_mono_left fun y hy hyes => ?_
    have hc : y.1 ∈ calls := by
      rw [← Keyed.map_fst_runOne bucketStep (w₀.rateLimits e u) calls]; exact List.mem_map_of_mem hy
    obtain ⟨i, hi, hnow⟩ := limiterCalls_now (List.mem_of_mem_filter hc)
    obtain ⟨hlo, hhi⟩ := hwindow i hi
    simp only [admittedBetween, hyes, hnow, Bool.true_and, Bool.and_eq_true, decide_eq_true_eq]
    exact ⟨hlo, hhi⟩
  omega

/-- Three requests of one user within a fifth of a second, all in flight before the first answer. -/
def threeReads : List ServiceEvent :=
  [.arrive (annRead .goalsList), .arrive (annRead .goalsList), .arrive (annRead .goalsList),
    .turn 0 { now := 0 }, .turn 0 { now := 100000000 }, .turn 0 { now := 200000000 },
    .turn 0 { now := 200000000 }, .turn 0 { now := 200000000 }]

theorem throughput_bounded_threeReads :
    ((serviceLog (clearConfig .throws) emptyWorld threeReads).countP (fun a =>
        ofClient (clearConfig .throws) .goalsList 1 a.req && decide (IsSuccess a.result)) : ℤ) ≤
      2 + 2 * (200000000 / second) :=
  throughput_bounded (clearConfig .throws) .goalsList 1 emptyWorld threeReads (by decide) 0 200000000
    (by decide) (by decide)

/-! ## Who is turned away -/

/-- How many calls of a user, with these readings before them, latest first, come third or later in
their burst. -/
def hurried : List ℤ → List ℤ → ℕ
  | _, [] => 0
  | hist, t :: ts => (if 2 ≤ (burst t hist).length then 1 else 0) + hurried (t :: hist) ts

/-- A bucket is full when it is created, unless the call was descheduled for a second. -/
theorem bucketStep_created {c : LimiterCall} (h : c.created - c.now < second) :
    bucketStep none c = bucketStep none { c with created := c.now } := by
  have hfull {b : TokenBucket} (hb : b.tokens = 2) (he : 0 ≤ b.elapsed c.now) : b.refilled c.now = 2 := by
    unfold TokenBucket.refilled TokenBucket.maxTokens TokenBucket.refillRate
    omega
  have h1 : (TokenBucket.fresh c.created).refilled c.now = 2 :=
    hfull rfl ((TokenBucket.elapsed_nonneg_iff _ _).2 h)
  have h2 : (TokenBucket.fresh c.now).refilled c.now = 2 :=
    hfull rfl ((TokenBucket.elapsed_nonneg_iff _ _).2 (by simp only [TokenBucket.fresh, Int.sub_self]; decide))
  simp only [bucketStep, Option.getD_none, TokenBucket.check, h1, h2]

/-- A bucket refuses the calls that come third or later in their burst. -/
theorem countP_hurried : ∀ (calls : List LimiterCall) (hist : List ℤ),
    (hist = [] → ∀ c ∈ calls.head?, c.created - c.now < second) →
    ((calls.map LimiterCall.now).reverse ++ hist).Pairwise (· ≥ ·) →
    (Keyed.runOne bucketStep (bucketAfter hist) calls).countP (fun y => !y.2.1) =
      hurried hist (calls.map LimiterCall.now) := by
  intro calls
  induction calls with
  | nil => intro hist _ _; rfl
  | cons c cs ih =>
    intro hist hcr hs
    have hs' : ((cs.map LimiterCall.now).reverse ++ c.now :: hist).Pairwise (· ≥ ·) := by simpa using hs
    have hd : (c.now :: hist).Pairwise (· ≥ ·) := (List.pairwise_append.1 hs').2.1
    -- a call that creates the bucket may read the clock twice
    have hsame : bucketStep (bucketAfter hist) c =
        bucketStep (bucketAfter hist) { c with created := if hist = [] then c.now else c.created } := by
      cases hist with
      | nil => exact bucketStep_created (hcr rfl c rfl)
      | cons x xs => rfl
    obtain ⟨hadm, hnext⟩ := bucketStep_after
      (c := { c with created := if hist = [] then c.now else c.created })
      (fun he => if_pos he) hd
    rw [← hsame] at hadm hnext
    change _ ↔ (burst c.now hist).length < 2 at hadm
    rw [Keyed.runOne, hnext, List.countP_cons, ih (c.now :: hist) (fun he => by simp at he) hs', List.map_cons,
      hurried, Nat.add_comm]
    congr 1
    by_cases hb : (burst c.now hist).length < 2
    · simp [hadm.2 hb, Nat.not_le.2 hb]
    · have hno : (bucketStep (bucketAfter hist) c).1.1 = false := by
        rw [← Bool.not_eq_true]; exact fun h => hb (hadm.1 h)
      simp [hno, Nat.not_lt.1 hb]

/-- **Who is answered 429.** In every run of the service that starts without a bucket for user `u` at
the handler of `e`, with a clock that never goes back and a first call that creates the bucket within a
second, the user is answered 429 by that handler once for each of his calls that comes third or later
in its burst: nothing that other users do, or he does elsewhere, turns him away or lets him in. -/
theorem refusals_exact (cfg : Config D) (e : Endpoint) (u : UserId) (w₀ : World)
    (es : List ServiceEvent) (h₀ : w₀.rateLimits e u = none) (hclock : Clocked es)
    (hcreated : ∀ c ∈ (callsOf u (limiterCalls e (serviceTrace cfg w₀ es))).head?,
      c.created - c.now < second) :
    (serviceLog cfg w₀ es).countP (fun a => ofClient cfg e u a.req &&
        decide (statusOf a.result = .kTooManyRequests)) =
      hurried [] ((callsOf u (limiterCalls e (serviceTrace cfg w₀ es))).map LimiterCall.now) := by
  have hlog := (client_balanced cfg e u w₀ es).2
  have hsteady : Steady (callsOf u (limiterCalls e (serviceTrace cfg w₀ es))) :=
    (limiterCalls_steady hclock).sublist List.filter_sublist
  rw [hlog, h₀]
  refine countP_hurried _ [] (fun _ => hcreated) ?_
  rw [List.append_nil, List.pairwise_reverse]
  exact List.pairwise_map.2 hsteady

theorem refusals_exact_threeReads :
    (serviceLog (clearConfig .throws) emptyWorld threeReads).countP (fun a =>
        ofClient (clearConfig .throws) .goalsList 1 a.req &&
          decide (statusOf a.result = .kTooManyRequests)) =
      hurried [] ((callsOf 1 (limiterCalls .goalsList (serviceTrace (clearConfig .throws) emptyWorld
        threeReads))).map LimiterCall.now) :=
  refusals_exact (clearConfig .throws) .goalsList 1 emptyWorld threeReads rfl (by decide) (by decide)

/-- The third is turned away, and is the first to be answered. -/
example : (serviceLog (clearConfig .throws) emptyWorld threeReads).map (fun a => statusOf a.result) =
    [.kTooManyRequests, .kOk, .kOk] := by decide +kernel

end Leadertask
