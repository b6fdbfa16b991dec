import Leadertask.Proof.Passwords
import Leadertask.Proof.Reads

/-!
# What a goal says shows to its owner only

Two runs on a cluster that differ in the titles and descriptions of one user's goals, as they are
stored or as his requests send them. Only what the user himself is told about his goals differs. The
owner check of tasks-create and tasks-list compares a narrowed id, so it can let another user through
to a goal; but no handler of tasks asks for more than whether the goal is there and whose it is.

* `SameCluster`: two clusters that differ in what that user's goals say at most.
* `exec_same`: an operation answers the same, but for the goals that it reads.
* `goals_private`: so everybody else sees the same.
-/

namespace Leadertask

open Atomic

variable {D : Type} {cfg : Config D}

namespace Owned

variable (u : UserId)

/-! ## What may differ -/

/-- Two documents of one goal; only a goal of `u` may say something else. -/
structure SameGoal (d d' : GoalDoc) : Prop where
  id : d'.id = d.id
  userId : d'.userId = d.userId
  others : d.userId ≠ u → d' = d

/-- Two clusters that differ in what the goals of `u` say at most. -/
structure SameCluster (c c' : Cluster) : Prop where
  pg : c'.pg = c.pg
  goals : List.Forall₂ (SameGoal u) c.goals.docs c'.goals.docs
  rateLimits : c'.rateLimits = c.rateLimits

/-- Equal operations, or the inserts of one goal. -/
inductive SameOp : Op → Op → Prop
  | same (o : Op) : SameOp o o
  | insert {d d' : GoalDoc} (h : SameGoal u d d') : SameOp (.mongo (.insertOne d)) (.mongo (.insertOne d'))

/-- Equal answers, but for what the goals of `u` say. -/
def SameResult : (o o' : Op) → Except Exn o.Ret → Except Exn o'.Ret → Prop
  | .mongo (.findOne _), .mongo (.findOne _), r, r' => Prog.Matches (Option.Rel (SameGoal u)) r r'
  | .mongo (.find v), .mongo (.find _), r, r' => Prog.Matches (fun docs docs' => v ≠ u → docs' = docs) r r'
  | _, _, r, r' => HEq r r'

/-- The same input, whose failures do not depend on what a goal of `u` says. -/
def SameInput (i i' : ClusterInput) : Prop :=
  i' = i ∧ ∀ d d', SameGoal u d d' → i.fault (.mongo (.insertOne d)) = i.fault (.mongo (.insertOne d'))

/-- A request of `u` to a handler of goals. -/
def AboutGoals (cfg : Config D) (q : HttpRequest) : Prop :=
  q.endpoint ∈ [.goalsCreate, .goalsList] ∧ (q.context cfg).userData = some u

/-- Equal requests, or two with which `u` creates a goal. -/
inductive SameRequest (cfg : Config D) : HttpRequest → HttpRequest → Prop
  | same (q : HttpRequest) : SameRequest cfg q q
  | create {q : HttpRequest} {json : Json} {body body' : CreateGoalRequestBody} (he : q.endpoint = .goalsCreate)
      (hu : (q.context cfg).userData = some u) (hbody : CreateGoalRequestBody.parse q.body = .ok body)
      (hbody' : CreateGoalRequestBody.parse json = .ok body') (htitle : body.title ≠ "")
      (htitle' : body'.title ≠ "") : SameRequest cfg q { q with body := json }

/-- Responses of one status, which are equal unless they tell `u` about his goals. -/
structure SameResponse (cfg : Config D) (q : HttpRequest) (r r' : HttpResponse) : Prop where
  status : r'.status = r.status
  others : ¬ AboutGoals u cfg q → r' = r

variable {u} {i i' : ClusterInput} {c c' : Cluster} {docs docs' : List GoalDoc}

theorem SameGoal.refl (d : GoalDoc) : SameGoal u d d := ⟨rfl, rfl, fun _ => rfl⟩

theorem SameResponse.of_eq {q : HttpRequest} {r r' : HttpResponse} (h : r = r') : SameResponse u cfg q r r' :=
  h ▸ ⟨rfl, fun _ => rfl⟩

/-! ## The stores -/

theorem ids_same (h : List.Forall₂ (SameGoal u) docs docs') : docs'.map GoalDoc.id = docs.map GoalDoc.id := by
  induction h with
  | nil => rfl
  | cons hd _ ih => rw [List.map_cons, List.map_cons, hd.id, ih]

theorem find_same (h : List.Forall₂ (SameGoal u) docs docs') (id : Oid) :
    Option.Rel (SameGoal u) (docs.find? (·.id = id)) (docs'.find? (·.id = id)) := by
  induction h with
  | nil => exact .none
  | @cons d d' _ _ hd _ ih =>
    rw [List.find?_cons, List.find?_cons, hd.id]
    split
    · exact .some hd
    · exact ih

/-- The goals of another user. -/
theorem filter_same {v : UserId} (hv : v ≠ u) (h : List.Forall₂ (SameGoal u) docs docs') :
    docs'.filter (·.userId = v) = docs.filter (·.userId = v) := by
  induction h with
  | nil => rfl
  | @cons d d' _ _ hd _ ih =>
    rw [List.filter_cons, List.filter_cons, hd.userId, ih]
    split
    · rename_i hdv
      rw [hd.others fun hdu => hv ((of_decide_eq_true hdv).symm.trans hdu)]
    · rfl

/-- Two collections take the two documents, or neither does. -/
theorem insertOne_same {g g' : GoalsCollection} {d d' : GoalDoc} (h : List.Forall₂ (SameGoal u) g.docs g'.docs)
    (hd : SameGoal u d d') :
    (g.exec (.insertOne d)).1 = (g'.exec (.insertOne d')).1 ∧
      List.Forall₂ (SameGoal u) (g.exec (.insertOne d)).2.docs (g'.exec (.insertOne d')).2.docs := by
  have hids := ids_same h
  simp only [GoalsCollection.exec]
  unfold GoalsCollection.insertOne
  by_cases hnew : d.id ∉ g.docs.map GoalDoc.id
  · have hnew' : d'.id ∉ g'.docs.map GoalDoc.id := by rw [hids, hd.id]; exact hnew
    rw [dif_pos hnew, dif_pos hnew']
    exact ⟨rfl, List.rel_append h (.cons hd .nil)⟩
  · have hnew' : ¬ d'.id ∉ g'.docs.map GoalDoc.id := by rw [hids, hd.id]; exact hnew
    rw [dif_neg hnew, dif_neg hnew']
    exact ⟨rfl, h⟩

/-- A statement of Postgres neither reads goals nor writes them. -/
theorem execute_goals (host : ClusterHostType) (stmt : Sql) (g : GoalsCollection) :
    Cluster.exec i (.execute host stmt) { c with goals := g } =
      ((Cluster.exec i (.execute host stmt) c).1, { (Cluster.exec i (.execute host stmt) c).2 with goals := g }) := by
  have hmaster (b : Cluster) : ({ b with goals := g }).executeOnMaster i.toInput stmt =
      ((b.executeOnMaster i.toInput stmt).1, { (b.executeOnMaster i.toInput stmt).2 with goals := g }) := by
    have hexec : ({ b with goals := g } : Cluster).master = b.master := rfl
    unfold Cluster.executeOnMaster
    rw [hexec]
    split
    · split <;> rfl
    · rfl
  have hcaught : ({ c with goals := g } : Cluster).catchUp i = { c.catchUp i with goals := g } := rfl
  have hseen : ({ c with goals := g } : Cluster).seen i = c.seen i := rfl
  simp only [Cluster.exec, hcaught, hseen]
  split
  · rfl
  · cases host with
    | kMaster => exact hmaster _
    | kSlave =>
      dsimp only
      split
      · exact hmaster _
      · split <;> rfl

theorem execute_keeps (host : ClusterHostType) (stmt : Sql) :
    (Cluster.exec i (.execute host stmt) c).2.goals = c.goals :=
  congrArg (fun p => p.2.goals) (execute_goals (i := i) (c := c) host stmt c.goals)

/-- **One operation on both clusters** answers the same, but for what the goals of `u` say. -/
theorem exec_same {o o' : Op} (hi : SameInput u i i') (ho : SameOp u o o') (h : SameCluster u c c') :
    SameResult u o o' (Cluster.exec i o c).1 (Cluster.exec i' o' c').1 ∧
      SameCluster u (Cluster.exec i o c).2 (Cluster.exec i' o' c').2 := by
  obtain ⟨rfl, hfault⟩ := hi
  obtain ⟨pg', goals', rateLimits'⟩ := c'
  obtain ⟨rfl, hgoals, rfl⟩ := h
  have hinsert {d d' : GoalDoc} (hd : SameGoal u d d') :
      SameResult u (.mongo (.insertOne d)) (.mongo (.insertOne d')) (Cluster.exec i' (.mongo (.insertOne d)) c).1
          (Cluster.exec i' (.mongo (.insertOne d')) ⟨c.pg, goals', c.rateLimits⟩).1 ∧
        SameCluster u (Cluster.exec i' (.mongo (.insertOne d)) c).2
          (Cluster.exec i' (.mongo (.insertOne d')) ⟨c.pg, goals', c.rateLimits⟩).2 := by
    simp only [Cluster.exec, World.exec, ← hfault d d' hd]
    split
    · exact ⟨HEq.rfl, rfl, hgoals, rfl⟩
    · obtain ⟨hanswer, hafter⟩ := @insertOne_same u c.goals goals' d d' hgoals hd
      exact ⟨heq_of_eq hanswer, rfl, hafter, rfl⟩
  cases ho with
  | insert hd => exact hinsert hd
  | same =>
    cases o with
    | checkRateLimit e v => exact ⟨HEq.rfl, rfl, hgoals, rfl⟩
    | newOid => exact ⟨HEq.rfl, rfl, hgoals, rfl⟩
    | execute host stmt =>
      have hexec := execute_goals (i := i') (c := c) host stmt goals'
      rw [show (⟨c.pg, goals', c.rateLimits⟩ : Cluster) = { c with goals := goals' } from rfl, hexec]
      refine ⟨HEq.rfl, rfl, ?_, rfl⟩
      rw [execute_keeps]
      exact hgoals
    | mongo cmd =>
      cases cmd with
      | insertOne d => exact hinsert (.refl d)
      | findOne id =>
        simp only [Cluster.exec, World.exec]
        split
        · exact ⟨.error _, rfl, hgoals, rfl⟩
        · exact ⟨.ok (find_same hgoals id), rfl, hgoals, rfl⟩
      | find v =>
        simp only [Cluster.exec, World.exec]
        split
        · exact ⟨.error _, rfl, hgoals, rfl⟩
        · exact ⟨.ok fun hv => congrArg (List.mergeSort · _) (filter_same hv hgoals), rfl, hgoals, rfl⟩

/-! ## The handlers -/

/-- A program that goes on alike. -/
abbrev AlikeProg {α : Type} (u : UserId) (Q : α → α → Prop) (p p' : Handler α) : Prop :=
  p.Alike (SameOp u) (SameResult u) Q p'

theorem fixed_checkRateLimit (e : Endpoint) (v : UserId) :
    Prog.Fixed (SameOp u) (SameResult u) (.checkRateLimit e v) := ⟨.same _, fun _ _ hr => eq_of_heq hr⟩

theorem fixed_execute (host : ClusterHostType) (stmt : Sql) :
    Prog.Fixed (SameOp u) (SameResult u) (.execute host stmt) := ⟨.same _, fun _ _ hr => eq_of_heq hr⟩

/-- A program that reads no goals. -/
theorem alike_self {α : Type} {p : Handler α} (hp : p.Uses (Prog.Fixed (SameOp u) (SameResult u))) :
    AlikeProg u Eq p p := Prog.alike_of_uses hp fun _ => rfl

theorem fixed_of_calls {q : HttpRequest} {ctx : RequestContext}
    (he : q.endpoint ∉ [.goalsList, .tasksCreate, .tasksList, .tasksUpdateStatus]) {o : Op} (h : Calls q ctx o) :
    Prog.Fixed (SameOp u) (SameResult u) o := by
  cases o with
  | checkRateLimit e v => exact fixed_checkRateLimit e v
  | newOid => exact ⟨.same _, fun r r' hr => eq_of_heq hr⟩
  | execute host stmt => exact fixed_execute host stmt
  | mongo cmd =>
    cases cmd with
    | insertOne d => exact ⟨.same _, fun r r' hr => eq_of_heq hr⟩
    | findOne id => exact absurd (List.mem_cons_of_mem _ h) he
    | find v => exact absurd (h.1 ▸ List.mem_cons_self) he

/-- What a handler of tasks learns of a goal: whether it is there, and whose it is. -/
theorem getById_alike (id : String) :
    AlikeProg u (fun g g' => g'.map Goal.userId = g.map Goal.userId) (GoalsRepository.getById id)
      (GoalsRepository.getById id) := by
  refine Prog.Alike.andThen (P := Eq) (alike_self (Prog.uses_ofExcept _)) ?_
  rintro oid _ rfl
  refine Prog.Alike.andThen (P := Option.Rel (SameGoal u))
    (.call (.same _) fun r r' hr => Prog.alike_ofExcept hr) fun doc doc' hdoc => .ret ?_
  cases hdoc with
  | none => rfl
  | some hd => simp only [Option.map_some, GoalsRepository.readGoal, hd.userId]

theorem withOwnGoal_alike {v : UserId} {goalIdStr : String} {k : Int64 → Handler HttpResponse}
    (hk : ∀ n, AlikeProg u Eq (k n) (k n)) :
    AlikeProg u Eq (withOwnGoal v goalIdStr k) (withOwnGoal v goalIdStr k) := by
  unfold withOwnGoal
  split
  · exact .ret rfl
  · refine Prog.Alike.andThen (getById_alike goalIdStr) fun goal goal' hgoal => ?_
    cases goal with
    | none =>
      obtain rfl : goal' = none := Option.map_eq_none_iff.1 hgoal
      exact .ret rfl
    | some goal =>
      obtain ⟨goal', rfl, hu⟩ := Option.map_eq_some_iff.1 hgoal
      dsimp only
      rw [hu]
      split
      · exact .ret rfl
      · exact hk _

theorem tasksCreate_alike (q : HttpRequest) (ctx : RequestContext) :
    AlikeProg u Eq (Tasks.Create.handleRequestJsonThrow cfg q ctx)
      (Tasks.Create.handleRequestJsonThrow cfg q ctx) := by
  refine Prog.Alike.andThen (P := Eq) (alike_self (Prog.uses_ofExcept _)) ?_
  rintro body _ rfl
  split
  · exact .ret rfl
  · refine withUserId_alike (fun _ => rfl) fun v _ => rateLimited_alike (fun _ => rfl) (fixed_checkRateLimit _ v) ?_
    refine withOwnGoal_alike fun n => alike_self ?_
    exact (createTask_uses cfg (fixed_execute _ _)).andThen fun _ => trivial

theorem tasksList_alike (q : HttpRequest) (ctx : RequestContext) :
    AlikeProg u Eq (Tasks.List.handleRequestJsonThrow cfg q ctx) (Tasks.List.handleRequestJsonThrow cfg q ctx) := by
  refine withUserId_alike (fun _ => rfl) fun v _ => rateLimited_alike (fun _ => rfl) (fixed_checkRateLimit _ v) ?_
  refine withOwnGoal_alike fun n => alike_self ?_
  exact (getByGoal_uses cfg (fixed_execute _ _)).andThen fun _ => trivial

theorem tasksUpdateStatus_alike (q : HttpRequest) (ctx : RequestContext) :
    AlikeProg u Eq (Tasks.UpdateTaskStatus.handleRequestJsonThrow cfg q ctx)
      (Tasks.UpdateTaskStatus.handleRequestJsonThrow cfg q ctx) := by
  refine withUserId_alike (fun _ => rfl) fun v _ => rateLimited_alike (fun _ => rfl) (fixed_checkRateLimit _ v) ?_
  dsimp only
  split
  · exact .ret rfl
  · refine Prog.Alike.andThen (getById_alike q.goalId) fun goal goal' hgoal => ?_
    cases goal with
    | none =>
      obtain rfl : goal' = none := Option.map_eq_none_iff.1 hgoal
      exact .ret rfl
    | some goal =>
      obtain ⟨goal', rfl, -⟩ := Option.map_eq_some_iff.1 hgoal
      dsimp only
      split
      · exact .ret rfl
      · refine alike_self ((updateStatus_uses cfg (fixed_execute _ _)).andThen fun r => ?_)
        cases r <;> trivial

/-- The list of another user's goals is the same. -/
theorem goalsList_alike {q : HttpRequest} (he : q.endpoint = .goalsList) :
    AlikeProg u (SameResponse u cfg q) (Goals.List.handleRequestJsonThrow (q.context cfg))
      (Goals.List.handleRequestJsonThrow (q.context cfg)) := by
  refine withUserId_alike (fun _ => .of_eq rfl) fun v hv =>
    rateLimited_alike (fun _ => .of_eq rfl) (fixed_checkRateLimit _ v) ?_
  refine Prog.Alike.andThen (P := fun gs gs' => v ≠ u → gs' = gs) ?_ fun gs gs' hgs => .ret ⟨rfl, fun hnot => ?_⟩
  · refine Prog.Alike.andThen (P := fun docs docs' => v ≠ u → docs' = docs)
      (.call (.same _) fun r r' hr => Prog.alike_ofExcept hr) fun docs docs' hdocs => .ret fun hvu => ?_
    rw [hdocs hvu]
  · rw [hgs fun hvu => hnot ⟨by simp [he], hvu ▸ hv⟩]

/-- Two goals that `u` creates. -/
theorem goalsCreate_alike {q : HttpRequest} {json : Json} {body body' : CreateGoalRequestBody}
    (he : q.endpoint = .goalsCreate) (hu : (q.context cfg).userData = some u)
    (hbody : CreateGoalRequestBody.parse q.body = .ok body) (hbody' : CreateGoalRequestBody.parse json = .ok body')
    (htitle : body.title ≠ "") (htitle' : body'.title ≠ "") :
    AlikeProg u (SameResponse u cfg q) (Goals.Create.handleRequestJsonThrow q (q.context cfg))
      (Goals.Create.handleRequestJsonThrow { q with body := json } (q.context cfg)) := by
  have hempty : body.title.isEmpty = false := String.isEmpty_eq_false_iff.2 htitle
  have hempty' : body'.title.isEmpty = false := String.isEmpty_eq_false_iff.2 htitle'
  unfold Goals.Create.handleRequestJsonThrow
  simp only [hbody, hbody', hempty, hempty', Prog.ofExcept_ok, Prog.bind_eq, Prog.ret_andThen]
  refine withUserId_alike (fun _ => .of_eq rfl) fun v hv =>
    rateLimited_alike (fun _ => .of_eq rfl) (fixed_checkRateLimit _ v) ?_
  obtain rfl : v = u := Option.some.inj (hv.symm.trans hu)
  have hshown : AboutGoals v cfg q := ⟨by simp [he], hu⟩
  refine .call (.same _) fun r r' hr => ?_
  obtain rfl := eq_of_heq hr
  cases r with
  | error exc => exact .raise exc
  | ok oid =>
    refine .call (.insert ⟨rfl, rfl, fun hne => absurd rfl hne⟩) fun r r' hr => ?_
    obtain rfl := eq_of_heq hr
    cases r with
    | error exc => exact .raise exc
    | ok _ => exact .ret ⟨rfl, fun hnot => absurd hshown hnot⟩

/-- **Related requests run alike.** -/
theorem serve_alike {q q' : HttpRequest} (h : SameRequest u cfg q q') :
    AlikeProg u (SameResponse u cfg q) (serve cfg q) (serve cfg q') := by
  cases h with
  | create he hu hbody hbody' htitle htitle' =>
    refine serve_alike_of cfg (fun _ => .of_eq rfl) rfl rfl rfl ?_
    unfold dispatch
    rw [he]
    exact goalsCreate_alike he hu hbody hbody' htitle htitle'
  | same =>
    refine serve_alike_of cfg (fun _ => .of_eq rfl) rfl rfl rfl ?_
    by_cases hother : q.endpoint ∉ [.goalsList, .tasksCreate, .tasksList, .tasksUpdateStatus]
    · exact (alike_self ((dispatch_calls cfg q _).mono fun _ ho => fixed_of_calls hother ho)).mono fun _ _ => .of_eq
    unfold dispatch
    simp only [List.mem_cons, List.not_mem_nil, or_false, not_not] at hother
    rcases hother with he | he | he | he
    · rw [he]
      exact goalsList_alike he
    · rw [he]
      exact (tasksCreate_alike q _).mono fun _ _ => .of_eq
    · rw [he]
      exact (tasksList_alike q _).mono fun _ _ => .of_eq
    · rw [he]
      exact (tasksUpdateStatus_alike q _).mono fun _ _ => .of_eq

/-- The answers to a request in two runs: of one status, and equal unless they tell `u` about his goals. -/
structure SameAnswer (u : UserId) (cfg : Config D) (a a' : Answer HttpRequest Exn HttpResponse Cluster) : Prop where
  req : SameRequest u cfg a.req a'.req
  status : statusOf a'.result = statusOf a.result
  others : ¬ AboutGoals u cfg a.req → a'.result = a.result

end Owned

/-- **Goals stay private.** Take two runs on a cluster whose replicas lag, from clusters and with events
that differ in nothing but what the goals of `u` say. Then the runs answer the same requests in the same
order, and equally all but those of `u` himself to the handlers of goals. -/
theorem goals_private (cfg : Config D) (u : UserId) (c c' : Cluster) (hc : Owned.SameCluster u c c')
    (es es' : List (Event HttpRequest ClusterInput))
    (hes : List.Forall₂ (Pool.EventMatch (Owned.SameRequest u cfg) (Owned.SameInput u)) es es') :
    List.Forall₂ (Owned.SameAnswer u cfg) ((Pool.start c).run Cluster.exec (serve cfg) es).log
      ((Pool.start c').run Cluster.exec (serve cfg) es').log := by
  have hend : Pool.Matched (Owned.SameOp u) (Owned.SameResult u) (Owned.SameRequest u cfg)
      (Owned.SameResponse u cfg) (Owned.SameCluster u) ((Pool.start c).run Cluster.exec (serve cfg) es)
      ((Pool.start c').run Cluster.exec (serve cfg) es') := by
    refine Pool.run_lockstep ?_ ?_ (Pool.start_matched hc) hes
    · exact fun _ _ _ _ _ _ hi ho hw => Owned.exec_same hi ho hw
    · exact fun _ _ hq => Owned.serve_alike hq
  refine hend.log.imp fun a a' h => ?_
  obtain ⟨hreq, hresult, -⟩ := h
  generalize hr : a.result = r at hresult
  generalize hr' : a'.result = r' at hresult
  cases hresult with
  | error e => exact ⟨hreq, by rw [hr, hr'], fun _ => by rw [hr, hr']⟩
  | ok hok => exact ⟨hreq, by rw [hr, hr']; exact hok.status, fun hnot => by rw [hr, hr', hok.others hnot]⟩

/-- A user whose id becomes Ann's in the `int` of `Goal`. -/
def namesake : UserId := 4294967297

/-- His goal, with one or another body. -/
def namesakeGoal (body : Json) : HttpRequest where
  endpoint := .goalsCreate
  authorization := kAlgorithm ++ clearJwt.sign "secret" "JWT" kIssuer "4294967297"
  body := body

def books : Json := .obj [("title", .str "books")]

def films : Json := .obj [("title", .str "films"), ("description", .str "at home")]

/-- His goal, and Ann's read of its tasks. -/
def namesakeEvents (body : Json) : List (Event HttpRequest ClusterInput) :=
  [.arrive (namesakeGoal body), .turn 0 {}, .turn 0 {}, .turn 0 {},
    .arrive { annRead .tasksList with goalId := Oid.zero.toString }, .turn 0 {}, .turn 0 {}, .turn 0 {}]

theorem goals_private_namesake :
    List.Forall₂ (Owned.SameAnswer namesake (clearConfig .throws))
      ((Pool.start oneReplica).run Cluster.exec (serve (clearConfig .throws)) (namesakeEvents books)).log
      ((Pool.start oneReplica).run Cluster.exec (serve (clearConfig .throws)) (namesakeEvents films)).log := by
  have hturn : Pool.EventMatch (Owned.SameRequest namesake (clearConfig .throws)) (Owned.SameInput namesake)
      (.turn 0 ({} : ClusterInput)) (.turn 0 {}) := .turn 0 ⟨rfl, fun _ _ _ => rfl⟩
  have hgoal : Owned.SameRequest namesake (clearConfig .throws) (namesakeGoal books) (namesakeGoal films) :=
    @Owned.SameRequest.create _ _ _ (namesakeGoal books) films ⟨"books", none⟩ ⟨"films", some "at home"⟩ rfl
      (by decide) (by decide) (by decide) (by decide) (by decide)
  exact goals_private (clearConfig .throws) namesake oneReplica oneReplica ⟨rfl, .nil, rfl⟩ _ _
    (.cons (.arrive hgoal) (.cons hturn (.cons hturn (.cons hturn (.cons (.arrive (.same _))
      (.cons hturn (.cons hturn (.cons hturn .nil))))))))

/-- Ann is let through. -/
example : ((Pool.start oneReplica).run Cluster.exec (serve (clearConfig .throws)) (namesakeEvents books)).log.map
    (fun a => statusOf a.result) = [.kCreated, .kOk] := by decide +kernel

end Leadertask
