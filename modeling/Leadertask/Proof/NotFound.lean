import Leadertask.Proof.TaskUpdate

/-!
# When a status update is answered 404

`TasksRepository::UpdateStatus` returns nothing for a status that is none of the three, for
a task that does not exist and for a task of another goal, and the handler answers 404 to
each.

* `classified_iff`: when 404 means that the goal or its task is not there and an unknown
  status is answered 400.
-/

namespace Leadertask

open Atomic Tasks.UpdateTaskStatus

variable {D : Type} {cfg : Config D} {i : Input} {w : World} {request : HttpRequest}
  {u : UserId} {G T : Int64} {status : String}

/-! ## What a request names -/

/-- The goal that the path names is there. -/
def GoalExists (w : World) (request : HttpRequest) : Prop :=
  ∃ doc ∈ w.goals.docs, Oid.ofString request.goalId = .ok doc.id

/-- That goal holds the task that the path names. -/
def HoldsTask (w : World) (request : HttpRequest) : Prop :=
  ∃ G T, PathNumbers request G T ∧ ∃ r ∈ w.pg.tasks.rows, r.hit T G = true

/-- The body has this status string. -/
def StatusString (body : Json) (status : String) : Prop :=
  ∃ fs, body = .obj fs ∧ fs.lookup "status" = some (.str status)

/-- 404 means not found, and a status that is none of the three is answered 400. -/
structure ClassifiesRightly (cfg : Config D) (i : Input) (w : World) (request : HttpRequest)
    (u : UserId) : Prop where
  notFound : statusOf ((handleRequestJsonThrow cfg request ⟨some u⟩).run (World.exec i) w).1 =
    .kNotFound → ¬ GoalExists w request ∨ ¬ HoldsTask w request
  illegal : ∀ status, StatusString request.body status → status ∉ taskStatuses →
    statusOf ((handleRequestJsonThrow cfg request ⟨some u⟩).run (World.exec i) w).1 = .kBadRequest ∧
      ((handleRequestJsonThrow cfg request ⟨some u⟩).run (World.exec i) w).2.pg.tasks = w.pg.tasks

/-- When that is so: a status that is none of the three comes with a path that is no pair of
numbers, or with a field that the schema refuses on a goal that is found; and the task that
the path names, when it is there, is met with its two numbers the other way round too, or the
statement fails. -/
structure ClassifiedWhen (i : Input) (w : World) (request : HttpRequest) (u : UserId) : Prop where
  illegal : ∀ status, StatusString request.body status → status ∉ taskStatuses →
    (∀ G T, ¬ PathNumbers request G T) ∨
      (∃ doc, w.findGoal i request.goalId = .ok (some doc)) ∧
        ∃ e, UpdateTaskStatusRequest.parse request.body = .error e
  swapped : ∀ G T status, Passes i w request u G T status → status ∈ taskStatuses →
    i.fault (.execute .kMaster (.updateTaskStatus G T status)) = false →
    (∃ r ∈ w.pg.tasks.rows, r.hit T G = true) → ∃ r ∈ w.pg.tasks.rows, r.hit G T = true

/-! ## The answers -/

theorem PathNumbers.unique {G' T' : Int64} (h : PathNumbers request G T)
    (h' : PathNumbers request G' T') : G = G' ∧ T = T' :=
  ⟨(Prod.mk.inj (h.goal.symm.trans h'.goal)).2, (Prod.mk.inj (h.task.symm.trans h'.task)).2⟩

/-- A request passes the checks with one pair of numbers and one status. -/
theorem Tasks.UpdateTaskStatus.Passes.unique {u' : UserId} {G' T' : Int64} {status' : String}
    (h : Passes i w request u G T status) (h' : Passes i w request u' G' T' status') :
    G = G' ∧ T = T' ∧ status = status' := by
  obtain ⟨rfl, rfl⟩ := PathNumbers.unique ⟨h.goal, h.task⟩ ⟨h'.goal, h'.task⟩
  have hbody := h.body.symm.trans h'.body
  exact ⟨rfl, rfl, by simpa using hbody⟩

/-- A body that matches the schema has the status string that is read off it. -/
theorem UpdateTaskStatusRequest.parse_status {body : Json}
    (h : UpdateTaskStatusRequest.parse body = .ok ⟨status⟩) : StatusString body status := by
  obtain ⟨fs, hfs, h⟩ := Atomic.bind_ok h
  obtain ⟨⟨⟩, -, h⟩ := Atomic.bind_ok h
  obtain ⟨s, hs, h⟩ := Atomic.bind_ok h
  obtain rfl : s = status := by simpa [pure, Except.pure] using h
  have hbody : body = .obj fs := by
    cases body <;> simp_all [Json.fields]
  refine ⟨fs, hbody, ?_⟩
  unfold Json.required Json.asString at hs
  split at hs
  · rename_i j hj
    cases j with
    | str t =>
      obtain rfl : t = s := by simpa using hs
      exact hj
    | _ => simp at hs
  · simp at hs

theorem StatusString.unique {body : Json} {status' : String} (h : StatusString body status)
    (h' : StatusString body status') : status = status' := by
  obtain ⟨fs, rfl, hs⟩ := h
  obtain ⟨fs', hfs, hs'⟩ := h'
  obtain rfl : fs = fs' := by simpa using hfs
  simpa using hs.symm.trans hs'

/-- The goal that the lookup finds is the one that the path names. -/
theorem World.findGoal_some {id : String} {doc : GoalDoc} (h : w.findGoal i id = .ok (some doc)) :
    doc ∈ w.goals.docs ∧ Oid.ofString id = .ok doc.id := by
  unfold World.findGoal at h
  obtain ⟨oid, hoid, h⟩ := Atomic.bind_ok h
  split at h
  · simp at h
  · have hfind : w.goals.docs.find? (·.id = oid) = some doc := by simpa [pure, Except.pure] using h
    have hid : doc.id = oid := by simpa using List.find?_some hfind
    exact ⟨List.mem_of_find?_eq_some hfind, by rw [hid]; exact hoid⟩

theorem World.findGoal_none {id : String} (h : w.findGoal i id = .ok none) :
    ∀ doc ∈ w.goals.docs, Oid.ofString id ≠ .ok doc.id := by
  unfold World.findGoal at h
  obtain ⟨oid, hoid, h⟩ := Atomic.bind_ok h
  split at h
  · simp at h
  · have hfind : w.goals.docs.find? (·.id = oid) = none := by simpa [pure, Except.pure] using h
    intro doc hd hid
    obtain rfl : oid = doc.id := Except.ok.inj (hoid.symm.trans hid)
    simpa using List.find?_eq_none.1 hfind doc hd

/-- **What a 404 means** on a goal that is found: the status is none of the three, or no row
has the path's two numbers the other way round. -/
theorem notFound_iff (cfg : Config D) (h : Passes i w request u G T status) :
    statusOf ((handleRequestJsonThrow cfg request ⟨some u⟩).run (World.exec i) w).1 = .kNotFound ↔
      status ∉ taskStatuses ∨
        i.fault (.execute .kMaster (.updateTaskStatus G T status)) = false ∧
          ∀ r ∈ w.pg.tasks.rows, r.hit G T = false := by
  by_cases hs : status ∈ taskStatuses
  · cases hf : i.fault (.execute .kMaster (.updateTaskStatus G T status)) with
    | true =>
      rw [run_passes rfl h,
        TasksRepository.updateStatus_fault (w := w.limited i .tasksUpdateStatus u) cfg hs hf]
      simp [answer, statusOf, hs]
    | false =>
      rcases TaskRow.hit_or_miss w.pg.tasks.rows G T with ⟨r, hr, hh⟩ | hmiss
      · -- the answer is the row, or the row cannot be read
        have hres := (update_hit cfg h hs hf hr hh).2
        have hstatus : statusOf ((handleRequestJsonThrow cfg request ⟨some u⟩).run (World.exec i) w).1 ≠
            .kNotFound := by
          rw [hres]
          split <;> simp [statusOf]
        simp only [hs, not_true_eq_false, false_or, true_and]
        constructor
        · intro h404
          exact absurd h404 hstatus
        · intro hmiss
          rw [hmiss r hr] at hh; simp at hh
      · have hnone := TasksRepository.updateStatus_none (i := i)
          (w := w.limited i .tasksUpdateStatus u) cfg hs hf hmiss
        rw [run_passes rfl h, hnone]
        simp only [answer, statusOf, makeError, true_iff, true_and]
        exact .inr hmiss
  · rw [run_passes rfl h, TasksRepository.updateStatus_unknown cfg hs]
    simp [answer, statusOf, makeError, hs]

/-- A path of two numbers whose goal is not to be had: a status that is none of the three is
answered 400 on neither side. -/
theorem classified_iff_of_noGoal (cfg : Config D) (hp : PathNumbers request G T)
    (hgoal : ∀ doc, w.findGoal i request.goalId ≠ .ok (some doc))
    (h400 : statusOf ((handleRequestJsonThrow cfg request ⟨some u⟩).run (World.exec i) w).1 ≠
      .kBadRequest)
    (h404 : statusOf ((handleRequestJsonThrow cfg request ⟨some u⟩).run (World.exec i) w).1 =
      .kNotFound → ¬ GoalExists w request) :
    ClassifiesRightly cfg i w request u ↔ ClassifiedWhen i w request u := by
  constructor
  · intro h
    constructor
    case illegal =>
      intro status hst hs
      exact absurd (h.illegal status hst hs).1 h400
    case swapped =>
      intro G T status hpass
      obtain ⟨doc, hd⟩ := hpass.found
      exact absurd hd (hgoal doc)
  · intro h
    constructor
    case notFound =>
      intro hyes
      exact .inl (h404 hyes)
    case illegal =>
      intro status hst hs
      rcases h.illegal status hst hs with hnum | ⟨⟨doc, hd⟩, -⟩
      · exact absurd hp (hnum G T)
      · exact absurd hd (hgoal doc)

/-- On a request that passes every check. -/
theorem classified_iff_of_passes (cfg : Config D) (h : Passes i w request u G T status) :
    ClassifiesRightly cfg i w request u ↔ ClassifiedWhen i w request u := by
  have hp : PathNumbers request G T := ⟨h.goal, h.task⟩
  have hst : StatusString request.body status := UpdateTaskStatusRequest.parse_status h.body
  have h404 := notFound_iff cfg h
  by_cases hs : status ∈ taskStatuses
  · -- the one status string of the body is fine
    have hlegal : ∀ status', StatusString request.body status' → status' ∈ taskStatuses := by
      intro status' hst'
      rw [← hst.unique hst']; exact hs
    have hheld : HoldsTask w request ↔ ∃ r ∈ w.pg.tasks.rows, r.hit T G = true := by
      constructor
      · rintro ⟨G', T', hp', hrow⟩
        obtain ⟨rfl, rfl⟩ := hp.unique hp'
        exact hrow
      · intro hrow
        exact ⟨G, T, hp, hrow⟩
    have hgoal : GoalExists w request := by
      obtain ⟨doc, hd⟩ := h.found
      exact ⟨doc, World.findGoal_some hd⟩
    constructor
    · intro hr
      refine ⟨fun status' hst' hs' => absurd (hlegal status' hst') hs', ?_⟩
      intro G' T' status' h' _ hf hrow
      obtain ⟨rfl, rfl, rfl⟩ := h.unique h'
      rcases TaskRow.hit_or_miss w.pg.tasks.rows G T with hyes | hmiss
      · exact hyes
      · rcases hr.notFound (h404.2 (.inr ⟨hf, hmiss⟩)) with hno | hno
        · exact absurd hgoal hno
        · exact absurd (hheld.2 hrow) hno
    · intro hr
      refine ⟨fun hyes => ?_, fun status' hst' hs' => absurd (hlegal status' hst') hs'⟩
      obtain ⟨hf, hmiss⟩ := (h404.1 hyes).resolve_left (not_not.2 hs)
      refine .inr fun hheld' => ?_
      obtain ⟨r, hrow, hh⟩ := hr.swapped G T status h hs hf (hheld.1 hheld')
      rw [hmiss r hrow] at hh; simp at hh
  · -- an illegal status is answered 404, and neither side allows it
    constructor
    · intro hr
      have hbad := (hr.illegal status hst hs).1
      rw [h404.2 (.inl hs)] at hbad; simp at hbad
    · intro hr
      rcases hr.illegal status hst hs with hnum | ⟨-, e, he⟩
      · exact absurd hp (hnum G T)
      · rw [h.body] at he; simp at he

/-- **When a status update is classified rightly.** -/
theorem classified_iff (cfg : Config D) (i : Input) (w : World) (request : HttpRequest) (u : UserId)
    (ha : w.admits i .tasksUpdateStatus u = true) :
    ClassifiesRightly cfg i w request u ↔ ClassifiedWhen i w request u := by
  by_cases hp : ∃ G T, PathNumbers request G T
  · obtain ⟨G, T, hp⟩ := hp
    rcases run_numbers cfg ha hp with ⟨e, hd, hrun⟩ | ⟨hd, hrun⟩ | ⟨doc, e, hd, hb, hrun⟩ | ⟨status, h⟩
    · refine classified_iff_of_noGoal cfg hp (by simp [hd]) ?_ ?_
      · rw [hrun]; simp [statusOf]
      · rw [hrun]; simp [statusOf]
    · refine classified_iff_of_noGoal cfg hp (by simp [hd]) ?_ ?_
      · rw [hrun]; simp [statusOf, makeError]
      · rintro - ⟨doc, hdoc, hid⟩
        exact World.findGoal_none hd doc hdoc hid
    · -- 400 for a body that does not match: both hold
      refine iff_of_true ⟨?_, ?_⟩ ⟨?_, ?_⟩
      · rw [hrun]; simp [statusOf, makeError]
      · intro status _ _
        rw [hrun]; exact ⟨rfl, rfl⟩
      · intro status _ _
        exact .inr ⟨⟨doc, hd⟩, e, hb⟩
      · intro G' T' status h
        rw [h.body] at hb; simp at hb
    · exact classified_iff_of_passes cfg h
  · have hnum : ∀ G T, ¬ PathNumbers request G T := fun G T h => hp ⟨G, T, h⟩
    have hrun := run_noNumbers cfg ha hnum
    refine iff_of_true ⟨?_, ?_⟩ ⟨?_, ?_⟩
    · rw [hrun]; simp [statusOf, makeError]
    · intro status _ _
      rw [hrun]; exact ⟨rfl, rfl⟩
    · intro status _ _
      exact .inl hnum
    · intro G T status h
      exact absurd ⟨h.goal, h.task⟩ (hnum G T)

/-- Setting the task of `doneWorld`. -/
theorem doneRequest_classified :
    ClassifiesRightly (clearConfig .throws) {} doneWorld doneRequest 1 ↔
      ClassifiedWhen {} doneWorld doneRequest 1 :=
  classified_iff (clearConfig .throws) {} doneWorld doneRequest 1 (by decide)

/-- The same task, to be set to a status that is none of the three. -/
def pendingRequest : HttpRequest := { doneRequest with body := .obj [("status", .str "pending")] }

/-- The goal is there and holds the task, and the answer is 404. -/
theorem pendingRequest_notFound :
    doneWorld.admits {} .tasksUpdateStatus 1 = true ∧ GoalExists doneWorld pendingRequest ∧
      HoldsTask doneWorld pendingRequest ∧
      statusOf ((handleRequestJsonThrow (clearConfig .throws) pendingRequest ⟨some 1⟩).run
        (World.exec {}) doneWorld).1 = .kNotFound ∧
      ¬ ClassifiesRightly (clearConfig .throws) {} doneWorld pendingRequest 1 := by
  have hgoal : GoalExists doneWorld pendingRequest := ⟨_, List.mem_singleton.2 rfl, by decide⟩
  have hheld : HoldsTask doneWorld pendingRequest :=
    ⟨1, 1, ⟨by decide, by decide⟩, ⟨1, 1, "read", "done", 0⟩, by decide, by decide⟩
  have h404 : statusOf ((handleRequestJsonThrow (clearConfig .throws) pendingRequest ⟨some 1⟩).run
      (World.exec {}) doneWorld).1 = .kNotFound := by decide
  refine ⟨by decide, hgoal, hheld, h404, fun h => ?_⟩
  rcases h.notFound h404 with hno | hno
  · exact hno hgoal
  · exact hno hheld

end Leadertask
