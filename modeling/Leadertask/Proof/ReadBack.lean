import Leadertask.Lib.Simulation
import Leadertask.Proof.Ownership

/-!
# Goals read back

A goal goes into its document through one piece of code and comes out of it through two
others; the lists of goals are sorted by bytes, and the clients see texts.

* `createGoal_runs`: what any sequence of `CreateGoal` calls answers and leaves behind.
* `goals_read_back`: after it, each goal reads back as it was answered, by its id and in its
  user's list, and nothing else does.
-/

namespace Leadertask

open Atomic

variable {i : Input} {w : World}

/-! ## Ids in order -/

theorem hexChar_lt {a b : Fin 16} (h : a < b) : hexChar a < hexChar b := by
  revert a b; decide

/-- The texts of object ids are in the order of their bytes. -/
theorem Oid.toString_lt {a b : Oid} (h : a.digits < b.digits) : a.toString < b.toString := by
  show a.toString.toList < b.toString.toList
  rw [Oid.toString, Oid.toString, String.toList_ofList, String.toList_ofList]
  exact List.map_lt (fun _ _ => hexChar_lt) h

/-- Documents sorted by descending `_id` have strictly descending texts of their ids. -/
theorem pairwise_sorted_docs {docs : List GoalDoc} (h : (docs.map GoalDoc.id).Nodup) :
    (docs.mergeSort fun a b => b.id.le a.id).Pairwise fun a b => b.id.toString < a.id.toString := by
  have hdigits : (docs.map fun d => OrderDual.toDual d.id.digits).Nodup := by
    refine List.Nodup.map_on (fun a ha b hb hab => Rows.eq_of_key h ha hb ?_) (List.Nodup.of_map _ h)
    cases ha' : a.id; cases hb' : b.id
    simpa [ha', hb'] using hab
  have hsorted : ((docs.mergeSort fun a b => b.id.le a.id).map
      fun d => OrderDual.toDual d.id.digits).Pairwise (· < ·) :=
    Rows.pairwise_mergeSort_key (fun a b => by rw [Oid.le, decide_eq_true_eq]; rfl) hdigits
  exact (List.pairwise_map.1 hsorted).imp fun hab => Oid.toString_lt hab

/-! ## Sequences of calls -/

/-- A call of `CreateGoal` with what the environment adds. -/
structure GoalCall where
  userId : UserId
  title : String
  description : Option String
  input : Input

def GoalCall.run (w : World) (c : GoalCall) : Except Exn CreateGoalResponseBody × World :=
  (GoalsRepository.createGoal c.userId c.title c.description).run (World.exec c.input) w

/-- The document that the call writes. -/
def GoalCall.doc (c : GoalCall) : GoalDoc := ⟨c.input.oid, c.title, c.userId, c.description⟩

/-- What is read of a goal, as a response to `CreateGoal` has it. -/
def Goal.toResponse (g : Goal) : CreateGoalResponseBody :=
  ⟨some g.id, some g.title, g.description, g.userId⟩

/-- A call with a new object id is answered as its document will be read. -/
theorem GoalCall.run_new {c : GoalCall} (hf : ∀ o, c.input.fault o = false)
    (hnew : c.input.oid ∉ w.goals.docs.map GoalDoc.id) :
    (c.run w).1 = .ok (GoalsRepository.readGoal c.doc).toResponse ∧
      (c.run w).2.goals.docs = w.goals.docs ++ [c.doc] := by
  rw [GoalCall.run, GoalsRepository.createGoal_new c.userId c.title c.description (hf _) hnew]
  exact ⟨rfl, rfl⟩

/-- **A sequence of `CreateGoal` calls**: every call is answered, and the documents are
those of the calls in their order. -/
theorem createGoal_runs {calls : List GoalCall} (hf : ∀ c ∈ calls, ∀ o, c.input.fault o = false)
    (hnew : (w.goals.docs.map GoalDoc.id ++ calls.map fun c => c.input.oid).Nodup) :
    Machine.outputs GoalCall.run w calls =
        calls.map (fun c => .ok (GoalsRepository.readGoal c.doc).toResponse) ∧
      (Machine.final GoalCall.run w calls).goals.docs = w.goals.docs ++ calls.map GoalCall.doc := by
  induction calls generalizing w with
  | nil => exact ⟨rfl, (List.append_nil _).symm⟩
  | cons c calls ih =>
    obtain ⟨hfc, hfcalls⟩ := List.forall_mem_cons.1 hf
    have hnewc : c.input.oid ∉ w.goals.docs.map GoalDoc.id := fun hmem =>
      List.disjoint_of_nodup_append hnew hmem List.mem_cons_self
    obtain ⟨hans, hdocs⟩ := GoalCall.run_new hfc hnewc
    have hnew' : ((c.run w).2.goals.docs.map GoalDoc.id ++ calls.map fun c => c.input.oid).Nodup := by
      rw [hdocs, List.map_append, List.append_assoc]
      exact hnew
    obtain ⟨houts, hfinal⟩ := ih hfcalls hnew'
    rw [Machine.outputs, Machine.final, houts, hfinal, hans, hdocs, List.append_assoc]
    exact ⟨rfl, rfl⟩

/-! ## Reading back -/

/-- What `GetById` and `GetByUser` find is what the calls were answered. -/
structure ReadsBack (w : World) (created : List (GoalCall × CreateGoalResponseBody)) : Prop where
  /-- Every answer has an id, under all of whose spellings the goal is found. -/
  byId : ∀ x ∈ created, ∃ oid : Oid, x.2.id = some oid.toString ∧
    ∀ (i : Input) (id : String), (∀ o, i.fault o = false) → Oid.ofString id = .ok oid →
      ∃ goal, ((GoalsRepository.getById id).run (World.exec i) w).1 = .ok (some goal) ∧
        goal.toResponse = x.2
  /-- An id that no answer had is not found. -/
  otherId : ∀ (i : Input) (id : String) (oid : Oid), (∀ o, i.fault o = false) →
    Oid.ofString id = .ok oid → (∀ x ∈ created, x.2.id ≠ some oid.toString) →
    ((GoalsRepository.getById id).run (World.exec i) w).1 = .ok none
  /-- A user's goals are those of his calls, each once, by descending id. -/
  byUser : ∀ (i : Input) (u : UserId), (∀ o, i.fault o = false) →
    ∃ goals, ((GoalsRepository.getByUser u).run (World.exec i) w).1 = .ok goals ∧
      (goals.map Goal.toResponse).Perm ((created.filter fun x => x.1.userId = u).map (·.2)) ∧
      (goals.map Goal.id).Pairwise (· > ·)

/-- **Goals read back as created**, after every sequence of `CreateGoal` calls with object
ids of their own. -/
theorem goals_read_back {calls : List GoalCall} (hempty : w.goals.docs = [])
    (hoids : (calls.map fun c => c.input.oid).Nodup)
    (hf : ∀ c ∈ calls, ∀ o, c.input.fault o = false) :
    ∃ responses : List CreateGoalResponseBody,
      Machine.outputs GoalCall.run w calls = responses.map .ok ∧
        ReadsBack (Machine.final GoalCall.run w calls) (calls.zip responses) := by
  obtain ⟨houts, hdocs⟩ := createGoal_runs hf (w := w) (by rw [hempty]; exact hoids)
  rw [hempty, List.nil_append] at hdocs
  refine ⟨calls.map fun c => (GoalsRepository.readGoal c.doc).toResponse, ?_, ?_⟩
  · rw [houts, List.map_map]; rfl
  · have hzip : calls.zip (calls.map fun c => (GoalsRepository.readGoal c.doc).toResponse) =
        calls.map fun c => (c, (GoalsRepository.readGoal c.doc).toResponse) :=
      List.map_prod_left_eq_zip.symm
    rw [hzip]
    refine ⟨fun x hx => ?_, fun i id oid hi hid hno => ?_, fun i u hi => ?_⟩
    · obtain ⟨c, hc, rfl⟩ := List.mem_map.1 hx
      have hdoc : c.doc ∈ (Machine.final GoalCall.run w calls).goals.docs :=
        hdocs ▸ List.mem_map_of_mem hc
      refine ⟨c.input.oid, rfl, fun i id hi hid => ⟨_, ?_, rfl⟩⟩
      rw [GoalsRepository.getById_run, World.findGoal_ok hid (hi _)]
      exact congrArg (fun d => Except.ok (Option.map GoalsRepository.readGoal d))
        (Rows.find_of_mem (Machine.final GoalCall.run w calls).goals.idKey hdoc)
    · have hnone : (Machine.final GoalCall.run w calls).goals.docs.find? (·.id = oid) = none := by
        rw [List.find?_eq_none, hdocs]
        intro d hd hdid
        obtain ⟨c, hc, rfl⟩ := List.mem_map.1 hd
        refine hno _ (List.mem_map_of_mem hc) ?_
        rw [← of_decide_eq_true hdid]; rfl
      rw [GoalsRepository.getById_run, World.findGoal_ok hid (hi _), hnone]; rfl
    · rw [GoalsRepository.getByUser_run (hi _)]
      refine ⟨_, rfl, ?_, ?_⟩
      · refine (((List.mergeSort_perm _ _).map _).map _).trans (List.Perm.of_eq ?_)
        rw [hdocs, List.filter_map, List.filter_map, List.map_map, List.map_map, List.map_map]
        rfl
      · rw [List.map_map, List.pairwise_map]
        exact pairwise_sorted_docs
          ((Machine.final GoalCall.run w calls).goals.idKey.sublist (List.filter_sublist.map _))

/-- Two users' goals, with all three kinds of description, their ids in no order. -/
def someGoalCalls : List GoalCall :=
  [⟨1, "books", none, { oid := .named "0000000000000000000000ff" }⟩,
    ⟨2, "sport", some "run", { oid := .named "00000000000000000000000a" }⟩,
    ⟨1, "music", some "", { oid := .named "000000000000000000000a09" }⟩]

theorem someGoals_read_back :
    ∃ responses : List CreateGoalResponseBody,
      Machine.outputs GoalCall.run emptyWorld someGoalCalls = responses.map .ok ∧
        ReadsBack (Machine.final GoalCall.run emptyWorld someGoalCalls)
          (someGoalCalls.zip responses) :=
  goals_read_back rfl (by decide) fun c hc o => by
    simp only [someGoalCalls, List.mem_cons, List.not_mem_nil, or_false] at hc
    rcases hc with rfl | rfl | rfl <;> rfl

end Leadertask
