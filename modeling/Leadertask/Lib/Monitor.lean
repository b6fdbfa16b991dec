import Leadertask.Lib.Delivery
import Leadertask.Lib.Gate

/-!
# What was answered before

A policy says which operation a program may call after what its own operations have answered. A
program that is `Guarded` by it never calls another one. In a pool the operations of all programs are
mixed, and the policy still holds of each one with its own past.

* `trace_guarded`: in every run each operation has what the policy asks for in the trace before it.
* `world_of_trace`: what a run brings about, one of its operations has brought about.
* `Reach.events`: the events of a run, each arrival with what was finished before it.
-/

namespace Atomic

variable {Op : Type} {Ret : Op → Type} {Req ε α β σ ι : Type}

namespace Pool

variable {exec : ι → (o : Op) → σ → Except ε (Ret o) × σ} {serve : Req → Prog Op Ret ε α}
variable {c : Pool Op Ret Req ε α σ} {P : Req → Past Op Ret ε → Op → Prop}

/-- The past is that of operations of the request `q` in the trace. -/
def InTrace (tr : List (Executed Op Ret Req ε ι)) (q : Req) (past : Past Op Ret ε) : Prop :=
  ∀ a ∈ past, ∃ y ∈ tr, y.req = q ∧ (⟨y.op, y.result⟩ : (o : Op) × Except ε (Ret o)) = a

theorem InTrace.append {tr tr' : List (Executed Op Ret Req ε ι)} {q : Req} {past : Past Op Ret ε}
    (h : InTrace tr q past) : InTrace (tr ++ tr') q past := by
  intro a ha
  obtain ⟨y, hy, hya⟩ := h a ha
  exact ⟨y, List.mem_append_left _ hy, hya⟩

/-- The operation has what the policy asks for in the trace before it. -/
def Allowed (P : Req → Past Op Ret ε → Op → Prop) (arrived : List Req)
    (before : List (Executed Op Ret Req ε ι)) (x : Executed Op Ret Req ε ι) : Prop :=
  x.req ∈ arrived ∧ ∃ past, InTrace before x.req past ∧ P x.req past x.op

/-- Each operation of a trace, with what was before it. -/
def EachOperation (Q : List (Executed Op Ret Req ε ι) → Executed Op Ret Req ε ι → Prop)
    (tr : List (Executed Op Ret Req ε ι)) : Prop :=
  ∀ pre x post, tr = pre ++ x :: post → Q pre x

theorem EachOperation.append {Q : List (Executed Op Ret Req ε ι) → Executed Op Ret Req ε ι → Prop}
    {tr : List (Executed Op Ret Req ε ι)} {x : Executed Op Ret Req ε ι} (h : EachOperation Q tr) (hx : Q tr x) :
    EachOperation Q (tr ++ [x]) := by
  intro pre y post he
  rcases List.eq_nil_or_concat post with rfl | ⟨post', z, rfl⟩
  · obtain ⟨rfl, h1⟩ := List.append_inj' he rfl
    obtain rfl : x = y := by simpa using h1
    exact hx
  · have he' : tr ++ [x] = (pre ++ y :: post') ++ [z] := by simpa using he
    obtain ⟨rfl, -⟩ := List.append_inj' he' rfl
    exact h pre y post' rfl

/-- What waits goes on as the policy says. -/
def Mediated (P : Req → Past Op Ret ε → Op → Prop) (arrived : List Req) (c : Pool Op Ret Req ε α σ)
    (tr : List (Executed Op Ret Req ε ι)) : Prop :=
  ∀ qp ∈ c.waiting, qp.1 ∈ arrived ∧ ∃ past, InTrace tr qp.1 past ∧ qp.2.Guarded (P qp.1) past

theorem settle_mediated {arrived : List Req} {tr : List (Executed Op Ret Req ε ι)} {s : Shared Req ε α σ} {w : σ}
    {ws : List (Req × Prog Op Ret ε α)} {q : Req} {p : Prog Op Ret ε α} {past : Past Op Ret ε}
    (hws : ∀ qp ∈ ws, qp.1 ∈ arrived ∧ ∃ past, InTrace tr qp.1 past ∧ qp.2.Guarded (P qp.1) past)
    (hq : q ∈ arrived) (hpast : InTrace tr q past) (hp : p.Guarded (P q) past) :
    Mediated P arrived (settle s w ws q p) tr := by
  cases p with
  | ret a => exact hws
  | raise e => exact hws
  | call o k => exact List.forall_mem_append.2 ⟨hws, List.forall_mem_singleton.2 ⟨hq, past, hpast, hp⟩⟩

variable (exec serve) in
/-- **Every operation of a run is allowed** by what its own request was answered before, if every
program keeps the policy by itself. -/
theorem trace_guarded (hserve : ∀ q, (serve q).Guarded (P q) []) (w : σ) (es : List (Event Req ι)) :
    EachOperation (Allowed P (arrivals es)) (trace exec serve (start w) es) := by
  suffices h : Mediated P (arrivals es) ((start w).run exec serve es) (trace exec serve (start w) es) ∧
      EachOperation (Allowed P (arrivals es)) (trace exec serve (start w) es) from h.2
  induction es using List.reverseRecOn with
  | nil =>
    refine ⟨fun qp hqp => absurd hqp List.not_mem_nil, fun pre x post he => ?_⟩
    simp [trace] at he
  | append_singleton es e ih =>
    obtain ⟨hwait, heach⟩ := ih
    have harrivals : arrivals (es ++ [e]) = arrivals es ++ arrivals [e] := List.filterMap_append
    rw [run_append_singleton, trace_append_singleton, harrivals]
    have hwait' : ∀ qp ∈ ((start w).run exec serve es).waiting, qp.1 ∈ arrivals es ++ arrivals [e] ∧
        ∃ past, InTrace (trace exec serve (start w) es) qp.1 past ∧ qp.2.Guarded (P qp.1) past := by
      intro qp hqp
      obtain ⟨hq, hpast⟩ := hwait qp hqp
      exact ⟨List.mem_append_left _ hq, hpast⟩
    have heach' : EachOperation (Allowed P (arrivals es ++ arrivals [e])) (trace exec serve (start w) es) := by
      intro pre x post he
      obtain ⟨hx, hpast⟩ := heach pre x post he
      exact ⟨List.mem_append_left _ hx, hpast⟩
    cases e with
    | arrive q =>
      have hq : q ∈ arrivals es ++ arrivals [Event.arrive (ι := ι) q] :=
        List.mem_append_right _ List.mem_cons_self
      simp only [executed, Option.toList_none, List.append_nil]
      exact ⟨settle_mediated hwait' hq (fun a ha => absurd ha List.not_mem_nil) (hserve q), heach'⟩
    | turn n i =>
      rcases turn_cases exec serve ((start w).run exec serve es) n i with
        ⟨q, o, k, hn, hexec, hstep⟩ | ⟨hexec, hstep⟩
      · obtain ⟨hq, past, hpast, hop, hk⟩ := hwait' _ (List.mem_of_getElem? hn)
        rw [hexec, hstep, Option.toList_some]
        refine ⟨settle_mediated ?_ hq ?_ (hk _), heach'.append ⟨hq, past, hpast, hop⟩⟩
        · intro qp hqp
          obtain ⟨hq', past', hpast', hp'⟩ := hwait' qp (List.mem_of_mem_eraseIdx hqp)
          exact ⟨hq', past', hpast'.append, hp'⟩
        · -- the operation is now part of the past
          refine List.forall_mem_append.2 ⟨hpast.append, List.forall_mem_singleton.2 ?_⟩
          exact ⟨_, List.mem_append_right _ (List.mem_singleton_self _), rfl, rfl⟩
      · rw [hexec, hstep, Option.toList_none, List.append_nil]
        exact ⟨hwait', heach'⟩

/-! ## Runs and their events -/

/-- What a run brings about is the work of one of its operations. -/
theorem world_of_trace {Q : σ → Prop} {F : Op → Prop} (hop : ∀ i o w, Q (exec i o w).2 → Q w ∨ F o)
    (es : List (Event Req ι)) (h : Q (c.run exec serve es).world) :
    Q c.world ∨ ∃ x ∈ trace exec serve c es, F x.op := by
  induction es using List.reverseRecOn with
  | nil => exact .inl h
  | append_singleton es e ih =>
    rw [trace_append_singleton]
    have hbefore (hQ : Q (c.run exec serve es).world) :
        Q c.world ∨ ∃ x ∈ trace exec serve c es ++ (executed exec (c.run exec serve es) e).toList, F x.op :=
      (ih hQ).imp_right fun ⟨x, hx, hF⟩ => ⟨x, List.mem_append_left _ hx, hF⟩
    rw [run_append_singleton] at h
    cases e with
    | arrive q =>
      rw [step, settle_world] at h
      exact hbefore h
    | turn n i =>
      rcases turn_cases exec serve (c.run exec serve es) n i with ⟨q, o, k, -, hexec, hstep⟩ | ⟨-, hstep⟩
      · rw [hstep, settle_world] at h
        rcases hop i o _ h with hQ | hF
        · exact hbefore hQ
        · rw [hexec, Option.toList_some]
          exact .inr ⟨_, List.mem_append_right _ (List.mem_singleton_self _), hF⟩
      · rw [hstep] at h
        exact hbefore h

/-- **A run as its events**: whatever arrived was allowed in view of the first answers. -/
theorem Reach.events {allowed : Shared Req ε α σ → Event Req ι → Prop} {c₀ : Pool Op Ret Req ε α σ}
    (h : Reach exec serve allowed c₀ c) : ∃ es, c = c₀.run exec serve es ∧
      ∀ q ∈ arrivals es, ∃ s : Shared Req ε α σ, allowed s (.arrive q) ∧ s.log <+: c.log := by
  induction h with
  | start => exact ⟨[], rfl, fun q hq => absurd hq List.not_mem_nil⟩
  | @step c _ e he ih =>
    obtain ⟨es, hes, harrived⟩ := ih
    refine ⟨es ++ [e], by rw [run_append_singleton, hes], fun q hq => ?_⟩
    rw [arrivals, List.filterMap_append, List.mem_append] at hq
    rcases hq with hq | hq
    · obtain ⟨s, hs, hlog⟩ := harrived q hq
      exact ⟨s, hs, hlog.trans (step_log e)⟩
    · cases e with
      | arrive q' =>
        obtain rfl : q = q' := by simpa using hq
        exact ⟨c.toShared, he, step_log _⟩
      | turn n i => simp at hq

end Pool

end Atomic
