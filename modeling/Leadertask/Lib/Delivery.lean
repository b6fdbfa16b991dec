import Leadertask.Lib.Pool
import Mathlib.Algebra.Order.BigOperators.Group.List
import Mathlib.Algebra.Order.Ring.Nat
import Mathlib.Data.List.Perm.Basic
import Mathlib.Order.Lattice.Nat

/-!
# Answered once, and soon

Every request of a pool waits or is answered, never both and never twice. A program that ends
within `N` operations is answered after `N` turns of its own, so a pool in which no turn is lost
comes to rest, whatever the operations answer.

* `run_conserves`: the requests that arrived are those answered and those that wait.
* `run_realTime`: what is finished at some moment comes in the log before all that arrives later.
* `run_rests`: after `N` turns for each that waits, none does.
-/

namespace Atomic

variable {Op : Type} {Ret : Op → Type} {Req ε α β σ ι : Type}

namespace Prog

/-- The program ends within `n` operations, whatever they answer. -/
def Within : ℕ → Prog Op Ret ε α → Prop
  | _, .ret _ => True
  | _, .raise _ => True
  | 0, .call _ _ => False
  | n + 1, .call _ k => ∀ r, (k r).Within n

theorem within_ret (n : ℕ) (a : α) : (ret a : Prog Op Ret ε α).Within n := by
  cases n <;> trivial

theorem within_raise (n : ℕ) (e : ε) : (raise e : Prog Op Ret ε α).Within n := by
  cases n <;> trivial

theorem within_ofExcept (n : ℕ) (r : Except ε α) : (ofExcept r : Prog Op Ret ε α).Within n := by
  cases r with
  | ok a => exact within_ret n a
  | error e => exact within_raise n e

theorem Within.mono {n m : ℕ} (hnm : n ≤ m) {p : Prog Op Ret ε α} (h : p.Within n) : p.Within m := by
  induction p generalizing n m with
  | ret a => exact within_ret m a
  | raise e => exact within_raise m e
  | call o k ih =>
    cases n with
    | zero => exact h.elim
    | succ n =>
      cases m with
      | zero => omega
      | succ m => exact fun r => ih r (by omega) (h r)

theorem Within.andThen {n m : ℕ} {p : Prog Op Ret ε β} {f : β → Prog Op Ret ε α} (hp : p.Within n)
    (hf : ∀ b, (f b).Within m) : (p.andThen f).Within (n + m) := by
  induction p generalizing n with
  | ret b => exact (hf b).mono (Nat.le_add_left m n)
  | raise e => exact within_raise _ e
  | call o k ih =>
    cases n with
    | zero => exact hp.elim
    | succ n =>
      rw [Nat.add_right_comm]
      exact fun r => ih r (hp r)

theorem Within.catching {n m : ℕ} {p : Prog Op Ret ε α} {f : ε → Prog Op Ret ε α} (hp : p.Within n)
    (hf : ∀ e, (f e).Within m) : (p.catching f).Within (n + m) := by
  induction p generalizing n with
  | ret a => exact within_ret _ a
  | raise e => exact (hf e).mono (Nat.le_add_left m n)
  | call o k ih =>
    cases n with
    | zero => exact hp.elim
    | succ n =>
      rw [Nat.add_right_comm]
      exact fun r => ih r (hp r)

theorem within_perform (o : Op) : (perform o : Prog Op Ret ε (Ret o)).Within 1 := within_ofExcept 0

/-- The operations that a program can still need. -/
noncomputable def cost (p : Prog Op Ret ε α) : ℕ := sInf {n | p.Within n}

theorem cost_le {n : ℕ} {p : Prog Op Ret ε α} (h : p.Within n) : p.cost ≤ n := Nat.sInf_le h

/-- An operation takes one off. -/
theorem cost_call {n : ℕ} {o : Op} {k : Except ε (Ret o) → Prog Op Ret ε α} (h : (call o k).Within n) :
    0 < (call o k).cost ∧ ∀ r, (k r).cost + 1 ≤ (call o k).cost := by
  have hcost : (call o k).Within (call o k).cost := Nat.sInf_mem (s := {n | (call o k).Within n}) ⟨n, h⟩
  generalize (call o k).cost = m at hcost ⊢
  cases m with
  | zero => exact hcost.elim
  | succ m => exact ⟨Nat.succ_pos m, fun r => Nat.succ_le_succ (cost_le (hcost r))⟩

end Prog

namespace Pool

/-- The requests that arrive. -/
def arrivals (es : List (Event Req ι)) : List Req :=
  es.filterMap fun
    | .arrive q => some q
    | .turn _ _ => none

/-- The requests answered and those that wait. -/
def known (c : Pool Op Ret Req ε α σ) : List Req := c.log.map Answer.req ++ c.waiting.map Prod.fst

variable {exec : ι → (o : Op) → σ → Except ε (Ret o) × σ} {serve : Req → Prog Op Ret ε α}
variable {c : Pool Op Ret Req ε α σ} {es : List (Event Req ι)}

/-! ## Nothing is lost, nothing answered twice -/

/-- A request that settles waits or is answered. -/
theorem settle_known (s : Shared Req ε α σ) (w : σ) (ws : List (Req × Prog Op Ret ε α)) (q : Req)
    (p : Prog Op Ret ε α) :
    (settle s w ws q p).known.Perm (q :: (s.log.map Answer.req ++ ws.map Prod.fst)) := by
  cases p with
  | ret a =>
    simp only [settle, known, Shared.answer_log, List.map_append, List.map_singleton, List.append_assoc]
    exact List.perm_middle
  | raise e =>
    simp only [settle, known, Shared.answer_log, List.map_append, List.map_singleton, List.append_assoc]
    exact List.perm_middle
  | call o k =>
    simp only [settle, known, Shared.moved_log, List.map_append, List.map_singleton, ← List.append_assoc]
    exact List.perm_append_singleton _ _

theorem step_known (e : Event Req ι) :
    (c.step exec serve e).known.Perm (c.known ++ arrivals [e]) := by
  cases e with
  | arrive q => exact (settle_known _ _ _ _ _).trans (List.perm_append_singleton _ _).symm
  | turn n i =>
    show List.Perm _ (c.known ++ [])
    rw [List.append_nil]
    simp only [Pool.step]
    split
    · rename_i q o k hn
      obtain ⟨hlt, hget⟩ := List.getElem?_eq_some_iff.1 hn
      refine (settle_known _ _ _ _ _).trans ?_
      have hback := (List.getElem_cons_eraseIdx_perm hlt).map Prod.fst
      rw [hget] at hback
      exact List.perm_middle.symm.trans (hback.append_left _)
    · exact List.Perm.refl _

/-- **Nothing is lost**: what has arrived is what is answered and what waits. -/
theorem run_conserves (c : Pool Op Ret Req ε α σ) (es : List (Event Req ι)) :
    (c.run exec serve es).known.Perm (c.known ++ arrivals es) := by
  induction es generalizing c with
  | nil => exact List.Perm.of_eq (List.append_nil _).symm
  | cons e es ih =>
    have hcons : arrivals (e :: es) = arrivals [e] ++ arrivals es := List.filterMap_append (l := [e])
    rw [hcons, ← List.append_assoc]
    exact (ih _).trans ((step_known e).append_right _)

/-! ## Real time -/

theorem settle_log {s : Shared Req ε α σ} {w : σ} {ws : List (Req × Prog Op Ret ε α)} {q : Req} {p : Prog Op Ret ε α} :
    s.log <+: (settle s w ws q p).log := by
  cases p with
  | ret a => exact List.prefix_append _ _
  | raise e => exact List.prefix_append _ _
  | call o k => exact List.prefix_refl _

/-- What is finished stays. -/
theorem step_log (e : Event Req ι) : c.log <+: (c.step exec serve e).log := by
  cases e with
  | arrive q => exact settle_log
  | turn n i =>
    simp only [Pool.step]
    split
    · exact settle_log
    · exact List.prefix_refl _

theorem run_log (c : Pool Op Ret Req ε α σ) (es : List (Event Req ι)) : c.log <+: (c.run exec serve es).log := by
  induction es generalizing c with
  | nil => exact List.prefix_refl _
  | cons e es ih => exact (step_log e).trans (ih _)

/-- The log agrees with real time: at every moment of the run, what comes in the log after the requests
that are finished then, or still waits at the end, are those that wait then or arrive later. -/
def RealTime (exec : ι → (o : Op) → σ → Except ε (Ret o) × σ) (serve : Req → Prog Op Ret ε α)
    (c : Pool Op Ret Req ε α σ) (es : List (Event Req ι)) : Prop :=
  ∀ es₁ es₂, es = es₁ ++ es₂ → ∃ later, (c.run exec serve es).log = (c.run exec serve es₁).log ++ later ∧
    (later.map Answer.req ++ (c.run exec serve es).waiting.map Prod.fst).Perm
      ((c.run exec serve es₁).waiting.map Prod.fst ++ arrivals es₂)

/-- **A request that arrives after another one is finished comes after it in the log.** -/
theorem run_realTime (c : Pool Op Ret Req ε α σ) (es : List (Event Req ι)) : RealTime exec serve c es := by
  rintro es₁ es₂ rfl
  rw [run_append]
  have hgrow : (c.run exec serve es₁).log <+: ((c.run exec serve es₁).run exec serve es₂).log := run_log _ _
  obtain ⟨later, hlog⟩ := hgrow
  refine ⟨later, hlog.symm, ?_⟩
  have hknown : ((c.run exec serve es₁).run exec serve es₂).known.Perm
      ((c.run exec serve es₁).known ++ arrivals es₂) := run_conserves _ _
  rw [known, known, ← hlog, List.map_append, List.append_assoc, List.append_assoc] at hknown
  exact (List.perm_append_left_iff _).1 hknown

/-! ## Every request is over soon -/

/-- What waits stands before an operation, and is over within `N`. -/
def Pending (N : ℕ) (c : Pool Op Ret Req ε α σ) : Prop :=
  ∀ qp ∈ c.waiting, (∃ o k, qp.2 = .call o k) ∧ qp.2.Within N

theorem settle_pending {N n : ℕ} {s : Shared Req ε α σ} {w : σ} {ws : List (Req × Prog Op Ret ε α)} {q : Req}
    {p : Prog Op Ret ε α} (hws : ∀ qp ∈ ws, (∃ o k, qp.2 = .call o k) ∧ qp.2.Within N) (hp : p.Within n)
    (hn : n ≤ N) : (settle s w ws q p).Pending N := by
  cases p with
  | ret a => exact hws
  | raise e => exact hws
  | call o k => exact List.forall_mem_append.2 ⟨hws, List.forall_mem_singleton.2 ⟨⟨o, k, rfl⟩, hp.mono hn⟩⟩

theorem step_pending {N : ℕ} (hserve : ∀ q, (serve q).Within N) (h : c.Pending N) (e : Event Req ι) :
    (c.step exec serve e).Pending N := by
  cases e with
  | arrive q => exact settle_pending h (hserve q) le_rfl
  | turn n i =>
    simp only [Pool.step]
    split
    · rename_i q o k hn
      have hcall := (h _ (List.mem_of_getElem? hn)).2
      cases N with
      | zero => exact hcall.elim
      | succ N =>
        exact settle_pending (fun qp hqp => h qp (List.mem_of_mem_eraseIdx hqp)) (hcall _) (Nat.le_succ N)
    · exact h

theorem run_pending {N : ℕ} (hserve : ∀ q, (serve q).Within N) (h : c.Pending N) (es : List (Event Req ι)) :
    (c.run exec serve es).Pending N := by
  induction es generalizing c with
  | nil => exact h
  | cons e es ih => exact ih (step_pending hserve h e)

/-- No request arrives any more and no turn is lost: each goes to a request that waits, as long as
one does. -/
def Diligent (exec : ι → (o : Op) → σ → Except ε (Ret o) × σ) (serve : Req → Prog Op Ret ε α) :
    Pool Op Ret Req ε α σ → List (Event Req ι) → Prop
  | _, [] => True
  | _, .arrive _ :: _ => False
  | c, .turn n i :: es =>
    (c.waiting = [] ∨ n < c.waiting.length) ∧ Diligent exec serve (c.step exec serve (.turn n i)) es

theorem arrivals_of_diligent (h : Diligent exec serve c es) : arrivals es = [] := by
  induction es generalizing c with
  | nil => rfl
  | cons e es ih =>
    cases e with
    | arrive q => exact h.elim
    | turn n i => exact ih h.2

/-- The operations that are still needed. -/
noncomputable def debt (c : Pool Op Ret Req ε α σ) : ℕ := (c.waiting.map fun qp => qp.2.cost).sum

theorem settle_debt (s : Shared Req ε α σ) (w : σ) (ws : List (Req × Prog Op Ret ε α)) (q : Req)
    (p : Prog Op Ret ε α) :
    (settle s w ws q p).debt ≤ (ws.map fun qp => qp.2.cost).sum + p.cost := by
  cases p with
  | ret a => exact Nat.le_add_right _ _
  | raise e => exact Nat.le_add_right _ _
  | call o k =>
    rw [debt, settle, List.map_append, List.sum_append, List.map_singleton, List.sum_singleton]

/-- A turn that is not lost pays one off. -/
theorem turn_debt {N n : ℕ} {i : ι} (h : c.Pending N) (hn : n < c.waiting.length) :
    (c.step exec serve (.turn n i)).debt + 1 ≤ c.debt := by
  obtain ⟨⟨o, k, hcall⟩, hwithin⟩ := h _ (List.getElem_mem hn)
  have hget : c.waiting[n]? = some (c.waiting[n].1, .call o k) := by
    rw [List.getElem?_eq_getElem hn, ← hcall]
  rw [hcall] at hwithin
  have hpay := (Prog.cost_call hwithin).2 (exec i o c.world).1
  have hsum := ((List.getElem_cons_eraseIdx_perm hn).map fun qp => qp.2.cost).sum_eq
  rw [List.map_cons, List.sum_cons, hcall] at hsum
  simp only [Pool.step, hget]
  have hsettle := settle_debt c.toShared (exec i o c.world).2 (c.waiting.eraseIdx n) c.waiting[n].1
    (k (exec i o c.world).1)
  rw [debt] at hsettle ⊢
  rw [debt]
  omega

/-- Nothing that waits is left once the debt is paid. -/
theorem run_rests_of_debt {N : ℕ} (hserve : ∀ q, (serve q).Within N) (h : c.Pending N) (hd : Diligent exec serve c es)
    (hlen : c.debt ≤ es.length) : (c.run exec serve es).waiting = [] := by
  induction es generalizing c with
  | nil =>
    have hzero : c.debt = 0 := Nat.le_zero.1 hlen
    show c.waiting = []
    rw [List.eq_nil_iff_forall_not_mem]
    intro qp hqp
    obtain ⟨⟨o, k, hcall⟩, hwithin⟩ := h qp hqp
    have hle : qp.2.cost ≤ c.debt := List.single_le_sum (fun _ _ => Nat.zero_le _) _
      (List.mem_map_of_mem (f := fun qp : Req × Prog Op Ret ε α => qp.2.cost) hqp)
    rw [hcall] at hwithin hle
    have hpos := (Prog.cost_call hwithin).1
    omega
  | cons e es ih =>
    cases e with
    | arrive q => exact hd.elim
    | turn n i =>
      refine ih (step_pending hserve h (.turn n i)) hd.2 ?_
      rcases hd.1 with hempty | hn
      · have hsame : c.step exec serve (.turn n i) = c := by simp [Pool.step, hempty]
        rw [hsame, debt, hempty]
        exact Nat.zero_le _
      · have hpay : (c.step exec serve (.turn n i)).debt + 1 ≤ c.debt := turn_debt h hn
        rw [List.length_cons] at hlen
        omega

/-- **Every request is over soon**: after `N` turns for each that waits, none of them lost, all are
answered, each once. -/
theorem run_rests {N : ℕ} (hserve : ∀ q, (serve q).Within N) (w : σ) (es rest : List (Event Req ι))
    (hd : Diligent exec serve ((start w).run exec serve es) rest)
    (hlen : N * ((start w).run exec serve es).waiting.length ≤ rest.length) :
    ((start w).run exec serve (es ++ rest)).waiting = [] ∧
      (((start w).run exec serve (es ++ rest)).log.map Answer.req).Perm (arrivals es) := by
  have hpending : ((start w).run exec serve es).Pending N :=
    run_pending hserve (fun _ h => absurd h List.not_mem_nil) es
  have hdebt : ((start w).run exec serve es).debt ≤ N * ((start w).run exec serve es).waiting.length := by
    have hcard := List.sum_le_card_nsmul (((start w).run exec serve es).waiting.map fun qp => qp.2.cost) N
      fun x hx => by
        obtain ⟨qp, hqp, rfl⟩ := List.mem_map.1 hx
        exact Prog.cost_le (hpending qp hqp).2
    rw [List.length_map, nsmul_eq_mul, Nat.cast_id, Nat.mul_comm] at hcard
    exact hcard
  have hrest := run_rests_of_debt hserve hpending hd (hdebt.trans hlen)
  rw [← run_append] at hrest
  refine ⟨hrest, ?_⟩
  have hknown : ((start w).run exec serve (es ++ rest)).known.Perm ((start w).known ++ arrivals (es ++ rest)) :=
    run_conserves _ _
  rw [known, hrest, List.map_nil, List.append_nil] at hknown
  have harrivals : arrivals (es ++ rest) = arrivals es := by
    rw [arrivals, List.filterMap_append, ← arrivals, ← arrivals, arrivals_of_diligent hd, List.append_nil]
  rw [harrivals] at hknown
  exact hknown

end Pool

end Atomic
