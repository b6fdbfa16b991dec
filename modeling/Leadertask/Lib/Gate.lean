import Leadertask.Lib.Pool
import Mathlib.Data.List.Induction
import Mathlib.Data.List.Perm.Basic

/-!
# A gate before the work

Programs that call one operation, the gate, before they do anything else. It opens for some of
them and turns the others away. In a pool the answers are given long after, among those of other
requests, but every answer of the one kind stands for an opening and every answer of the other
for a refusal.

* `Pool.trace`: the operations that a run executes.
* `trace_balanced`: a run answers well at most as often as the gate opened, and turns away
  exactly as often as the gate turned away.
-/

namespace Atomic

variable {Op : Type} {Ret : Op → Type} {Req ε α β σ ι : Type}

namespace Prog

/-- Whatever the operations answer, each satisfies `P` and the result `Q`. -/
def Always (P : Op → Prop) (Q : Except ε β → Prop) : Prog Op Ret ε β → Prop
  | .ret a => Q (.ok a)
  | .raise e => Q (.error e)
  | .call o k => P o ∧ ∀ r, (k r).Always P Q

variable {P : Op → Prop} {Q : Except ε β → Prop}

theorem Always.andThen {γ : Type} {Q : Except ε γ → Prop} {p : Prog Op Ret ε β}
    {f : β → Prog Op Ret ε γ}
    (h : p.Always P fun r => match r with
      | .ok b => (f b).Always P Q
      | .error e => Q (.error e)) : (p.andThen f).Always P Q := by
  induction p with
  | ret b => exact h
  | raise e => exact h
  | call o k ih => exact ⟨h.1, fun r => ih r (h.2 r)⟩

theorem always_ofExcept {r : Except ε β} (h : Q r) : (ofExcept r : Prog Op Ret ε β).Always P Q := by
  cases r <;> exact h

theorem always_perform {o : Op} {Q : Except ε (Ret o) → Prop} (ho : P o) (h : ∀ r, Q r) :
    (perform o : Prog Op Ret ε (Ret o)).Always P Q := ⟨ho, fun r => always_ofExcept (h r)⟩

end Prog

/-- Which operations are the gate, which of its answers open it, which turn a request away, and
the two kinds of results that depend on it. -/
structure Gate (Op : Type) (Ret : Op → Type) (ε α : Type) where
  isGate : Op → Bool
  opens : (o : Op) → Except ε (Ret o) → Bool
  shuts : (o : Op) → Except ε (Ret o) → Bool
  good : Except ε α → Bool
  refused : Except ε α → Bool

namespace Gate

variable (g : Gate Op Ret ε α)

/-- Past the gate: no second call of it, and no refusal. -/
def Passed (p : Prog Op Ret ε α) : Prop :=
  p.Always (fun o => g.isGate o = false) fun r => g.refused r = false

/-- Before the gate: it comes next, or the program is over without. -/
def Before : Prog Op Ret ε α → Prop
  | .ret a => g.good (.ok a) = false ∧ g.refused (.ok a) = false
  | .raise e => g.good (.error e) = false ∧ g.refused (.error e) = false
  | .call o k => g.isGate o = true ∧ ∀ r,
    if g.opens o r then g.shuts o r = false ∧ g.Passed (k r)
    else match k r with
      | .ret a => g.good (.ok a) = false ∧ g.refused (.ok a) = g.shuts o r
      | .raise e => g.good (.error e) = false ∧ g.refused (.error e) = g.shuts o r
      | .call _ _ => False

/-- The gate comes next. -/
def isBefore : Prog Op Ret ε α → Bool
  | .call o _ => g.isGate o
  | _ => false

end Gate

namespace Pool

variable (exec : ι → (o : Op) → σ → Except ε (Ret o) × σ) (serve : Req → Prog Op Ret ε α)

/-- An operation that was executed for a request, with its input and its answer. -/
structure Executed (Op : Type) (Ret : Op → Type) (Req ε ι : Type) where
  req : Req
  input : ι
  op : Op
  result : Except ε (Ret op)

/-- The operation that an event executes. -/
def executed (c : Pool Op Ret Req ε α σ) : Event Req ι → Option (Executed Op Ret Req ε ι)
  | .arrive _ => none
  | .turn n i =>
    match c.waiting[n]? with
    | some (q, .call o _) => some ⟨q, i, o, (exec i o c.world).1⟩
    | _ => none

/-- The operations of a run, in order. -/
def trace : Pool Op Ret Req ε α σ → List (Event Req ι) → List (Executed Op Ret Req ε ι)
  | _, [] => []
  | c, e :: es => (executed exec c e).toList ++ trace (c.step exec serve e) es

variable {exec serve} {c : Pool Op Ret Req ε α σ} {es : List (Event Req ι)}

variable (exec serve c) in
/-- A turn is the next operation of a request that waits, or nothing happens. -/
theorem turn_cases (n : ℕ) (i : ι) :
    (∃ q o k, c.waiting[n]? = some (q, Prog.call o k) ∧
      executed exec c (.turn n i) = some ⟨q, i, o, (exec i o c.world).1⟩ ∧
      c.step exec serve (.turn n i) =
        settle c.toShared (exec i o c.world).2 (c.waiting.eraseIdx n) q (k (exec i o c.world).1)) ∨
    (executed exec c (.turn n i) = none ∧ c.step exec serve (.turn n i) = c) := by
  match h : c.waiting[n]? with
  | some (q, .call o k) => exact .inl ⟨q, o, k, rfl, by simp only [executed, h], by simp only [step, h]⟩
  | some (q, .ret a) => exact .inr ⟨by simp only [executed, h], by simp only [step, h]⟩
  | some (q, .raise e) => exact .inr ⟨by simp only [executed, h], by simp only [step, h]⟩
  | none => exact .inr ⟨by simp only [executed, h], by simp only [step, h]⟩

theorem settle_world {s : Shared Req ε α σ} {w : σ} {ws : List (Req × Prog Op Ret ε α)} {q : Req}
    {p : Prog Op Ret ε α} : (settle s w ws q p).world = w := by
  cases p <;> rfl

theorem trace_append_singleton (e : Event Req ι) :
    trace exec serve c (es ++ [e]) =
      trace exec serve c es ++ (executed exec (c.run exec serve es) e).toList := by
  induction es generalizing c with
  | nil => simp [trace, run]
  | cons e' es ih => rw [List.cons_append, trace, ih, trace, List.append_assoc]; rfl

/-- What the environment puts into the events. -/
def inputs (es : List (Event Req ι)) : List ι :=
  es.filterMap fun
    | .arrive _ => none
    | .turn _ i => some i

theorem executed_input {e : Event Req ι} {x : Executed Op Ret Req ε ι} (h : executed exec c e = some x) :
    inputs [e] = [x.input] := by
  cases e with
  | arrive q => simp [executed] at h
  | turn n i =>
    simp only [executed] at h
    split at h
    · rw [← Option.some.inj h]; rfl
    · cases h

/-- The operations take their inputs from the events, in order. -/
theorem trace_inputs : ((trace exec serve c es).map Executed.input).Sublist (inputs es) := by
  induction es generalizing c with
  | nil => exact List.Sublist.slnil
  | cons e es ih =>
    rw [trace, List.map_append, show inputs (e :: es) = inputs [e] ++ inputs es from
      List.filterMap_append (l := [e])]
    refine List.Sublist.append ?_ ih
    cases h : executed exec c e with
    | none => exact List.nil_sublist _
    | some x => rw [executed_input h]; exact List.Sublist.refl _

/-- An operation of the run is one that its request can call. -/
theorem trace_uses {P : Req → Op → Prop} (hserve : ∀ q, (serve q).Uses (P q))
    (hc : ∀ qp ∈ c.waiting, qp.2.Uses (P qp.1)) : ∀ x ∈ trace exec serve c es, P x.req x.op := by
  induction es generalizing c with
  | nil => exact fun x hx => absurd hx List.not_mem_nil
  | cons e es ih =>
    -- what settles waits on with a program of its own request
    have hsettle {s : Shared Req ε α σ} {w : σ} {ws : List (Req × Prog Op Ret ε α)} {q : Req}
        {p : Prog Op Ret ε α} (hws : ∀ qp ∈ ws, qp.2.Uses (P qp.1)) (hp : p.Uses (P q)) :
        ∀ qp ∈ (settle s w ws q p).waiting, qp.2.Uses (P qp.1) := by
      cases p with
      | ret a => exact hws
      | raise e => exact hws
      | call o k => exact List.forall_mem_append.2 ⟨hws, List.forall_mem_singleton.2 hp⟩
    rw [trace, List.forall_mem_append]
    cases e with
    | arrive q => exact ⟨fun x hx => absurd hx List.not_mem_nil, ih (hsettle hc (hserve q))⟩
    | turn n i =>
      rcases turn_cases exec serve c n i with ⟨q, o, k, hn, hexec, hstep⟩ | ⟨hexec, hstep⟩
      · have huse := hc _ (List.mem_of_getElem? hn)
        rw [hexec, hstep]
        refine ⟨fun x hx => ?_, ih (hsettle (fun qp hqp => hc qp (List.mem_of_mem_eraseIdx hqp)) (huse.2 _))⟩
        rw [Option.toList_some, List.mem_singleton] at hx
        rw [hx]; exact huse.1
      · rw [hexec, hstep]
        exact ⟨fun x hx => absurd hx List.not_mem_nil, ih hc⟩

variable (g : Gate Op Ret ε α) (K : Req → Bool)

/-- The gate opened for a request of `K`. -/
def opened (x : Executed Op Ret Req ε ι) : Bool := K x.req && g.isGate x.op && g.opens x.op x.result

/-- It turned one away. -/
def turnedAway (x : Executed Op Ret Req ε ι) : Bool :=
  K x.req && g.isGate x.op && g.shuts x.op x.result

/-- The requests of `K` that have passed the gate and wait on. -/
def past (qp : Req × Prog Op Ret ε α) : Bool := K qp.1 && !g.isBefore qp.2

def goodAnswer (a : Answer Req ε α σ) : Bool := K a.req && g.good a.result

def refusedAnswer (a : Answer Req ε α σ) : Bool := K a.req && g.refused a.result

/-- The books of the gate after the operations `tr`. -/
structure Balanced (c : Pool Op Ret Req ε α σ) (tr : List (Executed Op Ret Req ε ι)) : Prop where
  waiting : ∀ qp ∈ c.waiting, K qp.1 = true → g.Before qp.2 ∨ g.Passed qp.2
  good : c.log.countP (goodAnswer g K) + c.waiting.countP (past g K) ≤ tr.countP (opened g K)
  refused : c.log.countP (refusedAnswer g K) = tr.countP (turnedAway g K)

/-- What a request adds to the good answers and to those that wait past the gate. -/
def credit (q : Req) (p : Prog Op Ret ε α) : ℕ :=
  match p with
  | .ret a => if K q && g.good (.ok a) then 1 else 0
  | .raise e => if K q && g.good (.error e) then 1 else 0
  | .call _ _ => if past g K (q, p) then 1 else 0

/-- What it adds to the refusals. -/
def refusal (q : Req) (p : Prog Op Ret ε α) : ℕ :=
  match p with
  | .ret a => if K q && g.refused (.ok a) then 1 else 0
  | .raise e => if K q && g.refused (.error e) then 1 else 0
  | .call _ _ => 0

section

variable {g K} {q : Req} {p : Prog Op Ret ε α}

theorem settle_credit (s : Shared Req ε α σ) (w : σ) (ws : List (Req × Prog Op Ret ε α)) :
    (settle s w ws q p).log.countP (goodAnswer g K) + (settle s w ws q p).waiting.countP (past g K) =
      s.log.countP (goodAnswer g K) + ws.countP (past g K) + credit g K q p := by
  cases p with
  | ret a =>
    simp only [settle, Shared.answer_log, List.countP_append, List.countP_singleton]
    exact Nat.add_right_comm _ _ _
  | raise e =>
    simp only [settle, Shared.answer_log, List.countP_append, List.countP_singleton]
    exact Nat.add_right_comm _ _ _
  | call o k =>
    simp only [settle, Shared.moved_log, List.countP_append, List.countP_singleton]
    exact (Nat.add_assoc _ _ _).symm

theorem settle_refusal (s : Shared Req ε α σ) (w : σ) (ws : List (Req × Prog Op Ret ε α)) :
    (settle s w ws q p).log.countP (refusedAnswer g K) =
      s.log.countP (refusedAnswer g K) + refusal g K q p := by
  cases p with
  | ret a =>
    simp only [settle, Shared.answer_log, List.countP_append, List.countP_singleton]
    rfl
  | raise e =>
    simp only [settle, Shared.answer_log, List.countP_append, List.countP_singleton]
    rfl
  | call o k => rfl

theorem settle_waiting {s : Shared Req ε α σ} {w : σ} {ws : List (Req × Prog Op Ret ε α)}
    (hws : ∀ qp ∈ ws, K qp.1 = true → g.Before qp.2 ∨ g.Passed qp.2)
    (hp : ∀ o k, p = .call o k → K q = true → g.Before p ∨ g.Passed p) :
    ∀ qp ∈ (settle s w ws q p).waiting, K qp.1 = true → g.Before qp.2 ∨ g.Passed qp.2 := by
  cases p with
  | ret a => exact hws
  | raise e => exact hws
  | call o k => exact List.forall_mem_append.2 ⟨hws, List.forall_mem_singleton.2 (hp o k rfl)⟩

/-- Before the gate nothing is owed yet. -/
theorem before_credit (h : K q = true → g.Before p) : credit g K q p = 0 ∧ refusal g K q p = 0 := by
  cases hK : K q with
  | false => cases p <;> simp [credit, refusal, past, hK]
  | true =>
    have h := h hK
    cases p with
    | ret a => simp [credit, refusal, h.1, h.2]
    | raise e => simp [credit, refusal, h.1, h.2]
    | call o k => simp [credit, refusal, past, Gate.isBefore, h.1]

/-- Past the gate an answer may be good, but is no refusal. -/
theorem passed_credit (h : g.Passed p) : credit g K q p ≤ 1 ∧ refusal g K q p = 0 := by
  cases p with
  | ret a =>
    have h : g.refused (.ok a) = false := h
    simp only [credit, refusal, h, Bool.and_false, Bool.false_eq_true, if_false, and_true]
    split <;> omega
  | raise e =>
    have h : g.refused (.error e) = false := h
    simp only [credit, refusal, h, Bool.and_false, Bool.false_eq_true, if_false, and_true]
    split <;> omega
  | call o k =>
    simp only [credit, refusal, and_true]
    split <;> omega

/-- Turned away, a request is over and its answer is not good. -/
theorem shut_credit {b : Bool} (hK : K q = true) (h : match p with
      | .ret a => g.good (.ok a) = false ∧ g.refused (.ok a) = b
      | .raise e => g.good (.error e) = false ∧ g.refused (.error e) = b
      | .call _ _ => False) : credit g K q p = 0 ∧ refusal g K q p = if b then 1 else 0 := by
  cases p with
  | ret a => simp [credit, refusal, hK, h.1, h.2]
  | raise e => simp [credit, refusal, hK, h.1, h.2]
  | call o k => exact h.elim

/-- Requests that are not of `K` do not count. -/
theorem other_credit (h : K q = false) : credit g K q p = 0 ∧ refusal g K q p = 0 := by
  cases p <;> simp [credit, refusal, past, h]

end

/-- One event keeps the books. -/
theorem Balanced.step (hserve : ∀ q, K q = true → g.Before (serve q))
    {tr : List (Executed Op Ret Req ε ι)} (h : Balanced g K c tr) (e : Event Req ι) :
    Balanced g K (c.step exec serve e) (tr ++ (executed exec c e).toList) := by
  obtain ⟨hwaiting, hgood, hrefused⟩ := h
  cases e with
  | arrive q =>
    have hcredit := before_credit (hserve q)
    refine ⟨settle_waiting hwaiting fun _ _ _ hK => .inl (hserve q hK), ?_, ?_⟩
    · have := settle_credit (g := g) (K := K) (q := q) (p := serve q) c.toShared c.world c.waiting
      simp only [Pool.step, executed, Option.toList_none, List.append_nil]
      omega
    · have := settle_refusal (g := g) (K := K) (q := q) (p := serve q) c.toShared c.world c.waiting
      simp only [Pool.step, executed, Option.toList_none, List.append_nil]
      omega
  | turn n i =>
    rcases turn_cases exec serve c n i with ⟨q, o, k, hn, hexec, hstep⟩ | ⟨hexec, hstep⟩
    · obtain ⟨hlt, hget⟩ := List.getElem?_eq_some_iff.1 hn
      have hrest : ∀ qp ∈ c.waiting.eraseIdx n, K qp.1 = true → g.Before qp.2 ∨ g.Passed qp.2 :=
        fun qp hqp => hwaiting qp (List.mem_of_mem_eraseIdx hqp)
      have hmem : (q, Prog.call o k) ∈ c.waiting := List.mem_of_getElem? hn
      -- the request leaves the queue, executes its operation and settles
      have hleave : c.waiting.countP (past g K) =
          (c.waiting.eraseIdx n).countP (past g K) + if past g K (q, Prog.call o k) then 1 else 0 := by
        rw [← (List.getElem_cons_eraseIdx_perm hlt).countP_eq, List.countP_cons, hget]
      have hc := settle_credit (g := g) (K := K) (q := q) (p := k (exec i o c.world).1) c.toShared
        (exec i o c.world).2 (c.waiting.eraseIdx n)
      have hr := settle_refusal (g := g) (K := K) (q := q) (p := k (exec i o c.world).1) c.toShared
        (exec i o c.world).2 (c.waiting.eraseIdx n)
      have hbooks (hnext : ∀ o' k', k (exec i o c.world).1 = .call o' k' → K q = true →
            g.Before (k (exec i o c.world).1) ∨ g.Passed (k (exec i o c.world).1))
          (h1 : credit g K q (k (exec i o c.world).1) ≤
            (if past g K (q, Prog.call o k) then 1 else 0) +
              if opened g K ⟨q, i, o, (exec i o c.world).1⟩ then 1 else 0)
          (h2 : refusal g K q (k (exec i o c.world).1) =
            if turnedAway g K ⟨q, i, o, (exec i o c.world).1⟩ then 1 else 0) :
          Balanced g K (settle c.toShared (exec i o c.world).2 (c.waiting.eraseIdx n) q (k (exec i o c.world).1))
            (tr ++ [⟨q, i, o, (exec i o c.world).1⟩]) := by
        refine ⟨settle_waiting hrest hnext, ?_, ?_⟩
        · rw [List.countP_append, List.countP_singleton]; omega
        · rw [List.countP_append, List.countP_singleton]; omega
      rw [hexec, hstep, Option.toList_some]
      rcases Bool.eq_false_or_eq_true (K q) with hK | hK
      · rcases hwaiting _ hmem hK with ⟨hgate, hopen⟩ | ⟨hgate, hpassed⟩
        · -- the gate opens, or the request is turned away
          have hopen := hopen (exec i o c.world).1
          split at hopen
          · rename_i ho
            obtain ⟨h1, h2⟩ := passed_credit (K := K) (q := q) hopen.2
            have hopened : opened g K (⟨q, i, o, (exec i o c.world).1⟩ : Executed Op Ret Req ε ι) = true := by
              simp [opened, hK, hgate, ho]
            refine hbooks (fun _ _ _ _ => .inr hopen.2) ?_ ?_
            · rw [if_pos hopened]; omega
            · simp [turnedAway, hopen.1, h2]
          · obtain ⟨h1, h2⟩ := shut_credit hK hopen
            refine hbooks (fun o' k' hk => ?_) (by omega) ?_
            · rw [hk] at hopen; exact hopen.elim
            · simp [turnedAway, hK, hgate, h2]
        · obtain ⟨h1, h2⟩ := passed_credit (K := K) (q := q) (hpassed (exec i o c.world).1)
          have hpast : past g K (q, Prog.call o k) = true := by simp [past, hK, Gate.isBefore, hgate]
          refine hbooks (fun _ _ _ _ => .inr (hpassed _)) ?_ ?_
          · rw [if_pos hpast]; omega
          · simp [turnedAway, hgate, h2]
      · obtain ⟨h1, h2⟩ := other_credit (g := g) (p := k (exec i o c.world).1) hK
        refine hbooks (fun _ _ _ h => by simp [hK] at h) (by omega) ?_
        simp [turnedAway, hK, h2]
    · rw [hexec, hstep, Option.toList_none, List.append_nil]
      exact ⟨hwaiting, hgood, hrefused⟩

/-- **The gate's books balance** over every run: no more good answers than openings, and a
refusal for every time it turned one away. -/
theorem trace_balanced (hserve : ∀ q, K q = true → g.Before (serve q)) (w : σ) (es : List (Event Req ι)) :
    ((start w).run exec serve es).log.countP (goodAnswer g K) ≤
        (trace exec serve (start w) es).countP (opened g K) ∧
      ((start w).run exec serve es).log.countP (refusedAnswer g K) =
        (trace exec serve (start w) es).countP (turnedAway g K) := by
  suffices h : Balanced g K ((start w).run exec serve es) (trace exec serve (start w) es) from
    ⟨Nat.le_of_add_right_le h.good, h.refused⟩
  induction es using List.reverseRecOn with
  | nil => exact ⟨fun qp hqp => absurd hqp List.not_mem_nil, Nat.le_refl _, rfl⟩
  | append_singleton es e ih =>
    rw [run_append_singleton, trace_append_singleton]
    exact ih.step g K hserve e

end Pool

end Atomic
