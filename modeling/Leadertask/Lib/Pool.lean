import Leadertask.Lib.Prog

/-!
# Interleaved programs

A `Pool` holds a shared world, the requests in flight, each with the rest of its
program, and the log of the requests that are finished. In a step a request arrives,
or one waiting request executes its next operation; a program that has no operation
left is finished in the step of its last one. Its answer is settled then, and a client
may get it at any time after that: a reply reads and changes nothing, so it is no step.

Reasoning is by an invariant `I` of world and log and a preorder `M` on them (what
only ever grows). `Prog.wp` asks of a program that between two of its own
operations it leaves `I` intact and moves along `M`, and lets every other request
do the same in the meantime.

* `Reach.sound`: if every admitted request meets its `wp`, then `I` holds in
  every reachable pool, which is `M`-above the first one.
* `wp_of_uses`: a program whose operations all keep `I` and move along `M` needs no
  proof of its own.
* `wp_of_ends`: nor does one whose last operation decides its result.
* `Reach.alone`: a request served alone, from its arrival to its end, is a run.
-/

namespace Atomic

/-- A finished request, with its answer and the world after its last operation. -/
structure Answer (Req ε α σ : Type) where
  req : Req
  result : Except ε α
  world : σ

/-- What all requests see: the world, and the finished requests in the order of their last
operations. -/
structure Shared (Req ε α σ : Type) where
  world : σ
  log : List (Answer Req ε α σ)

/-- A shared state with the requests in flight. -/
structure Pool (Op : Type) (Ret : Op → Type) (Req ε α σ : Type) extends Shared Req ε α σ where
  waiting : List (Req × Prog Op Ret ε α)

/-- A request arrives, or the waiting request number `n` executes its next
operation with the environment's input `i`. -/
inductive Event (Req ι : Type) where
  | arrive (q : Req)
  | turn (n : ℕ) (i : ι)

variable {Op : Type} {Ret : Op → Type} {Req ε α β σ ι : Type}

namespace Shared

/-- The shared state after `q` is finished with the answer `r` in world `w`. -/
def answer (s : Shared Req ε α σ) (q : Req) (r : Except ε α) (w : σ) : Shared Req ε α σ :=
  ⟨w, s.log ++ [⟨q, r, w⟩]⟩

/-- The shared state after one operation that finishes no request. -/
def moved (s : Shared Req ε α σ) (w : σ) : Shared Req ε α σ := ⟨w, s.log⟩

@[simp] theorem answer_world (s : Shared Req ε α σ) (q : Req) (r : Except ε α) (w : σ) :
    (s.answer q r w).world = w := rfl

@[simp] theorem answer_log (s : Shared Req ε α σ) (q : Req) (r : Except ε α) (w : σ) :
    (s.answer q r w).log = s.log ++ [⟨q, r, w⟩] := rfl

@[simp] theorem moved_world (s : Shared Req ε α σ) (w : σ) : (s.moved w).world = w := rfl

@[simp] theorem moved_log (s : Shared Req ε α σ) (w : σ) : (s.moved w).log = s.log := rfl

end Shared

/-- Each answer of the log is right, given the log before it. -/
def EachAnswer (P : List (Answer Req ε α σ) → Answer Req ε α σ → Prop)
    (log : List (Answer Req ε α σ)) : Prop :=
  ∀ pre a post, log = pre ++ a :: post → P pre a

section

variable {P : List (Answer Req ε α σ) → Answer Req ε α σ → Prop} {log : List (Answer Req ε α σ)}

theorem EachAnswer.nil : EachAnswer P [] := fun pre a post he => by simp at he

theorem EachAnswer.append {a : Answer Req ε α σ} (h : EachAnswer P log) (ha : P log a) :
    EachAnswer P (log ++ [a]) := by
  intro pre b post he
  rcases List.eq_nil_or_concat post with rfl | ⟨post', c, rfl⟩
  · -- the answer asked about is the new one
    obtain ⟨rfl, h1⟩ := List.append_inj' he rfl
    obtain rfl : a = b := by simpa using h1
    exact ha
  · have he' : log ++ [a] = (pre ++ b :: post') ++ [c] := by simpa using he
    obtain ⟨rfl, -⟩ := List.append_inj' he' rfl
    exact h pre b post' rfl

end

namespace Pool

variable (exec : ι → (o : Op) → σ → Except ε (Ret o) × σ) (serve : Req → Prog Op Ret ε α)

/-- A pool with nothing in flight and nothing finished. -/
def start (w : σ) : Pool Op Ret Req ε α σ := ⟨⟨w, []⟩, []⟩

/-- Finish `q` if its program is over, else let it wait; `s` is the shared state
before the step, `w` the world after it. -/
def settle (s : Shared Req ε α σ) (w : σ) (ws : List (Req × Prog Op Ret ε α)) (q : Req) :
    Prog Op Ret ε α → Pool Op Ret Req ε α σ
  | .ret a => ⟨s.answer q (.ok a) w, ws⟩
  | .raise e => ⟨s.answer q (.error e) w, ws⟩
  | .call o k => ⟨s.moved w, ws ++ [(q, .call o k)]⟩

/-- One step of the pool. -/
def step (c : Pool Op Ret Req ε α σ) : Event Req ι → Pool Op Ret Req ε α σ
  | .arrive q => settle c.toShared c.world c.waiting q (serve q)
  | .turn n i =>
    match c.waiting[n]? with
    | some (q, .call o k) =>
      settle c.toShared (exec i o c.world).2 (c.waiting.eraseIdx n) q (k (exec i o c.world).1)
    | _ => c

/-- The pools that a run from `c₀` of allowed events can reach. -/
inductive Reach (allowed : Shared Req ε α σ → Event Req ι → Prop) (c₀ : Pool Op Ret Req ε α σ) :
    Pool Op Ret Req ε α σ → Prop
  | start : Reach allowed c₀ c₀
  | step {c : Pool Op Ret Req ε α σ} (h : Reach allowed c₀ c) (e : Event Req ι)
      (he : allowed c.toShared e) : Reach allowed c₀ (c.step exec serve e)

end Pool

/-! ## The rule for invariants -/

namespace Prog

variable (exec : ι → (o : Op) → σ → Except ε (Ret o) × σ)
variable (allowed : ι → Prop) (I : Shared Req ε α σ → Prop)
variable (M : Shared Req ε α σ → Shared Req ε α σ → Prop)

/-- The program keeps its part of the bargain and ends in `Q`. Here `s` is the shared
state before the operation executed last and `w` the world after it. At a call, the
state must be in order (`I`, `M`), since other requests step in. -/
def wp (Q : Except ε β → Shared Req ε α σ → σ → Prop) :
    Prog Op Ret ε β → Shared Req ε α σ → σ → Prop
  | .ret a, s, w => Q (.ok a) s w
  | .raise e, s, w => Q (.error e) s w
  | .call o k, s, w => (I (s.moved w) ∧ M s (s.moved w)) ∧
      ∀ s' i, M (s.moved w) s' → I s' → allowed i →
        (k (exec i o s'.world).1).wp Q s' (exec i o s'.world).2

variable {exec allowed I M} {Q : Except ε β → Shared Req ε α σ → σ → Prop}

/-- A sequence: the second program starts where the first one left off. -/
theorem wp_andThen {γ : Type} {R : Except ε γ → Shared Req ε α σ → σ → Prop}
    {p : Prog Op Ret ε β} {f : β → Prog Op Ret ε γ} {s : Shared Req ε α σ} {w : σ}
    (h : p.wp exec allowed I M (fun r s w => match r with
      | .ok a => (f a).wp exec allowed I M R s w
      | .error e => R (.error e) s w) s w) :
    (p.andThen f).wp exec allowed I M R s w := by
  induction p generalizing s w with
  | ret a => exact h
  | raise e => exact h
  | call o k ih => exact ⟨h.1, fun s' i hM hI ha => ih _ (h.2 s' i hM hI ha)⟩

theorem wp_catching {p : Prog Op Ret ε β} {f : ε → Prog Op Ret ε β} {s : Shared Req ε α σ} {w : σ}
    (h : p.wp exec allowed I M (fun r s w => match r with
      | .ok a => Q (.ok a) s w
      | .error e => (f e).wp exec allowed I M Q s w) s w) :
    (p.catching f).wp exec allowed I M Q s w := by
  induction p generalizing s w with
  | ret a => exact h
  | raise e => exact h
  | call o k ih => exact ⟨h.1, fun s' i hM hI ha => ih _ (h.2 s' i hM hI ha)⟩

theorem wp_ofExcept {r : Except ε β} {s : Shared Req ε α σ} {w : σ} (h : Q r s w) :
    (ofExcept r : Prog Op Ret ε β).wp exec allowed I M Q s w := by
  cases r <;> exact h

/-- The operation executed last left the shared state in order. -/
def Kept (I : Shared Req ε α σ → Prop) (M : Shared Req ε α σ → Shared Req ε α σ → Prop)
    (s : Shared Req ε α σ) (w : σ) : Prop := I (s.moved w) ∧ M s (s.moved w)

/-- A program whose operations all keep the bargain, whatever it answers. What held of
the shared state `s₀` still helps, as far as `M` keeps it. -/
theorem wp_of_uses {P : Op → Prop} (s₀ : Shared Req ε α σ)
    (htrans : ∀ a b c, M a b → M b c → M a c)
    (hop : ∀ o, P o → ∀ s i, M s₀ s → I s → allowed i → Kept I M s (exec i o s.world).2)
    (hQ : ∀ r s w, M s₀ (s.moved w) → Kept I M s w → Q r s w) {p : Prog Op Ret ε β}
    (hp : p.Uses P) :
    ∀ {s w}, M s₀ (s.moved w) → Kept I M s w → p.wp exec allowed I M Q s w := by
  induction p with
  | ret a => exact hQ _ _ _
  | raise e => exact hQ _ _ _
  | call o k ih =>
    intro s w h₀ hk
    refine ⟨hk, fun s' i hM hI ha => ?_⟩
    have h₀' := htrans _ _ _ h₀ hM
    have hk' := hop o hp.1 s' i h₀' hI ha
    exact ih _ (hp.2 _) (htrans _ _ _ h₀' hk'.2) hk'

/-- A program whose result is decided by its last operation, when every operation keeps the
bargain and every last one allows the result. -/
theorem wp_of_ends {R : Option ((o : Op) × Except ε (Ret o)) → Except ε β → Prop}
    (hop : ∀ o s i, I s → allowed i → Kept I M s (exec i o s.world).2)
    (hlast : ∀ o s i r, I s → allowed i → R (some ⟨o, (exec i o s.world).1⟩) r →
      Q r s (exec i o s.world).2)
    {p : Prog Op Ret ε β} {l : Option ((o : Op) × Except ε (Ret o))} (hp : p.Ends R l)
    {s : Shared Req ε α σ} {w : σ} (hk : Kept I M s w) (hl : ∀ r, R l r → Q r s w) :
    p.wp exec allowed I M Q s w := by
  induction p generalizing l s w with
  | ret a => exact hl _ hp
  | raise e => exact hl _ hp
  | call o k ih =>
    exact ⟨hk, fun s' i _ hI ha => ih _ (hp _) (hop o s' i hI ha) fun r => hlast o s' i r hI ha⟩

/-- A waiting program stands before a call, and the bargain holds from there on. -/
def Ready (exec : ι → (o : Op) → σ → Except ε (Ret o) × σ) (allowed : ι → Prop)
    (I : Shared Req ε α σ → Prop) (M : Shared Req ε α σ → Shared Req ε α σ → Prop)
    (Q : Except ε β → Shared Req ε α σ → σ → Prop) (p : Prog Op Ret ε β)
    (s : Shared Req ε α σ) : Prop :=
  match p with
  | .call o k => ∀ s' i, M s s' → I s' → allowed i →
      (k (exec i o s'.world).1).wp exec allowed I M Q s' (exec i o s'.world).2
  | _ => True

theorem Ready.mono (htrans : ∀ a b c, M a b → M b c → M a c) {p : Prog Op Ret ε β}
    {s s' : Shared Req ε α σ} (h : p.Ready exec allowed I M Q s) (hM : M s s') :
    p.Ready exec allowed I M Q s' := by
  cases p with
  | ret a => trivial
  | raise e => trivial
  | call o k => exact fun s'' i hM' => h s'' i (htrans _ _ _ hM hM')

end Prog

/-- Answering `q` now is in order. -/
def Answers (I : Shared Req ε α σ → Prop) (M : Shared Req ε α σ → Shared Req ε α σ → Prop)
    (q : Req) (r : Except ε α) (s : Shared Req ε α σ) (w : σ) : Prop :=
  I (s.answer q r w) ∧ M s (s.answer q r w)

namespace Pool

variable {exec : ι → (o : Op) → σ → Except ε (Ret o) × σ} {serve : Req → Prog Op Ret ε α}
variable {input : ι → Prop} {I : Shared Req ε α σ → Prop}
variable {M : Shared Req ε α σ → Shared Req ε α σ → Prop}

/-- The pool in order: the invariant holds and every request in flight is ready. -/
def Sound (exec : ι → (o : Op) → σ → Except ε (Ret o) × σ) (input : ι → Prop)
    (I : Shared Req ε α σ → Prop) (M : Shared Req ε α σ → Shared Req ε α σ → Prop)
    (c : Pool Op Ret Req ε α σ) : Prop :=
  I c.toShared ∧ ∀ qp ∈ c.waiting, qp.2.Ready exec input I M (Answers I M qp.1) c.toShared

/-- Settling a request whose `wp` holds leaves the pool in order. -/
theorem settle_sound (htrans : ∀ a b c, M a b → M b c → M a c)
    {s : Shared Req ε α σ} {w : σ} {ws : List (Req × Prog Op Ret ε α)} {q : Req}
    {p : Prog Op Ret ε α} (hp : p.wp exec input I M (Answers I M q) s w)
    (hws : ∀ qp ∈ ws, qp.2.Ready exec input I M (Answers I M qp.1) s) :
    (settle s w ws q p).Sound exec input I M ∧ M s (settle s w ws q p).toShared := by
  cases p with
  | ret a => exact ⟨⟨hp.1, fun qp h => (hws qp h).mono htrans hp.2⟩, hp.2⟩
  | raise e => exact ⟨⟨hp.1, fun qp h => (hws qp h).mono htrans hp.2⟩, hp.2⟩
  | call o k =>
    refine ⟨⟨hp.1.1, fun qp h => ?_⟩, hp.1.2⟩
    rcases List.mem_append.1 h with h | h
    · -- the others wait on, above a later state
      exact (hws qp h).mono htrans hp.1.2
    · rw [List.mem_singleton] at h; subst h; exact hp.2

/-- **Soundness.** When every request that may arrive meets its `wp`, the invariant
holds in every pool that a run reaches. -/
theorem Reach.sound {allowed : Shared Req ε α σ → Event Req ι → Prop}
    {c₀ c : Pool Op Ret Req ε α σ} (hrefl : ∀ s, M s s)
    (htrans : ∀ a b c, M a b → M b c → M a c)
    (hturn : ∀ s n i, allowed s (.turn n i) → input i)
    (hserve : ∀ s q, I s → allowed s (.arrive q) →
      (serve q).wp exec input I M (Answers I M q) s s.world)
    (h₀ : c₀.Sound exec input I M) (h : Reach exec serve allowed c₀ c) :
    c.Sound exec input I M ∧ M c₀.toShared c.toShared := by
  induction h with
  | start => exact ⟨h₀, hrefl _⟩
  | @step c _ e he ih =>
    obtain ⟨⟨hI, hw⟩, hM⟩ := ih
    cases e with
    | arrive q =>
      have := settle_sound htrans (hserve _ q hI he) hw
      exact ⟨this.1, htrans _ _ _ hM this.2⟩
    | turn n i =>
      simp only [Pool.step]
      split
      · -- the operation runs in the state that the others have left by now
        rename_i q o k hn
        have hmem : (q, Prog.call o k) ∈ c.waiting := List.mem_of_getElem? hn
        have hp := hw _ hmem c.toShared i (hrefl _) hI (hturn _ n i he)
        have hrest : ∀ qp ∈ c.waiting.eraseIdx n, qp.2.Ready exec input I M (Answers I M qp.1) c.toShared :=
          fun qp h => hw qp (List.mem_of_mem_eraseIdx h)
        have := settle_sound htrans hp hrest
        exact ⟨this.1, htrans _ _ _ hM this.2⟩
      · exact ⟨⟨hI, hw⟩, hM⟩

theorem start_sound {w : σ} (h : I ⟨w, []⟩) :
    (start w : Pool Op Ret Req ε α σ).Sound exec input I M :=
  ⟨h, fun _ h => absurd h List.not_mem_nil⟩

/-! ## A request served alone -/

end Pool

/-- The shared state after request `q` was served with input `i` and nothing else in
flight. -/
def Shared.alone (exec : ι → (o : Op) → σ → Except ε (Ret o) × σ) (serve : Req → Prog Op Ret ε α)
    (i : ι) (s : Shared Req ε α σ) (q : Req) : Shared Req ε α σ :=
  s.answer q ((serve q).run (exec i) s.world).1 ((serve q).run (exec i) s.world).2

namespace Pool

variable {exec : ι → (o : Op) → σ → Except ε (Ret o) × σ} {serve : Req → Prog Op Ret ε α}

/-- A lone waiting request can be driven to its answer with one input. -/
theorem Reach.drive {allowed : Shared Req ε α σ → Event Req ι → Prop}
    {c₀ : Pool Op Ret Req ε α σ} {i : ι} (hi : ∀ s n, allowed s (.turn n i)) {q : Req}
    {p : Prog Op Ret ε α} {s : Shared Req ε α σ} {w : σ}
    (h : Reach exec serve allowed c₀ (settle s w [] q p)) :
    Reach exec serve allowed c₀
      ⟨s.answer q (p.run (exec i) w).1 (p.run (exec i) w).2, []⟩ := by
  induction p generalizing s w with
  | ret a => exact h
  | raise e => exact h
  | call o k ih => exact ih _ (h.step (.turn 0 i) (hi _ 0))

/-- **A request served alone** is a run: from a pool with nothing in flight, the
request arrives and is answered as `run` computes. -/
theorem Reach.alone {allowed : Shared Req ε α σ → Event Req ι → Prop}
    {c₀ : Pool Op Ret Req ε α σ} {i : ι} (hi : ∀ s n, allowed s (.turn n i)) {q : Req}
    {s : Shared Req ε α σ} (hq : allowed s (.arrive q)) (h : Reach exec serve allowed c₀ ⟨s, []⟩) :
    Reach exec serve allowed c₀ ⟨s.alone exec serve i q, []⟩ :=
  Reach.drive (w := s.world) hi (h.step (.arrive q) hq)

end Pool

/-! ## Runs as lists of events -/

namespace Pool

variable (exec : ι → (o : Op) → σ → Except ε (Ret o) × σ) (serve : Req → Prog Op Ret ε α)

/-- The pool after the events. -/
def run (c : Pool Op Ret Req ε α σ) (es : List (Event Req ι)) : Pool Op Ret Req ε α σ :=
  es.foldl (Pool.step exec serve) c

variable {exec serve} {c : Pool Op Ret Req ε α σ} {es : List (Event Req ι)}

@[simp] theorem run_append_singleton (e : Event Req ι) :
    c.run exec serve (es ++ [e]) = (c.run exec serve es).step exec serve e := by
  rw [run, List.foldl_append]; rfl

theorem run_append (es es' : List (Event Req ι)) :
    c.run exec serve (es ++ es') = (c.run exec serve es).run exec serve es' := List.foldl_append

end Pool

end Atomic
