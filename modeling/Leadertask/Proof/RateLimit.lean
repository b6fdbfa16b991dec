import Leadertask.Model.RateLimit
import Mathlib.Data.List.Chain
import Mathlib.Data.List.Induction

/-!
# What the rate limiter admits

Tokens, truncated seconds and admissions, over whole runs of `CheckRateLimit`.

* `limiter_window`: at most `2 + 2 * ⌊T⌋` admissions of one user in any window of
  length `T`.
* `limiter_starves_iff`: the limiter never turns away a user with at most one admission in
  the last second exactly when no user keeps calling at gaps below one second for a
  second or longer.
-/

namespace Leadertask

theorem second_pos : 0 < second := by decide

namespace TokenBucket

/-- One check spends at most what the bucket holds after the refill, and that is at
most 2. -/
theorem check_spends (b : TokenBucket) (now : ℤ) :
    (if (b.check now).1.1 then 1 else 0) + max 0 (b.check now).2.tokens = max 0 (b.refilled now) ∧
      (b.check now).2.lastRefill = now := by
  unfold check
  split
  · simp only [if_true, and_true]; omega
  · simp only [Bool.false_eq_true, if_false, and_true]; omega

theorem refilled_le (b : TokenBucket) (now : ℤ) : b.refilled now ≤ 2 := by
  unfold refilled maxTokens; omega

/-- Between checks the bucket gains two tokens for each whole second. -/
theorem refilled_gain (b : TokenBucket) {now : ℤ} (h : b.lastRefill ≤ now) :
    max 0 (b.refilled now) ≤ max 0 b.tokens + 2 * ((now - b.lastRefill) / second) := by
  have hd : b.elapsed now = (now - b.lastRefill) / second :=
    Int.tdiv_eq_ediv_of_nonneg (by omega)
  have h0 : 0 ≤ (now - b.lastRefill) / second := Int.ediv_nonneg (by omega) (by decide)
  unfold refilled maxTokens refillRate
  rw [hd]
  omega

end TokenBucket

/-! ## Admissions in a window -/

/-- The admissions of user `u` with a reading in `[s, s + T]`. -/
def admittedIn (run : List (LimiterCall × (Bool × ℤ))) (u : UserId) (s T : ℤ) : ℕ :=
  run.countP fun x => x.1.user = u && (x.2.1 && (s ≤ x.1.now && x.1.now ≤ s + T))

/-- Is it an admission with a reading in `[s, e]`? -/
def admittedBetween (s e : ℤ) (x : LimiterCall × (Bool × ℤ)) : Bool :=
  x.2.1 && (s ≤ x.1.now && x.1.now ≤ e)

theorem countP_cons_le (s e : ℤ) (x : LimiterCall × (Bool × ℤ))
    (xs : List (LimiterCall × (Bool × ℤ))) :
    ((x :: xs).countP (admittedBetween s e) : ℤ) ≤
      (if x.2.1 then 1 else 0) + xs.countP (admittedBetween s e) := by
  rw [List.countP_cons]
  cases h : x.2.1 with
  | false => simp [admittedBetween, h]
  | true =>
    rw [if_pos rfl]
    split <;> omega

theorem floor_add_le {a b : ℤ} : a / second + b / second ≤ (a + b) / second := by
  rw [Int.le_ediv_iff_mul_le second_pos, Int.add_mul]
  exact Int.add_le_add (Int.ediv_mul_le _ (by decide)) (Int.ediv_mul_le _ (by decide))

/-- No call after the window is counted. -/
theorem countP_late {s e : ℤ} {b : Option TokenBucket} {calls : List LimiterCall}
    (h : ∀ c ∈ calls, e < c.now) : (Keyed.runOne bucketStep b calls).countP (admittedBetween s e) = 0 := by
  rw [List.countP_eq_zero]
  intro x hx
  have hc : x.1 ∈ calls := by
    rw [← Keyed.map_fst_runOne bucketStep b calls]; exact List.mem_map_of_mem hx
  have := h _ hc
  simp only [admittedBetween, Bool.and_eq_true, decide_eq_true_eq]
  omega

/-- **Amortised**: until `e`, a bucket admits at most its tokens and two more for each
whole second. -/
theorem countP_until (s e : ℤ) : ∀ (calls : List LimiterCall) (b : TokenBucket),
    Steady calls → (∀ c ∈ calls, b.lastRefill ≤ c.now) → b.lastRefill ≤ e →
    ((Keyed.runOne bucketStep (some b) calls).countP (admittedBetween s e) : ℤ) ≤
      max 0 b.tokens + 2 * ((e - b.lastRefill) / second) := by
  intro calls
  induction calls with
  | nil =>
    intro b _ _ he
    have : 0 ≤ (e - b.lastRefill) / second := Int.ediv_nonneg (by omega) (by decide)
    simp only [Keyed.runOne, List.countP_nil]
    omega
  | cons c cs ih =>
    intro b hs hb he
    have h0 : 0 ≤ (e - b.lastRefill) / second := Int.ediv_nonneg (by omega) (by decide)
    obtain ⟨hc, hs'⟩ := List.pairwise_cons.1 hs
    by_cases hce : c.now ≤ e
    · -- the seconds before `c` and after it, each rounded down, are at most those together
      obtain ⟨hspend, hlast⟩ := b.check_spends c.now
      have hgain := b.refilled_gain (hb c List.mem_cons_self)
      have hrest := ih (b.check c.now).2 hs' (by rw [hlast]; exact hc) (by rw [hlast]; exact hce)
      have hfl := floor_add_le (a := c.now - b.lastRefill) (b := e - c.now)
      rw [show c.now - b.lastRefill + (e - c.now) = e - b.lastRefill by omega] at hfl
      rw [hlast] at hrest
      have hcons := countP_cons_le s e (c, (b.check c.now).1)
        (Keyed.runOne bucketStep (some (b.check c.now).2) cs)
      rw [Keyed.runOne]
      simp only [bucketStep, Option.getD_some] at *
      omega
    · rw [countP_late fun d hd => ?_]
      · omega
      · rcases List.mem_cons.1 hd with rfl | hd
        · omega
        · have := hc d hd; omega

/-- A user's bucket admits at most `2 + 2 * ⌊T⌋` calls in a window of length `T`. -/
theorem countP_window (s : ℤ) {T : ℤ} (hT : 0 ≤ T) :
    ∀ (calls : List LimiterCall) (b : Option TokenBucket), Steady calls →
    ((Keyed.runOne bucketStep b calls).countP (admittedBetween s (s + T)) : ℤ) ≤
      2 + 2 * (T / second) := by
  have h0 : 0 ≤ T / second := Int.ediv_nonneg hT (by decide)
  intro calls
  induction calls with
  | nil => intro b _; simp only [Keyed.runOne, List.countP_nil]; omega
  | cons c cs ih =>
    intro b hs
    obtain ⟨hc, hs'⟩ := List.pairwise_cons.1 hs
    by_cases hlo : c.now < s
    · -- before the window
      have hno : admittedBetween s (s + T) (c, (bucketStep b c).1) = false := by
        simp only [admittedBetween, decide_eq_false (show ¬ s ≤ c.now by omega), Bool.false_and,
          Bool.and_false]
      rw [Keyed.runOne, List.countP_cons, hno]
      simpa using ih (some (bucketStep b c).2) hs'
    by_cases hhi : c.now ≤ s + T
    · -- the first call in the window leaves at most two admissions, its own included
      set b₀ := b.getD (.fresh c.created) with hb₀
      obtain ⟨hspend, hlast⟩ := b₀.check_spends c.now
      have hrest := countP_until s (s + T) cs (b₀.check c.now).2 hs' (by rw [hlast]; exact hc)
        (by rw [hlast]; exact hhi)
      have hle := b₀.refilled_le c.now
      have hfl : (s + T - c.now) / second ≤ T / second :=
        Int.ediv_le_ediv second_pos (by omega)
      -- and after it two more for each second that is left of the window
      rw [hlast] at hrest
      have hcons := countP_cons_le s (s + T) (c, (b₀.check c.now).1)
        (Keyed.runOne bucketStep (some (b₀.check c.now).2) cs)
      rw [Keyed.runOne]
      simp only [bucketStep, ← hb₀] at *
      omega
    · rw [countP_late fun d hd => ?_]
      · omega
      · rcases List.mem_cons.1 hd with rfl | hd
        · omega
        · have := hc d hd; omega

/-- The calls of one user are answered as by a limiter of that user alone. -/
theorem limiterRun_filter (calls : List LimiterCall) (u : UserId) :
    (limiterRun calls).filter (fun x => x.1.user = u) =
      Keyed.runOne bucketStep none (callsOf u calls) := by
  rw [limiterRun, limiterRunFrom_eq]
  exact Keyed.filter_runAll bucketStep LimiterCall.user (fun _ => none) calls u

/-- **No window admits too much.** In every run of calls by any users with a clock that
never goes back, user `u` is admitted at most `2 + 2 * ⌊T in seconds⌋` times with
readings in `[s, s + T]`, so at most twice in less than a second. -/
theorem limiter_window (calls : List LimiterCall) (h : Steady calls) (u : UserId) (s T : ℤ)
    (hT : 0 ≤ T) :
    (admittedIn (limiterRun calls) u s T : ℤ) ≤ 2 + 2 * (T / second) ∧
      (T < second → admittedIn (limiterRun calls) u s T ≤ 2) := by
  have hmain : (admittedIn (limiterRun calls) u s T : ℤ) ≤ 2 + 2 * (T / second) := by
    have hu := countP_window s hT (callsOf u calls) none (h.sublist List.filter_sublist)
    rw [← limiterRun_filter, List.countP_filter] at hu
    rw [admittedIn]
    simpa only [admittedBetween, Bool.and_comm] using hu
  refine ⟨hmain, fun hlt => ?_⟩
  rw [Int.ediv_eq_zero_of_lt hT hlt] at hmain
  omega

/-- Four calls within a second, of which two are admitted. -/
theorem limiter_window_four :
    (admittedIn (limiterRun [⟨7, 0, 0⟩, ⟨7, 1, 1⟩, ⟨8, 1, 2⟩, ⟨7, 2, 2⟩]) 7 0 5 : ℤ) ≤ 2 + 2 * (5 / second) ∧
      (5 < second → admittedIn (limiterRun [⟨7, 0, 0⟩, ⟨7, 1, 1⟩, ⟨8, 1, 2⟩, ⟨7, 2, 2⟩]) 7 0 5 ≤ 2) :=
  limiter_window _ (by decide) 7 0 5 (by decide)

/-! ## Bursts

Readings are kept latest first here. -/

/-- The readings from which a call at `t` can be reached over gaps below one second. -/
def burst (t : ℤ) : List ℤ → List ℤ
  | [] => []
  | x :: xs => if t - x < second then x :: burst x xs else []

/-- The readings that were admitted: the first two of each burst. -/
def admittedReadings : List ℤ → List ℤ
  | [] => []
  | x :: xs =>
    if (burst x xs).length < 2 then x :: admittedReadings xs else admittedReadings xs

/-- The bucket after calls with these readings. -/
def bucketAfter : List ℤ → Option TokenBucket
  | [] => none
  | x :: xs => some ⟨if burst x xs = [] then 1 else 0, x⟩

/-- A call finds a token exactly if it is among the first two of its burst, whatever
happened before the burst. -/
theorem bucketStep_after {hist : List ℤ} {c : LimiterCall} (hc : hist = [] → c.created = c.now)
    (hs : (c.now :: hist).Pairwise (· ≥ ·)) :
    ((bucketStep (bucketAfter hist) c).1.1 = true ↔ (burst c.now hist).length < 2) ∧
      some (bucketStep (bucketAfter hist) c).2 = bucketAfter (c.now :: hist) := by
  cases hist with
  | nil =>
    have : (TokenBucket.fresh c.now).refilled c.now = 2 := by
      simp only [TokenBucket.refilled, TokenBucket.elapsed, TokenBucket.fresh, Int.sub_self,
        Int.zero_tdiv]
      rfl
    simp [bucketStep, bucketAfter, burst, TokenBucket.check, hc rfl, this]
  | cons x xs =>
    have hx : x ≤ c.now := (List.pairwise_cons.1 hs).1 x List.mem_cons_self
    set tok : ℤ := if burst x xs = [] then 1 else 0 with htok
    have htok' : 0 ≤ tok ∧ tok ≤ 1 := by rw [htok]; split <;> decide
    have hd : (TokenBucket.mk tok x).elapsed c.now = (c.now - x) / second :=
      Int.tdiv_eq_ediv_of_nonneg (show 0 ≤ c.now - x by omega)
    by_cases hgap : c.now - x < second
    · -- within the burst no refill comes
      have hb : burst c.now (x :: xs) = x :: burst x xs := if_pos hgap
      have h0 : (TokenBucket.mk tok x).refilled c.now = tok := by
        rw [TokenBucket.refilled, hd, Int.ediv_eq_zero_of_lt (by omega) hgap]
        simp only [TokenBucket.maxTokens]; omega
      simp only [bucketStep, bucketAfter, ← htok, Option.getD_some, TokenBucket.check, h0, hb]
      cases hbx : burst x xs with
      | nil => simp [htok, hbx]
      | cons y ys => simp [htok, hbx]
    · -- a whole second fills the bucket
      have hb : burst c.now (x :: xs) = [] := if_neg hgap
      have h1 : 1 ≤ (c.now - x) / second := by
        rw [Int.le_ediv_iff_mul_le second_pos]; omega
      have h2 : (TokenBucket.mk tok x).refilled c.now = 2 := by
        rw [TokenBucket.refilled, hd]
        simp only [TokenBucket.maxTokens, TokenBucket.refillRate]; omega
      simp [bucketStep, bucketAfter, ← htok, TokenBucket.check, h2, hb]

/-- What each call of a user's run was answered, with the readings before it. -/
theorem runOne_burst : ∀ (calls : List LimiterCall) (hist : List ℤ),
    (hist = [] → ∀ c ∈ calls.head?, c.created = c.now) →
    ((calls.map LimiterCall.now).reverse ++ hist).Pairwise (· ≥ ·) →
    ∀ pre c r post, Keyed.runOne bucketStep (bucketAfter hist) calls = pre ++ (c, r) :: post →
      (r.1 = true ↔ (burst c.now ((pre.map (·.1.now)).reverse ++ hist)).length < 2) := by
  intro calls
  induction calls with
  | nil => intro hist _ _ pre c r post h; simp [Keyed.runOne] at h
  | cons d ds ih =>
    intro hist hcr hs pre c r post h
    have hs' : ((ds.map LimiterCall.now).reverse ++ d.now :: hist).Pairwise (· ≥ ·) := by
      simpa using hs
    have hd : (d.now :: hist).Pairwise (· ≥ ·) := (List.pairwise_append.1 hs').2.1
    obtain ⟨hadm, hnext⟩ := bucketStep_after (fun he => hcr he d rfl) hd
    rw [Keyed.runOne, hnext] at h
    cases pre with
    | nil =>
      obtain ⟨h1, -⟩ := List.cons.inj h
      obtain ⟨rfl, rfl⟩ := Prod.mk.inj h1
      exact hadm
    | cons p pre =>
      obtain ⟨rfl, h2⟩ := List.cons.inj h
      have := ih (d.now :: hist) (fun he => absurd he (by simp)) hs' pre c r post h2
      simpa using this

/-! ### Bursts and the last second -/

/-- Who calls in a burst at least two calls old was admitted twice in it. -/
theorem admitted_of_burst {t : ℤ} {hist : List ℤ} (h : 2 ≤ (burst t hist).length) :
    ∃ x y, [x, y].Sublist (admittedReadings hist) ∧ x ∈ burst t hist ∧ y ∈ burst t hist := by
  induction hist generalizing t with
  | nil => simp [burst] at h
  | cons x xs ih =>
    rw [burst] at h ⊢
    by_cases hgap : t - x < second
    · rw [if_pos hgap] at h ⊢
      rw [admittedReadings]
      by_cases hx : (burst x xs).length < 2
      · rw [if_pos hx]
        cases xs with
        | nil => simp [burst] at h
        | cons y ys =>
          rw [burst] at h hx ⊢
          by_cases hxy : x - y < second
          · rw [if_pos hxy] at hx ⊢
            have hy : (burst y ys).length < 2 := by rw [List.length_cons] at hx; omega
            refine ⟨x, y, ?_, by simp, by simp⟩
            rw [admittedReadings, if_pos hy]
            exact ((List.nil_sublist _).cons_cons y).cons_cons x
          · rw [if_neg hxy] at h; simp at h
      · rw [if_neg hx]
        obtain ⟨a, b, hs, ha, hb⟩ := ih (t := x) (by omega)
        exact ⟨a, b, hs, List.mem_cons_of_mem _ ha, List.mem_cons_of_mem _ hb⟩
    · rw [if_neg hgap] at h; simp at h

/-- A burst of one call is the call before, less than a second ago. -/
theorem burst_single {t b : ℤ} {hist : List ℤ} (hlen : (burst t hist).length < 2)
    (hb : b ∈ burst t hist) : t - b < second ∧ ∃ xs, hist = b :: xs := by
  cases hist with
  | nil => simp [burst] at hb
  | cons x xs =>
    rw [burst] at hb hlen
    split at hb
    · rename_i hgap
      rw [if_pos hgap, List.length_cons] at hlen
      have hnil : burst x xs = [] := by rw [← List.length_eq_zero_iff]; omega
      rw [hnil, List.mem_singleton] at hb
      subst hb; exact ⟨hgap, xs, rfl⟩
    · simp at hb

theorem admittedReadings_sublist (hist : List ℤ) : (admittedReadings hist).Sublist hist := by
  induction hist with
  | nil => exact List.Sublist.slnil
  | cons x xs ih =>
    rw [admittedReadings]
    split
    · exact ih.cons_cons x
    · exact ih.cons x

theorem countP_old {hist : List ℤ} {θ : ℤ} (h : ∀ x ∈ hist, x ≤ θ) :
    (admittedReadings hist).countP (fun x => θ < x) = 0 := by
  rw [List.countP_eq_zero]
  intro x hx
  have := h x ((admittedReadings_sublist hist).subset hx)
  simp only [decide_eq_true_eq]; omega

/-- In a burst that reaches back to `θ`, at most one admission is later than `θ`. -/
theorem admitted_few {t θ : ℤ} {hist : List ℤ} (hs : hist.Pairwise (· ≥ ·))
    (h : ∃ b ∈ burst t hist, b ≤ θ) : (admittedReadings hist).countP (fun x => θ < x) ≤ 1 := by
  induction hist generalizing t with
  | nil => simp [burst] at h
  | cons x xs ih =>
    obtain ⟨hx, hs'⟩ := List.pairwise_cons.1 hs
    obtain ⟨b, hb, hbθ⟩ := h
    rw [burst] at hb
    split at hb
    · rcases List.mem_cons.1 hb with rfl | hb
      · rw [countP_old fun y hy => ?_]
        · omega
        · rcases List.mem_cons.1 hy with rfl | hy
          · exact hbθ
          · have := hx y hy; omega
      · rw [admittedReadings]
        split
        · -- `x` is admitted itself, as one of the first two of its burst
          rename_i hlen
          -- `b` is the call before `x`
          obtain ⟨-, ys, rfl⟩ := burst_single hlen hb
          have hold : ∀ y ∈ b :: ys, y ≤ θ := by
            intro y hy
            rcases List.mem_cons.1 hy with rfl | hy
            · exact hbθ
            · have := (List.pairwise_cons.1 hs').1 y hy; omega
          have hcons : (x :: admittedReadings (b :: ys)).countP (fun x => θ < x) ≤
              (admittedReadings (b :: ys)).countP (fun x => θ < x) + 1 := by
            rw [List.countP_cons]; split <;> omega
          rw [countP_old hold] at hcons
          exact hcons
        · exact ih hs' ⟨b, hb, hbθ⟩
    · simp at hb

/-- One call: it is admitted whenever at most one admission is less than a second old
exactly if its burst is less than a second old. -/
theorem polite_call {t : ℤ} {hist : List ℤ} (hs : hist.Pairwise (· ≥ ·)) :
    ((admittedReadings hist).countP (fun x => t - second < x) ≤ 1 → (burst t hist).length < 2) ↔
      ∀ b ∈ burst t hist, t - b < second := by
  constructor
  · intro h b hb
    by_contra hlate
    -- a burst that old leaves one recent admission, so the call is admitted
    have hlen := h (admitted_few hs ⟨b, hb, by omega⟩)
    exact hlate (burst_single hlen hb).1
  · intro h hcount
    by_contra hlen
    -- two calls of the burst were admitted, and both are recent
    obtain ⟨x, y, hsub, hx, hy⟩ := admitted_of_burst (Nat.le_of_not_lt hlen)
    have h2 := hsub.countP_le (p := fun x => decide (t - second < x))
    have hx' := h x hx
    have hy' := h y hy
    have h3 : [x, y].countP (fun x => decide (t - second < x)) = 2 := by
      simp [show t - second < x by omega, show t - second < y by omega]
    omega

/-! ### Runs -/

/-- The calls of one user's run that were admitted are the first two of each burst. -/
theorem countP_admitted (θ : ℤ) : ∀ run : List (LimiterCall × (Bool × ℤ)),
    (∀ pre c r post, run = pre ++ (c, r) :: post →
      (r.1 = true ↔ (burst c.now (pre.map (·.1.now)).reverse).length < 2)) →
    run.countP (fun x => x.2.1 && θ < x.1.now) =
      (admittedReadings (run.map (·.1.now)).reverse).countP (fun x => θ < x) := by
  intro run
  -- from the end: the latest reading is the head of the reversed list
  induction run using List.reverseRecOn with
  | nil => intro _; rfl
  | append_singleton run x ih =>
    intro h
    have hx := h run x.1 x.2 [] rfl
    have hrun := ih fun pre c r post he => h pre c r (post ++ [x]) (by rw [he]; simp)
    rw [List.countP_append, hrun, List.map_append, List.reverse_append]
    simp only [List.map_singleton, List.reverse_singleton, List.singleton_append, admittedReadings]
    by_cases hb : (burst x.1.now (run.map (·.1.now)).reverse).length < 2
    · rw [if_pos hb]
      simp [hx.2 hb, List.countP_cons]
    · have hno : x.2.1 = false := by
        cases hr : x.2.1 with
        | false => rfl
        | true => exact absurd (hx.1 hr) hb
      rw [if_neg hb]
      simp [hno]

/-- Readings at gaps below one second, up to `t`, are in the burst of `t`. -/
theorem mem_burst_of_chain {t : ℤ} {l hist : List ℤ} (hl : l <+: hist)
    (hc : (t :: l).IsChain fun a b => a - b < second) : ∀ b ∈ l, b ∈ burst t hist := by
  induction l generalizing t hist with
  | nil => intro b hb; exact absurd hb List.not_mem_nil
  | cons x l ih =>
    obtain ⟨s, rfl⟩ := hl
    obtain ⟨hgap, hc'⟩ := List.isChain_cons_cons.1 hc
    intro b hb
    rw [List.cons_append, burst, if_pos hgap]
    rcases List.mem_cons.1 hb with rfl | hb
    · exact List.mem_cons_self
    · exact List.mem_cons_of_mem _ (ih (List.prefix_append _ _) hc' b hb)

theorem chain_of_mem_burst {t b : ℤ} {hist : List ℤ} (hb : b ∈ burst t hist) :
    ∃ l, l ++ [b] <+: hist ∧ (t :: (l ++ [b])).IsChain fun a b => a - b < second := by
  induction hist generalizing t with
  | nil => simp [burst] at hb
  | cons x xs ih =>
    rw [burst] at hb
    split at hb
    · rename_i hgap
      rcases List.mem_cons.1 hb with rfl | hb
      · exact ⟨[], by simp, by simpa using hgap⟩
      · obtain ⟨l, hl, hc⟩ := ih hb
        refine ⟨x :: l, ?_, List.isChain_cons_cons.2 ⟨hgap, hc⟩⟩
        rw [List.cons_append, List.cons_prefix_cons]
        exact ⟨rfl, hl⟩
    · simp at hb

/-- The calls follow each other by less than a second only for less than a second. -/
def ShortBursts (times : List ℤ) : Prop :=
  ∀ l, l <:+: times → l.IsChain (fun a b => b - a < second) →
    ∀ a ∈ l.head?, ∀ b ∈ l.getLast?, b - a < second

theorem shortBursts_iff {times : List ℤ} :
    ShortBursts times ↔
      ∀ pre t post, times = pre ++ t :: post → ∀ b ∈ burst t pre.reverse, t - b < second := by
  constructor
  · intro h pre t post he b hb
    obtain ⟨l, ⟨s, hs⟩, hc⟩ := chain_of_mem_burst hb
    refine h (b :: l.reverse ++ [t]) ⟨s.reverse, post, ?_⟩ ?_ b rfl t List.getLast?_concat
    · rw [he, show pre = s.reverse ++ (b :: l.reverse) by simpa using (congrArg List.reverse hs).symm]
      simp
    · have := List.isChain_reverse.2 hc
      simpa using this
  · rintro h l ⟨p, s, rfl⟩ hc a ha b hb
    obtain ⟨m, rfl⟩ : ∃ m, l = m ++ [b] := by
      obtain ⟨hne, rfl⟩ := List.mem_getLast?_eq_getLast hb
      exact ⟨l.dropLast, (List.dropLast_append_getLast hne).symm⟩
    cases m with
    | nil =>
      obtain rfl : b = a := by simpa using ha
      rw [Int.sub_self]; exact second_pos
    | cons x m =>
      obtain rfl : x = a := by simpa using ha
      have hc' : (b :: (x :: m).reverse).IsChain fun a b => a - b < second := by
        have := List.isChain_reverse.2 hc
        simpa using this
      refine h (p ++ x :: m) b s (by simp) x (mem_burst_of_chain ?_ hc' x (by simp))
      rw [List.reverse_append]
      exact List.prefix_append _ _

/-- The admissions of `c`'s user in the second that ends with `c`. -/
def recentlyAdmitted (pre : List (LimiterCall × (Bool × ℤ))) (c : LimiterCall) : ℕ :=
  pre.countP fun x => x.1.user = c.user && (x.2.1 && (c.now - second < x.1.now && x.1.now ≤ c.now))

/-- A call with at most one admission of its user in the last second is admitted. -/
def NeverStarves (run : List (LimiterCall × (Bool × ℤ))) : Prop :=
  ∀ pre c r post, run = pre ++ (c, r) :: post → recentlyAdmitted pre c ≤ 1 → r.1 = true

theorem recentlyAdmitted_eq (pre : List (LimiterCall × (Bool × ℤ))) (c : LimiterCall) :
    recentlyAdmitted pre c = (pre.filter fun x => x.1.user = c.user).countP
      fun x => x.2.1 && (c.now - second < x.1.now && x.1.now ≤ c.now) := by
  rw [recentlyAdmitted, List.countP_filter]
  simp only [Bool.and_comm]

/-- A user's run: the property holds at a call exactly if the burst of the call is short. -/
theorem polite_split {calls : List LimiterCall} (hs : Steady calls)
    (hcr : ∀ c ∈ calls.head?, c.created = c.now) {pre post : List (LimiterCall × (Bool × ℤ))}
    {c : LimiterCall} {r : Bool × ℤ}
    (he : Keyed.runOne bucketStep none calls = pre ++ (c, r) :: post) :
    (pre.countP (fun x => x.2.1 && (c.now - second < x.1.now && x.1.now ≤ c.now)) ≤ 1 → r.1 = true) ↔
      ∀ b ∈ burst c.now (pre.map (·.1.now)).reverse, c.now - b < second := by
  have hnow : calls.map LimiterCall.now = pre.map (·.1.now) ++ c.now :: post.map (·.1.now) := by
    rw [← Keyed.map_fst_runOne bucketStep none calls, he]; simp [Function.comp_def]
  have hle : (pre.map (·.1.now) ++ c.now :: post.map (·.1.now)).Pairwise (· ≤ ·) := by
    rw [← hnow]; exact List.pairwise_map.2 hs
  have hdesc : ((calls.map LimiterCall.now).reverse ++ []).Pairwise (· ≥ ·) := by
    rw [List.append_nil, hnow]; exact List.pairwise_reverse.2 hle
  have hburst := runOne_burst calls [] (fun _ => hcr) hdesc
  simp only [List.append_nil] at hburst
  have hpre : (pre.map (·.1.now)).reverse.Pairwise (· ≥ ·) :=
    List.pairwise_reverse.2 (List.pairwise_append.1 hle).1
  have hcount := countP_admitted (c.now - second) pre fun p d q s hp =>
    hburst p d q (s ++ (c, r) :: post) (by
      show Keyed.runOne bucketStep none calls = _
      rw [he, hp, List.append_assoc, List.cons_append])
  have hsame : pre.countP (fun x => x.2.1 && (c.now - second < x.1.now && x.1.now ≤ c.now)) =
      pre.countP (fun x => x.2.1 && c.now - second < x.1.now) := by
    apply List.countP_congr
    intro x hx
    have : x.1.now ≤ c.now :=
      (List.pairwise_append.1 hle).2.2 _ (List.mem_map_of_mem hx) _ List.mem_cons_self
    simp [this]
  rw [hsame, hcount, hburst pre c r post he]
  exact polite_call hpre

/-- **When the limiter starves a polite user.** In a run of calls by any users with a clock
that never goes back and buckets created within one tick, every call with at most one
admission of its user in the last second is admitted if and only if no user keeps
calling at gaps below one second for a second or longer. -/
theorem limiter_starves_iff (calls : List LimiterCall) (hs : Steady calls) (hcr : CreatedAtOnce calls) :
    NeverStarves (limiterRun calls) ↔ ∀ u, ShortBursts ((callsOf u calls).map LimiterCall.now) := by
  have hsplit (u : UserId) {pre post c r}
      (he : Keyed.runOne bucketStep none (callsOf u calls) = pre ++ (c, r) :: post) :=
    polite_split (hs.sublist List.filter_sublist) (hcr u) he
  constructor
  · intro h u
    rw [shortBursts_iff]
    intro pre t post he
    rw [← Keyed.map_fst_runOne bucketStep none (callsOf u calls), List.map_map] at he
    obtain ⟨pre', rest, hrun, rfl, hrest⟩ := List.map_eq_append_iff.1 he
    obtain ⟨⟨c, r⟩, post', rfl, rfl, rfl⟩ := List.map_eq_cons_iff.1 hrest
    -- the split of the user's run comes from a split of the run of all users
    have hall := limiterRun_filter calls u
    rw [hrun, List.filter_eq_append_iff] at hall
    obtain ⟨p, q, hpq, hp, hq⟩ := hall
    rw [List.filter_eq_cons_iff] at hq
    obtain ⟨q₁, q₂, rfl, hq₁, hc, hq₂⟩ := hq
    have hc' : c.user = u := by simpa using hc
    refine (hsplit u hrun).1 fun hle => h (p ++ q₁) c r q₂ (by rw [hpq]; simp) ?_
    rw [recentlyAdmitted_eq, hc', List.filter_append, hp, List.filter_eq_nil_iff.2 hq₁, List.append_nil]
    exact hle
  · intro h pre c r post he hle
    have hrun := limiterRun_filter calls c.user
    rw [he, List.filter_append, List.filter_cons_of_pos (by simp)] at hrun
    refine (hsplit c.user hrun.symm).2 ?_ (by rw [← recentlyAdmitted_eq]; exact hle)
    refine shortBursts_iff.1 (h c.user) _ c.now
      ((post.filter fun x => x.1.user = c.user).map (·.1.now)) ?_
    rw [← Keyed.map_fst_runOne bucketStep none (callsOf c.user calls), ← hrun]
    simp [Function.comp_def]

/-- Two calls at once, then one every 0.6 s: the last one comes 1.2 s after the last
admission. -/
def steadyCaller : List LimiterCall :=
  [⟨1, 0, 0⟩, ⟨1, 0, 0⟩, ⟨1, 600000000, 600000000⟩, ⟨1, 1200000000, 1200000000⟩]

/-- The last call has no admission in the second before it and is turned away. -/
theorem limiter_starves_steadyCaller :
    Steady steadyCaller ∧ CreatedAtOnce steadyCaller ∧ ¬ NeverStarves (limiterRun steadyCaller) := by
  refine ⟨by decide, createdAtOnce_of_forall (by decide), fun h => ?_⟩
  have := h ((limiterRun steadyCaller).take 3) ⟨1, 1200000000, 1200000000⟩ (false, 0) []
    (by decide) (by decide)
  exact absurd this (by decide)

/-- Two calls at once and a third 0.6 s later are a burst short enough. -/
theorem limiter_starves_iff_three :
    NeverStarves (limiterRun (steadyCaller.take 3)) ↔
      ∀ u, ShortBursts ((callsOf u (steadyCaller.take 3)).map LimiterCall.now) :=
  limiter_starves_iff _ (by decide) (createdAtOnce_of_forall (by decide))

end Leadertask
