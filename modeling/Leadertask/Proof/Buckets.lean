import Leadertask.Proof.RateLimit

/-!
# The bounds of the token buckets

A bucket is created with a reading of the clock that is taken after `now`, and its first
refill goes backwards in time.

* `CallLaw`: what a call should do, the bounds of every bucket after it included.
* `limiter_law_iff`: every call of a run does so exactly when no bucket is created a second
  or more after its first call's `now`.
-/

namespace Leadertask

/-- The map after the calls. -/
def limiterAfter (calls : List LimiterCall) : RateLimits :=
  calls.foldl (fun m c => (checkRateLimit m c.user c.now c.created).2) fun _ => none

theorem limiterAfter_append (calls : List LimiterCall) (c : LimiterCall) :
    limiterAfter (calls ++ [c]) = (checkRateLimit (limiterAfter calls) c.user c.now c.created).2 := by
  rw [limiterAfter, List.foldl_append]; rfl

/-- What a call on the map `m` should do: leave every bucket between 0 and 2 tokens, admit a
user's first call, admit exactly when a token is there after the refill, and report what is
left, 0 or 1. -/
structure CallLaw (m : RateLimits) (c : LimiterCall) : Prop where
  bounds : ∀ u b, (checkRateLimit m c.user c.now c.created).2 u = some b →
    0 ≤ b.tokens ∧ b.tokens ≤ 2
  first : m c.user = none → (checkRateLimit m c.user c.now c.created).1.1 = true
  admits : (checkRateLimit m c.user c.now c.created).1.1 = true ↔
    1 ≤ ((m c.user).getD (.fresh c.created)).refilled c.now
  remaining : ∀ b, (checkRateLimit m c.user c.now c.created).2 c.user = some b →
    (checkRateLimit m c.user c.now c.created).1.2 = b.tokens ∧ (b.tokens = 0 ∨ b.tokens = 1)

/-- Every call of the run obeys the law. -/
def LimiterLaw (calls : List LimiterCall) : Prop :=
  ∀ pre c post, calls = pre ++ c :: post → CallLaw (limiterAfter pre) c

/-- A call that creates its user's bucket gets its second reading less than a second after
the first. -/
def CreatedWithinSecond (calls : List LimiterCall) : Prop :=
  ∀ u, ∀ c ∈ (callsOf u calls).head?, c.created - c.now < second

namespace TokenBucket

theorem elapsed_nonneg_iff (b : TokenBucket) (now : ℤ) :
    0 ≤ b.elapsed now ↔ b.lastRefill - now < second := by
  unfold elapsed
  rcases Int.le_total b.lastRefill now with h | h
  · have h1 := Int.tdiv_nonneg (show 0 ≤ now - b.lastRefill by omega) second_pos.le
    have := second_pos
    constructor <;> intro <;> omega
  · -- a difference below zero, which the cast rounds up
    rw [show now - b.lastRefill = -(b.lastRefill - now) by omega, Int.neg_tdiv,
      Int.tdiv_eq_ediv_of_nonneg (by omega)]
    have h1 := Int.le_ediv_iff_mul_le (c := second) (a := 1) (b := b.lastRefill - now) second_pos
    omega

/-- One call on a bucket that loses nothing: its outcome and what it leaves. -/
theorem check_law {b : TokenBucket} {now : ℤ} (h0 : 0 ≤ b.tokens) (he : 0 ≤ b.elapsed now) :
    (0 ≤ (b.check now).2.tokens ∧ (b.check now).2.tokens ≤ 2) ∧
      ((b.check now).1.1 = true ↔ 1 ≤ b.refilled now) ∧
      (b.check now).1.2 = (b.check now).2.tokens ∧
      ((b.check now).2.tokens = 0 ∨ (b.check now).2.tokens = 1) := by
  have hr : 0 ≤ b.refilled now ∧ b.refilled now ≤ 2 := by
    unfold refilled maxTokens refillRate
    omega
  unfold check
  split
  · rename_i h
    dsimp only
    exact ⟨⟨by omega, by omega⟩, by simp [h], rfl, by omega⟩
  · rename_i h
    dsimp only
    exact ⟨⟨by omega, by omega⟩, by simp [h], rfl, by omega⟩

theorem check_lastRefill (b : TokenBucket) (now : ℤ) : (b.check now).2.lastRefill = now :=
  (b.check_spends now).2

end TokenBucket

/-! ## Runs -/

/-- A user has a bucket exactly after his first call. -/
theorem limiterAfter_eq_none {calls : List LimiterCall} {u : UserId} :
    limiterAfter calls u = none ↔ callsOf u calls = [] := by
  induction calls using List.reverseRecOn with
  | nil => exact ⟨fun _ => rfl, fun _ => rfl⟩
  | append_singleton calls c ih =>
    rw [limiterAfter_append, callsOf, List.filter_append, ← callsOf]
    simp only [checkRateLimit]
    by_cases hu : c.user = u
    · subst hu
      simp
    · rw [Function.update_of_ne (Ne.symm hu), ih]
      simp [hu]

/-- A call whose refill does not go backwards obeys the law. -/
theorem callLaw_of {m : RateLimits} {c : LimiterCall}
    (hm : ∀ u b, m u = some b → 0 ≤ b.tokens ∧ b.tokens ≤ 2)
    (he : 0 ≤ ((m c.user).getD (.fresh c.created)).elapsed c.now) : CallLaw m c := by
  have h0 : 0 ≤ ((m c.user).getD (.fresh c.created)).tokens := by
    cases hu : m c.user with
    | none => simp [TokenBucket.fresh]
    | some b => exact (hm _ _ hu).1
  obtain ⟨hbounds, hadmits, hrem, hrange⟩ := TokenBucket.check_law h0 he
  refine ⟨fun u b hb => ?_, fun hu => ?_, hadmits, fun b hb => ?_⟩
  · simp only [checkRateLimit] at hb
    by_cases hcu : u = c.user
    · rw [hcu, Function.update_self] at hb
      rw [← Option.some.inj hb]; exact hbounds
    · rw [Function.update_of_ne hcu] at hb
      exact hm u b hb
  · -- a new bucket is full, and stays so
    rw [hu, Option.getD_none] at he
    refine hadmits.2 ?_
    rw [hu, Option.getD_none]
    unfold TokenBucket.refilled TokenBucket.maxTokens TokenBucket.refillRate
    simp only [TokenBucket.fresh] at he ⊢
    omega
  · simp only [checkRateLimit, Function.update_self] at hb
    rw [← Option.some.inj hb]
    exact ⟨hrem, hrange⟩

section

variable {calls : List LimiterCall} (hs : Steady calls)
include hs

/-- No refill goes backwards by a second, whatever the buckets hold. -/
theorem elapsed_nonneg (hc : CreatedWithinSecond calls) {pre post : List LimiterCall} {c : LimiterCall}
    (he : calls = pre ++ c :: post)
    (hlast : ∀ u b, limiterAfter pre u = some b → ∃ c' ∈ pre, b.lastRefill = c'.now) :
    0 ≤ ((limiterAfter pre c.user).getD (.fresh c.created)).elapsed c.now := by
  rw [TokenBucket.elapsed_nonneg_iff]
  cases hu : limiterAfter pre c.user with
  | none =>
    refine hc c.user c ?_
    rw [he, callsOf, List.filter_append, ← callsOf, limiterAfter_eq_none.1 hu, List.nil_append,
      List.filter_cons_of_pos (by simp)]
    rfl
  | some b =>
    obtain ⟨c', hc', hb⟩ := hlast _ _ hu
    rw [he] at hs
    have := (List.pairwise_append.1 hs).2.2 c' hc' c List.mem_cons_self
    have := second_pos
    rw [Option.getD_some, hb]
    omega

/-- Before every call of a run, all buckets are within their bounds and were refilled at an
earlier call. -/
theorem buckets_bounded (hc : CreatedWithinSecond calls) {pre : List LimiterCall} (hpre : pre <+: calls)
    {u : UserId} {b : TokenBucket} (hb : limiterAfter pre u = some b) :
    (0 ≤ b.tokens ∧ b.tokens ≤ 2) ∧ ∃ c ∈ pre, b.lastRefill = c.now := by
  induction pre using List.reverseRecOn generalizing u b with
  | nil => simp [limiterAfter] at hb
  | append_singleton pre c ih =>
    obtain ⟨post, he⟩ := hpre
    rw [List.append_assoc, List.singleton_append] at he
    have ih' {u : UserId} {b : TokenBucket} := ih (u := u) (b := b) ⟨c :: post, he⟩
    have hlaw : CallLaw (limiterAfter pre) c := callLaw_of (fun _ _ h => (ih' h).1)
      (elapsed_nonneg hs hc he.symm fun _ _ h => (ih' h).2)
    rw [limiterAfter_append] at hb
    refine ⟨hlaw.bounds u b hb, ?_⟩
    simp only [checkRateLimit] at hb
    by_cases hcu : u = c.user
    · rw [hcu, Function.update_self] at hb
      exact ⟨c, by simp, by rw [← Option.some.inj hb, TokenBucket.check_lastRefill]⟩
    · rw [Function.update_of_ne hcu] at hb
      obtain ⟨c', hc', h⟩ := (ih' hb).2
      exact ⟨c', by simp [hc'], h⟩

end

/-- **When the token buckets keep their bounds.** In a run of calls by any users, with a
clock that never goes back, every call obeys the law if and only if every bucket gets its
first `last_refill` less than a second after the `now` of the call that creates it. -/
theorem limiter_law_iff {calls : List LimiterCall} (hs : Steady calls) :
    LimiterLaw calls ↔ CreatedWithinSecond calls := by
  constructor
  · intro hlaw u c hc
    -- the first call of `u`, on a map without a bucket for him
    rw [callsOf, List.head?_filter, Option.mem_def, List.find?_eq_some_iff_append] at hc
    obtain ⟨hu, pre, post, he, hpre⟩ := hc
    obtain rfl : c.user = u := by simpa using hu
    have hnone : limiterAfter pre c.user = none := by
      rw [limiterAfter_eq_none, callsOf, List.filter_eq_nil_iff]
      exact fun a ha => by simpa using hpre a ha
    have hcall := hlaw pre c post he
    have hone := hcall.admits.1 (hcall.first hnone)
    rw [hnone, Option.getD_none] at hone
    have helapsed : 0 ≤ (TokenBucket.fresh c.created).elapsed c.now := by
      unfold TokenBucket.refilled TokenBucket.maxTokens TokenBucket.refillRate at hone
      simp only [TokenBucket.fresh] at hone ⊢
      omega
    exact (TokenBucket.elapsed_nonneg_iff _ _).1 helapsed
  · intro hc pre c post he
    have hbounded {u : UserId} {b : TokenBucket} :=
      buckets_bounded hs hc (u := u) (b := b) ⟨c :: post, he.symm⟩
    exact callLaw_of (fun _ _ h => (hbounded h).1) (elapsed_nonneg hs hc he fun _ _ h => (hbounded h).2)

/-- Two users, each at first with one reading between the other two. -/
def twoUserCalls : List LimiterCall :=
  [⟨7, 0, 5⟩, ⟨8, 6, 900000000⟩, ⟨7, 900000001, 900000001⟩, ⟨7, 1000000000, 1000000000⟩]

theorem limiter_law_twoUsers : LimiterLaw twoUserCalls ↔ CreatedWithinSecond twoUserCalls :=
  limiter_law_iff (by decide)

/-- A first call that is descheduled for a second between its two readings is turned away. -/
theorem descheduled_call_rejected : ¬ LimiterLaw [⟨7, 0, 1000000000⟩] := by
  intro h
  have := (h [] ⟨7, 0, 1000000000⟩ [] rfl).first rfl
  exact absurd this (by decide)

end Leadertask
