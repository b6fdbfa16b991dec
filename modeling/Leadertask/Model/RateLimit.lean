import Leadertask.Lib.Keyed
import Leadertask.Model.Basic

/-!
# The rate limiter

`TokenBucket` and `CheckRateLimit`, which six handlers repeat word for word, each over
a `rate_limits` map of its own. A reading of `steady_clock` is a number of nanoseconds.
The code counts tokens in a `double`; it starts at 2, loses 1 or gains an even whole
number at a time and never exceeds 2, so it holds a whole number throughout, here an
integer.
-/

namespace Leadertask

/-- One second of `steady_clock`. -/
def second : ℤ := 1000000000

structure TokenBucket where
  tokens : ℤ
  lastRefill : ℤ
  deriving DecidableEq, Repr

namespace TokenBucket

def maxTokens : ℤ := 2

/-- Tokens for each second elapsed. -/
def refillRate : ℤ := 2

/-- The bucket that `rate_limits[user_id]` creates: `last_refill` is a reading of its own. -/
def fresh (created : ℤ) : TokenBucket := ⟨2, created⟩

/-- `duration_cast<seconds>`, which truncates towards zero. -/
def elapsed (b : TokenBucket) (now : ℤ) : ℤ := (now - b.lastRefill).tdiv second

/-- The tokens after the refill. -/
def refilled (b : TokenBucket) (now : ℤ) : ℤ :=
  min maxTokens (b.tokens + b.elapsed now * refillRate)

/-- Refill, then take a token if there is one: whether the call is admitted, `remaining`,
and the bucket afterwards. -/
def check (b : TokenBucket) (now : ℤ) : (Bool × ℤ) × TokenBucket :=
  -- `last_refill` moves to `now` in both cases, and the fraction of a second that the cast
  -- cut off is lost
  if 1 ≤ b.refilled now then ((true, b.refilled now - 1), ⟨b.refilled now - 1, now⟩)
  else ((false, b.refilled now), ⟨b.refilled now, now⟩)

end TokenBucket

/-- A handler's `rate_limits` map. -/
abbrev RateLimits := UserId → Option TokenBucket

/-- `CheckRateLimit`. `now` is the first reading of the clock and `created` the second,
which is taken only if the call creates the user's bucket. -/
def checkRateLimit (rateLimits : RateLimits) (userId : UserId) (now created : ℤ) :
    (Bool × ℤ) × RateLimits :=
  let bucket := (rateLimits userId).getD (.fresh created)
  ((bucket.check now).1, Function.update rateLimits userId (some (bucket.check now).2))

/-! ## Runs of calls -/

/-- A call of `CheckRateLimit` with its readings of the clock. -/
structure LimiterCall where
  user : UserId
  now : ℤ
  created : ℤ
  deriving DecidableEq, Repr

/-- The calls of a run from the map `m`, each with what it returned. -/
def limiterRunFrom : RateLimits → List LimiterCall → List (LimiterCall × (Bool × ℤ))
  | _, [] => []
  | m, c :: cs =>
    let r := checkRateLimit m c.user c.now c.created
    (c, r.1) :: limiterRunFrom r.2 cs

/-- The calls of a run from an empty map, each with what it returned. -/
def limiterRun (calls : List LimiterCall) : List (LimiterCall × (Bool × ℤ)) :=
  limiterRunFrom (fun _ => none) calls

/-- What a call does to its user's bucket. -/
def bucketStep (b : Option TokenBucket) (c : LimiterCall) : (Bool × ℤ) × TokenBucket :=
  (b.getD (.fresh c.created)).check c.now

/-- A run of `CheckRateLimit` is a run of the users' buckets side by side. -/
theorem limiterRunFrom_eq (m : RateLimits) (calls : List LimiterCall) :
    limiterRunFrom m calls = Keyed.runAll bucketStep LimiterCall.user m calls := by
  induction calls generalizing m with
  | nil => rfl
  | cons c cs ih => rw [limiterRunFrom, Keyed.runAll, ih]; rfl

/-- The clock never goes back. -/
def Steady (calls : List LimiterCall) : Prop := calls.Pairwise fun a b => a.now ≤ b.now

instance (calls : List LimiterCall) : Decidable (Steady calls) :=
  inferInstanceAs (Decidable (calls.Pairwise _))

/-- The calls of one user. -/
def callsOf (u : UserId) (calls : List LimiterCall) : List LimiterCall :=
  calls.filter fun c => c.user = u

/-- The call that creates a user's bucket reads the clock twice within one tick. -/
def CreatedAtOnce (calls : List LimiterCall) : Prop :=
  ∀ u, ∀ c ∈ (callsOf u calls).head?, c.created = c.now

theorem createdAtOnce_of_forall {calls : List LimiterCall} (h : ∀ c ∈ calls, c.created = c.now) :
    CreatedAtOnce calls :=
  fun _ c hc => h c (List.mem_of_mem_filter (List.mem_of_mem_head? hc))

end Leadertask
