import Mathlib.Data.List.Infix

/-!
# SQL `LIKE`

Matching a text against a pattern in which `%` stands for any run of characters, `_`
for one, and a backslash takes the next character literally.

* `like_contains`: between two `%`, a mask without special characters matches the texts
  that contain it.
* `like_sample`, `sample_le_of_like`: the shortest text that a mask matches.
* `sample_not_infix`: a mask with a special character matches it without being contained in it.
-/

namespace Sql

/-- The text matches the pattern. A pattern that ends in a lone backslash, which the
server reports as an error, matches nothing here. -/
def like : List Char → List Char → Bool
  | [], t => t.isEmpty
  | '%' :: p, t => t.tails.any fun s => like p s
  | '_' :: p, t =>
    match t with
    | [] => false
    | _ :: t' => like p t'
  | ['\\'], _ => false
  | '\\' :: c :: p, t =>
    match t with
    | [] => false
    | d :: t' => c = d && like p t'
  | c :: p, t =>
    match t with
    | [] => false
    | d :: t' => c = d && like p t'

/-- Any run of characters, then the rest of the pattern. -/
theorem like_percent {p t : List Char} :
    like ('%' :: p) t = true ↔ ∃ s, s <:+ t ∧ like p s = true := by
  rw [like, List.any_eq_true]
  exact exists_congr fun s => by rw [List.mem_tails]

theorem like_percent_nil (t : List Char) : like ['%'] t = true :=
  like_percent.2 ⟨[], List.nil_suffix, rfl⟩

/-! ## Masks without special characters -/

/-- Neither a wildcard nor the escape character. -/
def PlainChar (c : Char) : Prop := c ≠ '%' ∧ c ≠ '_' ∧ c ≠ '\\'

instance (c : Char) : Decidable (PlainChar c) := inferInstanceAs (Decidable (_ ∧ _))

/-- No character of the mask is special. -/
def Plain (m : List Char) : Prop := ∀ c ∈ m, PlainChar c

instance (m : List Char) : Decidable (Plain m) := inferInstanceAs (Decidable (∀ c ∈ m, _))

theorem like_cons {c : Char} (hc : PlainChar c) {p t : List Char} :
    like (c :: p) t = true ↔ ∃ s, t = c :: s ∧ like p s = true := by
  obtain ⟨h1, h2, h3⟩ := hc
  cases t with
  | nil => simp [like, h3]
  | cons d t =>
    have hd : like (c :: p) (d :: t) = (c = d && like p t) := by simp [like, h3]
    rw [hd, Bool.and_eq_true, decide_eq_true_eq]
    constructor
    · rintro ⟨rfl, h⟩
      exact ⟨t, rfl, h⟩
    · rintro ⟨s, he, h⟩
      obtain ⟨rfl, rfl⟩ := List.cons.inj he
      exact ⟨rfl, h⟩

/-- A plain mask stands for itself. -/
theorem like_append {m : List Char} (hm : Plain m) {p t : List Char} :
    like (m ++ p) t = true ↔ ∃ s, t = m ++ s ∧ like p s = true := by
  induction m generalizing t with
  | nil => simp
  | cons c m ih =>
    obtain ⟨hc, hm'⟩ := List.forall_mem_cons.1 hm
    rw [List.cons_append, like_cons hc]
    constructor
    · rintro ⟨s, rfl, h⟩
      obtain ⟨s', rfl, h'⟩ := (ih hm').1 h
      exact ⟨s', rfl, h'⟩
    · rintro ⟨s, rfl, h⟩
      exact ⟨m ++ s, rfl, (ih hm').2 ⟨s, rfl, h⟩⟩

/-- **Between two `%`, a plain mask matches the texts that contain it.** -/
theorem like_contains {m : List Char} (hm : Plain m) {t : List Char} :
    like ('%' :: (m ++ ['%'])) t = true ↔ m <:+: t := by
  rw [like_percent, List.infix_iff_prefix_suffix]
  constructor
  · rintro ⟨s, hs, h⟩
    obtain ⟨r, rfl, -⟩ := (like_append hm).1 h
    exact ⟨_, List.prefix_append _ _, hs⟩
  · rintro ⟨s, ⟨r, rfl⟩, hs⟩
    exact ⟨_, hs, (like_append hm).2 ⟨r, rfl, like_percent_nil r⟩⟩

/-! ## Masks with special characters -/

/-- A text that the mask and a `%` after it match: no character for `%`, an `x` for `_`,
and what follows an escape as it is. A lone escape at the end takes the `%`. -/
def sample : List Char → List Char
  | [] => []
  | '%' :: m => sample m
  | '_' :: m => 'x' :: sample m
  | ['\\'] => ['%']
  | '\\' :: c :: m => c :: sample m
  | c :: m => c :: sample m

/-- The character in the last case of `sample`. -/
theorem plainChar_of {c : Char} {m : List Char} (h1 : c = '%' → False) (h2 : c = '_' → False)
    (h3 : c = '\\' → m = [] → False) (h4 : ∀ d m', c = '\\' → m = d :: m' → False) :
    PlainChar c := by
  refine ⟨h1, h2, fun h => ?_⟩
  cases m with
  | nil => exact h3 h rfl
  | cons d m' => exact h4 d m' h rfl

theorem like_sample (m : List Char) : like (m ++ ['%']) (sample m) = true := by
  fun_induction sample m with
  | case1 => rfl
  | case2 m ih => exact like_percent.2 ⟨_, List.suffix_rfl, ih⟩
  | case3 m ih => simpa [like] using ih
  | case4 => decide
  | case5 c m ih => simpa [like] using ih
  | case6 c m h1 h2 h3 h4 ih =>
    exact (like_cons (plainChar_of h1 h2 h3 h4)).2 ⟨_, rfl, ih⟩

theorem length_sample_le (m : List Char) : (sample m).length ≤ m.length := by
  fun_induction sample m with
  | case1 => exact le_rfl
  | case2 m ih => exact Nat.le_succ_of_le ih
  | case3 m ih => exact Nat.succ_le_succ ih
  | case4 => exact le_rfl
  | case5 c m ih => exact Nat.le_succ_of_le (Nat.succ_le_succ ih)
  | case6 c m _ _ _ _ ih => exact Nat.succ_le_succ ih

/-- No text that the mask and a `%` after it match is shorter than the sample. -/
theorem sample_le_of_like {m t : List Char} (h : like (m ++ ['%']) t = true) : (sample m).length ≤ t.length := by
  fun_induction sample m generalizing t with
  | case1 => exact Nat.zero_le _
  | case2 m ih =>
    obtain ⟨s, hs, hlike⟩ := like_percent.1 h
    exact (ih hlike).trans hs.length_le
  | case3 m ih =>
    cases t with
    | nil => simp [like] at h
    | cons d t => exact Nat.succ_le_succ (ih (by simpa [like] using h))
  | case4 =>
    cases t with
    | nil => simp [like] at h
    | cons d t => exact Nat.succ_le_succ (Nat.zero_le _)
  | case5 c m ih =>
    cases t with
    | nil => simp [like] at h
    | cons d t =>
      have htail : c = d ∧ like (m ++ ['%']) t = true := by simpa [like] using h
      exact Nat.succ_le_succ (ih htail.2)
  | case6 c m h1 h2 h3 h4 ih =>
    obtain ⟨s, rfl, hlike⟩ := (like_cons (plainChar_of h1 h2 h3 h4)).1 h
    exact Nat.succ_le_succ (ih hlike)

/-- The sample is made of the mask's characters, and of `x` and `%`. -/
theorem mem_sample {m : List Char} {c : Char} (h : c ∈ sample m) : c ∈ m ∨ c = 'x' ∨ c = '%' := by
  fun_induction sample m with
  | case1 => exact absurd h List.not_mem_nil
  | case2 m ih => exact (ih h).imp_left (List.mem_cons_of_mem _)
  | case3 m ih =>
    rcases List.mem_cons.1 h with rfl | h
    · exact .inr (.inl rfl)
    · exact (ih h).imp_left (List.mem_cons_of_mem _)
  | case4 => exact .inr (.inr (List.mem_singleton.1 h))
  | case5 d m ih =>
    rcases List.mem_cons.1 h with rfl | h
    · exact .inl (by simp)
    · exact (ih h).imp_left fun hm => List.mem_cons_of_mem _ (List.mem_cons_of_mem _ hm)
  | case6 d m _ _ _ _ ih =>
    rcases List.mem_cons.1 h with rfl | h
    · exact .inl List.mem_cons_self
    · exact (ih h).imp_left (List.mem_cons_of_mem _)

/-- The mask is its own sample only if it has no special character. -/
theorem plain_of_sample_eq {m : List Char} (h : sample m = m) : Plain m := by
  fun_induction sample m with
  | case1 => exact fun c hc => absurd hc List.not_mem_nil
  | case2 m ih =>
    have := length_sample_le m
    rw [h, List.length_cons] at this
    omega
  | case3 m ih => exact absurd (List.cons.inj h).1 (by decide)
  | case4 => exact absurd h (by decide)
  | case5 c m ih =>
    have := length_sample_le m
    have hlen := congrArg List.length h
    simp only [List.length_cons] at hlen
    omega
  | case6 c m h1 h2 h3 h4 ih =>
    exact List.forall_mem_cons.2 ⟨plainChar_of h1 h2 h3 h4, ih (List.cons.inj h).2⟩

/-- **A mask with a special character** matches a text that does not contain it. -/
theorem sample_not_infix {m : List Char} (hm : ¬ Plain m) : ¬ m <:+: sample m :=
  fun h => hm (plain_of_sample_eq (h.eq_of_length_le (length_sample_le m)).symm)

end Sql
