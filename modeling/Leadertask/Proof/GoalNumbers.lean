import Leadertask.Model.Views

/-!
# Numbers in paths

`ParseInt` of the status update and the bare `stoll` of tasks-create and tasks-list read the
same path argument. The characters of a text stand for its bytes.

* `parseInt_exact`: which texts `ParseInt` accepts, and with which number.
* `readAlike_iff`: on which texts both read the same.
-/

namespace Leadertask

variable {s : String} {n : Int64} {out : Int64}

/-! ## `ParseInt` -/

/-- `ParseInt` accepts what `stoll` reads to the end. -/
theorem parseInt_true : parseInt s out = (true, n) ↔ stoll s = .ok (n, s.length) := by
  unfold parseInt
  cases h : stoll s with
  | error e => simp
  | ok p =>
    simp only
    split
    · rename_i hp
      constructor
      · simp
      · intro he
        obtain rfl := Except.ok.inj he
        exact absurd rfl hp
    · rename_i hp
      constructor
      · intro he
        rw [← (Prod.mk.inj he).2, ← not_not.1 hp]
      · intro he
        obtain rfl := Except.ok.inj he
        rfl

/-- Where it does not accept, it leaves `out` alone. -/
theorem parseInt_false (h : (parseInt s out).1 = false) : (parseInt s out).2 = out := by
  unfold parseInt at h ⊢
  split
  · rfl
  · split
    · rfl
    · rename_i hs hp
      rw [hs] at h
      simp only [if_neg hp] at h
      exact absurd h (by decide)

/-- It accepts a whole numeral in the range of `long long`. -/
theorem parseInt_true_iff : parseInt s out = (true, n) ↔
    ∃ m : ℤ, Numeral.Denotes s.toList m ∧ -2 ^ 63 ≤ m ∧ m < 2 ^ 63 ∧ n = Int64.ofInt m := by
  rw [parseInt_true, stoll_ok_iff, ← String.length_toList]
  simp only [Numeral.reads_length_iff]

/-- `ParseInt(value, out)` accepts the numerals of `std::int64_t`, white space and a sign
before the digits and nothing after them; then `out` is the number, otherwise it is as before. -/
structure ParsesExactly (value : String) (out : Int64) : Prop where
  accepts : (parseInt value out).1 = true ↔
    ∃ m : ℤ, Numeral.Denotes value.toList m ∧ -2 ^ 63 ≤ m ∧ m ≤ 2 ^ 63 - 1
  number : ∀ m : ℤ, Numeral.Denotes value.toList m → -2 ^ 63 ≤ m → m ≤ 2 ^ 63 - 1 →
    (parseInt value out).2.toInt = m
  unchanged : (parseInt value out).1 = false → (parseInt value out).2 = out

/-- **What `ParseInt` accepts**: exactly the numerals, among them every number that
`std::to_string` prints. -/
theorem parseInt_exact : (∀ value out, ParsesExactly value out) ∧
    ∀ n out, parseInt (stdToString n) out = (true, n) := by
  refine ⟨fun value out => ⟨?_, ?_, parseInt_false⟩, fun n out => ?_⟩
  case refine_1 =>
    constructor
    · intro h
      have hp : parseInt value out = (true, (parseInt value out).2) := Prod.ext h rfl
      obtain ⟨m, hm, hlo, hhi, -⟩ := parseInt_true_iff.1 hp
      exact ⟨m, hm, hlo, by omega⟩
    · rintro ⟨m, hm, hlo, hhi⟩
      have hp : parseInt value out = (true, Int64.ofInt m) :=
        parseInt_true_iff.2 ⟨m, hm, hlo, by omega, rfl⟩
      rw [hp]
  case refine_2 =>
    intro m hm hlo hhi
    have hp : parseInt value out = (true, Int64.ofInt m) :=
      parseInt_true_iff.2 ⟨m, hm, hlo, by omega, rfl⟩
    rw [hp]
    exact Int64.toInt_ofInt_of_le hlo (by omega)
  case refine_3 =>
    rw [parseInt_true, stoll_stdToString, String.length_toList]

-- `stoll` stops at a NUL, and `ParseInt` sees that it did
example : stoll "7\x00" = .ok (7, 1) ∧ parseInt "7\x00" 5 = (false, 5) := by decide

/-! ## The two readings of a goal id -/

/-- `stoll`, as tasks-create and tasks-list call it, and `ParseInt` accept the text both or
neither, and read the same number off it. -/
structure ReadAlike (s : String) : Prop where
  accepts : (∃ n pos, stoll s = .ok (n, pos)) ↔ ∃ n, parseInt s 0 = (true, n)
  same : ∀ n pos m, stoll s = .ok (n, pos) → parseInt s 0 = (true, m) → n = m

/-- More text follows a 64-bit numeral at the front. -/
def TextAfterNumber (s : String) : Prop :=
  ∃ front rest, ∃ m : ℤ, s.toList = front ++ rest ∧ Numeral.Denotes front m ∧ -2 ^ 63 ≤ m ∧
    m < 2 ^ 63 ∧ rest ≠ [] ∧ ∀ c ∈ rest.head?, c.isDigit = false

/-- `stoll` stops before the end exactly where text follows the number. -/
theorem textAfterNumber_iff : TextAfterNumber s ↔ ∃ n pos, stoll s = .ok (n, pos) ∧ pos ≠ s.length := by
  constructor
  · rintro ⟨front, rest, m, hs, hfront, hlo, hhi, hne, hrest⟩
    refine ⟨Int64.ofInt m, front.length, stoll_ok_iff.2 ⟨m, ?_, hlo, hhi, rfl⟩, ?_⟩
    · exact Numeral.reads_iff.2 ⟨front, rest, hs, hfront, rfl, hrest⟩
    · have hpos : 0 < rest.length := List.length_pos_iff.2 hne
      rw [← String.length_toList, hs, List.length_append]
      omega
  · rintro ⟨n, pos, hn, hpos⟩
    obtain ⟨m, hm, hlo, hhi, -⟩ := stoll_ok_iff.1 hn
    obtain ⟨front, rest, hs, hfront, rfl, hrest⟩ := Numeral.reads_iff.1 hm
    refine ⟨front, rest, m, hs, hfront, hlo, hhi, ?_, hrest⟩
    rintro rfl
    rw [← String.length_toList, hs, List.append_nil] at hpos
    exact hpos rfl

/-- **Where the task handlers read one number off a goal id**: on every text but those that
go on after a 64-bit numeral. -/
theorem readAlike_iff (s : String) : ReadAlike s ↔ ¬ TextAfterNumber s := by
  rw [textAfterNumber_iff]
  constructor
  · rintro ⟨haccepts, -⟩ ⟨n, pos, hn, hpos⟩
    obtain ⟨m, hm⟩ := haccepts.1 ⟨n, pos, hn⟩
    -- `ParseInt` has read to the end, and `stoll` reads one way only
    have hend : stoll s = .ok (m, s.length) := parseInt_true.1 hm
    rw [hn] at hend
    exact hpos (Prod.mk.inj (Except.ok.inj hend)).2
  · intro hno
    have hend : ∀ n pos, stoll s = .ok (n, pos) → pos = s.length := fun n pos hn => by
      by_contra hpos
      exact hno ⟨n, pos, hn, hpos⟩
    constructor
    case accepts =>
      constructor
      · rintro ⟨n, pos, hn⟩
        exact ⟨n, parseInt_true.2 (hend n pos hn ▸ hn)⟩
      · rintro ⟨n, hn⟩
        exact ⟨n, s.length, parseInt_true.1 hn⟩
    case same =>
      intro n pos m hn hm
      rw [parseInt_true.1 hm] at hn
      exact (Prod.mk.inj (Except.ok.inj hn)).1.symm

/-- An object id with a letter is a goal number for `stoll` and none for `ParseInt`. -/
theorem hexGoal_not_readAlike : ¬ ReadAlike "65a000000000000000000000" := by
  rintro ⟨haccepts, -⟩
  obtain ⟨n, hn⟩ := haccepts.1 ⟨65, 2, by decide⟩
  have hfalse : parseInt "65a000000000000000000000" 0 = (false, 0) := by decide
  rw [hfalse] at hn
  simp at hn

end Leadertask
