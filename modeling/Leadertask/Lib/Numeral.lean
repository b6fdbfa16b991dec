import Mathlib.Data.Int.Notation
import Mathlib.Data.List.Basic
import Mathlib.Data.List.Induction
import Mathlib.Data.List.TakeWhile
import Mathlib.Order.Basic
import Mathlib.Tactic.Common

/-!
# Decimal numerals at the front of a text

`scan` reads the longest decimal numeral at the front of a text the way C's
`strtoll` does: white space, one optional sign, digits; whatever follows is left
alone. It answers with the number and how much it read.

* `scan_toString`: a printed integer reads back as itself, to the end.
* `scan_digit`: a text that begins with a digit reads as its leading digits.
* `scan_eq_some`: the texts that `scan` reads a number off, and which number.
* `reads_iff`, `reads_length_iff`: a numeral at the front of a text, or the whole of it.
* `canonical_iff`: the texts that a printed integer can have.
-/

namespace Numeral

/-- White space of the C locale. -/
def isSpace (c : Char) : Bool :=
  c = ' ' || c = '\t' || c = '\n' || c = '\x0b' || c = '\x0c' || c = '\r'

/-- The leading digits: their number and how many they are. -/
def scanUnsigned (cs : List Char) : Option (ℕ × ℕ) :=
  let ds := cs.takeWhile Char.isDigit
  if ds.isEmpty then none else some (Nat.ofDigitChars 10 ds 0, ds.length)

/-- An optional sign, then digits. -/
def scanSigned : List Char → Option (ℤ × ℕ)
  | '-' :: cs => (scanUnsigned cs).map fun r => (-(r.1 : ℤ), r.2 + 1)
  | '+' :: cs => (scanUnsigned cs).map fun r => ((r.1 : ℤ), r.2 + 1)
  | cs => (scanUnsigned cs).map fun r => ((r.1 : ℤ), r.2)

/-- White space, then a signed numeral. -/
def scan (cs : List Char) : Option (ℤ × ℕ) :=
  (scanSigned (cs.dropWhile isSpace)).map fun r => (r.1, (cs.takeWhile isSpace).length + r.2)

theorem digit_ne {c d : Char} (hc : c.isDigit = true) (hd : d.isDigit = false) : c ≠ d := by
  rintro rfl; rw [hc] at hd; exact absurd hd (by decide)

theorem isSpace_digit {c : Char} (hc : c.isDigit = true) : isSpace c = false := by
  have h (d : Char) (hd : d.isDigit = false) : decide (c = d) = false := by
    simpa using digit_ne hc hd
  simp only [isSpace, h ' ' (by decide), h '\t' (by decide), h '\n' (by decide),
    h '\x0b' (by decide), h '\x0c' (by decide), h '\r' (by decide), Bool.or_self]

theorem scanSigned_digit {c : Char} (hc : c.isDigit = true) (cs : List Char) :
    scanSigned (c :: cs) = (scanUnsigned (c :: cs)).map fun r => ((r.1 : ℤ), r.2) := by
  have h1 : c ≠ '-' := digit_ne hc (by decide)
  have h2 : c ≠ '+' := digit_ne hc (by decide)
  unfold scanSigned
  split
  · rename_i h; exact absurd (List.cons.inj h).1 h1
  · rename_i h; exact absurd (List.cons.inj h).1 h2
  · rfl

/-- A text that begins with a digit reads as its leading digits. -/
theorem scan_digit {c : Char} (hc : c.isDigit = true) (cs : List Char) :
    scan (c :: cs) = some ((Nat.ofDigitChars 10 ((c :: cs).takeWhile Char.isDigit) 0 : ℤ),
      ((c :: cs).takeWhile Char.isDigit).length) := by
  have hs := isSpace_digit hc
  rw [scan, List.dropWhile_cons_of_neg (by simp [hs]), List.takeWhile_cons_of_neg (by simp [hs]),
    scanSigned_digit hc]
  simp [scanUnsigned, List.takeWhile_cons_of_pos hc]

/-- A text that begins with neither white space, sign nor digit has no numeral. -/
theorem scan_none {c : Char} (hs : isSpace c = false) (h1 : c ≠ '-') (h2 : c ≠ '+')
    (hc : c.isDigit = false) (cs : List Char) : scan (c :: cs) = none := by
  have hu : scanUnsigned (c :: cs) = none := by
    simp [scanUnsigned, List.takeWhile_cons_of_neg (p := Char.isDigit) (a := c) (by simp [hc])]
  rw [scan, List.dropWhile_cons_of_neg (by simp [hs])]
  unfold scanSigned
  split
  · rename_i h; exact absurd (List.cons.inj h).1 h1
  · rename_i h; exact absurd (List.cons.inj h).1 h2
  · rw [hu]; rfl

theorem takeWhile_digits {ds : List Char} (h : ∀ c ∈ ds, c.isDigit = true) :
    ds.takeWhile Char.isDigit = ds := List.takeWhile_eq_self_iff.2 h

/-- The digits of a number, read back to the end. -/
theorem scanUnsigned_toDigits (n : ℕ) :
    scanUnsigned (Nat.toDigits 10 n) = some (n, (Nat.toDigits 10 n).length) := by
  have hd : ∀ c ∈ Nat.toDigits 10 n, c.isDigit = true :=
    fun c hc => Nat.isDigit_of_mem_toDigits (by decide) (by decide) hc
  have hne : (Nat.toDigits 10 n).isEmpty = false := by
    rw [List.isEmpty_eq_false_iff]; exact Nat.toDigits_ne_nil
  simp only [scanUnsigned, takeWhile_digits hd, hne, Nat.ofDigitChars_ten_toDigits]
  rfl

theorem toList_toString_neg {n : ℤ} (h : n < 0) :
    (toString n).toList = '-' :: Nat.toDigits 10 n.natAbs := by
  rw [Int.toString_eq_repr, Int.repr_eq_if, if_neg (by omega), String.toList_append, Nat.toList_repr,
    show (-n).toNat = n.natAbs by omega]
  rfl

theorem toList_toString_nonneg {n : ℤ} (h : 0 ≤ n) : (toString n).toList = Nat.toDigits 10 n.natAbs := by
  rw [Int.toString_eq_repr, Int.repr_eq_if, if_pos h, Nat.toList_repr]
  congr 1; omega

/-- **A printed integer reads back as itself**, to the end of the text. -/
theorem scan_toString (n : ℤ) :
    scan (toString n).toList = some (n, (toString n).toList.length) := by
  obtain ⟨c, cs, hcs⟩ : ∃ c cs, Nat.toDigits 10 n.natAbs = c :: cs :=
    List.exists_cons_of_ne_nil Nat.toDigits_ne_nil
  have hc : c.isDigit = true :=
    Nat.isDigit_of_mem_toDigits (b := 10) (by decide) (by decide) (hcs ▸ List.mem_cons_self)
  have hu := scanUnsigned_toDigits n.natAbs
  rcases Int.lt_or_le n 0 with hn | hn
  · -- the sign is one character more
    have hl : (toString n).toList = '-' :: c :: cs := hcs ▸ toList_toString_neg hn
    have hm : isSpace '-' = false := by decide
    rw [hl, scan, List.dropWhile_cons_of_neg (by simp [hm]),
      List.takeWhile_cons_of_neg (by simp [hm]), scanSigned, ← hcs, hu]
    have habs : -(n.natAbs : ℤ) = n := by omega
    simp only [Option.map_some, habs, List.length_nil, Nat.zero_add, List.length_cons]
  · have hl : (toString n).toList = c :: cs := hcs ▸ toList_toString_nonneg hn
    rw [hl, ← hcs, scan, hcs, List.dropWhile_cons_of_neg (by simp [isSpace_digit hc]),
      List.takeWhile_cons_of_neg (by simp [isSpace_digit hc]), scanSigned_digit hc, ← hcs, hu]
    have habs : (n.natAbs : ℤ) = n := by omega
    simp only [Option.map_some, habs, List.length_nil, Nat.zero_add]

/-! ## The texts that are read -/

inductive Sign where
  | none
  | plus
  | minus
  deriving DecidableEq, Repr

def Sign.chars : Sign → List Char
  | .none => []
  | .plus => ['+']
  | .minus => ['-']

def Sign.apply : Sign → ℕ → ℤ
  | .none, m => m
  | .plus, m => m
  | .minus, m => -(m : ℤ)

/-- The text is white space, a sign or none, digits, and then no digit more. -/
inductive Reads : List Char → ℤ → ℕ → Prop
  | mk (blanks : List Char) (sign : Sign) (ds rest : List Char) (hblanks : ∀ c ∈ blanks, isSpace c = true)
      (hne : ds ≠ []) (hds : ∀ c ∈ ds, c.isDigit = true) (hrest : ∀ c ∈ rest.head?, c.isDigit = false) :
      Reads (blanks ++ (sign.chars ++ (ds ++ rest))) (sign.apply (Nat.ofDigitChars 10 ds 0))
        (blanks.length + (sign.chars.length + ds.length))

theorem takeWhile_digits_append {ds rest : List Char} (hds : ∀ c ∈ ds, c.isDigit = true)
    (hrest : ∀ c ∈ rest.head?, c.isDigit = false) : (ds ++ rest).takeWhile Char.isDigit = ds := by
  rw [List.takeWhile_append_of_pos hds]
  cases rest with
  | nil => simp
  | cons c rest => rw [List.takeWhile_cons_of_neg (by simp [hrest c rfl]), List.append_nil]

theorem scanUnsigned_append {ds rest : List Char} (hne : ds ≠ []) (hds : ∀ c ∈ ds, c.isDigit = true)
    (hrest : ∀ c ∈ rest.head?, c.isDigit = false) :
    scanUnsigned (ds ++ rest) = some (Nat.ofDigitChars 10 ds 0, ds.length) := by
  simp only [scanUnsigned, takeWhile_digits_append hds hrest, List.isEmpty_eq_false_iff.2 hne]
  rfl

theorem head?_dropWhile {p : Char → Bool} {cs : List Char} {c : Char} (hc : c ∈ (cs.dropWhile p).head?) :
    p c = false := by
  have h := List.head?_dropWhile_not p cs
  rw [Option.mem_def.1 hc] at h
  exact h

/-- The texts with digits at their front. -/
theorem scanUnsigned_eq_some {cs : List Char} {r : ℕ × ℕ} (h : scanUnsigned cs = some r) :
    ∃ ds rest, cs = ds ++ rest ∧ ds ≠ [] ∧ (∀ c ∈ ds, c.isDigit = true) ∧
      (∀ c ∈ rest.head?, c.isDigit = false) ∧ r = (Nat.ofDigitChars 10 ds 0, ds.length) := by
  unfold scanUnsigned at h
  dsimp only at h
  split at h
  · simp at h
  · rename_i hne
    exact ⟨cs.takeWhile Char.isDigit, cs.dropWhile Char.isDigit, List.takeWhile_append_dropWhile.symm,
      by simpa using hne, fun c hc => List.mem_takeWhile_imp hc, fun c hc => head?_dropWhile hc,
      (Option.some.inj h).symm⟩

theorem scanSigned_append (sign : Sign) {ds rest : List Char} (hne : ds ≠ [])
    (hds : ∀ c ∈ ds, c.isDigit = true) (hrest : ∀ c ∈ rest.head?, c.isDigit = false) :
    scanSigned (sign.chars ++ (ds ++ rest)) =
      some (sign.apply (Nat.ofDigitChars 10 ds 0), sign.chars.length + ds.length) := by
  have hu := scanUnsigned_append hne hds hrest
  cases sign with
  | none =>
    obtain ⟨c, ds', rfl⟩ := List.exists_cons_of_ne_nil hne
    rw [Sign.chars, List.nil_append, List.cons_append, scanSigned_digit (hds c List.mem_cons_self),
      ← List.cons_append, hu]
    simp [Sign.apply]
  | plus => simp [Sign.chars, scanSigned, hu, Sign.apply, Nat.add_comm]
  | minus => simp [Sign.chars, scanSigned, hu, Sign.apply, Nat.add_comm]

theorem scanSigned_eq_some {cs : List Char} {r : ℤ × ℕ} (h : scanSigned cs = some r) :
    ∃ sign ds rest, cs = Sign.chars sign ++ (ds ++ rest) ∧ ds ≠ [] ∧ (∀ c ∈ ds, c.isDigit = true) ∧
      (∀ c ∈ rest.head?, c.isDigit = false) ∧
      r = (sign.apply (Nat.ofDigitChars 10 ds 0), (Sign.chars sign).length + ds.length) := by
  unfold scanSigned at h
  split at h
  all_goals
    obtain ⟨u, hu, rfl⟩ := Option.map_eq_some_iff.1 h
    obtain ⟨ds, rest, rfl, hne, hds, hrest, rfl⟩ := scanUnsigned_eq_some hu
  · exact ⟨.minus, ds, rest, rfl, hne, hds, hrest, by rw [Sign.apply, Nat.add_comm]; rfl⟩
  · exact ⟨.plus, ds, rest, rfl, hne, hds, hrest, by rw [Sign.apply, Nat.add_comm]; rfl⟩
  · exact ⟨.none, ds, rest, rfl, hne, hds, hrest, by rw [Sign.apply, Sign.chars, List.length_nil, Nat.zero_add]⟩

/-- **What `scan` reads.** -/
theorem scan_eq_some {cs : List Char} {n : ℤ} {pos : ℕ} : scan cs = some (n, pos) ↔ Reads cs n pos := by
  constructor
  · intro h
    obtain ⟨r, hr, hn⟩ := Option.map_eq_some_iff.1 h
    obtain ⟨sign, ds, rest, hcs, hne, hds, hrest, rfl⟩ := scanSigned_eq_some hr
    obtain ⟨rfl, rfl⟩ := Prod.mk.inj hn
    have hsplit : cs.takeWhile isSpace ++ (sign.chars ++ (ds ++ rest)) = cs := by
      rw [← hcs, List.takeWhile_append_dropWhile]
    have hread := Reads.mk (cs.takeWhile isSpace) sign ds rest (fun c hc => List.mem_takeWhile_imp hc)
      hne hds hrest
    rwa [hsplit] at hread
  · rintro ⟨blanks, sign, ds, rest, hblanks, hne, hds, hrest⟩
    -- the first character after the blanks is a sign or a digit
    obtain ⟨c, cs, hc, hspace⟩ : ∃ c cs, sign.chars ++ (ds ++ rest) = c :: cs ∧ isSpace c = false := by
      obtain ⟨d, ds', rfl⟩ := List.exists_cons_of_ne_nil hne
      cases sign with
      | none => exact ⟨d, ds' ++ rest, rfl, isSpace_digit (hds d List.mem_cons_self)⟩
      | plus => exact ⟨'+', _, rfl, by decide⟩
      | minus => exact ⟨'-', _, rfl, by decide⟩
    rw [scan, List.dropWhile_append_of_pos hblanks, List.takeWhile_append_of_pos hblanks, hc,
      List.dropWhile_cons_of_neg (by simp [hspace]), List.takeWhile_cons_of_neg (by simp [hspace]),
      List.append_nil, ← hc, scanSigned_append sign hne hds hrest]
    rfl

/-- The text is white space, a sign or none, and digits to the end. -/
inductive Denotes : List Char → ℤ → Prop
  | mk (blanks : List Char) (sign : Sign) (ds : List Char) (hblanks : ∀ c ∈ blanks, isSpace c = true)
      (hne : ds ≠ []) (hds : ∀ c ∈ ds, c.isDigit = true) :
      Denotes (blanks ++ (sign.chars ++ ds)) (sign.apply (Nat.ofDigitChars 10 ds 0))

/-- A text is read off a numeral at its front, where no digit follows. -/
theorem reads_iff {cs : List Char} {n : ℤ} {pos : ℕ} : Reads cs n pos ↔
    ∃ front rest, cs = front ++ rest ∧ Denotes front n ∧ pos = front.length ∧
      ∀ c ∈ rest.head?, c.isDigit = false := by
  constructor
  · rintro ⟨blanks, sign, ds, rest, hblanks, hne, hds, hrest⟩
    refine ⟨blanks ++ (sign.chars ++ ds), rest, ?_, .mk blanks sign ds hblanks hne hds, ?_, hrest⟩
    · rw [List.append_assoc, List.append_assoc]
    · rw [List.length_append, List.length_append]
  · rintro ⟨-, rest, rfl, ⟨blanks, sign, ds, hblanks, hne, hds⟩, rfl, hrest⟩
    rw [List.append_assoc, List.append_assoc, List.length_append, List.length_append]
    exact .mk blanks sign ds rest hblanks hne hds hrest

/-- The texts that are read to the end. -/
theorem reads_length_iff {cs : List Char} {n : ℤ} : Reads cs n cs.length ↔ Denotes cs n := by
  rw [reads_iff]
  constructor
  · rintro ⟨front, rest, rfl, hfront, hlen, -⟩
    -- nothing is left after the numeral
    have hrest : rest = [] := List.length_eq_zero_iff.1 (by rw [List.length_append] at hlen; omega)
    rwa [hrest, List.append_nil]
  · intro h
    exact ⟨cs, [], (List.append_nil cs).symm, h, rfl, fun c hc => by simp at hc⟩

/-! ## The texts that are printed -/

/-- Digits without a needless zero at their front. -/
def canonicalDigits (ds : List Char) : Bool :=
  !ds.isEmpty && ds.all Char.isDigit && (ds.length = 1 || ds.head? ≠ some '0')

/-- A minus sign or none, and such digits; zero has no sign. -/
def canonical : List Char → Bool
  | '-' :: ds => canonicalDigits ds && ds ≠ ['0']
  | ds => canonicalDigits ds

theorem canonicalDigits_iff {ds : List Char} : canonicalDigits ds = true ↔
    ds ≠ [] ∧ (∀ c ∈ ds, c.isDigit = true) ∧ (ds.length = 1 ∨ ds.head? ≠ some '0') := by
  simp [canonicalDigits, and_assoc]

theorem digit_eq_digitChar {c : Char} (h : c.isDigit = true) : ∃ k < 10, c = Nat.digitChar k := by
  have hall : ∀ m < 58, 48 ≤ m → Char.ofNat m = Nat.digitChar (m - 48) := by decide
  have hc : 48 ≤ c.toNat ∧ c.toNat ≤ 57 := by
    simpa [Char.isDigit, UInt32.le_iff_toNat_le] using h
  exact ⟨c.toNat - 48, by omega, by rw [← hall c.toNat (by omega) hc.1, Char.ofNat_toNat]⟩

theorem head?_toDigits {n : ℕ} (h : 1 ≤ n) : (Nat.toDigits 10 n).head? ≠ some '0' := by
  induction n using Nat.strong_induction_on with
  | _ n ih =>
    rw [Nat.toDigits_eq_if (by decide)]
    split
    · simpa using show n ≠ 0 by omega
    · rw [List.head?_append_of_ne_nil _ Nat.toDigits_ne_nil]
      exact ih (n / 10) (by omega) (by omega)

theorem canonicalDigits_toDigits (n : ℕ) : canonicalDigits (Nat.toDigits 10 n) = true := by
  refine canonicalDigits_iff.2 ⟨Nat.toDigits_ne_nil,
    fun c hc => Nat.isDigit_of_mem_toDigits (by decide) (by decide) hc, ?_⟩
  rcases Nat.eq_zero_or_pos n with rfl | hn
  · exact .inl rfl
  · exact .inr (head?_toDigits hn)

theorem toDigits_ofDigitChars {ds : List Char} (h : canonicalDigits ds = true) :
    Nat.toDigits 10 (Nat.ofDigitChars 10 ds 0) = ds := by
  obtain ⟨hne, hds, hhead⟩ := canonicalDigits_iff.1 h
  clear h
  -- digit by digit from the right; the digits in front have no needless zero either
  induction ds using List.reverseRecOn with
  | nil => exact absurd rfl hne
  | append_singleton ds d ih =>
    obtain ⟨k, hk, rfl⟩ := digit_eq_digitChar (hds d (by simp))
    rw [Nat.ofDigitChars_append, Nat.ofDigitChars_cons_digitChar_of_lt_ten hk, Nat.ofDigitChars_nil]
    rcases List.eq_nil_or_concat ds with rfl | hcons
    · rw [Nat.ofDigitChars_nil, Nat.mul_zero, Nat.zero_add, Nat.toDigits_of_lt_base hk]; rfl
    · have hne' : ds ≠ [] := by
        obtain ⟨l, b, rfl⟩ := hcons; simp
      have hhead' : ds.head? ≠ some '0' := by
        rcases hhead with hlen | hhead
        · rw [List.length_append, List.length_singleton] at hlen
          exact absurd (List.length_eq_zero_iff.1 (by omega)) hne'
        · rwa [List.head?_append_of_ne_nil _ hne'] at hhead
      have hrec := ih hne' (fun c hc => hds c (by simp [hc])) (.inr hhead')
      have hpos : Nat.ofDigitChars 10 ds 0 ≠ 0 := fun h0 => by
        rw [h0, Nat.toDigits_zero] at hrec
        exact hhead' (by rw [← hrec]; rfl)
      rw [Nat.toDigits_of_base_le (by decide) (by omega),
        show (10 * Nat.ofDigitChars 10 ds 0 + k) / 10 = Nat.ofDigitChars 10 ds 0 by omega,
        show (10 * Nat.ofDigitChars 10 ds 0 + k) % 10 = k by omega, hrec]

/-- **What is printed**: the texts that are canonical. -/
theorem canonical_iff {cs : List Char} : canonical cs = true ↔ ∃ n : ℤ, cs = (toString n).toList := by
  constructor
  · intro h
    unfold canonical at h
    split at h
    · rename_i ds
      rw [Bool.and_eq_true, decide_eq_true_eq] at h
      have hback := toDigits_ofDigitChars h.1
      have hpos : Nat.ofDigitChars 10 ds 0 ≠ 0 := fun h0 => by
        rw [h0, Nat.toDigits_zero] at hback
        exact h.2 hback.symm
      refine ⟨-(Nat.ofDigitChars 10 ds 0 : ℤ), ?_⟩
      rw [toList_toString_neg (by omega), Int.natAbs_neg, Int.natAbs_natCast, hback]
    · refine ⟨(Nat.ofDigitChars 10 cs 0 : ℤ), ?_⟩
      rw [toList_toString_nonneg (by omega), Int.natAbs_natCast, toDigits_ofDigitChars h]
  · rintro ⟨n, rfl⟩
    have hcan := canonicalDigits_toDigits n.natAbs
    rcases Int.lt_or_le n 0 with hn | hn
    · rw [toList_toString_neg hn, canonical, hcan, Bool.true_and, decide_eq_true_eq]
      intro h0
      exact head?_toDigits (n := n.natAbs) (by omega) (by rw [h0]; rfl)
    · rw [toList_toString_nonneg hn]
      unfold canonical
      split
      · -- no digit is a sign
        rename_i ds hds
        rw [hds] at hcan
        exact absurd ((canonicalDigits_iff.1 hcan).2.1 '-' List.mem_cons_self) (by decide)
      · exact hcan

end Numeral
