import Leadertask.Lib.Numeral
import Mathlib.Algebra.Group.Int.Defs
import Mathlib.Algebra.Group.Nat.Defs
import Mathlib.Data.List.Lex
import Mathlib.Order.Fin.Basic

/-!
# Exceptions, numbers and ids

The pieces that every layer of the service shares: what can be thrown, the standard
library's `stoll`, the narrowing of 64-bit ids to the generated `int` fields, and
Mongo's 12-byte object ids with their hexadecimal text.

* `stoll_stdToString`: `stoll` reads back what `std::to_string` prints.
* `Oid.ofString_toString`: an object id reads back from its text.
* `Oid.stoll_congr`: `stoll` of any spelling of an object id is `stoll` of its text.
-/

namespace Leadertask

/-- `using UserId = std::int64_t` -/
abbrev UserId := Int64

/-- What is thrown while a request is served: by the standard library, the generated
parsers, the store drivers and the token library. All of them derive from
`std::exception`. -/
inductive Exn where
  /-- `std::stoll` found no number. -/
  | invalidArgument
  /-- `std::stoll` found a number outside `long long`. -/
  | outOfRange
  /-- `Value::As<T>` on a JSON value that does not match the schema of `T`. -/
  | schemaMismatch
  /-- `GetUserData` with no user data stored. -/
  | noUserData
  /-- `SetUserData` with user data already stored. -/
  | userDataAlreadySet
  /-- `bson::Oid` of a text that is not 24 hexadecimal digits. -/
  | invalidOid
  /-- Postgres: a `UNIQUE` or `PRIMARY KEY` constraint. -/
  | uniqueViolation
  /-- Postgres: a `REFERENCES` constraint. -/
  | foreignKeyViolation
  /-- Postgres: a `CHECK` constraint. -/
  | checkViolation
  /-- Postgres: a value too long for its `VARCHAR(255)` column. -/
  | stringDataRightTruncation
  /-- Postgres: a text with U+0000. -/
  | characterNotInRepertoire
  /-- Postgres: a `BIGSERIAL` sequence at its end. -/
  | sequenceExhausted
  /-- `AsSingleRow` on a result that has not exactly one row. -/
  | nonSingleRowResultSet
  /-- Reading a `BIGINT` that does not fit the field it is read into. -/
  | narrowingOverflow
  /-- Mongo: a second document with the same `_id`. -/
  | duplicateKey
  /-- A store call that fails for a reason of its own and has no effect. -/
  | storeFailure
  /-- `jwt::error::token_verification_exception` -/
  | tokenVerification
  /-- `jwt::error::signature_verification_exception` -/
  | signatureVerification
  /-- A token that cannot be decoded. -/
  | undecodableToken
  /-- A token without the claim asked for. -/
  | missingClaim
  deriving DecidableEq, Repr

/-! ## `std::stoll` and `std::to_string` -/

/-- `std::stoll(s, &pos)` in base 10: the longest numeral at the front of `s`, and how
many characters it took. -/
def stoll (s : String) : Except Exn (Int64 × ℕ) :=
  match Numeral.scan s.toList with
  | none => .error .invalidArgument
  | some (n, pos) =>
    -- `strtoll` saturates and sets `ERANGE`, of which `stoll` makes an exception
    if -2 ^ 63 ≤ n ∧ n < 2 ^ 63 then .ok (Int64.ofInt n, pos) else .error .outOfRange

/-- `std::to_string` of a 64-bit number. -/
def stdToString (n : Int64) : String := toString n.toInt

/-- `stoll` reads back what `std::to_string` prints, for every 64-bit number. -/
theorem stoll_stdToString (n : Int64) : stoll (stdToString n) = .ok (n, (stdToString n).toList.length) := by
  have hr : -2 ^ 63 ≤ n.toInt ∧ n.toInt < 2 ^ 63 := ⟨n.le_toInt, n.toInt_lt⟩
  rw [stoll, stdToString, Numeral.scan_toString]
  simp only [hr, and_self, if_true, Int64.ofInt_toInt]

/-- **What `stoll` reads**: a number that fits 64 bits. -/
theorem stoll_ok_iff {s : String} {u : Int64} {pos : ℕ} :
    stoll s = .ok (u, pos) ↔
      ∃ n : ℤ, Numeral.Reads s.toList n pos ∧ -2 ^ 63 ≤ n ∧ n < 2 ^ 63 ∧ u = Int64.ofInt n := by
  unfold stoll
  constructor
  · intro h
    split at h
    · simp at h
    · rename_i n pos' hscan
      split at h
      · rename_i hr
        obtain ⟨rfl, rfl⟩ := Prod.mk.inj (Except.ok.inj h)
        exact ⟨n, Numeral.scan_eq_some.1 hscan, hr.1, hr.2, rfl⟩
      · simp at h
  · rintro ⟨n, hn, h1, h2, rfl⟩
    rw [Numeral.scan_eq_some.2 hn]
    exact if_pos ⟨h1, h2⟩

/-! ## Narrowing -/

/-- What reading a `BIGINT` into an `int` field does when it does not fit. -/
inductive Narrowing where
  | throws
  | wraps
  deriving DecidableEq, Repr

/-- The number fits a 32-bit `int`. -/
def FitsInt (n : Int64) : Prop := n.toInt32.toInt64 = n

instance (n : Int64) : Decidable (FitsInt n) := inferInstanceAs (Decidable (_ = _))

theorem fitsInt_narrowed (n : Int64) : FitsInt n.toInt32.toInt64 := by
  rw [FitsInt, Int32.toInt32_toInt64]

/-- A `BIGINT` column read into an `int` field. -/
def Narrowing.readInt (m : Narrowing) (n : Int64) : Except Exn Int32 :=
  if FitsInt n then .ok n.toInt32
  else match m with
    | .throws => .error .narrowingOverflow
    | .wraps => .ok n.toInt32

/-- The number can be read. -/
def Narrowing.Reads (m : Narrowing) (n : Int64) : Prop := m = .wraps ∨ FitsInt n

instance (m : Narrowing) (n : Int64) : Decidable (m.Reads n) :=
  inferInstanceAs (Decidable (_ ∨ _))

theorem Narrowing.readInt_eq (m : Narrowing) (n : Int64) :
    m.readInt n = if m.Reads n then .ok n.toInt32 else .error .narrowingOverflow := by
  unfold Narrowing.readInt Narrowing.Reads
  by_cases h : FitsInt n
  · simp [h]
  · cases m <;> simp [h]

/-- Comparing a `std::optional<int>` with a 64-bit number, as `goal->userId != user_id`. -/
def optionalNe (a : Option Int32) (b : Int64) : Bool :=
  match a with
  -- an empty optional differs from every number
  | none => true
  | some k => k.toInt64 != b

/-! ## Object ids -/

/-- A Mongo object id: 12 bytes, here as their 24 hexadecimal digits. -/
structure Oid where
  digits : List (Fin 16)
  length_eq : digits.length = 24
  deriving DecidableEq

/-- The object id with all digits zero. -/
def Oid.zero : Oid := ⟨List.replicate 24 0, rfl⟩

/-- The hexadecimal digits that `bson::Oid` reads, with their values. -/
def hexTable : List (Char × Fin 16) :=
  [('0', 0), ('1', 1), ('2', 2), ('3', 3), ('4', 4), ('5', 5), ('6', 6), ('7', 7), ('8', 8),
    ('9', 9), ('a', 10), ('b', 11), ('c', 12), ('d', 13), ('e', 14), ('f', 15), ('A', 10),
    ('B', 11), ('C', 12), ('D', 13), ('E', 14), ('F', 15)]

def hexDigit? (c : Char) : Option (Fin 16) := (hexTable.find? (·.1 = c)).map (·.2)

/-- The digit as `Oid::ToString` prints it. -/
def hexChar (d : Fin 16) : Char := Nat.digitChar d.val

def hexDigits? : List Char → Option (List (Fin 16))
  | [] => some []
  | c :: cs =>
    match hexDigit? c, hexDigits? cs with
    | some d, some ds => some (d :: ds)
    | _, _ => none

/-- `bson::Oid(text)` -/
def Oid.ofString (s : String) : Except Exn Oid :=
  match hexDigits? s.toList with
  | none => .error .invalidOid
  | some ds => if h : ds.length = 24 then .ok ⟨ds, h⟩ else .error .invalidOid

/-- `Oid::ToString` -/
def Oid.toString (o : Oid) : String := String.ofList (o.digits.map hexChar)

theorem hexDigit?_hexChar (d : Fin 16) : hexDigit? (hexChar d) = some d := by
  revert d; decide

theorem hexDigits?_map (ds : List (Fin 16)) : hexDigits? (ds.map hexChar) = some ds := by
  induction ds with
  | nil => rfl
  | cons d ds ih => rw [List.map_cons, hexDigits?, hexDigit?_hexChar, ih]

/-- An object id reads back from its text. -/
@[simp] theorem Oid.ofString_toString (o : Oid) : Oid.ofString o.toString = .ok o := by
  rw [Oid.ofString, Oid.toString, String.toList_ofList, hexDigits?_map]
  simp [o.length_eq]

theorem Oid.toString_injective {a b : Oid} (h : a.toString = b.toString) : a = b := by
  have := Oid.ofString_toString a
  rw [h, Oid.ofString_toString] at this
  exact (Except.ok.inj this).symm

theorem Oid.ofString_ok {s : String} {o : Oid} (h : Oid.ofString s = .ok o) :
    hexDigits? s.toList = some o.digits := by
  unfold Oid.ofString at h
  split at h
  · simp at h
  · rename_i ds hds
    split at h
    · rw [← Except.ok.inj h]; exact hds
    · simp at h

/-- A hexadecimal digit is a decimal one in both spellings or in neither, and the decimal
ones have one spelling. -/
theorem hexDigit?_cases {c : Char} {d : Fin 16} (h : hexDigit? c = some d) :
    c = hexChar d ∨ (c.isDigit = false ∧ (hexChar d).isDigit = false) := by
  obtain ⟨p, hp, rfl⟩ := Option.map_eq_some_iff.1 h
  have hc : p.1 = c := by simpa using List.find?_some hp
  subst hc
  have hall : ∀ p ∈ hexTable,
      p.1 = hexChar p.2 ∨ (p.1.isDigit = false ∧ (hexChar p.2).isDigit = false) := by decide
  exact hall p (List.mem_of_find?_eq_some hp)

/-- Neither white space nor a sign is a hexadecimal digit. -/
theorem hexDigit?_plain {c : Char} {d : Fin 16} (h : hexDigit? c = some d) :
    Numeral.isSpace c = false ∧ c ≠ '-' ∧ c ≠ '+' := by
  obtain ⟨p, hp, rfl⟩ := Option.map_eq_some_iff.1 h
  have hc : p.1 = c := by simpa using List.find?_some hp
  subst hc
  have hall : ∀ p ∈ hexTable, Numeral.isSpace p.1 = false ∧ p.1 ≠ '-' ∧ p.1 ≠ '+' := by decide
  exact hall p (List.mem_of_find?_eq_some hp)

theorem hexDigits?_cons {c : Char} {cs : List Char} {ds : List (Fin 16)}
    (h : hexDigits? (c :: cs) = some ds) :
    ∃ d ds', hexDigit? c = some d ∧ hexDigits? cs = some ds' ∧ ds = d :: ds' := by
  rw [hexDigits?] at h
  split at h
  · rename_i d ds' hd hds
    exact ⟨d, ds', hd, hds, (Option.some.inj h).symm⟩
  · simp at h

/-- Every spelling of the digits has the leading decimal digits of the printed one. -/
theorem takeWhile_hex {cs : List Char} : ∀ {ds : List (Fin 16)}, hexDigits? cs = some ds →
    cs.takeWhile Char.isDigit = (ds.map hexChar).takeWhile Char.isDigit := by
  induction cs with
  | nil =>
    intro ds h
    rw [hexDigits?] at h
    rw [← Option.some.inj h]; rfl
  | cons c cs ih =>
    intro ds h
    obtain ⟨d, ds', hd, hds, rfl⟩ := hexDigits?_cons h
    rcases hexDigit?_cases hd with rfl | ⟨h1, h2⟩
    · rw [List.map_cons, List.takeWhile_cons, List.takeWhile_cons, ih hds]
    · rw [List.map_cons, List.takeWhile_cons_of_neg (by simp [h1]),
        List.takeWhile_cons_of_neg (by simp [h2])]

/-- The number that `stoll` reads off a text of hexadecimal digits: its leading decimal
digits. -/
theorem scan_hex {cs : List Char} {ds : List (Fin 16)} (h : hexDigits? cs = some ds) :
    Numeral.scan cs =
      if ((ds.map hexChar).takeWhile Char.isDigit).isEmpty then none
      else some ((Nat.ofDigitChars 10 ((ds.map hexChar).takeWhile Char.isDigit) 0 : ℤ),
        ((ds.map hexChar).takeWhile Char.isDigit).length) := by
  rw [← takeWhile_hex h]
  cases cs with
  | nil => rfl
  | cons c cs =>
    -- no white space and no sign to skip: the first character decides
    obtain ⟨d, ds', hd, -, -⟩ := hexDigits?_cons h
    obtain ⟨hs, h1, h2⟩ := hexDigit?_plain hd
    cases hc : c.isDigit with
    | true => rw [Numeral.scan_digit hc]; simp [List.takeWhile_cons_of_pos hc]
    | false =>
      rw [Numeral.scan_none hs h1 h2 hc, List.takeWhile_cons_of_neg (by simp [hc])]; rfl

/-- `stoll` of any spelling of an object id is `stoll` of its text. -/
theorem Oid.stoll_congr {s : String} {o : Oid} (h : Oid.ofString s = .ok o) :
    stoll s = stoll o.toString := by
  have h1 := scan_hex (Oid.ofString_ok h)
  have h2 := scan_hex (Oid.ofString_ok (Oid.ofString_toString o))
  rw [stoll, stoll, h1, h2]

end Leadertask
