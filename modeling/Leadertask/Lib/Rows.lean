import Mathlib.Algebra.Group.Nat.Defs
import Mathlib.Data.List.Nodup
import Mathlib.Order.Lattice

/-!
# Rows with a key

A table is a list of rows whose keys are distinct. Inserting a row with a new key and
updating rows without touching the key keep the keys distinct; two rows with one key
are one row. Rows can be `Numbered` by their keys, as a counter does that gives out each
number once.
-/

namespace Rows

variable {ρ κ : Type} {key : ρ → κ} {rows : List ρ}

/-- `UPDATE ... SET f WHERE p` -/
def updateWhere (p : ρ → Bool) (f : ρ → ρ) (rows : List ρ) : List ρ :=
  rows.map fun r => if p r then f r else r

theorem updateWhere_cons (p : ρ → Bool) (f : ρ → ρ) (r : ρ) (rows : List ρ) :
    updateWhere p f (r :: rows) = (if p r then f r else r) :: updateWhere p f rows := rfl

theorem nodup_append (h : (rows.map key).Nodup) {r : ρ} (hr : key r ∉ rows.map key) :
    ((rows ++ [r]).map key).Nodup := by
  rw [List.map_append, List.map_singleton]
  exact List.nodup_append.2 ⟨h, List.nodup_singleton _, fun a ha b hb => by
    rw [List.mem_singleton] at hb; subst hb; rintro rfl; exact hr ha⟩

/-- A column that the update does not set keeps its values, row by row. -/
theorem map_updateWhere {p : ρ → Bool} {f : ρ → ρ} (hf : ∀ r, key (f r) = key r) :
    (updateWhere p f rows).map key = rows.map key := by
  rw [updateWhere, List.map_map]
  apply List.map_congr_left
  intro r _
  simp only [Function.comp]
  split
  · exact hf r
  · rfl

theorem mem_updateWhere {p : ρ → Bool} {f : ρ → ρ} {r : ρ} :
    r ∈ updateWhere p f rows ↔ (∃ r₀ ∈ rows, p r₀ = true ∧ r = f r₀) ∨ (r ∈ rows ∧ p r = false) := by
  rw [updateWhere, List.mem_map]
  constructor
  · rintro ⟨r₀, h, rfl⟩
    cases hp : p r₀ with
    | true => exact Or.inl ⟨r₀, h, hp, by rw [if_pos rfl]⟩
    | false => exact Or.inr ⟨h, hp⟩
  · rintro (⟨r₀, h, hp, rfl⟩ | ⟨h, hp⟩)
    · exact ⟨r₀, h, if_pos hp⟩
    · exact ⟨r, h, by rw [if_neg (by simp [hp])]⟩

/-- An update that no row meets changes nothing. -/
theorem updateWhere_of_none {p : ρ → Bool} {f : ρ → ρ} (h : ∀ r ∈ rows, p r = false) :
    updateWhere p f rows = rows := by
  rw [updateWhere]
  conv_rhs => rw [← List.map_id rows]
  apply List.map_congr_left
  intro r hr
  rw [if_neg (by simp [h r hr])]; rfl

/-- Looking up a row by a column that the update does not set. -/
theorem find_updateWhere {p : ρ → Bool} {f : ρ → ρ} {q : ρ → Bool} (hq : ∀ r, q (f r) = q r) :
    (updateWhere p f rows).find? q = (rows.find? q).map fun r => if p r then f r else r := by
  rw [updateWhere, List.find?_map]
  congr 2
  funext r
  simp only [Function.comp]
  split
  · exact hq r
  · rfl

/-- Selecting rows by a column that the update does not set. -/
theorem filter_updateWhere {p : ρ → Bool} {f : ρ → ρ} {q : ρ → Bool} (hq : ∀ r, q (f r) = q r) :
    (updateWhere p f rows).filter q = updateWhere p f (rows.filter q) := by
  rw [updateWhere, updateWhere, List.filter_map]
  congr 2
  funext r
  simp only [Function.comp]
  split
  · exact hq r
  · rfl

/-- Two rows with one key are one row. -/
theorem eq_of_key (h : (rows.map key).Nodup) {a b : ρ} (ha : a ∈ rows) (hb : b ∈ rows)
    (hk : key a = key b) : a = b := List.inj_on_of_nodup_map h ha hb hk

/-- A condition that pins the key selects one row. -/
theorem filter_eq_singleton (h : (rows.map key).Nodup) {p : ρ → Bool} {a : ρ} (ha : a ∈ rows)
    (hp : p a = true) (hkey : ∀ r, p r = true → key r = key a) : rows.filter p = [a] := by
  induction rows with
  | nil => exact absurd ha List.not_mem_nil
  | cons x xs ih =>
    rw [List.map_cons, List.nodup_cons] at h
    rcases List.mem_cons.1 ha with rfl | ha'
    · -- a second row would have the key of `a`
      have hrest : xs.filter p = [] := by
        rw [List.filter_eq_nil_iff]
        intro r hr hpr
        exact h.1 (List.mem_map.2 ⟨r, hr, hkey r hpr⟩)
      rw [List.filter_cons_of_pos hp, hrest]
    · have hx : p x = false := by
        by_contra hx
        have hxa := hkey x (by simpa using hx)
        exact h.1 (List.mem_map.2 ⟨a, ha', hxa.symm⟩)
      rw [List.filter_cons_of_neg (by simp [hx]), ih h.2 ha']

/-- Looking a key up: no row has it, or one row does, which is also the only one selected. -/
theorem find_cases [DecidableEq κ] (h : (rows.map key).Nodup) (k : κ) :
    (rows.find? (key · = k) = none ∧ ∀ r ∈ rows, key r ≠ k) ∨
      ∃ r ∈ rows, key r = k ∧ rows.find? (key · = k) = some r ∧ rows.filter (key · = k) = [r] := by
  cases hfind : rows.find? (key · = k) with
  | none => exact .inl ⟨rfl, fun r hr => by simpa using List.find?_eq_none.1 hfind r hr⟩
  | some r =>
    have hr := List.mem_of_find?_eq_some hfind
    have hk : key r = k := by simpa using List.find?_some hfind
    exact .inr ⟨r, hr, hk, rfl, filter_eq_singleton h hr (by simp [hk])
      fun x hx => by rw [hk]; simpa using hx⟩

/-- A row is found under its key. -/
theorem find_of_mem [DecidableEq κ] (h : (rows.map key).Nodup) {r : ρ} (hr : r ∈ rows) :
    rows.find? (key · = key r) = some r := by
  rcases find_cases h (key r) with ⟨-, hno⟩ | ⟨r', hr', hk, hfind, -⟩
  · exact absurd rfl (hno r hr)
  · rw [hfind, eq_of_key h hr' hr hk]

/-- What is found under a key. -/
theorem find_eq_some_iff [DecidableEq κ] (h : (rows.map key).Nodup) {k : κ} {r : ρ} :
    rows.find? (key · = k) = some r ↔ r ∈ rows ∧ key r = k := by
  constructor
  · intro hfind
    exact ⟨List.mem_of_find?_eq_some hfind, by simpa using List.find?_some hfind⟩
  · rintro ⟨hr, rfl⟩
    exact find_of_mem h hr

/-- Looking a key up after a row with a new key was added. -/
theorem find_append_new [DecidableEq κ] {r : ρ} (hr : key r ∉ rows.map key) (k : κ) :
    (rows ++ [r]).find? (key · = k) = if k = key r then some r else rows.find? (key · = k) := by
  rw [List.find?_append]
  by_cases hk : k = key r
  · have hnone : rows.find? (key · = k) = none := by
      rw [List.find?_eq_none]
      intro x hx he
      exact hr (List.mem_map.2 ⟨x, hx, (of_decide_eq_true he).trans hk⟩)
    rw [if_pos hk, hnone, List.find?_cons_of_pos (by simp [hk])]
    rfl
  · rw [if_neg hk, List.find?_cons_of_neg (by simp [Ne.symm hk]), List.find?_nil, Option.or_none]

/-- Selecting by a column after a row was added. -/
theorem filter_append_row {γ : Type} [DecidableEq γ] (col : ρ → γ) (r : ρ) (g : γ) :
    (rows ++ [r]).filter (col · = g) =
      if g = col r then rows.filter (col · = g) ++ [r] else rows.filter (col · = g) := by
  rw [List.filter_append]
  by_cases hg : g = col r
  · rw [if_pos hg, List.filter_cons_of_pos (by simp [hg]), List.filter_nil]
  · rw [if_neg hg, List.filter_cons_of_neg (by simp [Ne.symm hg]), List.filter_nil, List.append_nil]

/-- Rows sorted by their key have strictly increasing keys. -/
theorem pairwise_mergeSort_key {κ : Type} [LinearOrder κ] {key : ρ → κ} {le : ρ → ρ → Bool}
    (hle : ∀ a b, le a b = true ↔ key a ≤ key b) (h : (rows.map key).Nodup) :
    ((rows.mergeSort le).map key).Pairwise (· < ·) := by
  have hnodup : ((rows.mergeSort le).map key).Nodup :=
    ((List.mergeSort_perm rows le).map key).nodup_iff.2 h
  have hsorted : (rows.mergeSort le).Pairwise fun a b => le a b = true :=
    List.pairwise_mergeSort
      (fun a b c hab hbc => (hle a c).2 (le_trans ((hle a b).1 hab) ((hle b c).1 hbc)))
      (fun a b => by
        rw [Bool.or_eq_true, hle, hle]
        exact le_total _ _) rows
  rw [List.pairwise_map]
  refine (hsorted.and (List.pairwise_map.1 hnodup)).imp fun hab => ?_
  exact lt_of_le_of_ne ((hle _ _).1 hab.1) hab.2

/-! ## Numbered rows -/

/-- The keys are the first numbers, from 1 on and in order. -/
def Numbered (num : ℕ → κ) (key : ρ → κ) (rows : List ρ) : Prop :=
  rows.map key = (List.range' 1 rows.length).map num

section

variable {num : ℕ → κ}

theorem numbered_nil : Numbered num key [] := rfl

/-- The next row gets the next number. -/
theorem Numbered.append (h : Numbered num key rows) {r : ρ} (hr : key r = num (rows.length + 1)) :
    Numbered num key (rows ++ [r]) := by
  have hkeys : rows.map key = (List.range' 1 rows.length).map num := h
  rw [Numbered, List.map_append, List.length_append, List.length_singleton, List.range'_1_concat,
    List.map_append, hkeys, List.map_singleton, List.map_singleton, hr, Nat.add_comm 1]

theorem Numbered.updateWhere {p : ρ → Bool} {f : ρ → ρ} (hf : ∀ r, key (f r) = key r)
    (h : Numbered num key rows) : Numbered num key (updateWhere p f rows) := by
  have hlen : (Rows.updateWhere p f rows).length = rows.length := List.length_map _
  rw [Numbered, map_updateWhere hf, hlen]
  exact h

/-- The numbers that are taken. -/
theorem Numbered.mem_keys (h : Numbered num key rows) {k : κ} :
    k ∈ rows.map key ↔ ∃ n, 1 ≤ n ∧ n ≤ rows.length ∧ num n = k := by
  have hkeys : rows.map key = (List.range' 1 rows.length).map num := h
  rw [hkeys, List.mem_map]
  refine exists_congr fun n => ?_
  rw [List.mem_range'_1, and_assoc]
  exact and_congr_right fun _ => and_congr_left fun _ => by omega

/-- What holds of a smaller number before a larger one holds of a row before a later one. -/
theorem Numbered.pairwise (h : Numbered num key rows) {R : κ → κ → Prop}
    (hR : ∀ m n, m < n → n ≤ rows.length → R (num m) (num n)) : (rows.map key).Pairwise R := by
  have hkeys : rows.map key = (List.range' 1 rows.length).map num := h
  rw [hkeys, List.pairwise_map]
  have hlt : (List.range' 1 rows.length).Pairwise (· < ·) := List.pairwise_lt_range'
  refine hlt.imp_of_mem fun {m n} _ hn hmn => hR m n hmn ?_
  have hn := (List.mem_range'_1.1 hn).2
  omega

end

/-! Numbers of 64 bits, as long as they do not wrap. -/

section

variable {id : ρ → Int64}

theorem Numbered.ascending (h : Numbered Int64.ofNat id rows) (hlen : rows.length < 2 ^ 63) :
    rows.Pairwise fun a b => id a < id b := by
  rw [← List.pairwise_map]
  refine h.pairwise fun m n hmn hn => ?_
  exact (Int64.ofNat_lt_iff_lt (by omega) (by omega)).2 hmn

theorem Numbered.nodup (h : Numbered Int64.ofNat id rows) (hlen : rows.length < 2 ^ 63) :
    (rows.map id).Nodup := by
  rw [List.Nodup, List.pairwise_map]
  refine (h.ascending hlen).imp fun {a b} hlt he => ?_
  rw [he] at hlt
  exact Int64.lt_irrefl hlt

/-- The numbers that are taken lie below the next one. -/
theorem Numbered.lt_next (h : Numbered Int64.ofNat id rows) (hlen : rows.length + 1 < 2 ^ 63) {r : ρ}
    (hr : r ∈ rows) : id r < Int64.ofNat (rows.length + 1) := by
  obtain ⟨n, -, hn, he⟩ := h.mem_keys.1 (List.mem_map_of_mem hr)
  rw [← he]
  exact (Int64.ofNat_lt_iff_lt (by omega) hlen).2 (by omega)

theorem Numbered.next_new (h : Numbered Int64.ofNat id rows) (hlen : rows.length + 1 < 2 ^ 63) :
    Int64.ofNat (rows.length + 1) ∉ rows.map id := by
  intro hmem
  obtain ⟨r, hr, he⟩ := List.mem_map.1 hmem
  have hlt := h.lt_next hlen hr
  rw [he] at hlt
  exact Int64.lt_irrefl hlt

/-- No row has the number 0. -/
theorem Numbered.zero_new (h : Numbered Int64.ofNat id rows) (hlen : rows.length < 2 ^ 63) :
    (0 : Int64) ∉ rows.map id := by
  intro hmem
  obtain ⟨n, h1, hn, h0⟩ := h.mem_keys.1 hmem
  have hlt : Int64.ofNat 0 < Int64.ofNat n := (Int64.ofNat_lt_iff_lt (by omega) (by omega)).2 h1
  rw [h0] at hlt
  exact Int64.lt_irrefl hlt

end

end Rows
