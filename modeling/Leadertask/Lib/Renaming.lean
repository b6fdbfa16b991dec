import Leadertask.Lib.Rows
import Mathlib.Data.List.Nodup

/-!
# The same but for the keys

Two lists of rows whose keys are given out by two sources. A client who knows a row only by the
key it was given for it, and keeps the keys in the order in which they came, cannot tell the lists
apart: with each key replaced by its number in that order, every selection answers alike.

* `Renamed`: the lists show the same, row by row.
* `Renamed.filter`, `Renamed.find`, `Renamed.find_nth`: what is selected is the same.
-/

namespace Rows

variable {ρ ϱ κ ι ν : Type} {key : ρ → κ} {key' : ϱ → ι} {view : ρ → ν} {view' : ϱ → ν}
variable {rows : List ρ} {recs : List ϱ}

/-- Two lists that show the same, each with keys of its own. -/
structure Renamed (key : ρ → κ) (key' : ϱ → ι) (view : ρ → ν) (view' : ϱ → ν) (rows : List ρ)
    (recs : List ϱ) : Prop where
  keys : (rows.map key).Nodup
  keys' : (recs.map key').Nodup
  same : rows.map view = recs.map view'

theorem Renamed.length (h : Renamed key key' view view' rows recs) : rows.length = recs.length := by
  have := congrArg List.length h.same
  rwa [List.length_map, List.length_map] at this

/-- Another row on both sides. -/
theorem Renamed.append (h : Renamed key key' view view' rows recs) {r : ρ} {x : ϱ}
    (hr : key r ∉ rows.map key) (hx : key' x ∉ recs.map key') (hview : view r = view' x) :
    Renamed key key' view view' (rows ++ [r]) (recs ++ [x]) := by
  refine ⟨nodup_append h.keys hr, nodup_append h.keys' hx, ?_⟩
  rw [List.map_append, List.map_append, h.same, List.map_singleton, List.map_singleton, hview]

variable [DecidableEq κ] [DecidableEq ι]

/-- A row without its key: the key's number, and what the row shows. -/
def numbered (key : ρ → κ) (view : ρ → ν) (rows : List ρ) (r : ρ) : ℕ × ν :=
  ((rows.map key).idxOf (key r), view r)

/-- The key with a number, or the default if none has it. -/
def nth (keys : List κ) (default : κ) (n : ℕ) : κ := (keys[n]?).getD default

theorem map_numbered (h : (rows.map key).Nodup) :
    rows.map (numbered key view rows) = (List.range rows.length).zip (rows.map view) := by
  refine List.ext_getElem (by simp) fun n hn hn' => ?_
  have hrow : n < rows.length := by simpa using hn
  have hidx : (rows.map key).idxOf (key rows[n]) = n := by
    have hget := h.idxOf_getElem n (by simpa using hrow)
    rwa [List.getElem_map] at hget
  simp [numbered, hidx]

/-- The row with a number. -/
theorem find_nth (h : (rows.map key).Nodup) {default : κ} (hdefault : default ∉ rows.map key) (n : ℕ) :
    rows.find? (key · = nth (rows.map key) default n) = rows[n]? := by
  by_cases hn : n < rows.length
  · have hkey : nth (rows.map key) default n = key rows[n] := by
      rw [nth, List.getElem?_map, List.getElem?_eq_getElem hn]; rfl
    rw [hkey, find_of_mem h (List.getElem_mem hn), List.getElem?_eq_getElem hn]
  · have hnone : (rows.map key)[n]? = none := List.getElem?_eq_none (by simpa using hn)
    rw [nth, hnone, Option.getD_none, List.getElem?_eq_none (Nat.le_of_not_lt hn), List.find?_eq_none]
    intro r hr he
    exact hdefault (List.mem_map.2 ⟨r, hr, of_decide_eq_true he⟩)

namespace Renamed

variable (h : Renamed key key' view view' rows recs)
include h

theorem numbered : rows.map (numbered key view rows) = recs.map (Rows.numbered key' view' recs) := by
  rw [map_numbered h.keys, map_numbered h.keys', h.same, h.length]

/-- Rows chosen by what they show. -/
theorem filter (p : ν → Bool) :
    (rows.filter fun r => p (view r)).map (Rows.numbered key view rows) =
      (recs.filter fun r => p (view' r)).map (Rows.numbered key' view' recs) := by
  have hfilter := congrArg (List.filter fun x => p x.2) h.numbered
  rwa [List.filter_map, List.filter_map] at hfilter

/-- The first row chosen by what it shows. -/
theorem find (p : ν → Bool) :
    (rows.find? fun r => p (view r)).map (Rows.numbered key view rows) =
      (recs.find? fun r => p (view' r)).map (Rows.numbered key' view' recs) := by
  have hfind := congrArg (List.find? fun x => p x.2) h.numbered
  rwa [List.find?_map, List.find?_map] at hfind

/-- The row with a number. -/
theorem find_nth {default : κ} {default' : ι} (hdefault : default ∉ rows.map key)
    (hdefault' : default' ∉ recs.map key') (n : ℕ) :
    (rows.find? (key · = nth (rows.map key) default n)).map (Rows.numbered key view rows) =
      (recs.find? (key' · = nth (recs.map key') default' n)).map (Rows.numbered key' view' recs) := by
  rw [Rows.find_nth h.keys hdefault, Rows.find_nth h.keys' hdefault', ← List.getElem?_map,
    ← List.getElem?_map, h.numbered]

end Renamed

end Rows
