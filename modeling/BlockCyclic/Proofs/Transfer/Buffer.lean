import BlockCyclic.Transfer
import Mathlib.Algebra.Order.Ring.Int

/-!
# The flat buffer

A table tells every member where its part of the flat buffer begins and how long it
is. Whatever the buffer held before, writing all parts at their displacements leaves
the parts one after the other, and cutting at the same displacements gives each part
back. Both sides of a transfer are instances of these two facts.
-/

namespace BlockCyclic

variable {alpha beta : Type}

def joined : List (Array alpha) -> Array alpha
  | [] => #[]
  | p :: rest => p ++ joined rest

theorem toList_joined (parts : List (Array alpha)) :
    (joined parts).toList = parts.flatMap Array.toList := by
  induction parts with
  | nil => rfl
  | cons p rest ih =>
      rw [joined, Array.toList_append, ih]
      rfl

theorem map_joined (f : alpha -> beta) (parts : List (Array alpha)) :
    (joined parts).map f = joined (parts.map (Array.map f)) := by
  induction parts with
  | nil => exact Array.map_empty
  | cons p rest ih =>
      rw [joined, Array.map_append, ih]
      rfl

theorem size_joined (parts : List (Array alpha)) :
    (joined parts).size = (parts.map Array.size).sum := by
  induction parts with
  | nil => rfl
  | cons p rest ih =>
      rw [joined, Array.size_append, ih, List.map_cons, List.sum_cons]

/-!
# Displacements
-/

theorem getD_exclusiveSums_go (counts : List Nat) (before : Nat) {k : Nat}
    (hk : k < counts.length) :
    (exclusiveSums.go before counts).getD k 0 = before + (counts.take k).sum := by
  induction counts generalizing before k with
  | nil => cases hk
  | cons c rest ih =>
      cases k with
      | zero => rfl
      | succ k =>
          rw [exclusiveSums.go, List.getD_cons_succ,
            ih (before + c) (Nat.lt_of_succ_lt_succ hk), List.take_succ_cons,
            List.sum_cons, Nat.add_assoc]

theorem getD_exclusiveSums (counts : List Nat) {k : Nat} (hk : k < counts.length) :
    (exclusiveSums counts).getD k 0 = (counts.take k).sum := by
  rw [exclusiveSums, getD_exclusiveSums_go counts 0 hk, Nat.zero_add]

theorem extract_joined (parts : List (Array alpha)) {k : Nat} (hk : k < parts.length) :
    (joined parts).extract ((parts.map Array.size).take k).sum
        (((parts.map Array.size).take k).sum + parts[k].size) =
      parts[k] := by
  induction parts generalizing k with
  | nil => cases hk
  | cons p rest ih =>
      cases k with
      | zero =>
          simp [joined, Array.extract_append]
      | succ k =>
          have hk' : k < rest.length := Nat.lt_of_succ_lt_succ hk
          have hrest := ih hk'
          simp only [joined, List.map_cons, List.take_succ_cons, List.sum_cons,
            List.getElem_cons_succ]
          rw [Array.extract_append, Nat.add_assoc, Nat.add_sub_cancel_left,
            Nat.add_sub_cancel_left, hrest]
          have hempty : p.extract (p.size + ((rest.map Array.size).take k).sum)
              (p.size + (((rest.map Array.size).take k).sum + rest[k].size)) = #[] := by
            apply Array.extract_empty_of_size_le_start
            exact Nat.le_add_right _ _
          rw [hempty, Array.empty_append]

/-!
# Writing into a buffer
-/

namespace BlockTable

theorem size_writeAt (buffer : Array alpha) (start : Nat) (source : Array alpha) :
    (writeAt buffer start source).size = buffer.size := by
  simp [writeAt]

theorem getElem_writeAt (buffer : Array alpha) (start : Nat) (source : Array alpha)
    {k : Nat} (hbuffer : k < buffer.size) (hk : k < (writeAt buffer start source).size) :
    (writeAt buffer start source)[k] =
      if start ≤ k then source.getD (k - start) buffer[k] else buffer[k] := by
  simp [writeAt]

theorem writeAt_writeAt (buffer : Array alpha) (start : Nat) (p q : Array alpha) :
    writeAt (writeAt buffer start p) (start + p.size) q =
      writeAt buffer start (p ++ q) := by
  apply Array.ext
  · simp only [size_writeAt]
  · intro k hk _
    have hbuffer : k < buffer.size := by rwa [size_writeAt, size_writeAt] at hk
    have hwritten : k < (writeAt buffer start p).size := by rwa [size_writeAt]
    rw [getElem_writeAt _ _ _ hwritten, getElem_writeAt _ _ _ hbuffer]
    by_cases hstart : start ≤ k
    · by_cases hp : start + p.size ≤ k
      · have hafter : p.size ≤ k - start := by omega
        rw [if_pos hp, if_pos hstart, getElem_writeAt _ _ _ hbuffer, if_pos hstart]
        simp only [Array.getD_eq_getD_getElem?]
        rw [Array.getElem?_append_right hafter, Array.getElem?_eq_none hafter,
          Nat.sub_add_eq]
        rfl
      · have hinside : k - start < p.size := by omega
        rw [if_neg hp, if_pos hstart, getElem_writeAt _ _ _ hbuffer, if_pos hstart]
        simp only [Array.getD_eq_getD_getElem?]
        rw [Array.getElem?_append_left hinside]
    · have hbefore : ¬start + p.size ≤ k := by omega
      rw [if_neg hbefore, if_neg hstart, getElem_writeAt _ _ _ hbuffer, if_neg hstart]

theorem writeAt_empty (buffer : Array alpha) (start : Nat) :
    writeAt buffer start #[] = buffer := by
  apply Array.ext
  · exact size_writeAt buffer start #[]
  · intro k _ hk
    rw [getElem_writeAt _ _ _ hk]
    split
    · rfl
    · rfl

/-- A source as long as the buffer leaves nothing of what was there. -/
theorem writeAt_whole (buffer source : Array alpha) (h : source.size = buffer.size) :
    writeAt buffer 0 source = source := by
  apply Array.ext
  · rw [size_writeAt, h]
  · intro k hk hsource
    have hbuffer : k < buffer.size := by rwa [size_writeAt] at hk
    rw [getElem_writeAt _ _ _ hbuffer, if_pos (Nat.zero_le k), Nat.sub_zero, Array.getD,
      dif_pos hsource]
    rfl

theorem foldl_writeAt (parts : List (Array alpha)) (before : Nat) (buffer : Array alpha) :
    ((exclusiveSums.go before (parts.map Array.size)).zip parts).foldl
        (fun buffer p => writeAt buffer p.1 p.2) buffer =
      writeAt buffer before (joined parts) := by
  induction parts generalizing before buffer with
  | nil => exact (writeAt_empty buffer before).symm
  | cons p rest ih =>
      rw [List.map_cons, exclusiveSums.go, List.zip_cons_cons, List.foldl_cons, ih,
        writeAt_writeAt]
      rfl

/-!
# Tables
-/

theorem total_eq_sum (t : BlockTable) : t.total = t.counts.sum := by
  unfold total
  rw [List.sum_eq_foldl]

/-- Parts as long as their counts fill the buffer, whatever it held before. -/
theorem collect_eq_joined (t : BlockTable) (buffered : Nat -> alpha)
    (parts : List (Array alpha))
    (hdisplacements : t.displacements = exclusiveSums t.counts)
    (hcounts : t.counts = parts.map Array.size) :
    t.collect buffered parts = joined parts := by
  unfold collect
  rw [hdisplacements, exclusiveSums, hcounts, foldl_writeAt]
  apply writeAt_whole
  rw [Array.size_ofFn, total_eq_sum, hcounts, size_joined]

theorem part_joined (t : BlockTable) (parts : List (Array alpha))
    (hdisplacements : t.displacements = exclusiveSums t.counts)
    (hcounts : t.counts = parts.map Array.size) {k : Nat} (hk : k < parts.length) :
    t.part (joined parts) k = parts[k] := by
  have hlength : k < t.counts.length := by
    rw [hcounts, List.length_map]
    exact hk
  have hcount : t.counts.getD k 0 = parts[k].size := by
    rw [hcounts, List.getD_eq_getElem?_getD, List.getElem?_map,
      List.getElem?_eq_getElem hk]
    rfl
  unfold part
  rw [hdisplacements, getD_exclusiveSums _ hlength, hcount, hcounts]
  exact extract_joined parts hk

theorem pack_eq_joined [Zero alpha] (t : BlockTable) (x : Dense alpha) :
    t.pack x = joined (t.regions.map fun r => (x.restrict r).entries) := by
  apply Array.toList_inj.mp
  rw [toList_joined, List.flatMap_map]
  rfl

end BlockTable
end BlockCyclic
