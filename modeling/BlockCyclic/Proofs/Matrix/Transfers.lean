import BlockCyclic.Proofs.Grid.Arrangement
import BlockCyclic.Proofs.Matrix.Legality
import BlockCyclic.Proofs.Transfer.Counts

/-!
# Transfers of a laid out matrix

The sender of a transfer counts entries position by position, while a receiver has a local
block that was made for its own coordinates when the matrix was created, and that keeps its
shape ever since. Both count the same entries, so that every part of a transfer is as long as
the block that it comes from or goes to.
-/

namespace BlockCyclic

variable {n : Nat} {delta alpha rho : Type} [Zero alpha]

namespace Layout

variable {l : Layout n}

/-- The table by which whole matrices are sent to the processes of the grid and collected. -/
def blockTable (l : Layout n) : BlockTable :=
  l.distribution.blockTable l.grid.processes.length

theorem tiles_blockTable (l : Layout n) :
    l.blockTable.Tiles (l.grid.rows * l.grid.cols) (l.rows * l.cols) := by
  unfold blockTable
  rw [l.grid.length_processes]
  exact Distribution.tiles_blockTable l.onGrid rfl rfl

/-- No sum of counts leaves the words, where the number of entries is a word. -/
theorem wordSums_blockTable (h : ((l.rows * l.cols : Nat) : Int) < Words.bound) :
    Words.sumsBefore 0 l.blockTable.counts = l.blockTable.displacements.map Int.ofNat := by
  refine @Words.sumsBefore_eq _ 0 ?_
  rwa [Nat.zero_add, l.tiles_blockTable.sum]

end Layout

namespace DistributedMatrix

variable {a : DistributedMatrix n alpha}

section

variable (h : a.Shaped)

include h

theorem fits_of_shaped : a.layout.distribution.Fits a.layout.grid.processes a.blocks :=
  Grid.fits_of_holdsPieces (Layout.holdsPieces_of_pieces (pieces_of_shaped h))

theorem counts_of_shaped : a.layout.blockTable.counts =
    (a.layout.grid.processes.map fun r => (a.part r).block.entries).map Array.size := by
  have hcounts := Distribution.counts_of_fits (fits_of_shaped h)
  simp only [get_blocks_eq] at hcounts
  exact hcounts

/-- The local blocks fill the buffer into which they are collected, whatever it held before. -/
theorem collect_of_shaped (unwritten : Nat -> alpha) :
    a.layout.blockTable.collect unwritten
        (a.layout.grid.processes.map fun r => (a.part r).block.entries) =
      joined (a.layout.grid.processes.map fun r => (a.part r).block.entries) :=
  BlockTable.collect_eq_joined _ unwritten _ rfl (counts_of_shaped h)

section

variable {r : Fin n} (hr : a.layout.grid.active r = true)

include hr

omit [Zero alpha] h in
theorem getElem?_entries_processes :
    (a.layout.grid.processes.map fun s => (a.part s).block.entries)[r.val]? =
      some (a.part r).block.entries := by
  have hlt := (a.layout.grid.active_iff r).mp hr
  rw [List.getElem?_map, (a.layout.grid.getElem?_processes hlt).mpr rfl]
  rfl

theorem count_of_shaped :
    a.layout.blockTable.counts.getD r.val 0 = (a.part r).block.entries.size := by
  rw [counts_of_shaped h, List.getD_eq_getElem?_getD, List.getElem?_map,
    getElem?_entries_processes hr]
  rfl

theorem part_collect_of_shaped (unwritten : Nat -> alpha) :
    a.layout.blockTable.part (a.layout.blockTable.collect unwritten
        (a.layout.grid.processes.map fun s => (a.part s).block.entries)) r.val =
      (a.part r).block.entries := by
  rcases List.getElem?_eq_some_iff.mp (getElem?_entries_processes hr) with ⟨hlt, hself⟩
  rw [collect_of_shaped h unwritten, BlockTable.part_joined _ _ rfl (counts_of_shaped h) hlt,
    hself]

end

end

end DistributedMatrix

/--
The parts of every transfer of a matrix follow each other and fill the buffer. They are as long
as the local blocks of the processes that they belong to, from the creation of the matrix on and
through all calls, so that nothing is cut off, written twice or left unwritten.
-/
theorem Layout.transfers_match_receivers [Zero rho] [Measure rho]
    (numerics : Numerics delta alpha rho) (l : Layout n) (hopen : l.grid.released = false)
    (hwords : ((l.rows * l.cols : Nat) : Int) < Words.bound) :
    let t := l.blockTable
    let members := l.grid.rows * l.grid.cols
    t.Tiles members (l.rows * l.cols) ∧
    Words.sumsBefore 0 t.counts = t.displacements.map Int.ofNat ∧
    (forall r, l.grid.active r = true ->
      l.grid.gridComm.Seats r r.val members fun s => l.grid.active s = true) ∧
    (forall (q : MatrixRequest) settings shape (made : Created n alpha),
      q.create settings l.grid shape = .ok made -> made.matrix.layout = l ->
        exists property, made.matrix = .blank l property) ∧
    (forall property program,
      let a := (DistributedMatrix.blank l property).run numerics program
      let parts := l.grid.processes.map fun s => (a.part s).block.entries
      forall r, l.grid.active r = true ->
        (a.part r).block.entries.size = t.counts.getD r.val 0 ∧
        (forall {beta : Type} [Zero beta] (x : Dense beta) (enter : beta -> alpha),
          (t.pack x).size = l.rows * l.cols ∧
          (t.part ((t.pack x).map enter) r.val).size = (a.part r).block.entries.size) ∧
        (forall unwritten, (t.collect unwritten parts).size = l.rows * l.cols ∧
          t.collect unwritten parts = joined parts ∧
          t.part (t.collect unwritten parts) r.val = (a.part r).block.entries)) := by
  intro t members
  refine ⟨l.tiles_blockTable, wordSums_blockTable hwords,
    fun r hr => Grid.seats_gridComm hopen hr, ?_, ?_⟩
  · intro q settings shape made hmade hlayout
    rcases MatrixRequest.matrix_of_create hmade with ⟨_, property, hblank⟩
    rw [hlayout] at hblank
    exact ⟨property, hblank⟩
  · intro property program a parts r hr
    have hlayout : a.layout = l := DistributedMatrix.layout_run _ program
    have hshaped : a.Shaped :=
      DistributedMatrix.shaped_run numerics (DistributedMatrix.shaped_blank l property) program
    have hactive : a.layout.grid.active r = true := by rw [hlayout, hr]
    have hcounts := DistributedMatrix.counts_of_shaped hshaped
    have hcount := DistributedMatrix.count_of_shaped hshaped hactive
    have hcollect := DistributedMatrix.collect_of_shaped hshaped
    have hback := DistributedMatrix.part_collect_of_shaped hshaped hactive
    rw [hlayout] at hcounts hcount hcollect hback
    have hmember : r.val < members := (l.grid.active_iff r).mp hr
    refine ⟨hcount.symm, ?_, ?_⟩
    · intro beta _ x enter
      have hsize : (t.pack x).size = l.rows * l.cols :=
        (Distribution.size_pack l.distribution _ x).trans l.tiles_blockTable.sum
      refine ⟨hsize, ?_⟩
      rw [l.tiles_blockTable.size_part (by rw [Array.size_map, hsize]) hmember]
      exact hcount
    · intro unwritten
      refine ⟨?_, hcollect unwritten, hback unwritten⟩
      rw [hcollect unwritten, size_joined, ← hcounts]
      exact l.tiles_blockTable.sum

/-- A single column on two rows and two columns of processes, of which two hold nothing. -/
theorem Layout.transfers_match_receivers_empty_blocks :
    let l : Layout 5 := ⟨⟨2, 2, by decide, by decide, by decide, fun _ => 0, false⟩,
      3, 1, 1, 1, .double, by decide, by decide, by decide, by decide⟩
    let made : DistributedMatrix 5 Int := .blank l .general
    l.blockTable.counts = [2, 0, 1, 0] ∧ l.blockTable.displacements = [0, 2, 2, 3] ∧
    l.blockTable.Tiles 4 3 ∧ (made.part 0).block.entries.size = 2 ∧
    (made.part 1).block.entries.size = 0 := by
  intro l made
  rcases l.transfers_match_receivers exactNumerics rfl (by decide) with
    ⟨htiles, _, _, _, hblocks⟩
  have hcounts : l.blockTable.counts = [2, 0, 1, 0] := by decide +kernel
  have hfirst := (hblocks .general [] 0 rfl).1
  have hsecond := (hblocks .general [] 1 rfl).1
  rw [hcounts] at hfirst hsecond
  exact ⟨hcounts, by decide +kernel, htiles, hfirst, hsecond⟩

end BlockCyclic
