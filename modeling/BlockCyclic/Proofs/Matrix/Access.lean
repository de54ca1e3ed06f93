import BlockCyclic.Proofs.Matrix.Filling
import BlockCyclic.Proofs.Matrix.Ownership

/-!
# Access by position

An entry is named by its row and its column, by its address, or by the process that holds it
and a position in the block there. All three ways lead to the same entry, and they are open
for the same entries. A process that writes at a position changes this entry of the whole
matrix and nothing else.
-/

namespace BlockCyclic

variable {n : Nat} {delta alpha rho beta : Type}

/-!
# Answers inside a range
-/

/-- A result that is there inside a range; outside of it there is an index failure. -/
structure Answered (range : Prop) (result : Except Failure beta) : Prop where
  inside : range -> exists value, result = .ok value
  outside : ¬range -> exists fault, result = .error (.index fault)

section

variable {range : Prop} [Decidable range] {fault : IndexFault} {value : beta}

theorem withinRange_of_inside (h : range) :
    withinRange (some (decide range)) fault value = .ok value := by
  rw [decide_eq_true h]
  rfl

theorem withinRange_of_outside (h : ¬range) :
    withinRange (some (decide range)) fault value = .error (.index fault) := by
  rw [decide_eq_false h]
  rfl

theorem withinRange_eq_ok {result : beta}
    (h : withinRange (some (decide range)) fault value = .ok result) :
    range ∧ value = result := by
  by_cases hrange : range
  · rw [withinRange_of_inside hrange] at h
    exact ⟨hrange, Except.ok.inj h⟩
  · rw [withinRange_of_outside hrange] at h
    cases h

theorem answered_withinRange :
    Answered range (withinRange (some (decide range)) fault value) where
  inside := fun h => ⟨value, withinRange_of_inside h⟩
  outside := fun h => ⟨fault, withinRange_of_outside h⟩

end

/-!
# Rows and columns of a process
-/

namespace Layout

variable {l : Layout n} {r : Fin n} {i j : Int}

theorem globalRow_whole (l : Layout n) (r : Fin n) (i : Int) :
    l.globalRow r (.whole i) =
      withinRange (some (decide (0 ≤ i ∧ i < (l.localShape r).1)))
        (.localRow (.whole i) (l.localShape r).1) (l.rowIndex r i) := by
  unfold globalRow
  simp only
  rw [Subscript.below?_whole]
  rfl

theorem globalColumn_whole (l : Layout n) (r : Fin n) (j : Int) :
    l.globalColumn r (.whole j) =
      withinRange (some (decide (0 ≤ j ∧ j < (l.localShape r).2)))
        (.localColumn (.whole j) (l.localShape r).2) (l.colIndex r j) := by
  unfold globalColumn
  simp only
  rw [Subscript.below?_whole]
  rfl

theorem answered_address (l : Layout n) (i j : Int) :
    Answered ((0 ≤ i ∧ i < l.rows) ∧ (0 ≤ j ∧ j < l.cols))
      (l.address (.whole i) (.whole j)) := by
  unfold address
  rw [Subscript.bothBelow?_whole]
  exact answered_withinRange

theorem active_of_rows (hi : 0 ≤ i ∧ i < (l.localShape r).1) : l.grid.active r = true := by
  cases hr : l.grid.active r with
  | true => rfl
  | false =>
      rw [localShape_of_inactive hr] at hi
      exact absurd (Int.lt_of_le_of_lt hi.1 hi.2) (by decide)

theorem rowIndex_inside (hi : 0 ≤ i ∧ i < (l.localShape r).1) :
    0 ≤ l.rowIndex r i ∧ l.rowIndex r i < l.rows := by
  rcases Int.eq_ofNat_of_zero_le hi.1 with ⟨k, rfl⟩
  have hnonneg := l.rowIndex_nonneg r k
  exact ⟨hnonneg, (Int.toNat_lt hnonneg).mp (l.rowIndex_lt r (Int.ofNat_lt.mp hi.2))⟩

theorem colIndex_inside (hj : 0 ≤ j ∧ j < (l.localShape r).2) :
    0 ≤ l.colIndex r j ∧ l.colIndex r j < l.cols := by
  rcases Int.eq_ofNat_of_zero_le hj.1 with ⟨k, rfl⟩
  have hnonneg := l.colIndex_nonneg r k
  exact ⟨hnonneg, (Int.toNat_lt hnonneg).mp (l.colIndex_lt r (Int.ofNat_lt.mp hj.2))⟩

theorem slot_rowIndex (l : Layout n) (r : Fin n) (i : Int) :
    l.distribution.rowAxis.slot (l.rowIndex r i) = i :=
  Axis.slot_index l.onGrid.positive.rowAxis _ _

theorem slot_colIndex (l : Layout n) (r : Fin n) (j : Int) :
    l.distribution.colAxis.slot (l.colIndex r j) = j :=
  Axis.slot_index l.onGrid.positive.colAxis _ _

theorem coords_eq_owner (hr : l.grid.active r = true) (i j : Int) :
    l.grid.coords r = (l.distribution.rowAxis.owner (l.rowIndex r i),
      l.distribution.colAxis.owner (l.colIndex r j)) :=
  Prod.ext (owner_rowIndex hr i).symm (owner_colIndex hr j).symm

section

variable (hi : 0 ≤ i ∧ i < (l.localShape r).1) (hj : 0 ≤ j ∧ j < (l.localShape r).2)

include hi hj

theorem address_of_local :
    l.address (.whole (l.rowIndex r i)) (.whole (l.colIndex r j)) =
      .ok ⟨(l.grid.coords r).1, (l.grid.coords r).2, i, j⟩ := by
  rw [address_of_inside (rowIndex_inside hi) (colIndex_inside hj), slot_rowIndex,
    slot_colIndex, coords_eq_owner (active_of_rows hi) i j]

theorem get_piece_of_local [Zero alpha] (y : Dense alpha) :
    (l.piece y r).get i.toNat j.toNat =
      y.get (l.rowIndex r i).toNat (l.colIndex r j).toNat := by
  rcases Int.eq_ofNat_of_zero_le hi.1 with ⟨a, rfl⟩
  rcases Int.eq_ofNat_of_zero_le hj.1 with ⟨b, rfl⟩
  exact l.get_piece y r (Int.ofNat_lt.mp hi.2) (Int.ofNat_lt.mp hj.2)

end

/-- The owner of an entry has it at the slots of its row and its column. -/
theorem local_of_ownerAt (l : Layout n) {g h : Int} (hg : 0 ≤ g ∧ g < l.rows)
    (hh : 0 ≤ h ∧ h < l.cols) :
    ((0 ≤ l.distribution.rowAxis.slot g ∧
        l.distribution.rowAxis.slot g < (l.localShape (l.ownerAt g h)).1) ∧
      (0 ≤ l.distribution.colAxis.slot h ∧
        l.distribution.colAxis.slot h < (l.localShape (l.ownerAt g h)).2)) ∧
    l.rowIndex (l.ownerAt g h) (l.distribution.rowAxis.slot g) = g ∧
    l.colIndex (l.ownerAt g h) (l.distribution.colAxis.slot h) = h := by
  have hcoords := l.coords_eq_owner_iff.mpr (rfl : l.ownerAt g h = _)
  have hslots := slots_lt_localShape hg.2 hh.2 (congrArg Prod.fst hcoords)
    (congrArg Prod.snd hcoords)
  refine ⟨⟨⟨Axis.slot_nonneg l.onGrid.positive.rowAxis hg.1, hslots.1⟩,
    ⟨Axis.slot_nonneg l.onGrid.positive.colAxis hh.1, hslots.2⟩⟩, ?_, ?_⟩
  · unfold rowIndex
    rw [hcoords]
    exact Axis.index_owner_slot l.onGrid.positive.rowAxis g
  · unfold colIndex
    rw [hcoords]
    exact Axis.index_owner_slot l.onGrid.positive.colAxis h

end Layout

section

variable [Zero alpha]

theorem Selection.write_element (i j : Nat) (block : Dense alpha) (value : alpha) :
    (Selection.element i j).write block value = block.set i j value := by
  unfold write Dense.set contains
  simp only [Bool.and_eq_true, beq_iff_eq]

end

namespace DistributedMatrix

variable [Zero alpha]

/-!
# Reading
-/

/--
Positions, addresses and entries of a matrix agree: each is open in its range, and the process
and the position that an address names have the entry.
-/
structure ReadsAs (a : DistributedMatrix n alpha) (y : Dense alpha) : Prop where
  row : forall r (i : Int), Answered (0 ≤ i ∧ i < (a.layout.localShape r).1)
    (a.layout.globalRow r (.whole i))
  column : forall r (j : Int), Answered (0 ≤ j ∧ j < (a.layout.localShape r).2)
    (a.layout.globalColumn r (.whole j))
  element : forall r (i j : Int),
    Answered ((0 ≤ i ∧ i < (a.layout.localShape r).1) ∧
        (0 ≤ j ∧ j < (a.layout.localShape r).2))
      (a.element r (.whole i) (.whole j))
  leftOut : forall r, a.layout.grid.active r = false -> a.layout.localShape r = (0, 0)
  position : forall r (i j g h : Int), a.layout.globalRow r (.whole i) = .ok g ->
    a.layout.globalColumn r (.whole j) = .ok h ->
      a.element r (.whole i) (.whole j) = .ok (.element (y.get g.toNat h.toNat)) ∧
      a.layout.address (.whole g) (.whole h) =
        .ok ⟨(a.layout.grid.coords r).1, (a.layout.grid.coords r).2, i, j⟩
  address : forall g h : Int, Answered ((0 ≤ g ∧ g < a.layout.rows) ∧ (0 ≤ h ∧ h < a.layout.cols))
    (a.layout.address (.whole g) (.whole h))
  place : forall (g h : Int) place, a.layout.address (.whole g) (.whole h) = .ok place ->
    exists r, a.layout.grid.active r = true ∧
      (forall s, a.layout.grid.coords s = (place.processRow, place.processCol) ↔ s = r) ∧
      a.element r (.whole place.localRow) (.whole place.localCol) =
        .ok (.element (y.get g.toNat h.toNat))

variable {a : DistributedMatrix n alpha} {r : Fin n} {i j : Int}

theorem element_whole (a : DistributedMatrix n alpha) (r : Fin n) (i j : Int) :
    a.element r (.whole i) (.whole j) =
      withinRange
        (some (decide ((0 ≤ i ∧ i < (a.layout.localShape r).1) ∧
          (0 ≤ j ∧ j < (a.layout.localShape r).2))))
        (.localElement (.whole i) (.whole j) (a.layout.localShape r).1
          (a.layout.localShape r).2)
        (.element ((a.part r).block.get i.toNat j.toNat)) := by
  unfold element selection Layout.checkLocal
  simp only
  rw [Subscript.bothBelow?_whole]
  by_cases h : (0 ≤ i ∧ i < (a.layout.localShape r).1) ∧
      (0 ≤ j ∧ j < (a.layout.localShape r).2)
  · rw [withinRange_of_inside h, withinRange_of_inside h]
    rfl
  · rw [withinRange_of_outside h, withinRange_of_outside h]
    rfl

theorem readsAs_of_pieces {y : Dense alpha}
    (hpieces : forall r, (a.part r).block = a.layout.piece y r) : a.ReadsAs y where
  row := fun r i => by
    rw [Layout.globalRow_whole]
    exact answered_withinRange
  column := fun r j => by
    rw [Layout.globalColumn_whole]
    exact answered_withinRange
  element := fun r i j => by
    rw [element_whole]
    exact answered_withinRange
  leftOut := fun r hr => Layout.localShape_of_inactive hr
  position := by
    intro r i j g h hg hh
    rw [Layout.globalRow_whole] at hg
    rw [Layout.globalColumn_whole] at hh
    rcases withinRange_eq_ok hg with ⟨hi, rfl⟩
    rcases withinRange_eq_ok hh with ⟨hj, rfl⟩
    refine ⟨?_, Layout.address_of_local hi hj⟩
    rw [element_whole, withinRange_of_inside ⟨hi, hj⟩, hpieces r,
      Layout.get_piece_of_local hi hj]
  address := a.layout.answered_address
  place := by
    intro g h place hplace
    unfold Layout.address at hplace
    rw [Subscript.bothBelow?_whole] at hplace
    rcases withinRange_eq_ok hplace with ⟨⟨hg, hh⟩, rfl⟩
    rcases a.layout.local_of_ownerAt hg hh with ⟨⟨hi, hj⟩, hrow, hcol⟩
    refine ⟨a.layout.ownerAt g h, a.layout.active_ownerAt g h,
      fun s => a.layout.coords_eq_owner_iff, ?_⟩
    show a.element _ (.whole (a.layout.distribution.rowAxis.slot g))
      (.whole (a.layout.distribution.colAxis.slot h)) = _
    rw [element_whole, withinRange_of_inside ⟨hi, hj⟩, hpieces, Layout.get_piece_of_local hi hj,
      hrow, hcol]

/-!
# Copies
-/

theorem result_copyTo (hopen : a.layout.grid.released = false) (h : a.Shaped)
    (everywhere : Bool) (r : Fin n) :
    ((a.copyTo everywhere).get r).result =
      ((a.part r).requireState .copy).map fun _ =>
        if everywhere = true ∨ r = a.layout.grid.first then some a.whole else none := by
  have hgathered := get_gathered_of_shaped hopen h
  have hcopy : (if everywhere then Communicator.world.broadcast 0 a.gathered
      else a.gathered).get r =
        if everywhere = true ∨ r = a.layout.grid.first then some a.whole else none := by
    cases everywhere with
    | true =>
        rw [if_pos rfl, Grid.get_world_broadcast a.layout.grid, hgathered, if_pos rfl,
          if_pos (Or.inl rfl)]
    | false =>
        rw [if_neg Bool.false_ne_true, hgathered]
        simp only [Bool.false_eq_true, false_or]
  unfold copyTo
  simp only [PerProcess.get_ofFn, hcopy]
  cases (a.part r).requireState .copy with
  | ok _ => rfl
  | error failure => rfl

/-!
# Writing
-/

/-- One process has another value at a position; nothing else is different. -/
structure Rewrites (a written : DistributedMatrix n alpha) (r : Fin n) (i j : Int)
    (value : alpha) : Prop where
  layout : written.layout = a.layout
  others : forall s, s ≠ r -> written.part s = a.part s
  own : written.part r =
    { a.part r with block := (a.part r).block.set i.toNat j.toNat value }

theorem setElement_of_inside (hi : 0 ≤ i ∧ i < (a.layout.localShape r).1)
    (hj : 0 ≤ j ∧ j < (a.layout.localShape r).2) (value : alpha) :
    a.setElement r (.whole i) (.whole j) value =
      .answer { a.part r with block := (a.part r).block.set i.toNat j.toNat value } () := by
  unfold setElement
  simp only
  rw [selection_of_inside hi hj]
  show Reply.answer { a.part r with block := Selection.write _ _ _ } () = _
  rw [Selection.write_element]

theorem rewrites_setElement [Zero rho] [Measure rho] (numerics : Numerics delta alpha rho)
    (hi : 0 ≤ i ∧ i < (a.layout.localShape r).1) (hj : 0 ≤ j ∧ j < (a.layout.localShape r).2)
    (value : alpha) :
    a.Rewrites (a.next numerics (.setElement (fun s => s == r) (.whole i) (.whole j) value))
      r i j value where
  layout := rfl
  others := by
    intro s hs
    rw [part_next]
    unfold perform
    simp only
    rw [PerProcess.get_ofFn, if_neg fun heq => hs (beq_iff_eq.mp heq)]
    rfl
  own := by
    rw [part_next]
    unfold perform
    simp only
    rw [PerProcess.get_ofFn, if_pos (beq_iff_eq.mpr rfl), setElement_of_inside hi hj]
    rfl

section

variable {written : DistributedMatrix n alpha} {value : alpha}

theorem Rewrites.state (hw : a.Rewrites written r i j value) (s : Fin n) :
    (written.part s).state = (a.part s).state := by
  by_cases hs : s = r
  · rw [hs, hw.own]
  · rw [hw.others s hs]

theorem Rewrites.shaped (hw : a.Rewrites written r i j value) (h : a.Shaped) :
    written.Shaped := by
  intro s
  rw [hw.layout]
  by_cases hs : s = r
  · rw [hs, hw.own]
    exact h r
  · rw [hw.others s hs]
    exact h s

theorem Rewrites.whole (hw : a.Rewrites written r i j value) (h : a.Shaped)
    (hi : 0 ≤ i ∧ i < (a.layout.localShape r).1) (hj : 0 ≤ j ∧ j < (a.layout.localShape r).2) :
    written.whole =
      a.whole.set (a.layout.rowIndex r i).toNat (a.layout.colIndex r j).toNat value := by
  have hrow := Layout.rowIndex_inside hi
  have hcol := Layout.colIndex_inside hj
  have howner := Layout.coords_eq_owner (Layout.active_of_rows hi) i j
  show written.layout.grid.assemble written.layout.distribution written.blocks = _
  rw [hw.layout]
  apply Layout.assemble_pieces
  · exact a.rows_whole
  · exact a.cols_whole
  · intro s
    have hpiece := pieces_of_shaped h s
    rw [get_blocks_eq] at hpiece ⊢
    by_cases hs : s = r
    · have hwrite := Layout.write_piece_of_owner a.rows_whole a.cols_whole hrow.1 hcol.1
        (congrArg Prod.fst howner) (congrArg Prod.snd howner) value
      rw [Layout.slot_rowIndex, Layout.slot_colIndex, Selection.write_element] at hwrite
      rw [hs] at hpiece ⊢
      rw [hw.own, hpiece]
      exact hwrite
    · -- The written entry has one owner, so that it is in no other piece.
      have hother : ¬((a.layout.grid.coords s).1 =
            a.layout.distribution.rowAxis.owner (a.layout.rowIndex r i) ∧
          (a.layout.grid.coords s).2 =
            a.layout.distribution.colAxis.owner (a.layout.colIndex r j)) := by
        rintro ⟨hsameRow, hsameCol⟩
        have hself := a.layout.coords_eq_owner_iff.mp howner
        have hsame := a.layout.coords_eq_owner_iff.mp (Prod.ext hsameRow hsameCol)
        exact hs (hsame.trans hself.symm)
      rw [hw.others s hs, hpiece]
      exact Layout.piece_set_of_other a.rows_whole a.cols_whole hrow.1 hcol.1 hother value

theorem Rewrites.copies (hw : a.Rewrites written r i j value) (h : a.Shaped)
    (hopen : a.layout.grid.released = false) (hi : 0 ≤ i ∧ i < (a.layout.localShape r).1)
    (hj : 0 ≤ j ∧ j < (a.layout.localShape r).2) (everywhere : Bool) (s : Fin n) :
    ((written.copyTo everywhere).get s).result =
      ((a.copyTo everywhere).get s).result.map (Option.map fun y =>
        y.set (a.layout.rowIndex r i).toNat (a.layout.colIndex r j).toNat value) := by
  have hstate : (written.part s).requireState .copy = (a.part s).requireState .copy := by
    unfold Part.requireState
    rw [hw.state s]
  rw [result_copyTo (by rw [hw.layout, hopen]) (hw.shaped h), result_copyTo hopen h, hstate,
    hw.whole h hi hj, hw.layout]
  cases (a.part s).requireState .copy with
  | error failure => rfl
  | ok _ =>
      by_cases hreceives : everywhere = true ∨ s = a.layout.grid.first
      · simp only [if_pos hreceives, Except.map]
        rfl
      · simp only [if_neg hreceives, Except.map]
        rfl

end

/-- A write at a position is a write of the entry that the row and the column there name. -/
theorem setElement_at_position [Zero rho] [Measure rho] (numerics : Numerics delta alpha rho)
    (hopen : a.layout.grid.released = false) (h : a.Shaped) {g k : Int}
    (hg : a.layout.globalRow r (.whole i) = .ok g)
    (hk : a.layout.globalColumn r (.whole j) = .ok k) (value : alpha) :
    let written := a.next numerics (.setElement (fun s => s == r) (.whole i) (.whole j) value)
    (a.setElement r (.whole i) (.whole j) value).result = .ok () ∧
    a.Rewrites written r i j value ∧
    forall everywhere s, ((written.copyTo everywhere).get s).result =
      ((a.copyTo everywhere).get s).result.map
        (Option.map fun y => y.set g.toNat k.toNat value) := by
  intro written
  rw [Layout.globalRow_whole] at hg
  rw [Layout.globalColumn_whole] at hk
  rcases withinRange_eq_ok hg with ⟨hi, rfl⟩
  rcases withinRange_eq_ok hk with ⟨hj, rfl⟩
  have hw := rewrites_setElement numerics hi hj value
  refine ⟨?_, hw, hw.copies h hopen hi hj⟩
  rw [setElement_of_inside hi hj]
  rfl

/-!
# Matrices that are loaded
-/

/-- A sheet on the first process is loaded everywhere, as the table of its entries. -/
theorem assign_of_lists (numerics : Numerics delta alpha rho)
    (hopen : a.layout.grid.released = false) (h : a.Shaped)
    {xs : PerProcess n (Option (Sheet delta))} {s : Sheet delta} {x : Nat -> Nat -> delta}
    (hfirst : xs.get a.layout.grid.first = some s)
    (hs : s.Lists a.layout.rows a.layout.cols x) {choice : PropertyChoice}
    {property : Option Property} (hchoice : a.layout.propertyFrom choice = .ok property)
    (r : Fin n) :
    ((a.assign numerics xs choice).get r).result = .ok () ∧
      ((a.assign numerics xs choice).get r).part.block =
        a.layout.piece (a.layout.tabulated numerics x) r ∧
      ((a.assign numerics xs choice).get r).part.state = .matrix := by
  have hreply := reply_assign numerics hopen h hfirst hs choice r
  unfold Part.loadEffect at hreply
  rw [hchoice] at hreply
  rw [hreply.1, hreply.2, a.layout.piece_tabulated]
  exact ⟨rfl, rfl, rfl⟩

/--
A matrix that is loaded from a sheet reads as the table of its entries, at every position of a
process and at every address, and is copied as this table. Whatever happens to it afterwards, a
write at a position of a process changes the block of this process there and one entry of all
copies, the one that the row and the column of the position name.
-/
theorem access_follows_placement [Zero rho] [Measure rho] (numerics : Numerics delta alpha rho)
    {q : MatrixRequest} {settings : Settings} {grid : Grid n} (hopen : grid.released = false)
    {shape : Argument} {made : Created n alpha} (hmade : q.create settings grid shape = .ok made)
    (before : List (Call n delta alpha rho)) {xs : PerProcess n (Option (Sheet delta))}
    {s : Sheet delta} (hfirst : xs.get grid.first = some s) {x : Nat -> Nat -> delta}
    (hs : s.Lists made.matrix.layout.rows made.matrix.layout.cols x) {choice : PropertyChoice}
    {property : Option Property}
    (hchoice : made.matrix.layout.propertyFrom choice = .ok property) :
    let l := made.matrix.layout
    let old := made.matrix.run numerics before
    let a := old.next numerics (.assign xs choice)
    a.layout = l ∧
    (forall r, ((old.assign numerics xs choice).get r).result = .ok ()) ∧
    a.ReadsAs (l.tabulated numerics x) ∧
    (forall everywhere r, everywhere = true ∨ r = l.grid.first ->
      ((a.copyTo everywhere).get r).result = .ok (some (l.tabulated numerics x))) ∧
    (forall after r i j g k value, l.globalRow r (.whole i) = .ok g ->
      l.globalColumn r (.whole j) = .ok k ->
        let b := a.run numerics after
        let written := b.next numerics (.setElement (fun s => s == r) (.whole i) (.whole j) value)
        (b.setElement r (.whole i) (.whole j) value).result = .ok () ∧
        b.Rewrites written r i j value ∧
        forall everywhere s, ((written.copyTo everywhere).get s).result =
          ((b.copyTo everywhere).get s).result.map
            (Option.map fun y => y.set g.toNat k.toNat value)) := by
  intro l old a
  have hold : old.layout = made.matrix.layout := layout_run _ before
  have ha : a.layout = made.matrix.layout := hold
  rcases MatrixRequest.matrix_of_create hmade with ⟨hgrid, initial, hblank⟩
  have hopenNow : made.matrix.layout.grid.released = false := by rw [hgrid, hopen]
  have hshaped : old.Shaped := by
    apply shaped_run
    rw [hblank]
    exact shaped_blank _ initial
  have hshapedNow : a.Shaped := shaped_next numerics hshaped _
  have hloaded := assign_of_lists numerics (by rw [hold, hopenNow]) hshaped
    (by rw [hold, hgrid, hfirst]) (by rwa [hold]) (by rw [hold, hchoice])
  have hpart : forall r, a.part r = ((old.assign numerics xs choice).get r).part := by
    intro r
    show (old.next numerics (.assign xs choice)).part r = _
    rw [part_next]
    unfold perform
    rw [PerProcess.get_map]
    rfl
  have hpieces : forall r, (a.part r).block = a.layout.piece (l.tabulated numerics x) r := by
    intro r
    rw [hpart r, (hloaded r).2.1]
    show old.layout.piece (old.layout.tabulated numerics x) r = old.layout.piece _ r
    rw [hold]
  have hwhole : a.whole = l.tabulated numerics x := by
    apply Layout.assemble_pieces
    · show l.rows = a.layout.rows
      rw [ha]
    · show l.cols = a.layout.cols
      rw [ha]
    · intro r
      rw [get_blocks_eq, hpieces r]
  refine ⟨ha, fun r => (hloaded r).1, readsAs_of_pieces hpieces, ?_, ?_⟩
  · intro everywhere r hreceives
    have hstate : (a.part r).requireState .copy = .ok () := by
      unfold Part.requireState
      rw [hpart r, (hloaded r).2.2]
      rfl
    rw [result_copyTo (by rw [ha, hopenNow]) hshapedNow, hstate, ha, if_pos hreceives, hwhole]
    rfl
  · intro after r i j g k value hg hk b written
    have hb : b.layout = made.matrix.layout := (layout_run _ after).trans ha
    exact setElement_at_position numerics (by rw [hb, hopenNow])
      (shaped_run numerics hshapedNow after) (by rw [hb]; exact hg) (by rw [hb]; exact hk) value

end DistributedMatrix

/-- Single rows of three on two of three processes, over content that was different. -/
theorem DistributedMatrix.access_follows_placement_three_rows :
    let grid : Grid 3 := ⟨2, 1, by decide, by decide, by decide, fun _ => 0, false⟩
    let q : MatrixRequest := ⟨.whole 1, .absent, .unspecified, .absent⟩
    let made : Created 3 Int :=
      ⟨.blank ⟨grid, 3, 2, 1, 1, .double, by decide, by decide, by decide, by decide⟩ .general,
        .serialOnRoot⟩
    let t := ElementType.ofPrecision .double
    let s : Sheet Int := ⟨[3, 2], t, #[0, 1, 10, 11, 20, 21]⟩
    let xs : PerProcess 3 (Option (Sheet Int)) := #v[some s, none, none]
    let a := (made.matrix.run exactNumerics [.fill (fun _ => .ok ⟨[], t, #[7]⟩) .unspecified]).next
      exactNumerics (.assign xs .unspecified)
    let written := a.next exactNumerics (.setElement (fun s => s == 0) (.whole 1) (.whole 1) 5)
    q.create .standard grid (.list [.whole 3, .whole 2]) = .ok made ∧
    s.Lists 3 2 (fun i j => 10 * i + j) ∧
    a.element 0 (.whole 1) (.whole 1) = .ok (.element 21) ∧
    a.layout.address (.whole 2) (.whole 1) = .ok ⟨0, 0, 1, 1⟩ ∧
    ((written.copyTo false).get 0).result.map (Option.map Dense.toLists) =
      .ok (some [[0, 1], [10, 11], [20, 5]]) := by
  intro grid q made t s xs a written
  have hmade : q.create .standard grid (.list [.whole 3, .whole 2]) = .ok made := rfl
  have hlists : s.Lists 3 2 (fun i j => 10 * i + j) := ⟨by decide, by decide⟩
  rcases access_follows_placement exactNumerics rfl hmade
    [.fill (fun _ => .ok ⟨[], t, #[7]⟩) .unspecified] (rfl : xs.get grid.first = some s) hlists
    (rfl : made.matrix.layout.propertyFrom .unspecified = .ok none) with
    ⟨hlayout, _, hreads, hcopies, hwrites⟩
  have hrow : made.matrix.layout.globalRow 0 (.whole 1) = .ok 2 := by
    rw [Layout.globalRow_whole, withinRange_of_inside (by decide)]
    exact congrArg Except.ok (by decide)
  have hcolumn : made.matrix.layout.globalColumn 0 (.whole 1) = .ok 1 := by
    rw [Layout.globalColumn_whole, withinRange_of_inside (by decide)]
    exact congrArg Except.ok (by decide)
  have hvalue : (made.matrix.layout.tabulated exactNumerics fun i j => 10 * i + j).get 2 1 =
      21 := by
    decide +kernel
  have hread := hreads.position 0 1 1 2 1 (by rw [hlayout]; exact hrow)
    (by rw [hlayout]; exact hcolumn)
  have hcopy := hcopies false 0 (Or.inr rfl)
  have hwritten := (hwrites [] 0 1 1 2 1 5 hrow hcolumn).2.2 false 0
  refine ⟨hmade, hlists, ?_, ?_, ?_⟩
  · rw [hread.1]
    exact congrArg (fun value => Except.ok (Selected.element value)) hvalue
  · rw [hread.2, hlayout]
    exact congrArg Except.ok (by decide)
  · have hcopied : ((written.copyTo false).get 0).result = _ :=
      hwritten.trans (congrArg (Except.map (Option.map fun y => y.set 2 1 5)) hcopy)
    have hentries : ((made.matrix.layout.tabulated exactNumerics fun i j => 10 * i + j).set
        2 1 5).toLists = [[0, 1], [10, 11], [20, 5]] := by
      decide +kernel
    rw [hcopied]
    exact congrArg (fun rows => Except.ok (some rows)) hentries

end BlockCyclic
