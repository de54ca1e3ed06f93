import BlockCyclic.Proofs.Kernel.Factor
import BlockCyclic.Proofs.Kernel.Refinement
import BlockCyclic.Settings

/-!
# Redistribution by transposes

Operands are kept under names, so that a transpose may write where it reads. It gathers
its operand before it writes, and changes nothing but its target. Source and target are
laid out each on its own: two transposes in a row bring a matrix from any layout into any
other one.
-/

namespace BlockCyclic

variable {n : Nat} {alpha : Type}

theorem Dense.transpose_transpose [Zero alpha] (x : Dense alpha) :
    x.transpose.transpose = x := by
  have hrows : x.transpose.transpose.rows = x.rows := rfl
  have hcols : x.transpose.transpose.cols = x.cols := rfl
  apply ext_get hrows hcols
  intro i j hi hj
  rw [get_transpose x.transpose hi hj, get_transpose x hj hi]

/-!
# Operands by name
-/

/-- The operands that the processes keep, by name. -/
abbrev NamedOperands (n : Nat) (alpha : Type) := Registry (PerProcess n (Operand alpha))

/-- All processes of the grid keep an operand with the descriptor under the name. -/
def NamedOperands.Holds (b : NamedOperands n alpha) (g : Grid n) (p : Precision)
    (name : String) (desc : Descriptor) : Prop :=
  exists operands, b.lookup name = some operands ∧ g.Carries p desc operands

structure Transposition (n : Nat) (alpha : Type) where
  statuses : PerProcess n (Option Int)
  operands : NamedOperands n alpha

def TransposeArgs.paired (operands targets : PerProcess n (Operand alpha)) :
    PerProcess n (TransposeArgs alpha) :=
  Vector.ofFn fun r => ⟨operands.get r, targets.get r⟩

variable [Zero alpha]

def NamedOperands.gathered (b : NamedOperands n alpha) (g : Grid n) (name : String) :
    Option (Dense alpha) :=
  (b.lookup name).bind g.gathered

def Kernel.transposeInto (g : Grid n) (p : Precision) (b : NamedOperands n alpha)
    (source target : String) : Option (Transposition n alpha) :=
  match b.lookup source, b.lookup target with
  | some operands, some targets =>
      let results := transpose g p (TransposeArgs.paired operands targets)
      some ⟨results.map KernelResult.status,
        b.register target (Grid.rewritten targets fun r => (results.get r).block)⟩
  | _, _ => none

/-- All processes of the grid end well, and a matrix under one name is all that is new. -/
structure Transposition.Leaves (t : Transposition n alpha) (g : Grid n) (p : Precision)
    (before : NamedOperands n alpha) (target : String) (desc : Descriptor)
    (x : Dense alpha) : Prop where
  statuses : forall r, g.active r = true -> t.statuses.get r = some 0
  holds : t.operands.Holds g p target desc
  gathered : t.operands.gathered g target = some x
  others : forall name, name ≠ target -> t.operands.lookup name = before.lookup name

/-!
# One transpose
-/

section

variable {g : Grid n} {p : Precision} {rows cols : Nat} {desc targetDesc : Descriptor}
  {operands targets : PerProcess n (Operand alpha)} {x : Dense alpha}

omit [Zero alpha] in
theorem TransposeArgs.source_paired (operands targets : PerProcess n (Operand alpha)) :
    (paired operands targets).map TransposeArgs.source = operands := by
  apply PerProcess.ext
  intro r
  unfold paired
  rw [PerProcess.get_map, PerProcess.get_ofFn]

omit [Zero alpha] in
theorem TransposeArgs.target_paired (operands targets : PerProcess n (Operand alpha)) :
    (paired operands targets).map TransposeArgs.target = targets := by
  apply PerProcess.ext
  intro r
  unfold paired
  rw [PerProcess.get_map, PerProcess.get_ofFn]

/-- Operands that end with the pieces of another matrix keep their descriptor. -/
theorem Grid.carries_rewritten (hdesc : desc.Describes rows cols)
    (h : g.Carries p desc operands) {blocks : Fin n -> Dense alpha}
    (hblocks : forall r, g.active r = true ->
      blocks r = cut (desc.distribution g.shape) x r) :
    g.Carries p desc (rewritten operands blocks) where
  descriptor := fun r hr => by
    unfold rewritten
    rw [PerProcess.get_ofFn]
    exact h.descriptor r hr
  context := fun r hr => by
    unfold rewritten
    rw [PerProcess.get_ofFn]
    exact h.context r hr
  fitting := fun r hr => by
    -- The old block and the new one are pieces of the same shape.
    have hold := holdsPieces_of_legal (legal_of_carries hdesc h) r hr
    have hnew := memberShape_cut (d := desc.distribution g.shape) x r
    have hfits := h.fitting r hr
    rw [PerProcess.get_map] at hold
    unfold Distribution.MemberShape at hold hnew
    unfold blockFits rewritten at *
    rw [PerProcess.get_ofFn, hblocks r hr]
    simp only
    rw [hnew.1, hnew.2, ← hold.1, ← hold.2]
    exact hfits

variable (hopen : g.released = false) (hdesc : desc.Describes rows cols)
  (htarget : targetDesc.Describes cols rows)

include hopen hdesc htarget

theorem Kernel.transpose_paired (hcarries : g.Carries p desc operands)
    (htargetCarries : g.Carries p targetDesc targets) (hx : g.gathered operands = some x)
    {r : Fin n} (hr : g.active r = true) :
    ((transpose g p (TransposeArgs.paired operands targets)).get r).status = some 0 ∧
      ((transpose g p (TransposeArgs.paired operands targets)).get r).block =
        Grid.cut (targetDesc.distribution g.shape) x.transpose r := by
  have hlegal := Grid.legal_of_carries hdesc hcarries
  have htargetLegal := Grid.legal_of_carries htarget htargetCarries
  have hwhole : g.assembleOperands (desc.distribution g.shape) operands = x := by
    rw [Grid.gathered_of_legal hopen hlegal] at hx
    exact Option.some.inj hx
  have hrows : (targetDesc.distribution g.shape).rows = (desc.distribution g.shape).cols :=
    htarget.rows.trans hdesc.cols.symm
  have hcols : (targetDesc.distribution g.shape).cols = (desc.distribution g.shape).rows :=
    htarget.cols.trans hdesc.rows.symm
  have hnonneg : 0 ≤ (desc.distribution g.shape).rows ∧
      0 ≤ (desc.distribution g.shape).cols := by
    show 0 ≤ desc.m ∧ 0 ≤ desc.n
    rw [hdesc.rows, hdesc.cols]
    exact ⟨Int.natCast_nonneg rows, Int.natCast_nonneg cols⟩
  rw [← TransposeArgs.source_paired operands targets] at hlegal hwhole
  rw [← TransposeArgs.target_paired operands targets] at htargetLegal
  constructor
  · exact status_transpose_of_legal hopen hlegal htargetLegal hrows hcols hr
  · rw [block_transpose_of_legal hopen hlegal htargetLegal hrows hcols hnonneg hr, hwhole]

theorem Kernel.leaves_transposeInto {b : NamedOperands n alpha} {source target : String}
    (hsource : b.Holds g p source desc) (hreceives : b.Holds g p target targetDesc)
    (hx : b.gathered g source = some x) :
    exists t, transposeInto g p b source target = some t ∧
      t.Leaves g p b target targetDesc x.transpose := by
  rcases hsource with ⟨operands, hlookup, hcarries⟩
  rcases hreceives with ⟨targets, htargetLookup, htargetCarries⟩
  unfold NamedOperands.gathered at hx
  rw [hlookup, Option.bind_some] at hx
  rcases Grid.exists_gathered hopen hdesc hcarries with ⟨y, hy, _, hyRows, hyCols⟩
  obtain rfl : y = x := Option.some.inj (hy.symm.trans hx)
  have hresults := fun r (hr : g.active r = true) =>
    transpose_paired hopen hdesc htarget hcarries htargetCarries hx hr
  have hblocks := fun r (hr : g.active r = true) => (hresults r hr).2
  have hrows : (y.transpose.rows : Int) = targetDesc.m := by
    rw [htarget.rows, Dense.rows_transpose, hyCols]
  have hcols : (y.transpose.cols : Int) = targetDesc.n := by
    rw [htarget.cols, Dense.cols_transpose, hyRows]
  unfold transposeInto
  rw [hlookup, htargetLookup]
  refine ⟨_, rfl, ?_⟩
  constructor
  case statuses =>
    intro r hr
    rw [PerProcess.get_map]
    exact (hresults r hr).1
  case holds =>
    exact ⟨_, Registry.lookup_register_self b target _,
      Grid.carries_rewritten htarget htargetCarries hblocks⟩
  case gathered =>
    unfold NamedOperands.gathered
    rw [Registry.lookup_register_self, Option.bind_some]
    exact Grid.gathered_rewritten hopen (Grid.legal_of_carries htarget htargetCarries)
      hrows hcols hblocks
  case others =>
    intro name hname
    exact Registry.lookup_register_ne b _ hname

end

namespace Kernel

/-- What is kept under a name is kept after a transpose, also by its target. -/
theorem holds_after {g : Grid n} {p : Precision} {b : NamedOperands n alpha}
    {t : Transposition n alpha} {target name : String} {targetDesc desc : Descriptor}
    {x : Dense alpha} (h : t.Leaves g p b target targetDesc x)
    (htarget : b.Holds g p target targetDesc) (hname : b.Holds g p name desc) :
    t.operands.Holds g p name desc := by
  by_cases hsame : name = target
  · -- The descriptors of one operand are the same but for what a process has for itself.
    subst hsame
    rcases htarget with ⟨operands, hlookup, hcarries⟩
    rcases hname with ⟨others, hothers, hcarriesToo⟩
    obtain rfl : operands = others := Option.some.inj (hlookup.symm.trans hothers)
    rcases h.holds with ⟨written, hwritten, hpassed⟩
    have hdesc : targetDesc.LaidOutAs desc :=
      (hcarries.descriptor g.first g.active_first).symm.trans
        (hcarriesToo.descriptor g.first g.active_first)
    exact ⟨written, hwritten, fun r hr => (hpassed.descriptor r hr).trans hdesc,
      hpassed.context, hpassed.fitting⟩
  · rcases hname with ⟨operands, hlookup, hcarries⟩
    exact ⟨operands, (h.others name hsame).trans hlookup, hcarries⟩

/-!
# Two transposes
-/

/--
On any grid, a matrix in any layout is transposed into operands of any layout and content:
all processes end well, the target holds exactly the transpose, and every other operand is
as it was. The target may be the operand itself. From there another transpose brings the
matrix into a third layout, also of the operand that it came from, with no entry changed.
-/
theorem transposes_redistribute {g : Grid n} (hopen : g.released = false) {p : Precision}
    {b : NamedOperands n alpha} {source target : String} {rows cols : Nat}
    {desc targetDesc : Descriptor} (hdesc : desc.Describes rows cols)
    (htarget : targetDesc.Describes cols rows) (hsource : b.Holds g p source desc)
    (hreceives : b.Holds g p target targetDesc) :
    exists x, b.gathered g source = some x ∧ x.rows = rows ∧ x.cols = cols ∧
    exists t, transposeInto g p b source target = some t ∧
      t.Leaves g p b target targetDesc x.transpose ∧
      forall (third : String) (thirdDesc : Descriptor), thirdDesc.Describes rows cols ->
        b.Holds g p third thirdDesc ->
        exists back, transposeInto g p t.operands target third = some back ∧
          back.Leaves g p t.operands third thirdDesc x := by
  have hexists : exists x, b.gathered g source = some x ∧ x.rows = rows ∧ x.cols = cols := by
    rcases hsource with ⟨operands, hlookup, hcarries⟩
    rcases Grid.exists_gathered hopen hdesc hcarries with ⟨x, hx, _, hrows, hcols⟩
    unfold NamedOperands.gathered
    rw [hlookup]
    exact ⟨x, hx, hrows, hcols⟩
  rcases hexists with ⟨x, hx, hrows, hcols⟩
  rcases leaves_transposeInto hopen hdesc htarget hsource hreceives hx with ⟨t, ht, hleaves⟩
  refine ⟨x, hx, hrows, hcols, t, ht, hleaves, ?_⟩
  intro third thirdDesc hthird hthirdReceives
  rcases leaves_transposeInto hopen htarget hthird hleaves.holds
    (holds_after hleaves hreceives hthirdReceives) hleaves.gathered with ⟨back, hback, hlast⟩
  rw [Dense.transpose_transpose] at hlast
  exact ⟨back, hback, hlast⟩

/-- Two rows of three on two of three processes, transposed and brought to the first one. -/
theorem transposes_redistribute_two_rows :
    let g : Grid 3 := ⟨2, 1, by decide, by decide, by decide, fun _ => 0, false⟩
    let operand := fun (rows cols : Nat) (desc : Descriptor) (first : Int) =>
      (⟨.ofPrecision .double, Dense.ofFn rows cols fun i j => first + 3 * i + j, desc⟩ :
        Operand Int)
    let desc := Descriptor.create (2, 3) (1, 2) 0 1 (0, 0)
    let turned := Descriptor.create (3, 2) (2, 1) 0 2 (0, 0)
    let whole := Descriptor.create (2, 3) (2, 3) 0 2 (0, 0)
    let a := #v[operand 1 3 desc 1, operand 1 3 desc 4, operand 0 0 desc 0]
    let c := #v[operand 2 2 turned 7, operand 1 2 { turned with lld := 1 } 7,
      operand 0 0 turned 0]
    let d := #v[operand 2 3 whole 7, operand 0 3 { whole with lld := 1 } 7,
      operand 0 0 whole 0]
    let b : NamedOperands 3 Int :=
      ((Registry.empty.register "a" a).register "c" c).register "d" d
    exists t, transposeInto g .double b "a" "c" = some t ∧
      (t.operands.gathered g "c").map Dense.toLists = some [[1, 4], [2, 5], [3, 6]] ∧
      t.operands.lookup "a" = some a ∧
      exists back, transposeInto g .double t.operands "c" "d" = some back ∧
        (back.operands.gathered g "d").map Dense.toLists = some [[1, 2, 3], [4, 5, 6]] := by
  intro g operand desc turned whole a c d b
  have hdesc : desc.Describes 2 3 := ⟨rfl, rfl, by decide, by decide, rfl, rfl⟩
  have hturned : turned.Describes 3 2 := ⟨rfl, rfl, by decide, by decide, rfl, rfl⟩
  have hwhole : whole.Describes 2 3 := ⟨rfl, rfl, by decide, by decide, rfl, rfl⟩
  have hlookup : b.lookup "a" = some a := by
    rw [Registry.lookup_register_ne _ _ (by decide), Registry.lookup_register_ne _ _ (by decide),
      Registry.lookup_register_self]
  have hcarries : g.Carries .double desc a :=
    ⟨by decide +kernel, by decide +kernel, by decide +kernel⟩
  have ha : b.Holds g .double "a" desc := ⟨a, hlookup, hcarries⟩
  have hc : b.Holds g .double "c" turned := by
    refine ⟨c, ?_, by decide +kernel, by decide +kernel, by decide +kernel⟩
    rw [Registry.lookup_register_ne _ _ (by decide), Registry.lookup_register_self]
  have hd : b.Holds g .double "d" whole :=
    ⟨d, Registry.lookup_register_self _ _ _, by decide +kernel, by decide +kernel,
      by decide +kernel⟩
  rcases transposes_redistribute rfl hdesc hturned ha hc with
    ⟨x, hx, _, _, t, ht, hleaves, hthen⟩
  rcases hthen "d" whole hwhole hd with ⟨back, hback, hlast⟩
  -- What is gathered first is known, since the blocks are.
  have hgathered : b.gathered g "a" =
      some (g.assembleOperands (desc.distribution g.shape) a) := by
    unfold NamedOperands.gathered
    rw [hlookup]
    exact Grid.gathered_of_legal rfl (Grid.legal_of_carries hdesc hcarries)
  obtain rfl : g.assembleOperands (desc.distribution g.shape) a = x :=
    Option.some.inj (hgathered.symm.trans hx)
  refine ⟨t, ht, ?_, ?_, back, hback, ?_⟩
  · rw [hleaves.gathered]
    decide +kernel
  · rw [hleaves.others "a" (by decide), hlookup]
  · rw [hlast.gathered]
    decide +kernel

end Kernel
end BlockCyclic
