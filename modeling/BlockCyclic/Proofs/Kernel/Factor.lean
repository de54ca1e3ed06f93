import BlockCyclic.Kernel.Factor
import BlockCyclic.Proofs.Grid.Pieces

/-!
# Factorization, inversion and transpose on a grid

On legal operands a distributed kernel is the serial one between gathering and scattering.
-/

namespace BlockCyclic

/-!
# Operands that pass their checks

The operands of a kernel are legal for a distribution if every process of the grid passes
a piece of the shape that the distribution gives it, with a descriptor that means this
distribution. The first process then gathers the whole matrix, and scatters another one of
the same shape over the pieces.
-/

variable {n : Nat} {alpha : Type}

/-- Pieces of one matrix, with descriptors that say so. -/
structure Grid.Legal (g : Grid n) (p : Precision) (d : Distribution)
    (operands : PerProcess n (Operand alpha)) : Prop where
  onGrid : d.OnGrid g.rows g.cols
  accepted : forall r, g.active r = true -> g.accepts r (operands.get r).descriptor = true
  fitting : forall r, g.active r = true -> g.blockFits p r (operands.get r) = true
  meaning : forall r, g.active r = true ->
    (operands.get r).descriptor.distribution g.shape = d

namespace Grid

variable {g : Grid n} {p : Precision} {d : Distribution}
  {operands : PerProcess n (Operand alpha)}

theorem checkOperand_of_legal (h : g.Legal p d operands) {r : Fin n}
    (hr : g.active r = true) (blockPosition descriptorPosition : Int) :
    g.checkOperand p r (operands.get r) blockPosition descriptorPosition = 0 := by
  unfold checkOperand
  rw [h.accepted r hr, h.fitting r hr]
  rfl

theorem holdsPieces_of_legal (h : g.Legal p d operands) :
    g.HoldsPieces d (operands.map Operand.block) := by
  intro r hr
  have hfits := h.fitting r hr
  unfold blockFits localExtent at hfits
  rw [h.meaning r hr, coords_of_active hr] at hfits
  simp only [Bool.and_eq_true, beq_iff_eq] at hfits
  rcases hfits with ⟨⟨hrows, hcols⟩, _⟩
  rw [PerProcess.get_map]
  unfold Distribution.MemberShape
  rw [h.onGrid.colProcs]
  constructor
  · rw [← hrows]
    exact (Int.toNat_natCast _).symm
  · rw [← hcols]
    exact (Int.toNat_natCast _).symm

theorem atOrigin_of_legal (h : g.Legal p d operands) {r : Fin n} (hr : g.active r = true) :
    Distribution.atOrigin (d.rows, d.cols) (operands.get r).descriptor.blockSizes g.shape =
      d := by
  have haccepted := h.accepted r hr
  unfold accepts at haccepted
  simp only [Bool.and_eq_true, beq_iff_eq] at haccepted
  rcases haccepted with ⟨_, hrow, hcol⟩
  have hmeaning := h.meaning r hr
  unfold Descriptor.distribution at hmeaning
  rw [hrow, hcol] at hmeaning
  rw [← hmeaning]
  rfl

variable [Zero alpha]

def assembleOperands (g : Grid n) (d : Distribution)
    (operands : PerProcess n (Operand alpha)) : Dense alpha :=
  g.assemble d (operands.map Operand.block)

theorem get_gatherOperands (hopen : g.released = false) (h : g.Legal p d operands)
    {r : Fin n} (hr : g.active r = true) :
    (g.gatherOperands operands).get r =
      if r = g.first then some (g.assembleOperands d operands) else none :=
  get_gather h.onGrid hopen hr (h.meaning r hr) (holdsPieces_of_legal h)

theorem get_gatherOperands_of_other (hopen : g.released = false) {r : Fin n}
    (hr : r ≠ g.first) : (g.gatherOperands operands).get r = none :=
  get_gather_of_other hopen hr

theorem get_scatterOver (hopen : g.released = false) (h : g.Legal p d operands)
    {x : PerProcess n (Option (Dense alpha))} {whole : Dense alpha}
    (hx : x.get g.first = some whole) (hrows : (whole.rows : Int) = d.rows)
    (hcols : (whole.cols : Int) = d.cols) {r : Fin n} (hr : g.active r = true) :
    (g.scatterOver x operands).get r = cut d whole r := by
  apply get_scatter hopen hx _ (holdsPieces_of_legal h) hr
  rw [hrows, hcols]
  exact atOrigin_of_legal h g.active_first

end Grid

/-!
# Kernels on a triangle

On legal operands, factorization and inversion are the serial kernel between gathering and
scattering: its status reaches every process of the grid, and a result of status zero
replaces the pieces. Whatever the operands are, the processes of the grid end with one
status.
-/

variable {rho : Type} [Zero alpha]

theorem Descriptor.square_of_meaning {descriptor : Descriptor} {grid : Int × Int}
    {d : Distribution} (h : descriptor.distribution grid = d) (hsquare : d.rows = d.cols) :
    descriptor.m = descriptor.n := by
  rw [← h] at hsquare
  exact hsquare

section

variable {g : Grid n} {p : Precision} {d : Distribution}
  {args : PerProcess n (TriangleArgs alpha)} {t : Triangle}

omit [Zero alpha] in
theorem TriangleArgs.check_of_legal (h : g.Legal p d (args.map TriangleArgs.operand))
    (hsquare : d.rows = d.cols) {r : Fin n} (hr : g.active r = true)
    (huplo : Triangle.ofLetter? (args.get r).uplo = some t) :
    (args.get r).check g p r = 0 := by
  have hoperand := Grid.checkOperand_of_legal h hr 2 3
  have hshape := Descriptor.square_of_meaning (h.meaning r hr) hsquare
  rw [PerProcess.get_map] at hoperand hshape
  unfold TriangleArgs.check
  rw [huplo]
  simp only [hoperand, hshape, bne_self_eq_false, Bool.and_false, Bool.false_eq_true,
    if_false]

namespace Kernel

variable (routine : String) {serial : Triangle -> Dense alpha -> Factored alpha}

/-- Whatever the arguments are, a block is written on a status of zero only. -/
theorem block_onTriangle_of_status_ne {r : Fin n}
    (hstatus : ((onTriangle routine serial g p args).get r).status ≠ some 0) :
    ((onTriangle routine serial g p args).get r).block = (args.get r).operand.block := by
  revert hstatus
  unfold onTriangle
  simp only
  split
  · rw [PerProcess.get_ofFn]
    split
    · intro hstatus
      exact if_neg fun hzero => hstatus (congrArg some hzero)
    · intro _
      rfl
  · rw [PerProcess.get_ofFn]
    intro _
    rfl

section

variable (hopen : g.released = false)
  (h : g.Legal p d (args.map TriangleArgs.operand)) (hsquare : d.rows = d.cols)
  (huplo : forall r, g.active r = true -> Triangle.ofLetter? (args.get r).uplo = some t)

include hopen h hsquare huplo

theorem get_onTriangle_of_legal {factored : Factored alpha}
    (hserial : serial t (g.assembleOperands d (args.map TriangleArgs.operand)) = factored)
    {r : Fin n} (hr : g.active r = true) :
    exists x : PerProcess n (Option (Dense alpha)),
      x.get g.first = some factored.matrix ∧
      (onTriangle routine serial g p args).get r =
        { status := some factored.status
          block := if factored.status = 0 then
              (g.scatterOver x (args.map TriangleArgs.operand)).get r
            else (args.get r).operand.block
          log := [.kernelEnd routine (args.get r).operand.descriptor.n
            factored.status] } := by
  have hcleared : Grid.cleared
      (g.agree (Vector.ofFn fun r => (args.get r).check g p r)) = true := by
    apply Grid.cleared_of_zero hopen
    intro s hs
    rw [PerProcess.get_ofFn]
    exact TriangleArgs.check_of_legal h hsquare hs (huplo s hs)
  have htriangle : (args.get g.first).triangle = t := by
    unfold TriangleArgs.triangle
    rw [huplo g.first g.active_first]
    rfl
  have hsolved : ((g.gatherOperands (args.map TriangleArgs.operand)).get g.first).map
      (serial (args.get g.first).triangle) = some factored := by
    rw [Grid.get_gatherOperands hopen h g.active_first, if_pos rfl, htriangle, ← hserial]
    rfl
  refine ⟨(Vector.ofFn fun s =>
    ((g.gatherOperands (args.map TriangleArgs.operand)).get s).map
      (serial (args.get s).triangle)).map fun s => s.map Factored.matrix, ?_, ?_⟩
  · rw [PerProcess.get_map, PerProcess.get_ofFn, hsolved]
    rfl
  · unfold onTriangle
    simp only [hcleared, if_true, PerProcess.get_ofFn, hr,
      Grid.get_shareFromRoot hopen hr, PerProcess.get_map, hsolved]
    rfl

theorem status_onTriangle_of_legal {factored : Factored alpha}
    (hserial : serial t (g.assembleOperands d (args.map TriangleArgs.operand)) = factored)
    {r : Fin n} (hr : g.active r = true) :
    ((onTriangle routine serial g p args).get r).status = some factored.status := by
  rcases get_onTriangle_of_legal routine hopen h hsquare huplo hserial hr with
    ⟨x, _, hresult⟩
  rw [hresult]

theorem block_onTriangle_of_legal {factored : Factored alpha}
    (hserial : serial t (g.assembleOperands d (args.map TriangleArgs.operand)) = factored)
    (hstatus : factored.status = 0) (hrows : (factored.matrix.rows : Int) = d.rows)
    (hcols : (factored.matrix.cols : Int) = d.cols) {r : Fin n} (hr : g.active r = true) :
    ((onTriangle routine serial g p args).get r).block =
      Grid.cut d factored.matrix r := by
  rcases get_onTriangle_of_legal routine hopen h hsquare huplo hserial hr with
    ⟨x, hx, hresult⟩
  rw [hresult]
  simp only [hstatus, if_true]
  exact Grid.get_scatterOver hopen h hx hrows hcols hr

theorem block_onTriangle_of_failure {factored : Factored alpha}
    (hserial : serial t (g.assembleOperands d (args.map TriangleArgs.operand)) = factored)
    (hstatus : factored.status ≠ 0) {r : Fin n} (hr : g.active r = true) :
    ((onTriangle routine serial g p args).get r).block = (args.get r).operand.block := by
  apply block_onTriangle_of_status_ne
  rw [status_onTriangle_of_legal routine hopen h hsquare huplo hserial hr]
  exact fun hzero => hstatus (Option.some.inj hzero)

end

theorem status_onTriangle_of_inactive {r : Fin n} (hr : g.active r = false) :
    ((onTriangle routine serial g p args).get r).status = none := by
  unfold onTriangle
  simp only
  split
  · rw [PerProcess.get_ofFn, hr]
    rfl
  · rw [PerProcess.get_ofFn]
    exact Grid.agree_of_inactive hr _

theorem block_onTriangle_of_inactive {r : Fin n} (hr : g.active r = false) :
    ((onTriangle routine serial g p args).get r).block = (args.get r).operand.block := by
  apply block_onTriangle_of_status_ne
  rw [status_onTriangle_of_inactive routine hr]
  exact (Option.some_ne_none 0).symm

theorem exists_status_onTriangle (hopen : g.released = false) :
    exists status, forall r, g.active r = true ->
      ((onTriangle routine serial g p args).get r).status = some status := by
  rcases Grid.exists_agreed hopen (Vector.ofFn fun r => (args.get r).check g p r) with
    ⟨agreed, hagreed, _, _⟩
  unfold onTriangle
  simp only
  split
  · apply Exists.intro
    intro r hr
    rw [PerProcess.get_ofFn, if_pos hr, Grid.get_shareFromRoot hopen hr]
  · apply Exists.intro agreed
    intro r hr
    rw [PerProcess.get_ofFn]
    exact hagreed r hr

end Kernel

end

/-!
# The transpose

The target of a transpose may be laid out in another way than its operand. On legal
operands of matching shapes it ends with the pieces of the transposed matrix.
-/

section

variable {g : Grid n} {p : Precision} {source target : Distribution}
  {args : PerProcess n (TransposeArgs alpha)}

omit [Zero alpha] in
theorem TransposeArgs.check_of_legal
    (hsource : g.Legal p source (args.map TransposeArgs.source))
    (htarget : g.Legal p target (args.map TransposeArgs.target))
    (hrows : target.rows = source.cols) (hcols : target.cols = source.rows)
    {r : Fin n} (hr : g.active r = true) :
    (args.get r).check g p r = 0 := by
  have hfirst := Grid.checkOperand_of_legal hsource hr 1 2
  have hsecond := Grid.checkOperand_of_legal htarget hr 3 4
  have hshape : (args.get r).target.descriptor.shape =
      ((args.get r).source.descriptor.n, (args.get r).source.descriptor.m) := by
    have hsourceMeaning := hsource.meaning r hr
    have htargetMeaning := htarget.meaning r hr
    rw [PerProcess.get_map] at hsourceMeaning htargetMeaning
    rw [← hsourceMeaning, ← htargetMeaning] at hrows hcols
    exact Prod.ext hrows hcols
  rw [PerProcess.get_map] at hfirst hsecond
  unfold TransposeArgs.check
  simp only [hfirst, hsecond, hshape, bne_self_eq_false, Bool.and_false,
    Bool.false_eq_true, if_false]

namespace Kernel

omit [Zero alpha] in
theorem cleared_transpose (hopen : g.released = false)
    (hcheck : forall r, g.active r = true -> (args.get r).check g p r = 0) :
    Grid.cleared (g.agree (Vector.ofFn fun r => (args.get r).check g p r)) = true := by
  apply Grid.cleared_of_zero hopen
  intro r hr
  rw [PerProcess.get_ofFn]
  exact hcheck r hr

theorem status_transpose_of_check (hopen : g.released = false)
    (hcheck : forall r, g.active r = true -> (args.get r).check g p r = 0) {r : Fin n}
    (hr : g.active r = true) :
    ((transpose g p args).get r).status = some 0 := by
  unfold transpose
  simp only [cleared_transpose hopen hcheck, if_true, PerProcess.get_ofFn, hr]

section

variable (hopen : g.released = false)
  (hsource : g.Legal p source (args.map TransposeArgs.source))
  (htarget : g.Legal p target (args.map TransposeArgs.target))
  (hrows : target.rows = source.cols) (hcols : target.cols = source.rows)

include hopen hsource htarget hrows hcols

theorem status_transpose_of_legal {r : Fin n} (hr : g.active r = true) :
    ((transpose g p args).get r).status = some 0 :=
  status_transpose_of_check hopen
    (fun _ hs => TransposeArgs.check_of_legal hsource htarget hrows hcols hs) hr

theorem block_transpose_of_legal (hnonneg : 0 ≤ source.rows ∧ 0 ≤ source.cols)
    {r : Fin n} (hr : g.active r = true) :
    ((transpose g p args).get r).block =
      Grid.cut target
        (g.assembleOperands source (args.map TransposeArgs.source)).transpose r := by
  have hcleared : Grid.cleared
      (g.agree (Vector.ofFn fun r => (args.get r).check g p r)) = true :=
    cleared_transpose hopen
      fun _ hs => TransposeArgs.check_of_legal hsource htarget hrows hcols hs
  unfold transpose
  simp only [hcleared, if_true, PerProcess.get_ofFn]
  apply Grid.get_scatterOver hopen htarget _ _ _ hr
  · rw [PerProcess.get_map, Grid.get_gatherOperands hopen hsource g.active_first,
      if_pos rfl]
    rfl
  · rw [hrows]
    exact Int.toNat_of_nonneg hnonneg.2
  · rw [hcols]
    exact Int.toNat_of_nonneg hnonneg.1

end

theorem exists_status_transpose (hopen : g.released = false) :
    exists status, forall r, g.active r = true ->
      ((transpose g p args).get r).status = some status := by
  rcases Grid.exists_agreed hopen (Vector.ofFn fun r => (args.get r).check g p r) with
    ⟨agreed, hagreed, _, _⟩
  unfold transpose
  simp only
  split
  · apply Exists.intro 0
    intro r hr
    rw [PerProcess.get_ofFn, if_pos hr]
  · apply Exists.intro agreed
    intro r hr
    rw [PerProcess.get_ofFn]
    exact hagreed r hr

end Kernel

end

end BlockCyclic
