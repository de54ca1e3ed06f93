import BlockCyclic.Proofs.Kernel.Refinement
import BlockCyclic.Proofs.Kernel.Refusal

/-!
# Where eigenvectors go

Eigenvectors are scattered over an operand of their own, with a descriptor of its own. The
eigensolver asks this descriptor for the grid and its origin, and the blocks for the extents
that it means, but nothing asks for its shape. Eigenvectors therefore arrive where the
descriptor is one of their shape, and a descriptor that does not belong to the grid is
refused; any other shape passes all checks.
-/

namespace BlockCyclic

variable {n : Nat} {alpha rho : Type}

/-- The descriptor belongs to the grid, as a process sees it, and starts at the origin. -/
def Descriptor.AtOrigin (own : Descriptor) (g : Grid n) (r : Fin n) : Prop :=
  own.context = g.context r ∧ own.rsrc = 0 ∧ own.csrc = 0

/--
Calls for eigenvectors that are alike on all processes of the grid, and in order as far as
the operand and the eigenvalues go. The target is described alike; the grid that it names, its
shape, its blocks and the workspace are anything.
-/
structure EigenArgs.Aimed (g : Grid n) (p : Precision) (order : Nat) (desc target : Descriptor)
    (t : Triangle) (args : PerProcess n (EigenArgs alpha)) : Prop where
  operands : g.Carries p desc (args.map EigenArgs.operand)
  targets : forall r, g.active r = true -> (args.get r).vectors.descriptor.LaidOutAs target
  jobz : forall r, g.active r = true -> (args.get r).jobz = "V"
  uplo : forall r, g.active r = true -> (args.get r).uplo = t.letter
  values : forall r, g.active r = true -> order ≤ (args.get r).values.size

/-- No process of the grid has a target that belongs to the grid and starts at the origin. -/
def EigenArgs.Foreign (g : Grid n) (args : PerProcess n (EigenArgs alpha)) : Prop :=
  forall r, g.active r = true -> ¬ (args.get r).vectors.descriptor.AtOrigin g r

section

variable {query : WorkspaceQuery} {g : Grid n} {p : Precision} {order : Nat}
  {desc target : Descriptor} {t : Triangle} {args : PerProcess n (EigenArgs alpha)}

theorem Grid.accepts_iff {r : Fin n} (hr : g.active r = true) :
    g.accepts r desc = true ↔ desc.AtOrigin g r := by
  unfold accepts contextOf Descriptor.AtOrigin
  rw [if_pos hr]
  simp only [Bool.and_eq_true, beq_iff_eq]

/-!
# Checks
-/

section

variable (hdesc : desc.Describes order order)
  (h : EigenArgs.Aimed g p order desc target t args)

include hdesc h

/-- What stands before the workspace comes down to the target. -/
theorem EigenArgs.checkOperands_of_aimed {r : Fin n} (hr : g.active r = true) :
    (args.get r).checkOperands g p r = g.checkOperand p r (args.get r).vectors 6 7 := by
  have hoperand := Grid.checkOperand_of_legal (Grid.legal_of_carries hdesc h.operands) hr 3 4
  have hrows := congrArg DescriptorOf.m (h.operands.descriptor r hr)
  have hcols := congrArg DescriptorOf.n (h.operands.descriptor r hr)
  rw [PerProcess.get_map] at hoperand hrows hcols
  simp only [hdesc.rows, hdesc.cols] at hrows hcols
  have hwanted : (args.get r).wantsVectors = true := by
    unfold wantsVectors
    rw [h.jobz r hr]
    decide
  have hjobz : ((args.get r).jobz != "N" && (args.get r).jobz != "V") = false := by
    rw [h.jobz r hr]
    decide
  have hsize : ¬ ((args.get r).values.size : Int) < (order : Int) :=
    Int.not_lt.mpr (Int.ofNat_le.mpr (h.values r hr))
  unfold checkOperands
  rw [hjobz, h.uplo r hr, t.ofLetter?_letter]
  simp only [hoperand, hrows, hcols, hwanted, bne_self_eq_false, Bool.false_eq_true,
    if_false, if_true, Option.isNone_some, if_neg hsize]

theorem EigenArgs.check_of_fitting {r : Fin n} (hr : g.active r = true)
    (htarget : (args.get r).vectors.descriptor.AtOrigin g r)
    (hfits : g.blockFits p r (args.get r).vectors = true)
    (hroom : (args.get r).Roomy query g p r) : (args.get r).check query g p r = 0 := by
  have hzero : (args.get r).checkOperands g p r = 0 := by
    rw [checkOperands_of_aimed hdesc h hr]
    unfold Grid.checkOperand
    rw [(Grid.accepts_iff hr).mpr htarget, hfits]
    rfl
  unfold check
  simp only [hzero, bne_self_eq_false, Bool.false_eq_true, if_false,
    if_neg (Int.not_lt.mpr hroom.1), if_neg (Int.not_lt.mpr hroom.2)]

theorem EigenArgs.check_of_foreign {r : Fin n} (hr : g.active r = true)
    (htarget : ¬ (args.get r).vectors.descriptor.AtOrigin g r) :
    (args.get r).check query g p r = -7 := by
  have haccepts : g.accepts r (args.get r).vectors.descriptor = false :=
    Bool.eq_false_iff.mpr fun h => htarget ((Grid.accepts_iff hr).mp h)
  have hrefused : (args.get r).checkOperands g p r = -7 := by
    rw [checkOperands_of_aimed hdesc h hr]
    unfold Grid.checkOperand
    rw [haccepts]
    rfl
  unfold check
  rw [hrefused]
  rfl

omit hdesc h in
theorem EigenArgs.met_of_check {r : Fin n} (hcheck : (args.get r).check query g p r = 0) :
    (args.get r).checkOperands g p r = 0 ∧ (args.get r).Roomy query g p r := by
  unfold check at hcheck
  simp only at hcheck
  split at hcheck
  next hne => exact absurd hcheck (bne_iff_ne.mp hne)
  next hzero =>
    split at hcheck
    next => cases hcheck
    next hwork =>
      split at hcheck
      next => cases hcheck
      next hiwork =>
        refine ⟨?_, Int.not_lt.mp hwork, Int.not_lt.mp hiwork⟩
        exact of_not_not fun hne => hzero (bne_iff_ne.mpr hne)

theorem EigenArgs.accepted_of_check {r : Fin n} (hr : g.active r = true)
    (hcheck : (args.get r).check query g p r = 0) :
    (args.get r).vectors.descriptor.AtOrigin g r ∧
      g.blockFits p r (args.get r).vectors = true := by
  have hzero := (met_of_check hcheck).1
  rw [checkOperands_of_aimed hdesc h hr] at hzero
  unfold Grid.checkOperand at hzero
  cases haccepts : g.accepts r (args.get r).vectors.descriptor with
  | false =>
      rw [haccepts] at hzero
      cases hzero
  | true =>
      refine ⟨(Grid.accepts_iff hr).mp haccepts, ?_⟩
      cases hfits : g.blockFits p r (args.get r).vectors with
      | true => rfl
      | false =>
          rw [haccepts, hfits] at hzero
          cases hzero

theorem EigenArgs.legal_of_aimed (hblocks : 1 ≤ target.mb ∧ 1 ≤ target.nb)
    (hshape : target.shape = ((order : Int), (order : Int)))
    (hchecks : forall r, g.active r = true -> (args.get r).check query g p r = 0) :
    EigenArgs.Legal query g p (desc.distribution g.shape) true t args ∧
      target.Describes order order ∧ g.Carries p target (args.map EigenArgs.vectors) := by
  have haccepted : forall r, g.active r = true -> _ :=
    fun r hr => accepted_of_check hdesc h hr (hchecks r hr)
  have hsource := (haccepted _ g.active_first).1.2
  have hrow := congrArg DescriptorOf.rsrc (h.targets _ g.active_first)
  have hcol := congrArg DescriptorOf.csrc (h.targets _ g.active_first)
  have hsquare : target.Describes order order :=
    { rows := congrArg Prod.fst hshape
      cols := congrArg Prod.snd hshape
      rowBlock := hblocks.1
      colBlock := hblocks.2
      source := ⟨hrow.symm.trans hsource.1, hcol.symm.trans hsource.2⟩ }
  have hcarries : g.Carries p target (args.map EigenArgs.vectors) :=
    { descriptor := fun r hr => by
        rw [PerProcess.get_map]
        exact h.targets r hr
      context := fun r hr => by
        rw [PerProcess.get_map]
        exact (haccepted r hr).1.1
      fitting := fun r hr => by
        rw [PerProcess.get_map]
        exact (haccepted r hr).2 }
  refine ⟨?_, hsquare, hcarries⟩
  exact
    { operands := Grid.legal_of_carries hdesc h.operands
      square := Descriptor.rows_eq_cols hdesc
      jobz := h.jobz
      uplo := fun r hr => by
        rw [h.uplo r hr]
        exact t.ofLetter?_letter
      values := fun r hr => by
        show desc.n ≤ _
        rw [hdesc.cols]
        exact Int.ofNat_le.mpr (h.values r hr)
      targets := fun _ =>
        ⟨target.distribution g.shape, Grid.legal_of_carries hsquare hcarries⟩
      workspace := fun r hr => (met_of_check (hchecks r hr)).2 }

end

end

/-!
# Statuses
-/

namespace Kernel

variable [Zero alpha] {g : Grid n} (hopen : g.released = false) {p : Precision}
  {order : Nat} {desc target : Descriptor} {t : Triangle}
  {args : PerProcess n (EigenArgs alpha)} {k : SerialKernels alpha rho}

include hopen

theorem check_of_status_eigen {r : Fin n} (hr : g.active r = true)
    (hstatus : ((eigen k g p args).get r).status = some 0) {s : Fin n}
    (hs : g.active s = true) : (args.get s).check k.eigenWorkspace g p s = 0 := by
  rw [EigenArgs.check_eq]
  apply Demand.firstOffence_of_met
  intro d hd
  by_contra hunmet
  have hoffends : g.Offends fun r => (args.get r).demands k.eigenWorkspace g p r :=
    ⟨s, hs, d, hd, Bool.eq_false_iff.mpr hunmet⟩
  rcases (eigen_refuses hopen p k hoffends).1 with ⟨status, hneg, _, hreturned⟩
  have hsame : some 0 = some status := hstatus.symm.trans (hreturned r hr)
  exact absurd (Option.some.inj hsame) (Int.ne_of_gt hneg)

/-- One status that all processes of the grid come to is theirs together, and stops them. -/
theorem status_eigen_of_check {status : Int} (hne : status ≠ 0)
    (hchecks : forall r, g.active r = true ->
      (args.get r).check k.eigenWorkspace g p r = status) (r : Fin n) :
    (g.active r = true -> ((eigen k g p args).get r).status = some status) ∧
      ((eigen k g p args).get r).values = (args.get r).values ∧
      ((eigen k g p args).get r).vectors = (args.get r).vectors.block := by
  have hagreed : forall r, g.active r = true ->
      (g.agree (Vector.ofFn fun r => (args.get r).check k.eigenWorkspace g p r)).get r =
        some status := by
    intro r hr
    apply Grid.get_agree_of_common hopen _ hr
    intro s hs
    rw [PerProcess.get_ofFn]
    exact hchecks s hs
  have hcleared := Grid.not_cleared_of_agreed (hagreed _ g.active_first) hne
  unfold eigen
  simp only [hcleared, Bool.false_eq_true, if_false, PerProcess.get_ofFn]
  exact ⟨hagreed r, True.intro, True.intro⟩

/-!
# Targets of any shape
-/

/--
Where the target has the shape of the operand, or does not belong to the grid, a status of
zero means that the eigenvectors have arrived in a matrix of their shape, and another shape
is refused for the seventh argument. A target of the grid whose blocks fit it passes all checks
that there is workspace for, whatever its shape is.
-/
theorem eigenvectors_arrive (hshape : k.KeepsShape) (hdesc : desc.Describes order order)
    (hblocks : 1 ≤ target.mb ∧ 1 ≤ target.nb)
    (h : EigenArgs.Aimed g p order desc target t args) :
    exists x, g.gathered (args.map EigenArgs.operand) = some x ∧
      let results := eigen k g p args
      (target.shape = ((order : Int), (order : Int)) ∨ EigenArgs.Foreign g args ->
        (forall r, g.active r = true -> (results.get r).status = some 0 ->
          target.shape = ((order : Int), (order : Int)) ∧
          g.gathered (Grid.rewritten (args.map EigenArgs.vectors) fun s =>
            (results.get s).vectors) = some (k.eigen p true t x).vectors) ∧
        (target.shape ≠ ((order : Int), (order : Int)) -> forall r,
          (g.active r = true -> (results.get r).status = some (-7)) ∧
          (results.get r).values = (args.get r).values ∧
          (results.get r).vectors = (args.get r).vectors.block)) ∧
      ((forall r, g.active r = true ->
          (args.get r).vectors.descriptor.AtOrigin g r ∧
          g.blockFits p r (args.get r).vectors = true ∧
          (args.get r).Roomy k.eigenWorkspace g p r) ->
        forall r, g.active r = true -> (args.get r).check k.eigenWorkspace g p r = 0) := by
  rcases Grid.exists_gathered hopen hdesc h.operands with ⟨x, hgathered, hx, hrows, hcols⟩
  refine ⟨x, hgathered, ?_, ?_⟩
  · intro hfair
    constructor
    · intro r hr hstatus
      have hchecks : forall s, g.active s = true ->
          (args.get s).check k.eigenWorkspace g p s = 0 :=
        fun s hs => check_of_status_eigen hopen hr hstatus hs
      have horigin := (EigenArgs.accepted_of_check hdesc h hr (hchecks r hr)).1
      have hsame : target.shape = ((order : Int), (order : Int)) :=
        hfair.resolve_right fun hforeign => hforeign r hr horigin
      rcases EigenArgs.legal_of_aimed hdesc h hblocks hsame hchecks with
        ⟨hlegal, hsquare, hcarries⟩
      exact ⟨hsame,
        gathered_vectors hopen hshape hsquare hcarries hlegal hx hrows hcols hr hstatus⟩
    · intro hother
      have hforeign := hfair.resolve_left hother
      exact status_eigen_of_check hopen (by decide) fun s hs =>
        EigenArgs.check_of_foreign hdesc h hs (hforeign s hs)
  · intro hfits r hr
    rcases hfits r hr with ⟨horigin, hblock, hroom⟩
    exact EigenArgs.check_of_fitting hdesc h hr horigin hblock hroom

omit hopen in
/--
The unit matrix with a row on each of two processes, whose handles of the grid differ. Its
eigenvectors go to rows that are dealt out alike, and are refused for a column that is
described for another grid.
-/
theorem eigenvectors_arrive_unit :
    let g : Grid 3 := ⟨2, 1, by decide, by decide, by decide, fun r => r.val, false⟩
    let desc (r : Fin 3) := Descriptor.create (2, 2) (1, 2) (g.contextOf r) 1 (0, 0)
    let foreign (r : Fin 3) := Descriptor.create (4, 1) (2, 1) (g.contextOf r + 1) 2 (0, 0)
    let block (r : Fin 3) : Dense Int :=
      if r.val < 2 then Dense.ofFn 1 2 fun _ j => if j = r.val then 1 else 0
      else Dense.zeros 0 0
    let args (target : Fin 3 -> Descriptor) : PerProcess 3 (EigenArgs Int) :=
      Vector.ofFn fun r =>
        ⟨"V", "L", ⟨.ofPrecision .double, block r, desc r⟩, #[0, 0, 0],
          ⟨.ofPrecision .double, Dense.zeros (block r).rows (block r).cols, target r⟩,
          100, 100⟩
    let kept := eigen unitKernels g .double (args foreign)
    (desc 0).Describes 2 2 ∧ EigenArgs.Foreign g (args foreign) ∧
    EigenArgs.Aimed g .double 2 (desc 0) (desc 0) .lower (args desc) ∧
    EigenArgs.Aimed g .double 2 (desc 0) (foreign 0) .lower (args foreign) ∧
    (g.gathered (Grid.rewritten ((args desc).map EigenArgs.vectors) fun r =>
      ((eigen unitKernels g .double (args desc)).get r).vectors)).map Dense.isUnit =
        some true ∧
    (kept.get 0).status = some (-7) ∧ (kept.get 1).status = some (-7) ∧
    (kept.get 0).values = #[0, 0, 0] := by
  intro g desc foreign block args kept
  have hdesc : (desc 0).Describes 2 2 := ⟨rfl, rfl, by decide, by decide, rfl, rfl⟩
  have hget : forall target r, (args target).get r = _ := fun target r =>
    PerProcess.get_ofFn _ r
  have hforeign : EigenArgs.Foreign g (args foreign) := by
    have hcontext : forall r, g.active r = true -> (foreign r).context ≠ g.context r := by
      decide +kernel
    intro r hr horigin
    rw [hget] at horigin
    exact hcontext r hr horigin.1
  have haimed : forall target, (forall r, g.active r = true ->
      (target r).LaidOutAs (target 0)) ->
      EigenArgs.Aimed g .double 2 (desc 0) (target 0) .lower (args target) := by
    intro target htarget
    have hfits : forall r, g.active r = true -> (desc r).LaidOutAs (desc 0) ∧
        (desc r).context = g.context r ∧
        g.blockFits .double r ⟨.ofPrecision .double, block r, desc r⟩ = true := by
      decide +kernel
    exact
      { operands :=
          { descriptor := fun r hr => by
              rw [PerProcess.get_map, hget]
              exact (hfits r hr).1
            context := fun r hr => by
              rw [PerProcess.get_map, hget]
              exact (hfits r hr).2.1
            fitting := fun r hr => by
              rw [PerProcess.get_map, hget]
              exact (hfits r hr).2.2 }
        targets := fun r hr => by
          rw [hget]
          exact htarget r hr
        jobz := fun r _ => by rw [hget]
        uplo := fun r _ => by rw [hget]; rfl
        values := fun r _ => by rw [hget]; exact Nat.le_succ 2 }
  have hkeptAimed := haimed foreign (by decide +kernel)
  have haimed := haimed desc (by decide +kernel)
  have hblocks : 1 ≤ (desc 0).mb ∧ 1 ≤ (desc 0).nb := by decide
  have hother : 1 ≤ (foreign 0).mb ∧ 1 ≤ (foreign 0).nb := by decide
  rcases eigenvectors_arrive (k := unitKernels) (rfl : g.released = false)
    unitKernels_keepsShape hdesc hblocks haimed with ⟨x, hx, harrive, hpass⟩
  rcases eigenvectors_arrive (k := unitKernels) (rfl : g.released = false)
    unitKernels_keepsShape hdesc hother hkeptAimed with ⟨_, _, hrefuse, _⟩
  have hchecks : forall r, g.active r = true ->
      ((args desc).get r).check unitKernels.eigenWorkspace g .double r = 0 := by
    apply hpass
    intro r hr
    have hfits : forall r, g.active r = true ->
        ((args desc).get r).vectors.descriptor.context = g.context r ∧
        g.blockFits .double r ((args desc).get r).vectors = true := by
      decide +kernel
    refine ⟨⟨(hfits r hr).1, ?_⟩, (hfits r hr).2, ?_⟩
    · rw [hget]
      exact ⟨rfl, rfl⟩
    · rw [hget]
      exact roomy_of_hundred (Int.le_refl 2) (Int.le_refl 100) (Int.le_refl 100)
  have hlegal := (EigenArgs.legal_of_aimed hdesc haimed hblocks rfl hchecks).1
  let unit :=
    g.assembleOperands ((desc 0).distribution g.shape) ((args desc).map EigenArgs.operand)
  have hunit : (unitKernels.eigen .double true .lower unit).status = 0 ∧
      unit.isUnit = true := by
    decide +kernel
  have hstatus : ((eigen unitKernels g .double (args desc)).get 0).status = some 0 := by
    rw [status_eigen_of_legal rfl hlegal rfl rfl]
    exact congrArg some hunit.1
  have hsame : x = unit :=
    Option.some.inj (hx.symm.trans (Grid.gathered_of_legal rfl hlegal.operands))
  have hgathered := ((harrive (Or.inl rfl)).1 0 rfl hstatus).2
  have hkept := (hrefuse (Or.inr hforeign)).2 (by decide)
  refine ⟨hdesc, hforeign, haimed, hkeptAimed, ?_, (hkept 0).1 rfl, (hkept 1).1 rfl, ?_⟩
  · rw [hgathered, hsame]
    exact congrArg some hunit.2
  · rw [(hkept 0).2.1]
    rfl

/-!
# A shape that nothing asks for

Four rows of a single column have room for the eigenvectors of a matrix of order two. The
eigensolver puts them there, while the transpose refuses the same descriptor.
-/

omit hopen in
theorem eigen_ignores_target_shape :
    let g : Grid 1 := ⟨1, 1, by decide, by decide, by decide, fun _ => 0, false⟩
    let operand : Operand Int :=
      ⟨.ofPrecision .double, Dense.unit 2, Descriptor.create (2, 2) (1, 1) 0 2 (0, 0)⟩
    let target : Operand Int :=
      ⟨.ofPrecision .double, Dense.zeros 4 1, Descriptor.create (4, 1) (1, 1) 0 4 (0, 0)⟩
    let args : PerProcess 1 (EigenArgs Int) :=
      #v[⟨"V", "L", operand, #[0, 0], target, 100, 100⟩]
    let solved := (eigen unitKernels g .double args).get 0
    let turned := (transpose g .double #v[⟨operand, target⟩]).get 0
    target.descriptor.shape = (4, 1) ∧ solved.status = some 0 ∧
    solved.values = #[1, 1] ∧ solved.vectors.entries = #[1, 0, 0, 1] ∧
    turned.status = some (-4) ∧ turned.block.entries = #[0, 0, 0, 0] := by
  decide +kernel

end Kernel
end BlockCyclic
