import BlockCyclic.Kernel.Condition
import BlockCyclic.Kernel.Eigen
import BlockCyclic.Kernel.Factor
import BlockCyclic.Proofs.Grid.Messages
import BlockCyclic.Proofs.Kernel.Exact
import Mathlib.Data.PNat.Basic
import Mathlib.Order.Bounds.Basic

/-!
# Refused arguments

What a kernel asks of its arguments is a list of demands, in the order in which it looks
at them. The local status of a process is read off the first demand that is not met. The
processes of a grid may offend in different places or not at all; they refuse together,
with the least of their local statuses, before anything is gathered or written.
-/

namespace BlockCyclic

/-!
# Demands
-/

structure Demand where
  position : PNat
  met : Bool

namespace Demand

/-- Minus the position of the first argument that does not meet its demand, if there is one. -/
def firstOffence : List Demand -> Int
  | [] => 0
  | d :: rest => if d.met then firstOffence rest else -(d.position : Nat)

theorem position_pos (d : Demand) : 0 < ((d.position : Nat) : Int) :=
  Int.natCast_pos.mpr d.position.pos

theorem firstOffence_of_met {demands : List Demand}
    (h : forall d, d ∈ demands -> d.met = true) : firstOffence demands = 0 := by
  induction demands with
  | nil => rfl
  | cons head rest ih =>
      unfold firstOffence
      rw [if_pos (h head List.mem_cons_self)]
      exact ih fun d hd => h d (List.mem_cons_of_mem head hd)

theorem firstOffence_neg {demands : List Demand}
    (h : exists d, d ∈ demands ∧ d.met = false) : firstOffence demands < 0 := by
  induction demands with
  | nil =>
      rcases h with ⟨d, hd, _⟩
      cases hd
  | cons head rest ih =>
      unfold firstOffence
      have hpos := head.position_pos
      split
      next hmet =>
        apply ih
        rcases h with ⟨d, hd, hunmet⟩
        cases hd with
        | head =>
            rw [hmet] at hunmet
            cases hunmet
        | tail _ htail => exact ⟨d, htail, hunmet⟩
      next => omega

/-- Later demands are looked at only where all earlier ones are met. -/
theorem firstOffence_append (first later : List Demand) :
    firstOffence (first ++ later) =
      if firstOffence first = 0 then firstOffence later else firstOffence first := by
  induction first with
  | nil => rfl
  | cons d rest ih =>
      have hpos := d.position_pos
      simp only [List.cons_append, firstOffence]
      by_cases hmet : d.met = true
      · simp only [hmet, if_true]
        exact ih
      · simp only [hmet, Bool.false_eq_true, if_false]
        exact (if_neg (by omega)).symm

theorem firstOffence_cons (d : Demand) (rest : List Demand) :
    firstOffence (d :: rest) = if d.met then firstOffence rest else -(d.position : Nat) :=
  rfl

end Demand

open Demand

/-!
# The demands of the kernels
-/

def workspaceDemands (work iwork : PNat) (needed given : Int × Int) : List Demand :=
  [⟨work, decide (needed.1 ≤ given.1)⟩, ⟨iwork, decide (needed.2 ≤ given.2)⟩]

theorem firstOffence_workspace (work iwork : PNat) (needed given : Int × Int) :
    firstOffence (workspaceDemands work iwork needed given) =
      if given.1 < needed.1 then -((work : Nat) : Int)
      else if given.2 < needed.2 then -((iwork : Nat) : Int)
      else 0 := by
  unfold workspaceDemands
  simp only [firstOffence, decide_eq_true_eq]
  by_cases hfirst : given.1 < needed.1
  · rw [if_pos hfirst, if_neg (Int.not_le.mpr hfirst)]
  · by_cases hsecond : given.2 < needed.2
    · rw [if_neg hfirst, if_pos hsecond, if_pos (Int.not_lt.mp hfirst),
        if_neg (Int.not_le.mpr hsecond)]
    · rw [if_neg hfirst, if_neg hsecond, if_pos (Int.not_lt.mp hfirst),
        if_pos (Int.not_lt.mp hsecond)]

section

variable {n : Nat} {alpha rho : Type}

/-- An operand is asked for its descriptor first, then for its block. -/
def Grid.operandDemands (g : Grid n) (p : Precision) (r : Fin n) (o : Operand alpha)
    (blockPosition descriptorPosition : PNat) : List Demand :=
  [⟨descriptorPosition, g.accepts r o.descriptor⟩, ⟨blockPosition, g.blockFits p r o⟩]

theorem Grid.checkOperand_eq (g : Grid n) (p : Precision) (r : Fin n) (o : Operand alpha)
    (blockPosition descriptorPosition : PNat) :
    g.checkOperand p r o (blockPosition : Nat) (descriptorPosition : Nat) =
      firstOffence (g.operandDemands p r o blockPosition descriptorPosition) := by
  unfold checkOperand operandDemands
  simp only [firstOffence]
  cases g.accepts r o.descriptor with
  | true => cases g.blockFits p r o <;> rfl
  | false => rfl

theorem Triangle.isSome_ofLetter? (s : String) :
    (ofLetter? s).isSome = decide (s = "L" ∨ s = "U") := by
  unfold ofLetter?
  by_cases hlower : s = "L"
  · simp [hlower]
  · by_cases hupper : s = "U"
    · simp [hupper]
    · simp [hlower, hupper]

namespace TriangleArgs

def demands (g : Grid n) (p : Precision) (r : Fin n) (a : TriangleArgs alpha) :
    List Demand :=
  ⟨1, decide (a.uplo = "L" ∨ a.uplo = "U")⟩ ::
    (g.operandDemands p r a.operand 2 3 ++
      [⟨3, a.operand.descriptor.m == a.operand.descriptor.n⟩])

theorem check_eq (g : Grid n) (p : Precision) (r : Fin n) (a : TriangleArgs alpha) :
    a.check g p r = firstOffence (a.demands g p r) := by
  have hoperand : g.checkOperand p r a.operand 2 3 =
      firstOffence (g.operandDemands p r a.operand 2 3) :=
    g.checkOperand_eq p r a.operand 2 3
  unfold check demands
  rw [firstOffence_cons, firstOffence_append, hoperand, ← Triangle.isSome_ofLetter?]
  cases Triangle.ofLetter? a.uplo with
  | none => rfl
  | some t =>
      by_cases hstatus : firstOffence (g.operandDemands p r a.operand 2 3) = 0
      · by_cases hsquare : a.operand.descriptor.m = a.operand.descriptor.n <;>
          simp [hstatus, hsquare, firstOffence]
      · simp [hstatus]

end TriangleArgs

namespace TransposeArgs

def demands (g : Grid n) (p : Precision) (r : Fin n) (a : TransposeArgs alpha) :
    List Demand :=
  g.operandDemands p r a.source 1 2 ++ (g.operandDemands p r a.target 3 4 ++
    [⟨4, a.target.descriptor.shape ==
      (a.source.descriptor.n, a.source.descriptor.m)⟩])

theorem check_eq (g : Grid n) (p : Precision) (r : Fin n) (a : TransposeArgs alpha) :
    a.check g p r = firstOffence (a.demands g p r) := by
  have hsource : g.checkOperand p r a.source 1 2 =
      firstOffence (g.operandDemands p r a.source 1 2) :=
    g.checkOperand_eq p r a.source 1 2
  have htarget : g.checkOperand p r a.target 3 4 =
      firstOffence (g.operandDemands p r a.target 3 4) :=
    g.checkOperand_eq p r a.target 3 4
  unfold check demands
  rw [firstOffence_append, firstOffence_append, hsource, htarget]
  by_cases hfirst : firstOffence (g.operandDemands p r a.source 1 2) = 0
  · by_cases hsecond : firstOffence (g.operandDemands p r a.target 3 4) = 0
    · by_cases hshape : a.target.descriptor.shape =
          (a.source.descriptor.n, a.source.descriptor.m) <;>
        simp [hfirst, hsecond, hshape, firstOffence]
    · simp [hfirst, hsecond]
  · simp [hfirst]

end TransposeArgs

namespace EigenArgs

def operandDemands (g : Grid n) (p : Precision) (r : Fin n) (a : EigenArgs alpha) :
    List Demand :=
  ⟨1, decide (a.jobz = "N" ∨ a.jobz = "V")⟩ ::
    ⟨2, decide (a.uplo = "L" ∨ a.uplo = "U")⟩ ::
    (g.operandDemands p r a.operand 3 4 ++
      (⟨4, a.operand.descriptor.m == a.operand.descriptor.n⟩ ::
        ⟨5, decide (a.operand.descriptor.n ≤ (a.values.size : Int))⟩ ::
        if a.jobz = "V" then g.operandDemands p r a.vectors 6 7 else []))

def demands (query : WorkspaceQuery) (g : Grid n) (p : Precision) (r : Fin n)
    (a : EigenArgs alpha) : List Demand :=
  a.operandDemands g p r ++
    workspaceDemands 8 9 (a.neededWorkspace query g p r) (a.work, a.iwork)

theorem checkOperands_eq (g : Grid n) (p : Precision) (r : Fin n) (a : EigenArgs alpha) :
    a.checkOperands g p r = firstOffence (a.operandDemands g p r) := by
  have hoperand : g.checkOperand p r a.operand 3 4 =
      firstOffence (g.operandDemands p r a.operand 3 4) :=
    g.checkOperand_eq p r a.operand 3 4
  have hvectors : g.checkOperand p r a.vectors 6 7 =
      firstOffence (g.operandDemands p r a.vectors 6 7) :=
    g.checkOperand_eq p r a.vectors 6 7
  unfold checkOperands operandDemands wantsVectors
  rw [firstOffence_cons, firstOffence_cons, firstOffence_append, firstOffence_cons,
    firstOffence_cons, ← Triangle.isSome_ofLetter?, hoperand, hvectors]
  by_cases hjobz : a.jobz = "N" ∨ a.jobz = "V"
  · have hletter : (a.jobz != "N" && a.jobz != "V") = false := by
      rcases hjobz with h | h <;> simp [h]
    rw [hletter, decide_eq_true hjobz]
    simp only [Bool.false_eq_true, if_false, if_true]
    cases Triangle.ofLetter? a.uplo with
    | none => rfl
    | some t =>
        by_cases hstatus : firstOffence (g.operandDemands p r a.operand 3 4) = 0
        · by_cases hsquare : a.operand.descriptor.m = a.operand.descriptor.n
          · by_cases hsize : (a.values.size : Int) < a.operand.descriptor.n
            · simp [hstatus, hsquare, hsize]
            · by_cases hvectors : a.jobz = "V" <;>
                simp [hstatus, hsquare, hsize, hvectors, firstOffence]
          · simp [hstatus, hsquare]
        · simp [hstatus]
  · have hletter : (a.jobz != "N" && a.jobz != "V") = true := by
      simpa using hjobz
    rw [hletter, decide_eq_false hjobz]
    rfl

theorem check_eq (query : WorkspaceQuery) (g : Grid n) (p : Precision) (r : Fin n)
    (a : EigenArgs alpha) :
    a.check query g p r = firstOffence (a.demands query g p r) := by
  unfold check demands
  simp only
  rw [firstOffence_append, firstOffence_workspace, checkOperands_eq]
  by_cases hstatus : firstOffence (a.operandDemands g p r) = 0
  · simp only [hstatus, bne_self_eq_false, Bool.false_eq_true, if_false, if_true]
    rfl
  · simp [hstatus]

end EigenArgs

namespace ConditionArgs

variable [Zero rho] [Measure rho]

/-- The norm has to be a number, and not a negative one. -/
def demands (g : Grid n) (p : Precision) (r : Fin n) (a : ConditionArgs alpha rho) :
    List Demand :=
  ⟨1, decide (a.uplo = "L" ∨ a.uplo = "U")⟩ ::
    (g.operandDemands p r a.operand 2 3 ++
      (⟨3, a.operand.descriptor.m == a.operand.descriptor.n⟩ ::
        ⟨4, !(Measure.isNaN a.norm || Measure.isNegative a.norm)⟩ ::
        workspaceDemands 5 6 (Kernel.conditionWorkspace g r a.operand.descriptor)
          (a.work, a.iwork)))

omit [Zero rho] in
theorem check_eq (g : Grid n) (p : Precision) (r : Fin n) (a : ConditionArgs alpha rho) :
    a.check g p r = firstOffence (a.demands g p r) := by
  have hoperand : g.checkOperand p r a.operand 2 3 =
      firstOffence (g.operandDemands p r a.operand 2 3) :=
    g.checkOperand_eq p r a.operand 2 3
  unfold check demands
  rw [firstOffence_cons, firstOffence_append, firstOffence_cons, firstOffence_cons,
    firstOffence_workspace, hoperand, ← Triangle.isSome_ofLetter?]
  cases Triangle.ofLetter? a.uplo with
  | none => rfl
  | some t =>
      by_cases hstatus : firstOffence (g.operandDemands p r a.operand 2 3) = 0
      · by_cases hsquare : a.operand.descriptor.m = a.operand.descriptor.n
        · cases hnorm : Measure.isNaN a.norm || Measure.isNegative a.norm with
          | true => simp [hstatus, hsquare]
          | false => simp [hstatus, hsquare]
        · simp [hstatus, hsquare]
      · simp [hstatus]

end ConditionArgs

end

/-!
# Refusing together

The agreement comes before every other message of a kernel, so that one offence anywhere
decides the course of all processes.
-/

namespace Grid

variable {n : Nat} {g : Grid n}

def Offends (g : Grid n) (demands : Fin n -> List Demand) : Prop :=
  exists r, g.active r = true ∧ exists d, d ∈ demands r ∧ d.met = false

/-- Every process of the grid returns the least of the local statuses, a negative one. -/
def Refuses (g : Grid n) (demands : Fin n -> List Demand)
    (returned : Fin n -> Option Int) : Prop :=
  exists status, status < 0 ∧
    IsLeast (Set.image (fun r => firstOffence (demands r)) (fun r => g.active r = true))
      status ∧
    forall r, g.active r = true -> returned r = some status

theorem refuses_of_offends (hopen : g.released = false) {check : Fin n -> Int}
    {demands : Fin n -> List Demand} (hcheck : forall r, check r = firstOffence (demands r))
    (h : g.Offends demands) :
    cleared (g.agree (Vector.ofFn check)) = false ∧
      g.Refuses demands fun r => (g.agree (Vector.ofFn check)).get r := by
  rcases exists_agreed hopen (Vector.ofFn check) with
    ⟨status, hagreed, hleast, t, ht, hvalue⟩
  simp only [PerProcess.get_ofFn, hcheck] at hleast hvalue
  rcases h with ⟨r, hr, hunmet⟩
  have hneg : status < 0 := Int.lt_of_le_of_lt (hleast r hr) (firstOffence_neg hunmet)
  constructor
  · exact not_cleared_of_agreed (hagreed r hr) (Int.ne_of_lt hneg)
  · refine ⟨status, hneg, ⟨⟨t, ht, hvalue⟩, ?_⟩, hagreed⟩
    rintro x ⟨s, hs, rfl⟩
    exact hleast s hs

end Grid

namespace Kernel

section

variable {n : Nat} {alpha rho : Type} [Zero alpha] {g : Grid n} (hopen : g.released = false)
  (p : Precision)

include hopen

theorem onTriangle_refuses (routine : String)
    (serial : Triangle -> Dense alpha -> Factored alpha)
    {args : PerProcess n (TriangleArgs alpha)}
    (h : g.Offends fun r => (args.get r).demands g p r) :
    (g.Refuses (fun r => (args.get r).demands g p r) fun r =>
      ((onTriangle routine serial g p args).get r).status) ∧
    forall r, ((onTriangle routine serial g p args).get r).block =
      (args.get r).operand.block := by
  rcases Grid.refuses_of_offends hopen (fun r => (args.get r).check_eq g p r) h with
    ⟨hcleared, hrefuses⟩
  unfold onTriangle
  simp only [hcleared, Bool.false_eq_true, if_false, PerProcess.get_ofFn]
  exact ⟨hrefuses, fun _ => True.intro⟩

theorem transpose_refuses {args : PerProcess n (TransposeArgs alpha)}
    (h : g.Offends fun r => (args.get r).demands g p r) :
    (g.Refuses (fun r => (args.get r).demands g p r) fun r =>
      ((transpose g p args).get r).status) ∧
    forall r, ((transpose g p args).get r).block = (args.get r).target.block := by
  rcases Grid.refuses_of_offends hopen (fun r => (args.get r).check_eq g p r) h with
    ⟨hcleared, hrefuses⟩
  unfold transpose
  simp only [hcleared, Bool.false_eq_true, if_false, PerProcess.get_ofFn]
  exact ⟨hrefuses, fun _ => True.intro⟩

theorem eigen_refuses (k : SerialKernels alpha rho) {args : PerProcess n (EigenArgs alpha)}
    (h : g.Offends fun r => (args.get r).demands k.eigenWorkspace g p r) :
    (g.Refuses (fun r => (args.get r).demands k.eigenWorkspace g p r) fun r =>
      ((eigen k g p args).get r).status) ∧
    forall r, ((eigen k g p args).get r).values = (args.get r).values ∧
      ((eigen k g p args).get r).vectors = (args.get r).vectors.block := by
  rcases Grid.refuses_of_offends hopen
      (fun r => (args.get r).check_eq k.eigenWorkspace g p r) h with
    ⟨hcleared, hrefuses⟩
  unfold eigen
  simp only [hcleared, Bool.false_eq_true, if_false, PerProcess.get_ofFn]
  exact ⟨hrefuses, fun _ => ⟨True.intro, True.intro⟩⟩

theorem condition_refuses [Zero rho] [Measure rho] (k : SerialKernels alpha rho)
    {args : PerProcess n (ConditionArgs alpha rho)}
    (h : g.Offends fun r => (args.get r).demands g p r) :
    (g.Refuses (fun r => (args.get r).demands g p r) fun r =>
      ((condition k g p args).get r).outcome.map Prod.snd) ∧
    forall r, g.active r = true ->
      ((condition k g p args).get r).outcome.map Prod.fst = some 0 := by
  rcases Grid.refuses_of_offends hopen (fun r => (args.get r).check_eq g p r) h with
    ⟨hcleared, hrefuses⟩
  rcases hrefuses with ⟨status, hneg, hleast, hagreed⟩
  have houtcome : forall r, g.active r = true ->
      ((condition k g p args).get r).outcome = some (0, status) := by
    intro r hr
    unfold condition
    simp only [hcleared, Bool.false_eq_true, if_false, PerProcess.get_ofFn, hagreed r hr,
      Option.map_some]
  constructor
  · refine ⟨status, hneg, hleast, ?_⟩
    intro r hr
    simp only [houtcome r hr, Option.map_some]
  · intro r hr
    rw [houtcome r hr, Option.map_some]

end

/-!
# All kernels

What a kernel may write is its operand, the target of a transpose, and the eigenvalues
and eigenvectors; the condition estimate writes nothing and returns zero with the status.
-/

theorem refuse_together {n : Nat} {alpha rho : Type} [Zero alpha] [Zero rho] [Measure rho]
    (k : SerialKernels alpha rho) {g : Grid n} (hopen : g.released = false)
    (p : Precision) :
    (forall args : PerProcess n (TriangleArgs alpha),
      (g.Offends fun r => (args.get r).demands g p r) ->
      ((g.Refuses (fun r => (args.get r).demands g p r) fun r =>
          ((factor k g p args).get r).status) ∧
        forall r, ((factor k g p args).get r).block = (args.get r).operand.block) ∧
      ((g.Refuses (fun r => (args.get r).demands g p r) fun r =>
          ((invert k g p args).get r).status) ∧
        forall r, ((invert k g p args).get r).block = (args.get r).operand.block)) ∧
    (forall args : PerProcess n (TransposeArgs alpha),
      (g.Offends fun r => (args.get r).demands g p r) ->
      (g.Refuses (fun r => (args.get r).demands g p r) fun r =>
        ((transpose g p args).get r).status) ∧
      forall r, ((transpose g p args).get r).block = (args.get r).target.block) ∧
    (forall args : PerProcess n (EigenArgs alpha),
      (g.Offends fun r => (args.get r).demands k.eigenWorkspace g p r) ->
      (g.Refuses (fun r => (args.get r).demands k.eigenWorkspace g p r) fun r =>
        ((eigen k g p args).get r).status) ∧
      forall r, ((eigen k g p args).get r).values = (args.get r).values ∧
        ((eigen k g p args).get r).vectors = (args.get r).vectors.block) ∧
    (forall args : PerProcess n (ConditionArgs alpha rho),
      (g.Offends fun r => (args.get r).demands g p r) ->
      (g.Refuses (fun r => (args.get r).demands g p r) fun r =>
        ((condition k g p args).get r).outcome.map Prod.snd) ∧
      forall r, g.active r = true ->
        ((condition k g p args).get r).outcome.map Prod.fst = some 0) := by
  refine ⟨?_, fun args h => transpose_refuses hopen p h,
    fun args h => eigen_refuses hopen p k h, fun args h => condition_refuses hopen p k h⟩
  intro args h
  exact ⟨onTriangle_refuses hopen p _ _ h, onTriangle_refuses hopen p _ _ h⟩

/-- The second process names no triangle, and the first one has to refuse as well. -/
theorem refuse_together_one_offender :
    let g : Grid 2 := ⟨1, 2, by decide, by decide, by decide, fun _ => 0, false⟩
    let column : Operand Int :=
      ⟨.ofPrecision .double, Dense.ofFn 2 1 fun _ _ => 4,
        Descriptor.create (2, 2) (1, 1) 0 2 (0, 0)⟩
    let args : PerProcess 2 (TriangleArgs Int) := #v[⟨"L", column⟩, ⟨"X", column⟩]
    g.released = false ∧ (args.get 0).check g .double 0 = 0 ∧
    forall r, ((factor exactKernels g .double args).get r).status = some (-1) ∧
      ((factor exactKernels g .double args).get r).block = column.block := by
  intro g column args
  have hoffends : g.Offends fun r => (args.get r).demands g .double r :=
    ⟨1, rfl, ⟨1, false⟩, List.mem_cons_self, rfl⟩
  have hopen : g.released = false := rfl
  rcases ((refuse_together exactKernels hopen .double).1 args hoffends).1 with
    ⟨⟨status, hneg, ⟨⟨s, _, hs⟩, _⟩, hstatus⟩, hblock⟩
  have hblocks : forall r, (args.get r).operand.block = column.block := by
    intro r
    match r with
    | 0 => rfl
    | 1 => rfl
  have hvalue : status = -1 := by
    match s with
    | 0 =>
        have hzero : firstOffence ((args.get 0).demands g .double 0) = 0 := by decide
        exact absurd (hs.symm.trans hzero) (Int.ne_of_lt hneg)
    | 1 => exact hs.symm
  refine ⟨rfl, by decide, ?_⟩
  intro r
  constructor
  · rw [← hvalue]
    exact hstatus r (by match r with | 0 => rfl | 1 => rfl)
  · rw [hblock r, hblocks r]

end Kernel

end BlockCyclic
