import BlockCyclic.Proofs.Axis.Correspondence
import BlockCyclic.Proofs.Kernel.Condition
import BlockCyclic.Proofs.Kernel.Exact

/-!
# Norms in exact arithmetic

Without rounding, partial sums may be added up in any order and grouping, and a process
without rows or columns adds nothing. The sums over one direction of a grid are then the
sums over whole columns, or rows, and the greatest of them across the other direction is
the norm that one process would find.
-/

namespace BlockCyclic

/-- Arithmetic without rounding. The root of a number that is not a square may be any. -/
structure NormArithmetic.Exact {R : Type} [CommRing R] [LinearOrder R] [IsStrictOrderedRing R]
    (a : NormArithmetic R R) : Prop where
  zero : a.zero = 0
  magnitude : forall x, a.magnitude x = |x|
  add : a.add = fun x y => x + y
  square : forall x, a.square x = x * x
  larger : a.larger = max
  root : forall x, 0 ≤ x -> a.root (x * x) = x

theorem sqrt_mul_self_of_nonneg {x : Int} (hx : 0 ≤ x) : Arithmetic.sqrt (x * x) = x := by
  have hfound : exists k, ((List.range ((x * x).toNat + 1)).find? fun k =>
      k * k == (x * x).toNat) = some k := by
    rw [← Option.isSome_iff_exists, List.find?_isSome]
    refine ⟨x.toNat, List.mem_range.mpr ?_, ?_⟩
    · rw [Int.toNat_mul hx hx]
      exact Nat.lt_succ_of_le (Nat.le_mul_self x.toNat)
    · rw [Int.toNat_mul hx hx]
      exact beq_self_eq_true _
  rcases hfound with ⟨k, hk⟩
  have hsquare : k * k = x.toNat * x.toNat := by
    rw [← Int.toNat_mul hx hx]
    have hequal : (k * k == (x * x).toNat) = true :=
      List.find?_some (p := fun k => k * k == (x * x).toNat) hk
    exact eq_of_beq hequal
  show (((List.range ((x * x).toNat + 1)).find? fun k =>
    k * k == (x * x).toNat).getD 0 : Int) = x
  rw [hk, Option.getD_some, Nat.mul_self_inj.mp hsquare, Int.toNat_of_nonneg hx]

theorem exactNumerics_exact : exactNumerics.norms.Exact where
  zero := rfl
  magnitude := fun x => (Int.abs_eq_natAbs x).symm
  add := rfl
  square := fun _ => rfl
  larger := rfl
  root := fun _ => sqrt_mul_self_of_nonneg

variable {n : Nat} {R : Type} [CommRing R] [LinearOrder R] [IsStrictOrderedRing R]

/-!
# Sums and greatest values
-/

omit [CommRing R] [IsStrictOrderedRing R] in
theorem isGreatest_foldl_max (xs : List R) (x : R) :
    IsGreatest {y | y ∈ x :: xs} (xs.foldl max x) := by
  induction xs generalizing x with
  | nil =>
      refine ⟨List.mem_cons_self, ?_⟩
      intro y hy
      exact le_of_eq (List.mem_singleton.mp hy)
  | cons z zs ih =>
      rcases ih (max x z) with ⟨hmem, hupper⟩
      have hmax : max x z ≤ (z :: zs).foldl max x := hupper List.mem_cons_self
      constructor
      · rcases List.mem_cons.mp hmem with heq | hrest
        · rcases max_choice x z with hx | hz
          · exact List.mem_cons.mpr (Or.inl (heq.trans hx))
          · exact List.mem_cons.mpr (Or.inr (List.mem_cons.mpr (Or.inl (heq.trans hz))))
        · exact List.mem_cons.mpr (Or.inr (List.mem_cons.mpr (Or.inr hrest)))
      · intro y hy
        rcases List.mem_cons.mp hy with rfl | hy
        · exact le_trans (le_max_left y z) hmax
        · rcases List.mem_cons.mp hy with rfl | hrest
          · exact le_trans (le_max_right x y) hmax
          · exact hupper (List.mem_cons_of_mem _ hrest)

theorem sum_map_range {M : Type} [AddCommMonoid M] (k : Nat) (f : Nat -> M) :
    ((List.range k).map f).sum = ∑ i ∈ Finset.range k, f i := by
  rfl

omit [IsStrictOrderedRing R] in
/-- A family without negative values has zero as its greatest value only if it has no other. -/
theorem isGreatest_of_insert {values : Set R} {v : R} (h : IsGreatest (insert 0 values) v)
    (hnonneg : forall y, y ∈ values -> 0 ≤ y) (hsome : values.Nonempty) :
    IsGreatest values v := by
  refine ⟨?_, fun y hy => h.2 (Set.mem_insert_of_mem 0 hy)⟩
  rcases h.1 with hzero | hmem
  · rcases hsome with ⟨y, hy⟩
    have hle : y ≤ 0 := hzero ▸ h.2 (Set.mem_insert_of_mem 0 hy)
    have heq : y = v := (le_antisymm hle (hnonneg y hy)).trans hzero.symm
    exact heq ▸ hy
  · exact hmem

namespace NormArithmetic

variable {a : NormArithmetic R R} (h : a.Exact)

include h

theorem sum_eq (xs : List R) : a.sum xs = xs.sum := by
  unfold sum
  rw [h.add, h.zero]
  exact List.sum_eq_foldl.symm

/-- The greatest of values that are not negative; none of them counts as zero. -/
theorem isGreatest_greatest {xs : List R} (hxs : forall y, y ∈ xs -> 0 ≤ y) :
    IsGreatest (insert 0 {y | y ∈ xs}) (a.greatest xs) := by
  cases xs with
  | nil =>
      refine ⟨Or.inl h.zero, ?_⟩
      rintro y (rfl | hy)
      · exact le_of_eq h.zero.symm
      · cases hy
  | cons x rest =>
      unfold greatest
      rw [h.larger]
      have hmax := isGreatest_foldl_max rest x
      refine ⟨Or.inr hmax.1, ?_⟩
      rintro y (rfl | hy)
      · exact le_trans (hxs x List.mem_cons_self) (hmax.2 List.mem_cons_self)
      · exact hmax.2 hy

theorem columnSums_eq (x : Dense R) :
    a.columnSums x =
      (Array.range x.cols).map fun j => ∑ i ∈ Finset.range x.rows, |x.get i j| := by
  unfold columnSums
  congr 1
  funext j
  rw [sum_eq h, sum_map_range]
  exact Finset.sum_congr rfl fun i _ => h.magnitude (x.get i j)

theorem rowSums_eq (x : Dense R) :
    a.rowSums x =
      (Array.range x.rows).map fun i => ∑ j ∈ Finset.range x.cols, |x.get i j| := by
  unfold rowSums
  congr 1
  funext i
  rw [sum_eq h, sum_map_range]
  exact Finset.sum_congr rfl fun j _ => h.magnitude (x.get i j)

theorem squareSum_eq (x : Dense R) :
    a.squareSum x =
      ∑ i ∈ Finset.range x.rows, ∑ j ∈ Finset.range x.cols, x.get i j ^ 2 := by
  have hsquare : forall v, a.square (a.magnitude v) = v ^ 2 := by
    intro v
    rw [h.square, h.magnitude, abs_mul_abs_self, sq]
  unfold squareSum Dense.toLists
  rw [sum_eq h]
  simp only [hsquare]
  rw [List.map_flatten, List.sum_flatten, List.map_map, List.map_map, ← sum_map_range]
  congr 1
  apply List.map_congr_left
  intro i _
  rw [← sum_map_range, Function.comp_apply, Function.comp_apply, List.map_map]
  rfl

/-!
# The norm of a matrix on one process
-/

theorem isGreatest_insert_range (k : Nat) {f : Nat -> R} (hf : forall i, 0 ≤ f i) :
    IsGreatest (insert 0 (f '' Set.Iio k)) (a.greatest ((Array.range k).map f).toList) := by
  have hmem : forall y, y ∈ ((Array.range k).map f).toList ↔ y ∈ f '' Set.Iio k := by
    intro y
    simp
  have hnonneg : forall y, y ∈ ((Array.range k).map f).toList -> 0 ≤ y := by
    intro y hy
    rcases (hmem y).mp hy with ⟨i, _, rfl⟩
    exact hf i
  have hgreatest := isGreatest_greatest h hnonneg
  simp only [hmem] at hgreatest
  exact hgreatest

theorem isGreatest_range {k : Nat} (hk : 0 < k) {f : Nat -> R} (hf : forall i, 0 ≤ f i) :
    IsGreatest (f '' Set.Iio k) (a.greatest ((Array.range k).map f).toList) := by
  apply isGreatest_of_insert (isGreatest_insert_range h k hf)
  · rintro y ⟨i, _, rfl⟩
    exact hf i
  · exact ⟨f 0, 0, hk, rfl⟩

theorem isGreatest_columnSum {x : Dense R} (hcols : 0 < x.cols) :
    IsGreatest ((fun j => ∑ i ∈ Finset.range x.rows, |x.get i j|) '' Set.Iio x.cols)
      (a.serial .columnSum x) := by
  unfold serial
  simp only
  rw [columnSums_eq h]
  exact isGreatest_range h hcols fun j => Finset.sum_nonneg fun i _ => abs_nonneg _

theorem isGreatest_rowSum {x : Dense R} (hrows : 0 < x.rows) :
    IsGreatest ((fun i => ∑ j ∈ Finset.range x.cols, |x.get i j|) '' Set.Iio x.rows)
      (a.serial .rowSum x) := by
  unfold serial
  simp only
  rw [rowSums_eq h]
  exact isGreatest_range h hrows fun i => Finset.sum_nonneg fun j _ => abs_nonneg _

theorem serial_frobenius (x : Dense R) :
    a.serial .frobenius x =
      a.root (∑ i ∈ Finset.range x.rows, ∑ j ∈ Finset.range x.cols, x.get i j ^ 2) := by
  unfold serial
  simp only
  rw [squareSum_eq h]

end NormArithmetic

/-!
# Values of a group in exact arithmetic
-/

namespace Communicator

variable {members : Group n}

omit [CommRing R] [IsStrictOrderedRing R] in
theorem isGreatest_combine_max {values : PerProcess n R} {v : R}
    (h : combine max values members = some v) :
    IsGreatest {y | exists t, t ∈ members ∧ values.get t = y} v := by
  cases members with
  | nil => cases h
  | cons t rest =>
      unfold combine at h
      rw [Option.some.injEq, ← List.foldl_map] at h
      have hmax := isGreatest_foldl_max (rest.map values.get) (values.get t)
      rw [h] at hmax
      have hmem : forall y, (y ∈ values.get t :: rest.map values.get) ↔
          exists u, u ∈ t :: rest ∧ values.get u = y := by
        intro y
        rw [← List.map_cons, List.mem_map]
      simp only [hmem] at hmax
      exact hmax

omit [LinearOrder R] [IsStrictOrderedRing R] in
theorem combine_add (hmembers : members ≠ []) (values : PerProcess n R) :
    combine (fun x y => x + y) values members =
      some (members.map fun s => values.get s).sum := by
  cases members with
  | nil => exact absurd rfl hmembers
  | cons t rest =>
      unfold combine
      rw [List.map_cons, List.sum_eq_foldl, List.foldl_cons, zero_add, List.foldl_map]

omit [LinearOrder R] [IsStrictOrderedRing R] in
theorem combine_zipWith {size k : Nat} (q : Fin size) {place : Fin size -> Fin n}
    {part : Fin size -> Nat -> R} {buffers : PerProcess n (Array R)}
    (h : forall p, buffers.get (place p) = (Array.range k).map (part p)) :
    combine (fun x y => Array.zipWith (fun x y => x + y) x y) buffers
        ((List.finRange size).map place) =
      some ((Array.range k).map fun c => ∑ p, part p c) := by
  have hstep : forall (sums : Nat -> R) (p : Fin size),
      Array.zipWith (fun x y => x + y) ((Array.range k).map sums) (buffers.get (place p)) =
        (Array.range k).map fun c => sums c + part p c := by
    intro sums p
    rw [h p]
    apply Array.ext
    · simp
    · intro c _ _
      simp
  -- The induction is on the members that are still to come, from any sums so far.
  have hrest : forall (rest : List (Fin size)) (sums : Nat -> R),
      (rest.map place).foldl
          (fun acc s => Array.zipWith (fun x y => x + y) acc (buffers.get s))
          ((Array.range k).map sums) =
        (Array.range k).map fun c => sums c + (rest.map fun p => part p c).sum := by
    intro rest
    induction rest with
    | nil =>
        intro sums
        simp
    | cons p later ih =>
        intro sums
        rw [List.map_cons, List.foldl_cons, hstep, ih]
        simp only [List.map_cons, List.sum_cons, add_assoc]
  simp only [Fin.sum_univ_def]
  cases hmembers : List.finRange size with
  | nil =>
      have hq := List.mem_finRange q
      rw [hmembers] at hq
      cases hq
  | cons p rest =>
      unfold combine
      simp only [List.map_cons, List.sum_cons]
      rw [h p, hrest rest (part p)]

end Communicator

/-!
# Sums along one direction of a grid, and the greatest of them across

The processes are numbered by two numbers, of which the first tells the groups along a
direction from each other. The processes of a group along have parts of the same sums.
-/

namespace NormArithmetic

variable {a : NormArithmetic R R} (h : a.Exact) {groups size : Nat}
  (place : Fin groups -> Fin size -> Fin n) {along across : Communicator n}
  {partialSums : PerProcess n (Array R)} {r : Fin n} {q : Fin size} {v : R}

include h

theorem isGreatest_greatestSum
    (hacross : across r = some ((List.finRange groups).map fun p => place p q))
    (halong : forall p, along (place p q) = some ((List.finRange size).map (place p)))
    {counts : Fin groups -> Nat} {part : Fin groups -> Fin size -> Nat -> R}
    (hpart : forall p q c, 0 ≤ part p q c)
    (hsums : forall p q, partialSums.get (place p q) =
      (Array.range (counts p)).map (part p q))
    (hv : (a.greatestSum along across partialSums).get r = some v) :
    IsGreatest (insert 0 {y | exists p, exists c, c < counts p ∧ ∑ q, part p q c = y}) v := by
  -- The greatest sum of each group, zero if the group has none.
  have hnonneg : forall p c, 0 ≤ ∑ q, part p q c := fun p c =>
    Finset.sum_nonneg fun q _ => hpart p q c
  have hgroup : forall p, a.greatest ((((along (place p q)).bind
      (Communicator.combine (fun x y => Array.zipWith a.add x y) partialSums)).getD
        #[]).toList) =
      a.greatest ((Array.range (counts p)).map fun c => ∑ q, part p q c).toList := by
    intro p
    rw [halong p, h.add, Option.bind_some, Communicator.combine_zipWith q (hsums p)]
    rfl
  have hlocal := fun p => isGreatest_insert_range h (counts p) (hnonneg p)
  -- The greatest of these over all groups.
  rw [get_greatestSum hacross, h.larger] at hv
  rcases Communicator.isGreatest_combine_max hv with ⟨⟨s, hs, hattained⟩, hupper⟩
  rcases List.mem_map.mp hs with ⟨p, _, rfl⟩
  rw [PerProcess.get_ofFn, hgroup] at hattained
  have hbound : forall p, a.greatest ((Array.range (counts p)).map fun c =>
      ∑ q, part p q c).toList ≤ v := by
    intro p
    apply hupper
    refine ⟨place p q, List.mem_map.mpr ⟨p, List.mem_finRange p, rfl⟩, ?_⟩
    rw [PerProcess.get_ofFn, hgroup]
  constructor
  · rcases (hlocal p).1 with hzero | ⟨c, hc, hsum⟩
    · exact Or.inl (hattained.symm.trans hzero)
    · exact Or.inr ⟨p, c, hc, hsum.trans hattained⟩
  · rintro y (rfl | ⟨p, c, hc, rfl⟩)
    · exact le_trans ((hlocal p).2 (Set.mem_insert 0 _)) (hbound p)
    · exact le_trans ((hlocal p).2 (Set.mem_insert_of_mem 0 ⟨c, hc, rfl⟩)) (hbound p)

/-- Where two axes deal the places of the sums, these are the sums over whole lines. -/
theorem isGreatest_lines
    (hacross : across r = some ((List.finRange groups).map fun p => place p q))
    (halong : forall p, along (place p q) = some ((List.finRange size).map (place p)))
    {first second : Axis} (hfirst : first.Positive) (hsecond : second.Positive)
    (hgroups : first.procs = groups) (hsize : second.procs = size) {k m : Nat}
    (weight : Nat -> Nat -> R) (hweight : forall c i, 0 ≤ weight c i) (hk : 0 < k)
    (hsums : forall p q, partialSums.get (place p q) =
      (Array.range (first.extent k p.val).toNat).map fun c : Nat =>
        ∑ i ∈ Finset.range (second.extent m q.val).toNat,
          weight (first.index p.val c).toNat (second.index q.val i).toNat)
    (hv : (a.greatestSum along across partialSums).get r = some v) :
    IsGreatest ((fun c => ∑ i ∈ Finset.range m, weight c i) '' Set.Iio k) v := by
  have hgreatest := isGreatest_greatestSum h place hacross halong
    (fun p q c => Finset.sum_nonneg fun i _ => hweight _ _) hsums hv
  simp only [Axis.sum_index hsecond hsize m (weight _), Axis.image_index hfirst hgroups k
    (fun c => ∑ i ∈ Finset.range m, weight c i)] at hgreatest
  apply isGreatest_of_insert hgreatest
  · rintro y ⟨c, _, rfl⟩
    exact Finset.sum_nonneg fun i _ => hweight c i
  · exact ⟨_, 0, hk, rfl⟩

end NormArithmetic

/-!
# Sums over all processes of a grid
-/

omit [LinearOrder R] [IsStrictOrderedRing R] in
theorem Grid.sum_processes (g : Grid n) (f : Fin n -> R) :
    (g.processes.map f).sum = ∑ i, ∑ j, f (g.processAt i j) := by
  unfold processes
  rw [List.map_map, ← Fin.sum_univ_def]
  show ∑ k : Fin (g.rows * g.cols), f (Fin.castLE g.activeCount_le k) = _
  rw [← finProdFinEquiv.sum_comp, Fintype.sum_prod_type]
  apply Finset.sum_congr rfl
  intro i _
  apply Finset.sum_congr rfl
  intro j _
  congr 1
  apply Fin.ext
  show j.val + g.cols * i.val = j.val + i.val * g.cols
  rw [Nat.mul_comm]

end BlockCyclic
