import BlockCyclic.Proofs.Grid.Arrangement
import BlockCyclic.Proofs.Region.Tables
import Mathlib.Order.Defs.LinearOrder

/-!
# The first best factorization

The columns that divide the number of processes in use are tried in increasing order, and a
later candidate replaces an earlier one only if it is strictly better. In any total order of
mismatches the candidate that is left at the end is therefore a best one, and every best one
besides has more columns. One column always divides, so that some candidate is left.
-/

namespace BlockCyclic

variable {kappa lambda : Type}

/--
A factorization into rows and columns whose mismatch is the least of all factorizations, and
less than that of every one with fewer columns.
-/
structure FirstBest [LinearOrder lambda] (mismatch : Nat -> Nat -> lambda)
    (usable rows cols : Nat) : Prop where
  rows_pos : 1 ≤ rows
  cols_pos : 1 ≤ cols
  product : rows * cols = usable
  least : forall other, other ∣ usable -> mismatch rows cols ≤ mismatch (usable / other) other
  first : forall other, other ∣ usable -> other < cols ->
    mismatch rows cols < mismatch (usable / other) other

/-!
# Running through candidates
-/

namespace Candidate

section

variable [LinearOrder lambda] {less : kappa -> kappa -> Bool} {rank : kappa -> lambda}

/-- Of the candidates seen so far, one is the best by rank, and the first one that is. -/
structure Leads (rank : kappa -> lambda) (seen : List (Candidate kappa)) (c : Candidate kappa) :
    Prop where
  mem : c ∈ seen
  least : forall d, d ∈ seen -> rank c.mismatch ≤ rank d.mismatch
  first : forall d, d ∈ seen -> d.cols < c.cols -> rank c.mismatch < rank d.mismatch

/-- What is kept is the leader of the candidates seen so far, as soon as there are any. -/
def Kept (rank : kappa -> lambda) (seen : List (Candidate kappa)) :
    Option (Candidate kappa) -> Prop
  | none => seen = []
  | some c => Leads rank seen c

theorem leads_single (c : Candidate kappa) : Leads rank [c] c := by
  constructor
  · exact List.mem_singleton_self c
  · intro d hd
    rw [List.mem_singleton.mp hd]
  · intro d hd hlt
    rw [List.mem_singleton.mp hd] at hlt
    exact absurd hlt (Nat.lt_irrefl _)

section

variable {seen : List (Candidate kappa)} {b c : Candidate kappa} (h : Leads rank seen b)

include h

theorem leads_of_better (hbetter : rank c.mismatch < rank b.mismatch) :
    Leads rank (seen ++ [c]) c := by
  have hall : forall d, d ∈ seen -> rank c.mismatch < rank d.mismatch :=
    fun d hd => lt_of_lt_of_le hbetter (h.least d hd)
  constructor
  · exact List.mem_append_right seen (List.mem_singleton_self c)
  · intro d hd
    rcases List.mem_append.mp hd with hold | hnew
    · exact le_of_lt (hall d hold)
    · rw [List.mem_singleton.mp hnew]
  · intro d hd hlt
    rcases List.mem_append.mp hd with hold | hnew
    · exact hall d hold
    · rw [List.mem_singleton.mp hnew] at hlt
      exact absurd hlt (Nat.lt_irrefl _)

/-- A leader stays the first best one, since what comes later has more columns. -/
theorem leads_of_not_better (hbetter : ¬ rank c.mismatch < rank b.mismatch)
    (hcols : b.cols < c.cols) : Leads rank (seen ++ [c]) b := by
  constructor
  · exact List.mem_append_left [c] h.mem
  · intro d hd
    rcases List.mem_append.mp hd with hold | hnew
    · exact h.least d hold
    · rw [List.mem_singleton.mp hnew]
      exact le_of_not_gt hbetter
  · intro d hd hlt
    rcases List.mem_append.mp hd with hold | hnew
    · exact h.first d hold hlt
    · rw [List.mem_singleton.mp hnew] at hlt
      exact absurd hlt (Nat.lt_asymm hcols)

end

def RankedBy (less : kappa -> kappa -> Bool) (rank : kappa -> lambda)
    (all : List (Candidate kappa)) : Prop :=
  forall c, c ∈ all -> forall d, d ∈ all ->
    (less c.mismatch d.mismatch = true ↔ rank c.mismatch < rank d.mismatch)

theorem kept_keep {seen : List (Candidate kappa)} {best : Option (Candidate kappa)}
    {c : Candidate kappa} (hranked : RankedBy less rank (seen ++ [c])) (h : Kept rank seen best)
    (hcols : forall d, d ∈ seen -> d.cols < c.cols) :
    Kept rank (seen ++ [c]) (keep less best c) := by
  cases best with
  | none =>
      rw [show seen = [] from h]
      exact leads_single c
  | some b =>
      have hrank := hranked c (List.mem_append_right seen (List.mem_singleton_self c)) b
        (List.mem_append_left [c] h.mem)
      unfold keep
      by_cases hbetter : less c.mismatch b.mismatch = true
      · simp only [hbetter, if_true]
        exact leads_of_better h (hrank.mp hbetter)
      · simp only [hbetter, Bool.false_eq_true, if_false]
        exact leads_of_not_better h (fun hlt => hbetter (hrank.mpr hlt)) (hcols b h.mem)

/-- The candidates come with ever more columns. -/
theorem kept_foldl {seen rest : List (Candidate kappa)} {best : Option (Candidate kappa)}
    (hranked : RankedBy less rank (seen ++ rest)) (h : Kept rank seen best)
    (hsorted : (seen ++ rest).Pairwise fun c d => c.cols < d.cols) :
    Kept rank (seen ++ rest) (rest.foldl (keep less) best) := by
  induction rest generalizing seen best with
  | nil =>
      rw [List.append_nil]
      exact h
  | cons c rest ih =>
      have hcols : forall d, d ∈ seen -> d.cols < c.cols :=
        fun d hd => (List.pairwise_append.mp hsorted).2.2 d hd c List.mem_cons_self
      rw [← List.singleton_append, ← List.append_assoc] at hsorted hranked ⊢
      have hseen : RankedBy less rank (seen ++ [c]) := fun a ha b hb =>
        hranked a (List.mem_append_left rest ha) b (List.mem_append_left rest hb)
      exact ih hranked (kept_keep hseen h hcols) hsorted

end

/-- However candidates are compared, one of them is left as soon as one was tried. -/
theorem exists_foldl_keep (less : kappa -> kappa -> Bool) (b : Candidate kappa)
    (rest : List (Candidate kappa)) :
    exists c, c ∈ b :: rest ∧ rest.foldl (keep less) (some b) = some c := by
  induction rest generalizing b with
  | nil => exact ⟨b, List.mem_singleton_self b, rfl⟩
  | cons c rest ih =>
      rw [List.foldl_cons]
      unfold keep
      by_cases hless : less c.mismatch b.mismatch = true
      · simp only [hless, if_true]
        rcases ih c with ⟨d, hd, hfold⟩
        exact ⟨d, List.mem_cons_of_mem b hd, hfold⟩
      · simp only [hless, Bool.false_eq_true, if_false]
        rcases ih b with ⟨d, hd, hfold⟩
        refine ⟨d, ?_, hfold⟩
        rcases List.mem_cons.mp hd with rfl | hlater
        · exact List.mem_cons_self
        · exact List.mem_cons_of_mem b (List.mem_cons_of_mem c hlater)

end Candidate

/-!
# Candidates of a number
-/

theorem mem_columnChoices {usable cols : Nat} (hpos : 1 ≤ usable) :
    cols ∈ columnChoices usable ↔ cols ∣ usable := by
  unfold columnChoices
  rw [List.mem_filter, List.mem_range'_1, beq_iff_eq, ← Nat.dvd_iff_mod_eq_zero]
  constructor
  · exact fun h => h.2
  · intro hdvd
    have hcols := Nat.pos_of_dvd_of_pos hdvd hpos
    have hle := Nat.le_of_dvd hpos hdvd
    exact ⟨⟨hcols, by omega⟩, hdvd⟩

theorem pairwise_columnChoices (usable : Nat) : (columnChoices usable).Pairwise (· < ·) :=
  List.Pairwise.filter _ (List.pairwise_lt_range' 1)

def candidates (mismatch : Nat -> Nat -> kappa) (usable : Nat) : List (Candidate kappa) :=
  (columnChoices usable).map (Candidate.ofCols mismatch usable)

theorem pairwise_candidates (mismatch : Nat -> Nat -> kappa) (usable : Nat) :
    (candidates mismatch usable).Pairwise fun c d => c.cols < d.cols :=
  List.Pairwise.map _ (fun _ _ h => h) (pairwise_columnChoices usable)

theorem mem_candidates {mismatch : Nat -> Nat -> kappa} {usable : Nat} (hpos : 1 ≤ usable)
    {c : Candidate kappa} :
    c ∈ candidates mismatch usable ↔
      exists cols, cols ∣ usable ∧ Candidate.ofCols mismatch usable cols = c := by
  unfold candidates
  simp only [List.mem_map, mem_columnChoices hpos]

/-- One column divides every number, so that some factorization is found. -/
theorem exists_bestFactorization (less : kappa -> kappa -> Bool)
    (mismatch : Nat -> Nat -> kappa) {usable : Nat} (hpos : 1 ≤ usable) :
    exists cols, cols ∣ usable ∧
      bestFactorization less mismatch usable = some (usable / cols, cols) := by
  have hone : Candidate.ofCols mismatch usable 1 ∈ candidates mismatch usable :=
    (mem_candidates hpos).mpr ⟨1, Nat.one_dvd usable, rfl⟩
  have hfound : exists c, c ∈ candidates mismatch usable ∧
      (candidates mismatch usable).foldl (Candidate.keep less) none = some c := by
    cases hall : candidates mismatch usable with
    | nil =>
        rw [hall] at hone
        cases hone
    | cons b rest => exact Candidate.exists_foldl_keep less b rest
  rcases hfound with ⟨c, hc, hfold⟩
  rcases (mem_candidates hpos).mp hc with ⟨cols, hdvd, rfl⟩
  exact ⟨cols, hdvd, congrArg (Option.map fun c : Candidate kappa => (c.rows, c.cols)) hfold⟩

theorem firstBest_of_bestFactorization [LinearOrder lambda] {less : kappa -> kappa -> Bool}
    {rank : kappa -> lambda} {mismatch : Nat -> Nat -> kappa} {usable rows cols : Nat}
    (hpos : 1 ≤ usable)
    (hranked : Candidate.RankedBy less rank (candidates mismatch usable))
    (h : bestFactorization less mismatch usable = some (rows, cols)) :
    FirstBest (fun p q => rank (mismatch p q)) usable rows cols := by
  rcases Option.map_eq_some_iff.mp h with ⟨c, hfold, hshape⟩
  cases hshape
  have hkept : Candidate.Kept rank ([] ++ candidates mismatch usable) (some c) := by
    rw [← hfold]
    exact Candidate.kept_foldl hranked rfl (pairwise_candidates mismatch usable)
  have hleads : Candidate.Leads rank (candidates mismatch usable) c := hkept
  have htried : forall other, other ∣ usable ->
      Candidate.ofCols mismatch usable other ∈ candidates mismatch usable :=
    fun other hdvd => (mem_candidates hpos).mpr ⟨other, hdvd, rfl⟩
  rcases (mem_candidates hpos).mp hleads.mem with ⟨cols, hdvd, rfl⟩
  exact
    { rows_pos := Nat.div_pos (Nat.le_of_dvd hpos hdvd) (Nat.pos_of_dvd_of_pos hdvd hpos)
      cols_pos := Nat.pos_of_dvd_of_pos hdvd hpos
      product := Nat.div_mul_cancel hdvd
      least := fun other hother => hleads.least _ (htried other hother)
      first := fun other hother hlt => hleads.first _ (htried other hother) hlt }

/-!
# Shapes of grids
-/

section

variable {less : kappa -> kappa -> Bool} {mismatches : Except Failure (Nat -> Nat -> kappa)}
  {shape blocks : Nat × Nat} {procs : Nat}

theorem gridShapeBy_eq_ok {p : Nat × Nat}
    (h : gridShapeBy less mismatches shape blocks (usableCount (.whole procs)) = .ok p) :
    exists mismatch total, mismatches = .ok mismatch ∧ blockTotal? shape blocks = some total ∧
      bestFactorization less mismatch (min total procs) = some p := by
  unfold gridShapeBy at h
  split at h
  next => cases h
  next total htotal =>
    rcases Except.bind_eq_ok.mp h with ⟨mismatch, hmismatch, h⟩
    rcases Except.bind_eq_ok.mp h with ⟨count, hcount, h⟩
    cases hcount
    split at h
    next found hfound =>
      cases h
      exact ⟨mismatch, total, hmismatch, htotal, hfound⟩
    next => cases h

section

variable {mismatch : Nat -> Nat -> kappa} {total : Nat} (hmismatch : mismatches = .ok mismatch)
  (htotal : blockTotal? shape blocks = some total)

include hmismatch htotal

theorem gridShapeBy_of_found {p : Nat × Nat}
    (hfound : bestFactorization less mismatch (min total procs) = some p) :
    gridShapeBy less mismatches shape blocks (usableCount (.whole procs)) = .ok p := by
  have hcount : usableCount (.whole procs) total = .ok (min total procs) := rfl
  unfold gridShapeBy
  rw [htotal]
  refine Except.bind_eq_ok.mpr ⟨mismatch, hmismatch, Except.bind_eq_ok.mpr ⟨_, hcount, ?_⟩⟩
  rw [hfound]

variable (less) in
/-- Where a matrix has blocks, all of them or all processes are arranged. -/
theorem exists_gridShapeBy (hpos : 1 ≤ total) (hprocs : 1 ≤ procs) :
    exists p q,
      gridShapeBy less mismatches shape blocks (usableCount (.whole procs)) = .ok (p, q) ∧
        p * q = min total procs := by
  rcases exists_bestFactorization less mismatch (Nat.le_min.mpr ⟨hpos, hprocs⟩) with
    ⟨cols, hdvd, hfound⟩
  exact ⟨_, cols, gridShapeBy_of_found hmismatch htotal hfound, Nat.div_mul_cancel hdvd⟩

end

theorem product_of_gridShapeBy {p q : Nat} (hprocs : 1 ≤ procs)
    (h : gridShapeBy less mismatches shape blocks (usableCount (.whole procs)) = .ok (p, q)) :
    exists total, blockTotal? shape blocks = some total ∧ 1 ≤ p ∧ 1 ≤ q ∧
      p * q = min total procs := by
  rcases gridShapeBy_eq_ok h with ⟨mismatch, total, hmismatch, htotal, hfound⟩
  have hpos : 1 ≤ total := by
    apply Nat.pos_of_ne_zero
    rintro rfl
    rw [Nat.zero_min] at hfound
    cases hfound
  rcases exists_gridShapeBy less hmismatch htotal hpos hprocs with
    ⟨rows, cols, hshape, hproduct⟩
  cases h.symm.trans hshape
  have hne : p * q ≠ 0 := by
    rw [hproduct]
    exact Nat.ne_of_gt (Nat.le_min.mpr ⟨hpos, hprocs⟩)
  exact ⟨total, htotal, Nat.pos_of_ne_zero (left_ne_zero_of_mul hne),
    Nat.pos_of_ne_zero (right_ne_zero_of_mul hne), hproduct⟩

end

theorem belowOne_whole {procs : Nat} (hprocs : 1 ≤ procs) :
    belowOne (.whole procs) = .ok false := by
  show Except.ok (decide ((procs : Int) < 1)) = _
  rw [decide_eq_false (by omega)]

/-- What is asked for by positive integers passes all checks. -/
theorem gridShapeOf_pairs {m k mb nb procs : Nat} (hshape : 1 ≤ m ∧ 1 ≤ k)
    (hblocks : 1 ≤ mb ∧ 1 ≤ nb) (hprocs : 1 ≤ procs) :
    gridShapeOf (.pair m k) (.pair mb nb) (.whole procs) =
      gridShapeWith (m, k) (mb, nb) (usableCount (.whole procs)) := by
  have hcheck : forall {x y : Nat} (name : SizeName), 1 ≤ x -> 1 ≤ y ->
      Size.checkPair name (Size.plain [.whole x, .whole y]) = .ok (x, y) := by
    intro x y name hx hy
    have hentry : forall {z : Nat} (shown : String), 1 ≤ z ->
        Size.positive? ⟨shown, some z⟩ = some z :=
      fun _ hz => if_pos (Int.ofNat_le.mpr hz)
    have hpair : Size.positivePair? (Size.plain [.whole x, .whole y]) = some (x, y) := by
      show Size.positivePair? [⟨_, some (x : Int)⟩, ⟨_, some (y : Int)⟩] = _
      unfold Size.positivePair?
      simp only [hentry _ hx, hentry _ hy]
    unfold Size.checkPair
    have htwo : (Size.plain [.whole x, .whole y]).length = 2 := rfl
    rw [if_neg (not_not_intro htwo), hpair]
  show (do
    let shape <- Size.checkPair .matrixShape (Size.plain [.whole m, .whole k])
    let blocks <- Size.checkPair .blockSizes (Size.plain [.whole mb, .whole nb])
    if <- belowOne (.whole procs) then _ else gridShapeWith shape blocks _) = _
  rw [hcheck _ hshape.1 hshape.2, hcheck _ hblocks.1 hblocks.2, belowOne_whole hprocs]
  rfl

/-- However the sizes are given, the shape that is chosen for them fits the processes. -/
theorem ofShape_of_gridShapeFor {n p q : Nat} {shape blocks : Size} (context : Fin n -> Int)
    (h : gridShapeFor shape blocks (.whole n) = .ok (p, q)) :
    exists g : Grid n, Grid.ofShape context p q = .ok g ∧ g.rows = p ∧ g.cols = q := by
  rcases Except.bind_eq_ok.mp h with ⟨extents, _, h⟩
  rcases Except.bind_eq_ok.mp h with ⟨sizes, _, h⟩
  by_cases hprocs : 1 ≤ n
  · rw [belowOne_whole hprocs] at h
    rcases product_of_gridShapeBy hprocs h with ⟨total, _, hp, hq, hproduct⟩
    have hfits : p * q ≤ n := by
      rw [hproduct]
      exact Nat.min_le_right total n
    exact ⟨_, Grid.ofShape_of_fits context hp hq hfits, rfl, rfl⟩
  · have hzero : belowOne (.whole n) = .ok true := by
      show Except.ok (decide ((n : Int) < 1)) = _
      rw [decide_eq_true (by omega)]
    rw [hzero] at h
    cases h

/-!
# The chosen shape
-/

/--
The shape for positive sizes is chosen by comparing mismatches, and wherever those of all
candidates compare like ranks in a total order, the chosen factorization is the first of the
best ones. All blocks or all processes are arranged, whichever are fewer, so that a grid never
lacks processes; and some shape is chosen for every matrix that has blocks and mismatches.
-/
theorem first_best_shape {m k mb nb procs : Nat} (hshape : 1 ≤ m ∧ 1 ≤ k)
    (hblocks : 1 ≤ mb ∧ 1 ≤ nb) (hprocs : 1 ≤ procs) :
    (gridShapeOf (.pair m k) (.pair mb nb) (.whole procs) =
      gridShapeBy (fun a b => decide (a < b)) ((targetRatio (m, k)).map ratioMismatch)
        (m, k) (mb, nb) (usableCount (.whole procs))) ∧
    (forall {kappa lambda : Type} [LinearOrder lambda] (less : kappa -> kappa -> Bool)
      (mismatches : Except Failure (Nat -> Nat -> kappa)) (rank : kappa -> lambda) (p q : Nat),
        gridShapeBy less mismatches (m, k) (mb, nb) (usableCount (.whole procs)) = .ok (p, q) ->
        exists mismatch total, mismatches = .ok mismatch ∧
          blockTotal? (m, k) (mb, nb) = some total ∧
          (Candidate.RankedBy less rank (candidates mismatch (min total procs)) ->
            FirstBest (fun rows cols => rank (mismatch rows cols)) (min total procs) p q)) ∧
    (forall p q, gridShapeOf (.pair m k) (.pair mb nb) (.whole procs) = .ok (p, q) ->
      exists total, blockTotal? (m, k) (mb, nb) = some total ∧
        1 ≤ p ∧ 1 ≤ q ∧ p * q = min total procs ∧ p * q ≤ procs ∧ p * q ≤ total) ∧
    (forall {kappa : Type} (less : kappa -> kappa -> Bool) (mismatch : Nat -> Nat -> kappa)
      (total : Nat), blockTotal? (m, k) (mb, nb) = some total -> 1 ≤ total ->
        exists p, gridShapeBy less (.ok mismatch) (m, k) (mb, nb) (usableCount (.whole procs)) =
          .ok p) ∧
    (forall (shape blocks : Size) (context : Fin procs -> Int) (p q : Nat),
      gridShapeFor shape blocks (.whole procs) = .ok (p, q) ->
      exists g : Grid procs, Grid.ofShape context p q = .ok g ∧ g.rows = p ∧ g.cols = q) := by
  have hrun := gridShapeOf_pairs hshape hblocks hprocs
  refine ⟨hrun, ?_, ?_, ?_, ?_⟩
  · intro kappa lambda _ less mismatches rank p q h
    rcases gridShapeBy_eq_ok h with ⟨mismatch, total, hmismatch, htotal, hfound⟩
    rcases product_of_gridShapeBy hprocs h with ⟨same, hsame, hp, hq, hproduct⟩
    cases hsame.symm.trans htotal
    have hpos : 1 ≤ min total procs := by
      rw [← hproduct]
      exact Nat.mul_pos hp hq
    exact ⟨mismatch, total, hmismatch, htotal, fun hranked =>
      firstBest_of_bestFactorization hpos hranked hfound⟩
  · intro p q h
    rw [hrun] at h
    rcases product_of_gridShapeBy hprocs h with ⟨total, htotal, hp, hq, hproduct⟩
    refine ⟨total, htotal, hp, hq, hproduct, ?_, ?_⟩
    · rw [hproduct]
      exact Nat.min_le_right total procs
    · rw [hproduct]
      exact Nat.min_le_left total procs
  · intro kappa less mismatch total htotal hpos
    rcases exists_gridShapeBy less rfl htotal hpos hprocs with ⟨p, q, hfound, _⟩
    exact ⟨(p, q), hfound⟩
  · intro shape blocks context p q h
    exact ofShape_of_gridShapeFor context h

/-- Eight of fifty blocks of a matrix with twice as many rows as columns. -/
theorem first_best_shape_eight_processes :
    let mismatch (rows cols : Nat) : Nat := (rows * 50 - cols * 100) + (cols * 100 - rows * 50)
    let less (a b : Nat) : Bool := decide (a < b)
    gridShapeBy less (.ok mismatch) (100, 50) (10, 10) (usableCount (.whole (8 : Nat))) =
      .ok (4, 2) ∧
    FirstBest mismatch 8 4 2 := by
  intro mismatch less
  have hblocks : blockTotal? (100, 50) (10, 10) = some 50 := by decide +kernel
  have hfound : bestFactorization less mismatch 8 = some (4, 2) := by decide +kernel
  have hchosen : gridShapeBy less (.ok mismatch) (100, 50) (10, 10)
      (usableCount (.whole (8 : Nat))) = .ok (4, 2) :=
    gridShapeBy_of_found rfl hblocks hfound
  rcases (first_best_shape (by decide) (by decide) (by decide)).2.1 less (.ok mismatch) id 4 2
    hchosen with ⟨same, total, hsame, htotal, hbest⟩
  cases hsame
  cases hblocks.symm.trans htotal
  exact ⟨hchosen, hbest fun c _ d _ => decide_eq_true_iff⟩

end BlockCyclic
