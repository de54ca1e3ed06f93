import BlockCyclic.Proofs.Matrix.Agreement
import BlockCyclic.Proofs.Matrix.Creation
import BlockCyclic.Proofs.Matrix.Room
import BlockCyclic.Session.Matrices

/-!
# Turns are calls

A session refuses what words cannot hold and what a process has no room for. Where all
processes have a matrix and nothing of this stands in the way, a turn with the matrix is a
call, and a session that goes through many turns keeps what a run of the calls leaves.
-/

namespace BlockCyclic

variable {n : Nat}

/-!
# Answers of single processes

Where nothing can be exchanged, every process is asked by itself. It answers what it would
answer together with the others: either they take no part in the call, or it refuses.
-/

namespace DistributedMatrix

section

variable {delta alpha rho : Type} [Zero alpha] [Zero rho] [Measure rho]
  {numerics : Numerics delta alpha rho} {a : DistributedMatrix n alpha}
  {call : Call n delta alpha rho} {r : Fin n}

theorem performAlone_of_local (h : call.isLocal = true) :
    a.performAlone numerics call r = (a.perform numerics call).get r := by
  unfold perform
  cases call with
  | setProperty choice =>
      unfold setProperty
      rw [PerProcess.get_map, PerProcess.get_ofFn]
      rfl
  | fill f choice =>
      unfold fill
      rw [PerProcess.get_map, PerProcess.get_ofFn]
      rfl
  | setElement writers i j value =>
      rw [PerProcess.get_ofFn]
      rfl
  | _ => cases h

omit [Zero alpha] in
theorem get_map_guarded {beta gamma : Type} (verdict : Part alpha -> Except Failure Unit)
    {reply : Fin n -> Reply alpha beta} {f : beta -> gamma} {failure : Failure}
    (h : verdict (a.part r) = .error failure) :
    ((Vector.ofFn fun s => Reply.guarded (a.part s) (verdict (a.part s)) (reply s) :
      Replies n alpha beta).map (Reply.map f)).get r = .refuse (a.part r) failure := by
  rw [PerProcess.get_map, PerProcess.get_ofFn, h]
  rfl

theorem performAlone_of_refused {failure : Failure}
    (h : (a.part r).admits call = .error failure) :
    a.performAlone numerics call r = (a.perform numerics call).get r := by
  have halone : a.performAlone numerics call r = .refuse (a.part r) failure := by
    unfold performAlone
    rw [h]
    rfl
  rw [halone]
  symm
  cases call with
  | copyTo everywhere => exact get_map_guarded (fun p => p.requireState .copy) h
  | cholesky => exact get_map_guarded (fun p => p.requireSymmetric .cholesky) h
  | invert => exact get_map_guarded (fun p => p.requireState .inversion) h
  | eigen vectors => exact get_map_guarded (fun p => p.requireSymmetric .eigen) h
  | condition norm => exact get_map_guarded (fun p => p.requireState .condition) h
  | norm kind => exact get_map_guarded (fun p => p.requireState (.norm kind)) h
  | _ => cases h

end

end DistributedMatrix

namespace Held

def Complete (h : Held n) : Prop :=
  forall r, h.present.get r = true

variable {h : Held n} {obstacle : Fin n -> Obstacle}

theorem perform_eq (hcomplete : h.Complete) (hfree : forall r, obstacle r = none)
    (call : Call n Entry Float Float) :
    h.perform obstacle call = h.matrix.perform machineNumerics call := by
  apply PerProcess.ext
  intro r
  unfold perform
  simp only
  split
  next =>
    rw [PerProcess.get_ofFn, hfree r]
    rfl
  next hapart =>
    rw [PerProcess.get_ofFn, if_pos (hcomplete r), hfree r]
    show h.matrix.performAlone machineNumerics call r = _
    cases hlocal : call.isLocal with
    | true => exact DistributedMatrix.performAlone_of_local hlocal
    | false =>
        cases hadmits : (h.matrix.part r).admits call with
        | error failure => exact DistributedMatrix.performAlone_of_refused hadmits
        | ok _ =>
            -- One process that may start is enough for all to answer together.
            refine absurd ?_ hapart
            unfold answersTogether
            have hpresent : h.present.all id = true :=
              Vector.all_eq_true.mpr fun k hk => hcomplete ⟨k, hk⟩
            have hstarts : ((List.finRange n).any fun s =>
                ((h.matrix.part s).admits call).isOk) = true :=
              List.any_eq_true.mpr ⟨r, List.mem_finRange r, by rw [hadmits]; rfl⟩
            rw [hpresent, hlocal, hstarts]
            rfl

end Held

/-!
# A turn and a call
-/

theorem Turn.among_of_complete {t : Turn n} {known : PerProcess n Bool}
    (hknown : forall r, known.get r = true) : t.among known = t := by
  unfold among
  congr
  · apply PerProcess.ext
    intro r
    rw [PerProcess.get_ofFn, if_pos (hknown r)]
  · apply PerProcess.ext
    intro r
    rw [PerProcess.get_ofFn, if_pos (hknown r)]

/-- Nothing but one matrix is different, and this one all processes have. -/
structure Session.Changes (before after : Session n) (name : String) (next : Held n) : Prop where
  kept : after.matrices.lookup name = some next
  complete : next.Complete
  others : forall other, other ≠ name ->
    after.matrices.lookup other = before.matrices.lookup other
  settings : after.settings = before.settings
  grids : after.grids = before.grids

/-- The matrix under a name takes a call, and the processes report and log what they reply. -/
structure Turn.Performs (t : Turn n) (s : Session n) (name : String)
    (a : DistributedMatrix n Float) (call : Call n Entry Float Float)
    (write : Held n -> Fin n -> Answer Float Float -> Report) (next : Held n) : Prop where
  session : s.Changes t.session name next
  matrix : next.matrix = a.next machineNumerics call
  results : forall r, t.results.get r =
    ((a.perform machineNumerics call).get r).result.map (write next r)
  logs : forall r, t.logs.get r = ((a.perform machineNumerics call).get r).log

namespace Session

variable {s : Session n} {name : String} {h : Held n}

theorem changes_keep {next : Held n} (hcomplete : next.Complete) :
    s.Changes (s.keep name next) name next where
  kept := Registry.lookup_register_self _ _ _
  complete := hcomplete
  others := fun _ hother => Registry.lookup_register_ne _ _ hother
  settings := rfl
  grids := rfl

theorem changes_norms (hlookup : s.matrices.lookup name = some h) (hcomplete : h.Complete)
    (norms : Registry (PerProcess n (Option Float))) :
    s.Changes { s with norms := norms } name h where
  kept := hlookup
  complete := hcomplete
  others := fun _ _ => rfl
  settings := rfl
  grids := rfl

theorem withMatrix_eq (hlookup : s.matrices.lookup name = some h) (hcomplete : h.Complete)
    (f : Held n -> Turn n) : s.withMatrix name f = f h := by
  unfold withMatrix
  rw [hlookup]
  exact Turn.among_of_complete hcomplete

theorem callWith_performs (hlookup : s.matrices.lookup name = some h)
    (hcomplete : h.Complete) (obstacle : Held n -> Fin n -> Obstacle)
    (hfree : forall r, obstacle h r = none) (call : Call n Entry Float Float)
    (write : Held n -> Fin n -> Answer Float Float -> Report) :
    exists next, (s.callWith name obstacle call write).Performs s name h.matrix call write
      next := by
  unfold callWith
  rw [withMatrix_eq hlookup hcomplete, Held.perform_eq hcomplete hfree]
  refine ⟨_, changes_keep ?_, rfl, ?_, ?_⟩
  · exact hcomplete
  · intro r
    rw [PerProcess.get_ofFn]
  · intro r
    rw [PerProcess.get_map]

end Session

/-!
# What stands in the way of no turn
-/

theorem obstacleOf_unconcerned {beta : Type} (check : Except Failure beta) :
    obstacleOf check false = none := by
  cases check with
  | error failure => rfl
  | ok x => rfl

section

variable {a : DistributedMatrix n Float} (hroom : a.layout.Roomy)

include hroom

theorem assignObstacle_eq_none {x : Option (Sheet Entry)} (hx : x.bind Sheet.obstacle? = none)
    (choice : PropertyChoice) (r : Fin n) : Session.assignObstacle x choice a r = none := by
  unfold Session.assignObstacle
  simp only [hx, hroom.regions, Bool.not_true, Bool.and_false, Bool.false_eq_true, if_false,
    ite_self]

theorem fillObstacle_eq_none (choice : PropertyChoice) (r : Fin n) :
    Session.fillObstacle choice a.layout r = none := by
  unfold Session.fillObstacle
  cases hr : a.layout.grid.active r with
  | true =>
      rw [hroom.indices r hr]
      rfl
  | false =>
      rw [Bool.and_false]
      exact obstacleOf_unconcerned _

theorem copyObstacle_eq_none (everywhere : Bool) (r : Fin n) :
    Session.copyObstacle everywhere a r = none := by
  rcases hroom.whole with ⟨length, hlength⟩
  have hcheck : Session.checkCopy a.layout everywhere r = .ok () := by
    unfold Session.checkCopy
    rw [hroom.regions, hlength]
    split
    · rfl
    · cases everywhere <;> rfl
  unfold Session.copyObstacle
  rw [hcheck]
  rfl

theorem conditionObstacle_eq_none {norm : Argument} {value : Float}
    (hnorm : (norm.number >>= Number.double) = .ok value) {h : Held n} (hmatrix : h.matrix = a)
    (r : Fin n) : Session.conditionObstacle norm h r = none := by
  subst hmatrix
  rcases hroom.workspace r with ⟨length, hlength⟩
  rcases Except.bind_eq_ok.mp hnorm with ⟨x, hx, hvalue⟩
  unfold Session.conditionObstacle
  simp only [hlength, hx, hvalue, bind, Except.bind]
  rfl

end

/-!
# All turns with one matrix
-/

/-- What a session can be asked to do with a matrix it has. -/
inductive MatrixTurn (n : Nat) where
  | setProperty (choice : PropertyChoice)
  | assign (x : Option (Sheet Entry)) (everywhere : Bool) (choice : PropertyChoice)
  | fill (f : Filling) (choice : PropertyChoice)
  | setElement (writers : Fin n -> Bool) (i j value : Argument)
  | copyTo (everywhere exact : Bool)
  | cholesky
  | invert
  | eigen (vectors : Bool)
  | condition (value : Argument)
  | norm (kind : NormKind) (save : Option String)

namespace MatrixTurn

def take (s : Session n) (name : String) : MatrixTurn n -> Turn n
  | setProperty choice => s.setProperty name choice
  | assign x everywhere choice => s.assign name x everywhere choice
  | fill f choice => s.fill name f choice
  | setElement writers i j value => s.setElement name writers i j value
  | copyTo everywhere exact => s.copyTo name everywhere exact
  | cholesky => s.cholesky name
  | invert => s.invert name
  | eigen vectors => s.eigen name vectors
  | condition value => s.condition name value
  | norm kind save => s.norm name kind save

/-- The call that a turn makes on a matrix of the given precision. -/
def call (p : Precision) : MatrixTurn n -> Call n Entry Float Float
  | setProperty choice => .setProperty choice
  | assign x everywhere choice => .assign (Session.spreadData x everywhere) choice
  | fill f choice => .fill f.sheet choice
  | setElement writers i j value =>
      .setElement writers i.subscript j.subscript
        ((value.spelled.double.toOption.map p.round).getD 0.0)
  | copyTo everywhere _ => .copyTo everywhere
  | cholesky => .cholesky
  | invert => .invert
  | eigen vectors => .eigen vectors
  | condition value => .condition (Vector.ofFn fun _ => (value.number?.getD 0).toDouble)
  | norm kind _ => .norm kind

/-- The values that come with a turn can enter a matrix or a kernel. -/
def Enters : MatrixTurn n -> Prop
  | assign x _ _ => x.bind Sheet.obstacle? = none
  | setElement _ _ _ value => exists x, value.spelled.double = .ok x
  | condition value => exists x, (value.number >>= Number.double) = .ok x
  | _ => True

def write : MatrixTurn n -> Held n -> Fin n -> Answer Float Float -> Report
  | assign .. | fill .. => Session.itself
  | copyTo _ exact => fun h r answer => h.answerReport exact r answer
  | norm .. => fun h r answer => h.normReport r (answer.measure?.getD 0.0)
  | _ => fun h r answer => h.answerReport true r answer

variable {s : Session n} {name : String} {h : Held n}
  (hlookup : s.matrices.lookup name = some h) (hcomplete : h.Complete)

include hlookup hcomplete

theorem setElement_performs {value : Argument} {x : Float}
    (hvalue : value.spelled.double = .ok x) (writers : Fin n -> Bool) (i j : Argument) :
    exists next, (s.setElement name writers i j value).Performs s name h.matrix
      (call h.precision (.setElement writers i j value))
      (write (.setElement writers i j value)) next := by
  unfold Session.setElement
  rw [Session.withMatrix_eq hlookup hcomplete]
  refine Session.callWith_performs hlookup hcomplete _ ?_ _ _
  intro r
  simp only [hvalue]
  rfl

theorem eigen_performs (vectors : Bool) :
    exists next, (s.eigen name vectors).Performs s name h.matrix (.eigen vectors)
      (write (.eigen vectors)) next := by
  unfold Session.eigen
  rw [Session.withMatrix_eq hlookup hcomplete, Held.perform_eq hcomplete fun _ => rfl]
  refine ⟨_, Session.changes_keep ?_, rfl, ?_, ?_⟩
  · exact hcomplete
  · intro r
    rw [PerProcess.get_ofFn]
    rfl
  · intro r
    rw [PerProcess.get_map]

/-- A norm leaves the matrix as it is, so that it need not be kept again. -/
theorem norm_performs (kind : NormKind) (save : Option String) :
    exists next, (s.norm name kind save).Performs s name h.matrix (.norm kind)
      (write (.norm kind save)) next := by
  unfold Session.norm
  rw [Session.withMatrix_eq hlookup hcomplete, Held.perform_eq hcomplete fun _ => rfl]
  refine ⟨h, ?_, ?_, ?_, ?_⟩
  · cases save with
    | none => exact Session.changes_norms hlookup hcomplete s.norms
    | some key =>
        simp only
        split
        · exact Session.changes_norms hlookup hcomplete _
        · exact Session.changes_norms hlookup hcomplete s.norms
  · exact (DistributedMatrix.next_norm machineNumerics h.matrix kind).symm
  · intro r
    rw [PerProcess.get_ofFn, PerProcess.get_map]
    cases ((h.matrix.perform machineNumerics (.norm kind)).get r).result with
    | error failure => rfl
    | ok answer => rfl
  · intro r
    rw [PerProcess.get_map]

theorem take_performs (hroom : h.matrix.layout.Roomy) {q : MatrixTurn n} (hq : q.Enters) :
    exists next, (q.take s name).Performs s name h.matrix (q.call h.precision) q.write next := by
  have hcalls := fun obstacle hfree call =>
    Session.callWith_performs hlookup hcomplete obstacle hfree call q.write
  cases q with
  | assign x everywhere choice =>
      exact hcalls _ (assignObstacle_eq_none hroom hq choice) _
  | fill f choice =>
      exact hcalls (fun h => Session.fillObstacle choice h.matrix.layout)
        (fillObstacle_eq_none hroom choice) _
  | setElement writers i j value =>
      rcases hq with ⟨x, hx⟩
      exact setElement_performs hlookup hcomplete hx writers i j
  | copyTo everywhere exact => exact hcalls _ (copyObstacle_eq_none hroom everywhere) _
  | condition value =>
      rcases hq with ⟨x, hx⟩
      exact hcalls _ (conditionObstacle_eq_none hroom hx rfl) _
  | eigen vectors => exact eigen_performs hlookup hcomplete vectors
  | norm kind save => exact norm_performs hlookup hcomplete kind save
  | setProperty choice => exact hcalls _ (fun _ => rfl) _
  | cholesky => exact hcalls _ (fun _ => rfl) _
  | invert => exact hcalls _ (fun _ => rfl) _

end MatrixTurn

/-!
# Whole sessions
-/

namespace Session

def play (s : Session n) (name : String) (turns : List (MatrixTurn n)) : Session n :=
  turns.foldl (fun s q => (q.take s name).session) s

def calls (p : Precision) (turns : List (MatrixTurn n)) : List (Call n Entry Float Float) :=
  turns.map (MatrixTurn.call p)

variable {s : Session n} {name : String}

theorem changes_play {h : Held n} (hlookup : s.matrices.lookup name = some h)
    (hcomplete : h.Complete) (hroom : h.matrix.layout.Roomy) {turns : List (MatrixTurn n)}
    (hturns : forall q, q ∈ turns -> q.Enters) :
    exists last, s.Changes (s.play name turns) name last ∧
      last.matrix = h.matrix.run machineNumerics (calls h.precision turns) := by
  induction turns generalizing s h with
  | nil => exact ⟨h, ⟨hlookup, hcomplete, fun _ _ => rfl, rfl, rfl⟩, rfl⟩
  | cons q rest ih =>
      rcases MatrixTurn.take_performs hlookup hcomplete hroom (hturns q List.mem_cons_self) with
        ⟨next, hsession, hmatrix, _, _⟩
      have hlayout : next.matrix.layout = h.matrix.layout := by
        rw [hmatrix]
        rfl
      have hprecision : next.precision = h.precision := congrArg Layout.precision hlayout
      rw [← hlayout] at hroom
      rcases ih hsession.kept hsession.complete hroom
        fun later hlater => hturns later (List.mem_cons_of_mem q hlater) with
        ⟨last, hlast, hrun⟩
      refine ⟨last, ?_, ?_⟩
      · exact
          { kept := hlast.kept
            complete := hlast.complete
            others := fun other hother =>
              (hlast.others other hother).trans (hsession.others other hother)
            settings := hlast.settings.trans hsession.settings
            grids := hlast.grids.trans hsession.grids }
      · rw [hrun, hmatrix, hprecision]
        rfl

theorem blankOn_everywhere (l : Layout n) (property : Property) :
    .blankOn (Vector.ofFn fun _ => true) l property = DistributedMatrix.blank l property := by
  unfold DistributedMatrix.blankOn DistributedMatrix.blank
  simp only [PerProcess.get_ofFn, if_true]

/-- Where every process has room, a request that makes a matrix makes it on all of them. -/
theorem createMatrix_changes {grid : String} {g : Grid n}
    (hgrid : s.grids.lookup grid = some g) {shape : Argument} {q : MatrixRequest}
    {made : Created n Float} (hmade : q.create s.settings g shape = .ok made)
    (hroom : made.matrix.layout.Roomy) (name : String) :
    s.Changes (s.createMatrix name grid shape q).session name made.held := by
  rcases MatrixRequest.outline_of_create hmade with ⟨property, houtline, hbackend, hblank⟩
  have hany : (Vector.ofFn fun _ => true : PerProcess n Bool).any id = true := by
    have hn : 0 < n := Nat.lt_of_lt_of_le (Nat.mul_pos g.rows_pos g.cols_pos) g.fits
    exact Vector.any_eq_true.mpr ⟨0, hn, by rw [Vector.getElem_ofFn]; rfl⟩
  unfold createMatrix withGrid
  rw [hgrid]
  simp only [houtline, hbackend, hroom.blocks, Vector.map_ofFn]
  change s.Changes (if (Vector.ofFn fun _ => true).any id = true then Turn.quiet (s.keep name
    ⟨.blankOn (Vector.ofFn fun _ => true) made.matrix.layout property, made.backend, none,
      Vector.ofFn fun _ => true⟩) _ else _).session name made.held
  rw [if_pos hany, blankOn_everywhere, ← hblank]
  exact changes_keep fun r => PerProcess.get_ofFn _ _

/-- Turns are calls: after any turns with a matrix that a session has made, one more turn is a
call on what a run of their calls makes of the matrix. -/
theorem turn_is_call {grid : String} {g : Grid n} (hgrid : s.grids.lookup grid = some g)
    {shape : Argument} {q : MatrixRequest} {made : Created n Float}
    (hmade : q.create s.settings g shape = .ok made) (hroom : made.matrix.layout.Roomy)
    (name : String) {before : List (MatrixTurn n)} (hbefore : forall t, t ∈ before -> t.Enters)
    {t : MatrixTurn n} (ht : t.Enters) :
    let reached := (s.createMatrix name grid shape q).session.play name before
    let p := made.matrix.layout.precision
    exists next, (t.take reached name).Performs reached name
      (made.matrix.run machineNumerics (calls p before)) (t.call p) t.write next := by
  intro reached p
  have hmake := createMatrix_changes hgrid hmade hroom name
  rcases changes_play hmake.kept hmake.complete hroom hbefore with ⟨last, hreached, hrun⟩
  have hlayout : last.matrix.layout = made.matrix.layout := by
    rw [hrun]
    exact DistributedMatrix.layout_run made.matrix _
  have hprecision : last.precision = p := congrArg Layout.precision hlayout
  have hroomy : last.matrix.layout.Roomy := by
    rw [hlayout]
    exact hroom
  rcases MatrixTurn.take_performs hreached.kept hreached.complete hroomy ht with ⟨next, hnext⟩
  rw [hrun, hprecision] at hnext
  exact ⟨next, hnext⟩

end Session

end BlockCyclic
