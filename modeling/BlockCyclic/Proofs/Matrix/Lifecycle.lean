import BlockCyclic.Proofs.Matrix.Atomicity

/-!
# States and properties over a whole life

A process takes its content to be in a state, and to have a property; beside these it
remembers the property of content that will be loaded anew. What a successful call makes
of the three is one relation, which every call is shown to follow once. The edges between
states, the squareness behind most of them and the law of what is restored are read off
that relation, and carried through programs by induction.
-/

namespace BlockCyclic

variable {n : Nat} {delta alpha rho beta gamma : Type}

/-!
# The relation
-/

namespace Call

/-- The property that comes with content, if the call loads content. -/
def loaded? : Call n delta alpha rho -> Option PropertyChoice
  | .assign _ choice => some choice
  | .fill _ choice => some choice
  | _ => none

def Keeps : Call n delta alpha rho -> Prop
  | .setElement .. => True
  | .copyTo _ => True
  | .condition _ => True
  | .norm _ => True
  | _ => False

/-- What a call that succeeds makes of a state, a property and a remembered property. -/
inductive Turns (l : Layout n) :
    Call n delta alpha rho -> State × Property × Property -> State × Property × Property ->
      Prop
  | name {property : Property} (hallowed : l.Allows property)
      (state : State) (present fresh : Property) :
      Turns l (.setProperty (.given property)) (state, present, fresh)
        (state, property, property)
  | load {call : Call n delta alpha rho} (hload : call.loaded? = some .unspecified)
      (state : State) (present fresh : Property) :
      Turns l call (state, present, fresh) (.matrix, fresh, fresh)
  | loadAs {call : Call n delta alpha rho} {property : Property}
      (hload : call.loaded? = some (.given property)) (hallowed : l.Allows property)
      (state : State) (present fresh : Property) :
      Turns l call (state, present, fresh) (.matrix, property, property)
  | keep {call : Call n delta alpha rho} (hkeeps : call.Keeps)
      (meaning : State × Property × Property) :
      Turns l call meaning meaning
  | factor (fresh : Property) :
      Turns l .cholesky (.matrix, .symmetric, fresh) (.cholesky, .lowerTriangular, fresh)
  | invert (present fresh : Property) :
      Turns l .invert (.cholesky, present, fresh) (.inverse, .symmetric, fresh)
  | eigenvalues (fresh : Property) :
      Turns l (.eigen false) (.matrix, .symmetric, fresh) (.eigenvalues, .symmetric, fresh)
  | eigenvectors (fresh : Property) :
      Turns l (.eigen true) (.matrix, .symmetric, fresh) (.eigenvectors, .general, fresh)

end Call

/-- A failure leaves the meaning of a part alone, and a result comes with a turn of it. -/
def Reply.Turned (turn : State × Property × Property -> Prop) (p : Part alpha)
    (reply : Reply alpha beta) : Prop :=
  match reply.result with
  | .ok _ => turn reply.part.meaning
  | .error _ => reply.part.meaning = p.meaning

namespace Reply

variable {turn : State × Property × Property -> Prop} {p : Part alpha}

theorem turned_refuse (failure : Failure) : (refuse p failure : Reply alpha beta).Turned turn p :=
  rfl

theorem turned_guarded {refusal : Except Failure Unit} {reply : Reply alpha beta}
    (h : refusal = .ok () -> reply.Turned turn p) : (guarded p refusal reply).Turned turn p := by
  unfold guarded
  cases hrefusal : refusal with
  | ok _ => exact h hrefusal
  | error failure => exact turned_refuse failure

theorem turned_map {reply : Reply alpha beta} (h : reply.Turned turn p) (f : beta -> gamma) :
    (reply.map f).Turned turn p := by
  unfold Turned map at *
  cases hresult : reply.result with
  | ok x =>
      rw [hresult] at h
      exact h
  | error failure =>
      rw [hresult] at h
      exact h

theorem turned_mapped {replies : Replies n alpha beta} {r : Fin n}
    (h : (replies.get r).Turned turn p) (f : beta -> gamma) :
    ((replies.map (Reply.map f)).get r).Turned turn p := by
  rw [PerProcess.get_map]
  exact turned_map h f

end Reply

/-!
# One call
-/

theorem Part.meaning_of_requireSymmetric {p : Part alpha} {operation : Operation}
    (h : p.requireSymmetric operation = .ok ()) (hstates : operation.states = [.matrix]) :
    p.meaning = (.matrix, .symmetric, p.freshProperty) := by
  have hproperty := symmetric_of_requireSymmetric h
  rcases Except.bind_eq_ok.mp h with ⟨_, hallowed, _⟩
  have hstate := state_of_requireState hallowed
  rw [hstates] at hstate
  unfold meaning
  rw [List.mem_singleton.mp hstate, hproperty]

theorem Part.meaning_of_requireState {p : Part alpha} {operation : Operation}
    (h : p.requireState operation = .ok ()) (hstates : operation.states = [.cholesky]) :
    p.meaning = (.cholesky, p.property, p.freshProperty) := by
  unfold meaning
  rw [cholesky_of_requireState h hstates]

namespace DistributedMatrix

section

variable {a : DistributedMatrix n alpha} {r : Fin n}

theorem turned_loaded {call : Call n delta alpha rho} {choice : PropertyChoice}
    {property : Option Property} (hload : call.loaded? = some choice)
    (hchosen : a.layout.propertyFrom choice = .ok property) (block : Dense alpha)
    (log : List Event) :
    (a.loaded r block property log).Turned (call.Turns a.layout (a.part r).meaning)
      (a.part r) := by
  rcases Layout.given_of_propertyFrom hchosen with
    ⟨rfl, rfl⟩ | ⟨named, rfl, rfl, hallowed⟩
  · exact Call.Turns.load hload _ _ _
  · exact Call.Turns.loadAs hload hallowed _ _ _

/-- A kernel that fails may have written to the block, but not to what it means. -/
theorem turned_failed {turn : State × Property × Property -> Prop} (block : Dense alpha)
    (routine : String) (status : Int) (log : List Event) :
    (a.failed r block routine status log : Reply alpha beta).Turned turn (a.part r) :=
  rfl

end

section

variable {a : DistributedMatrix n alpha} {r : Fin n}

theorem turned_setProperty (choice : PropertyChoice) :
    ((a.setProperty choice).get r).Turned
      ((.setProperty choice : Call n delta alpha rho).Turns a.layout (a.part r).meaning)
      (a.part r) := by
  unfold setProperty setPropertyOn
  rw [PerProcess.get_ofFn]
  cases hchosen : a.layout.demandProperty choice with
  | error failure => exact Reply.turned_refuse failure
  | ok property =>
      rcases Layout.given_of_demandProperty hchosen with ⟨rfl, hallowed⟩
      exact Call.Turns.name hallowed _ _ _

variable [Zero alpha] {numerics : Numerics delta alpha rho}

theorem turned_assign (x : PerProcess n (Option (Sheet delta))) (choice : PropertyChoice) :
    ((a.assign numerics x choice).get r).Turned
      ((.assign x choice : Call n delta alpha rho).Turns a.layout (a.part r).meaning)
      (a.part r) := by
  unfold assign
  simp only [PerProcess.get_ofFn]
  cases hchosen : a.layout.propertyFrom choice with
  | error failure => exact Reply.turned_refuse failure
  | ok property =>
      cases (a.verdicts x).get r with
      | true => exact turned_loaded rfl hchosen _ _
      | false => exact Reply.turned_refuse _

theorem turned_fill (f : Region -> Except Failure (Sheet delta)) (choice : PropertyChoice) :
    ((a.fill numerics f choice).get r).Turned
      ((.fill f choice : Call n delta alpha rho).Turns a.layout (a.part r).meaning)
      (a.part r) := by
  unfold fill fillOn
  rw [PerProcess.get_ofFn]
  cases hchosen : a.layout.propertyFrom choice with
  | error failure => exact Reply.turned_refuse failure
  | ok property =>
      cases a.evaluated numerics f r with
      | error failure => exact Reply.turned_refuse failure
      | ok block => exact turned_loaded rfl hchosen block []

theorem turned_setElement {call : Call n delta alpha rho} (hcall : call.Keeps)
    (i j : Subscript) (value : alpha) :
    (a.setElement r i j value).Turned (call.Turns a.layout (a.part r).meaning)
      (a.part r) := by
  unfold setElement
  simp only
  cases a.selection r i j with
  | ok s => exact Call.Turns.keep hcall _
  | error failure => exact Reply.turned_refuse failure

theorem turned_copyTo {call : Call n delta alpha rho} (hcall : call.Keeps)
    (everywhere : Bool) :
    ((a.copyTo everywhere).get r).Turned (call.Turns a.layout (a.part r).meaning)
      (a.part r) := by
  unfold copyTo
  rw [PerProcess.get_ofFn]
  apply Reply.turned_guarded
  intro _
  exact Call.Turns.keep hcall _

theorem turned_cholesky :
    ((a.cholesky numerics).get r).Turned
      ((.cholesky : Call n delta alpha rho).Turns a.layout (a.part r).meaning)
      (a.part r) := by
  unfold cholesky
  rw [PerProcess.get_ofFn]
  apply Reply.turned_guarded
  intro hallowed
  rw [Part.meaning_of_requireSymmetric hallowed rfl]
  split
  next => exact turned_failed _ _ _ _
  next => exact Call.Turns.factor _

theorem turned_invert :
    ((a.invert numerics).get r).Turned
      ((.invert : Call n delta alpha rho).Turns a.layout (a.part r).meaning)
      (a.part r) := by
  unfold invert
  rw [PerProcess.get_ofFn]
  apply Reply.turned_guarded
  intro hallowed
  rw [Part.meaning_of_requireState hallowed rfl]
  split
  next => exact turned_failed _ _ _ _
  next =>
    split
    next => exact turned_failed _ _ _ _
    next => exact Call.Turns.invert _ _

theorem turned_eigen (vectors : Bool) :
    ((a.eigen numerics vectors).get r).Turned
      ((.eigen vectors : Call n delta alpha rho).Turns a.layout (a.part r).meaning)
      (a.part r) := by
  unfold eigen
  rw [PerProcess.get_ofFn]
  apply Reply.turned_guarded
  intro hallowed
  have hmeaning := Part.meaning_of_requireSymmetric hallowed rfl
  have hproperty : (a.part r).property = .symmetric := congrArg (fun m => m.2.1) hmeaning
  rw [hmeaning]
  split
  next => exact turned_failed _ _ _ _
  next =>
    cases vectors with
    | true => exact Call.Turns.eigenvectors _
    | false =>
        unfold Reply.Turned solvedPart Part.meaning
        simp only [Bool.false_eq_true, if_false]
        rw [hproperty]
        exact Call.Turns.eigenvalues _

theorem turned_condition [Zero rho] [Measure rho] {call : Call n delta alpha rho}
    (hcall : call.Keeps) (norm : PerProcess n rho) :
    ((a.condition numerics norm).get r).Turned (call.Turns a.layout (a.part r).meaning)
      (a.part r) := by
  unfold condition
  rw [PerProcess.get_ofFn]
  apply Reply.turned_guarded
  intro _
  split
  next => exact turned_failed _ _ _ _
  next => exact Call.Turns.keep hcall _

theorem turned_norm {call : Call n delta alpha rho} (hcall : call.Keeps)
    (kind : NormKind) :
    ((a.norm numerics kind).get r).Turned (call.Turns a.layout (a.part r).meaning)
      (a.part r) := by
  unfold norm
  rw [PerProcess.get_ofFn]
  apply Reply.turned_guarded
  intro _
  exact Call.Turns.keep hcall _

end

variable [Zero alpha] [Zero rho] [Measure rho] (numerics : Numerics delta alpha rho)
  (a : DistributedMatrix n alpha)

theorem turned_perform (call : Call n delta alpha rho) (r : Fin n) :
    ((a.perform numerics call).get r).Turned (call.Turns a.layout (a.part r).meaning)
      (a.part r) := by
  cases call with
  | setProperty choice => exact Reply.turned_mapped (turned_setProperty choice) _
  | assign x choice => exact Reply.turned_mapped (turned_assign x choice) _
  | fill f choice => exact Reply.turned_mapped (turned_fill f choice) _
  | setElement writers i j value =>
      unfold perform
      simp only
      rw [PerProcess.get_ofFn]
      cases writers r with
      | true =>
          apply Reply.turned_map
          apply turned_setElement
          trivial
      | false =>
          apply Call.Turns.keep
          trivial
  | copyTo everywhere =>
      apply Reply.turned_mapped
      apply turned_copyTo
      trivial
  | cholesky => exact Reply.turned_mapped turned_cholesky _
  | invert => exact Reply.turned_mapped turned_invert _
  | eigen vectors => exact Reply.turned_mapped (turned_eigen vectors) _
  | condition norm =>
      apply Reply.turned_mapped
      apply turned_condition
      trivial
  | norm kind =>
      apply Reply.turned_mapped
      apply turned_norm
      trivial

theorem turns_of_ok {call : Call n delta alpha rho} {r : Fin n} {answer : Answer alpha rho}
    (h : ((a.perform numerics call).get r).result = .ok answer) :
    call.Turns a.layout (a.part r).meaning ((a.next numerics call).part r).meaning := by
  have hturned := turned_perform numerics a call r
  unfold Reply.Turned at hturned
  rw [h] at hturned
  rw [part_next]
  exact hturned

theorem meaning_of_error {call : Call n delta alpha rho} {r : Fin n} {failure : Failure}
    (h : ((a.perform numerics call).get r).result = .error failure) :
    ((a.next numerics call).part r).meaning = (a.part r).meaning := by
  have hturned := turned_perform numerics a call r
  unfold Reply.Turned at hturned
  rw [h] at hturned
  rw [part_next]
  exact hturned

end DistributedMatrix

/-!
# Edges between states
-/

namespace Call

inductive Edge : Call n delta alpha rho -> State -> State -> Prop
  | assign (x : PerProcess n (Option (Sheet delta))) (choice : PropertyChoice)
      (source : State) : Edge (.assign x choice) source .matrix
  | fill (f : Region -> Except Failure (Sheet delta)) (choice : PropertyChoice)
      (source : State) : Edge (.fill f choice) source .matrix
  | factor : Edge .cholesky .matrix .cholesky
  | invert : Edge .invert .cholesky .inverse
  | eigenvalues : Edge (.eigen false) .matrix .eigenvalues
  | eigenvectors : Edge (.eigen true) .matrix .eigenvectors

variable {l : Layout n} {call : Call n delta alpha rho}
  {m m' : State × Property × Property}

theorem edge_of_loaded {choice : PropertyChoice} (h : call.loaded? = some choice)
    (source : State) : call.Edge source .matrix := by
  cases call with
  | assign x choice => exact Edge.assign x choice source
  | fill f choice => exact Edge.fill f choice source
  | setProperty choice => cases h
  | setElement writers i j value => cases h
  | copyTo everywhere => cases h
  | cholesky => cases h
  | invert => cases h
  | eigen vectors => cases h
  | condition norm => cases h
  | norm kind => cases h

theorem not_edge_of_keeps (h : call.Keeps) (source target : State) :
    ¬ call.Edge source target := by
  intro hedge
  cases hedge <;> exact h

/-- A turn takes an edge, unless the call has none. -/
theorem Turns.edge (h : call.Turns l m m') :
    call.Edge m.1 m'.1 ∨ (m'.1 = m.1 ∧ forall source target, ¬ call.Edge source target) := by
  cases h with
  | name hallowed state present fresh =>
      refine Or.inr ⟨rfl, ?_⟩
      intro source target hedge
      cases hedge
  | load hload state present fresh => exact Or.inl (edge_of_loaded hload state)
  | loadAs hload hallowed state present fresh => exact Or.inl (edge_of_loaded hload state)
  | keep hkeeps meaning => exact Or.inr ⟨rfl, not_edge_of_keeps hkeeps⟩
  | factor fresh => exact Or.inl Edge.factor
  | invert present fresh => exact Or.inl Edge.invert
  | eigenvalues fresh => exact Or.inl Edge.eigenvalues
  | eigenvectors fresh => exact Or.inl Edge.eigenvectors

end Call

/-!
# Square matrices
-/

def State.Solved (s : State) : Prop :=
  s = .cholesky ∨ s = .inverse ∨ s = .eigenvalues ∨ s = .eigenvectors

theorem State.not_solved_uninitialized : ¬ uninitialized.Solved := by
  unfold Solved
  decide

theorem State.not_solved_matrix : ¬ matrix.Solved := by
  unfold Solved
  decide

/-- The properties suit the shape, and what only symmetric matrices come to needs a square. -/
structure Layout.Suits (l : Layout n) (m : State × Property × Property) : Prop where
  present : l.Allows m.2.1
  fresh : l.Allows m.2.2
  solved : m.1.Solved -> l.rows = l.cols

/--
The inverse is called symmetric without a check: only a factor is inverted, and a factor is
square because the matrix that it comes from was symmetric.
-/
theorem Call.Turns.suits {l : Layout n} {call : Call n delta alpha rho}
    {m m' : State × Property × Property} (h : call.Turns l m m') (hm : l.Suits m) :
    l.Suits m' := by
  cases h with
  | name hallowed state present fresh => exact ⟨hallowed, hallowed, hm.solved⟩
  | load hload state present fresh =>
      exact ⟨hm.fresh, hm.fresh, fun hstate => absurd hstate State.not_solved_matrix⟩
  | loadAs hload hallowed state present fresh =>
      exact ⟨hallowed, hallowed, fun hstate => absurd hstate State.not_solved_matrix⟩
  | keep hkeeps meaning => exact hm
  | factor fresh =>
      have hsquare : l.rows = l.cols := hm.present rfl
      exact ⟨fun _ => hsquare, hm.fresh, fun _ => hsquare⟩
  | invert present fresh =>
      have hsquare : l.rows = l.cols := hm.solved (Or.inl rfl)
      exact ⟨fun _ => hsquare, hm.fresh, fun _ => hsquare⟩
  | eigenvalues fresh =>
      have hsquare : l.rows = l.cols := hm.present rfl
      exact ⟨fun _ => hsquare, hm.fresh, fun _ => hsquare⟩
  | eigenvectors fresh =>
      have hsquare : l.rows = l.cols := hm.present rfl
      exact ⟨fun _ => hsquare, hm.fresh, fun _ => hsquare⟩

/-!
# Properties that were given
-/

def PropertyChoice.given? : PropertyChoice -> Option Property
  | .given property => some property
  | _ => none

def Call.given? : Call n delta alpha rho -> Option Property
  | .setProperty choice => choice.given?
  | .assign _ choice => choice.given?
  | .fill _ choice => choice.given?
  | _ => none

namespace Call

variable {l : Layout n} {call : Call n delta alpha rho}
  {m m' : State × Property × Property}

theorem given?_of_loaded {choice : PropertyChoice} (h : call.loaded? = some choice) :
    call.given? = choice.given? := by
  cases call with
  | assign x own =>
      cases h
      rfl
  | fill f own =>
      cases h
      rfl
  | setProperty own => cases h
  | setElement writers i j value => cases h
  | copyTo everywhere => cases h
  | cholesky => cases h
  | invert => cases h
  | eigen vectors => cases h
  | condition norm => cases h
  | norm kind => cases h

theorem given?_of_keeps (h : call.Keeps) : call.given? = none := by
  cases call with
  | setElement writers i j value => rfl
  | copyTo everywhere => rfl
  | condition norm => rfl
  | norm kind => rfl
  | setProperty own => cases h
  | assign x own => cases h
  | fill f own => cases h
  | cholesky => cases h
  | invert => cases h
  | eigen vectors => cases h

/-- Only a call that names a property changes the remembered one. -/
theorem Turns.fresh (h : call.Turns l m m') : m'.2.2 = call.given?.getD m.2.2 := by
  cases h with
  | name hallowed state present fresh => rfl
  | load hload state present fresh =>
      rw [given?_of_loaded hload]
      rfl
  | loadAs hload hallowed state present fresh =>
      rw [given?_of_loaded hload]
      rfl
  | keep hkeeps meaning =>
      rw [given?_of_keeps hkeeps]
      rfl
  | factor fresh => rfl
  | invert present fresh => rfl
  | eigenvalues fresh => rfl
  | eigenvectors fresh => rfl

/-- Content that is loaded without a property takes the remembered one. -/
theorem Turns.restored (h : call.Turns l m m') (hload : call.loaded? = some .unspecified) :
    m'.2.1 = m.2.2 := by
  cases h with
  | name hallowed state present fresh => cases hload
  | load hload state present fresh => rfl
  | loadAs hother hallowed state present fresh =>
      rw [hload] at hother
      cases hother
  | keep hkeeps meaning =>
      cases call with
      | assign x own => cases hkeeps
      | fill f own => cases hkeeps
      | setElement writers i j value => cases hload
      | copyTo everywhere => cases hload
      | condition norm => cases hload
      | norm kind => cases hload
      | setProperty own => cases hload
      | cholesky => cases hload
      | invert => cases hload
      | eigen vectors => cases hload
  | factor fresh => cases hload
  | invert present fresh => cases hload
  | eigenvalues fresh => cases hload
  | eigenvectors fresh => cases hload

end Call

namespace DistributedMatrix

variable [Zero alpha] [Zero rho] [Measure rho] (numerics : Numerics delta alpha rho)

/-- The property that a call gives a process; a call that fails gives none. -/
def given? (a : DistributedMatrix n alpha) (call : Call n delta alpha rho) (r : Fin n) :
    Option Property :=
  match ((a.perform numerics call).get r).result with
  | .ok _ => call.given?
  | .error _ => none

/-- The properties that a program gives a process, the most recent one last. -/
def given (r : Fin n) :
    DistributedMatrix n alpha -> List (Call n delta alpha rho) -> List Property
  | _, [] => []
  | a, call :: rest => (a.given? numerics call r).toList ++ given r (a.next numerics call) rest

theorem given_cons (a : DistributedMatrix n alpha) (call : Call n delta alpha rho)
    (rest : List (Call n delta alpha rho)) (r : Fin n) :
    given numerics r a (call :: rest) =
      (a.given? numerics call r).toList ++ given numerics r (a.next numerics call) rest :=
  rfl

theorem given?_of_none (a : DistributedMatrix n alpha) {call : Call n delta alpha rho}
    (hcall : call.given? = none) (r : Fin n) : a.given? numerics call r = none := by
  unfold given?
  cases ((a.perform numerics call).get r).result with
  | ok answer => exact hcall
  | error failure => rfl

theorem fresh_next (a : DistributedMatrix n alpha) (call : Call n delta alpha rho)
    (r : Fin n) :
    ((a.next numerics call).part r).freshProperty =
      (a.given? numerics call r).getD (a.part r).freshProperty := by
  unfold given?
  cases hresult : ((a.perform numerics call).get r).result with
  | ok answer => exact (turns_of_ok numerics a hresult).fresh
  | error failure => exact Part.freshProperty_eq (meaning_of_error numerics a hresult)

theorem fresh_run (a : DistributedMatrix n alpha) (program : List (Call n delta alpha rho))
    (r : Fin n) :
    ((a.run numerics program).part r).freshProperty =
      (given numerics r a program).getLastD (a.part r).freshProperty := by
  induction program generalizing a with
  | nil => rfl
  | cons call rest ih =>
      rw [run_cons, ih, fresh_next, given_cons]
      cases a.given? numerics call r with
      | none => rfl
      | some property => exact List.getLastD_cons.symm

theorem suits_next {a : DistributedMatrix n alpha} {r : Fin n}
    (h : a.layout.Suits (a.part r).meaning) (call : Call n delta alpha rho) :
    a.layout.Suits ((a.next numerics call).part r).meaning := by
  cases hresult : ((a.perform numerics call).get r).result with
  | ok answer => exact (turns_of_ok numerics a hresult).suits h
  | error failure =>
      rw [meaning_of_error numerics a hresult]
      exact h

theorem suits_run {a : DistributedMatrix n alpha} {r : Fin n}
    (h : a.layout.Suits (a.part r).meaning) (program : List (Call n delta alpha rho)) :
    a.layout.Suits ((a.run numerics program).part r).meaning := by
  induction program generalizing a with
  | nil => exact h
  | cons call rest ih => exact ih (a := a.next numerics call) (suits_next numerics h call)

theorem meaning_blank (l : Layout n) (property : Property) (r : Fin n) :
    ((blank l property : DistributedMatrix n alpha).part r).meaning =
      (.uninitialized, property, property) := by
  unfold part blank
  rw [PerProcess.get_ofFn]
  rfl

/-- Whatever is done to a matrix, its states and properties suit its shape. -/
theorem suits_program {q : MatrixRequest} {settings : Settings} {grid : Grid n}
    {shape : Argument} {made : Created n alpha}
    (hmade : q.create settings grid shape = .ok made)
    (program : List (Call n delta alpha rho)) (r : Fin n) :
    (made.matrix.run numerics program).layout.Suits
      ((made.matrix.run numerics program).part r).meaning := by
  rcases MatrixRequest.granted_of_create hmade with ⟨_, initial, _, hallowed, hblank⟩
  have hfirst : made.matrix.layout.Suits (made.matrix.part r).meaning := by
    rw [hblank, meaning_blank]
    exact ⟨hallowed, hallowed, fun hstate => absurd hstate State.not_solved_uninitialized⟩
  rw [layout_run]
  exact suits_run numerics hfirst program

/--
After any program, on any process: every change of state takes an edge of a call that
succeeds, and a call that fails changes no meaning; what only symmetric matrices come to,
and the property itself, needs a square matrix; and content that is loaded without a
property has the one given last, at the construction or by a call that succeeded.
-/
theorem lifecycle {q : MatrixRequest} {settings : Settings} {grid : Grid n}
    {shape : Argument} {made : Created n alpha}
    (hmade : q.create settings grid shape = .ok made)
    (program : List (Call n delta alpha rho)) (r : Fin n) :
    let a := made.matrix.run numerics program
    let state := (a.part r).state
    let result := fun call => ((a.perform numerics call).get r).result
    let later := fun call => (a.next numerics call).part r
    (forall call : Call n delta alpha rho,
      ((later call).state ≠ state ->
        (exists answer, result call = .ok answer) ∧ call.Edge state (later call).state) ∧
      (forall answer, result call = .ok answer ->
        forall source target, call.Edge source target ->
          call.Edge state (later call).state) ∧
      (forall failure, result call = .error failure ->
        (later call).meaning = (a.part r).meaning)) ∧
    (state = .cholesky ∨ state = .inverse ∨ state = .eigenvalues ∨ state = .eigenvectors ->
      a.layout.rows = a.layout.cols) ∧
    ((a.part r).property = .symmetric ∨ (a.part r).freshProperty = .symmetric ->
      a.layout.rows = a.layout.cols) ∧
    (exists initial, MatrixRequest.initialProperty shape q.property = .given initial ∧
      forall (call : Call n delta alpha rho) (answer : Answer alpha rho),
        call.loaded? = some .unspecified -> result call = .ok answer ->
          (later call).property =
            (given numerics r made.matrix program).getLastD initial) := by
  intro a state result later
  rcases MatrixRequest.granted_of_create hmade with ⟨_, initial, hinitial, _, hblank⟩
  have hstart : (made.matrix.part r).meaning = (.uninitialized, initial, initial) := by
    rw [hblank]
    exact meaning_blank _ initial r
  have hsuits : a.layout.Suits (a.part r).meaning := suits_program numerics hmade program r
  refine ⟨?_, hsuits.solved, ?_, initial, hinitial, ?_⟩
  · intro call
    refine ⟨?_, ?_, fun failure => meaning_of_error numerics a⟩
    · intro hchange
      cases hresult : result call with
      | error failure =>
          exact absurd (Part.state_eq (meaning_of_error numerics a hresult)) hchange
      | ok answer =>
          refine ⟨⟨answer, rfl⟩, ?_⟩
          rcases (turns_of_ok numerics a hresult).edge with hedge | ⟨hsame, _⟩
          · exact hedge
          · exact absurd hsame hchange
    · intro answer hresult source target hpossible
      rcases (turns_of_ok numerics a hresult).edge with hedge | ⟨_, hnone⟩
      · exact hedge
      · exact absurd hpossible (hnone source target)
  · intro hgiven
    rcases hgiven with hpresent | hfresh
    · exact hsuits.present hpresent
    · exact hsuits.fresh hfresh
  · intro call answer hload hresult
    have hfresh : (made.matrix.part r).freshProperty = initial :=
      congrArg (fun m => m.2.2) hstart
    calc
      (later call).property = (a.part r).freshProperty :=
        (turns_of_ok numerics a hresult).restored hload
      _ = (given numerics r made.matrix program).getLastD initial := by
        rw [← hfresh]
        exact fresh_run numerics made.matrix program r

/-- A matrix is factored and loaded anew as what it was called last; one process is left out. -/
theorem lifecycle_loaded_anew :
    let grid : Grid 2 := ⟨1, 1, by decide, by decide, by decide, fun _ => 0, false⟩
    let q : MatrixRequest := ⟨.whole 1, .absent, .given .general, .absent⟩
    let made : Created 2 Int :=
      ⟨.blank ⟨grid, 1, 1, 1, 1, .double, by decide, by decide, by decide, by decide⟩ .general,
        .serialOnRoot⟩
    let x : Sheet Int := ⟨[1, 1], .ofPrecision .double, #[4]⟩
    let load : PropertyChoice -> Call 2 Int Int Int := fun choice =>
      .assign (Vector.ofFn fun r => if r.val = 0 then some x else none) choice
    let a := made.matrix.run exactNumerics
      [load (.given .symmetric), .setProperty .unknown, .cholesky]
    let b := a.next exactNumerics (load .unspecified)
    q.create .standard grid (.whole 1) = .ok made ∧
      (load .unspecified).Edge (a.part 1).state (b.part 1).state ∧
      (b.part 1).property = .symmetric := by
  intro grid q made x load a b
  have hmade : q.create .standard grid (.whole 1) = .ok made := rfl
  have hgiven : given exactNumerics 1 made.matrix
      [load (.given .symmetric), .setProperty .unknown, .cholesky] = [.symmetric] := by
    have hfirst : made.matrix.given? exactNumerics (load (.given .symmetric)) 1 =
        some .symmetric := by decide +kernel
    rw [given_cons, given_cons, given_cons, hfirst, given?_of_none exactNumerics _ rfl,
      given?_of_none exactNumerics _ rfl]
    rfl
  have hdone : ((a.perform exactNumerics (load .unspecified)).get 1).result.isOk = true := by
    decide +kernel
  rcases lifecycle exactNumerics hmade
    [load (.given .symmetric), .setProperty .unknown, .cholesky] 1 with
    ⟨hedges, _, _, initial, _, hrestored⟩
  cases hresult : ((a.perform exactNumerics (load .unspecified)).get 1).result with
  | error failure =>
      rw [hresult] at hdone
      cases hdone
  | ok answer =>
      have hedge := (hedges (load .unspecified)).2.1 answer hresult _ _
        (Call.Edge.assign _ _ .matrix)
      have hproperty := hrestored (load .unspecified) answer rfl hresult
      rw [hgiven] at hproperty
      exact ⟨hmade, hedge, hproperty⟩

end DistributedMatrix
end BlockCyclic
