import BlockCyclic.Proofs.Matrix.Atomicity

/-!
# All processes load, or none

Every process decides alone whether a function of the indices gives it content. No verdict
goes around, so that the processes load together only where the function serves all of them
alike: all of the grid, or none of it while nobody is left out, since a process that is left
out evaluates nothing and always loads.
-/

namespace BlockCyclic

variable {n : Nat} {delta alpha rho : Type}

namespace DistributedMatrix

def SuppliesOn [Zero alpha] (numerics : Numerics delta alpha rho) (l : Layout n)
    (f : Region -> Except Failure (Sheet delta)) (r : Fin n) : Prop :=
  exists values, f (l.indices r) = .ok values ∧
    (values.stretch? (numerics.enter l.precision) (l.localShape r).1
      (l.localShape r).2).isSome

/-- All processes load content of one property, or all fail and keep what they have. -/
def AllOrNothing (a : DistributedMatrix n alpha) (replies : Replies n alpha Unit) : Prop :=
  (exists property, forall r, (replies.get r).result = .ok () ∧
    (replies.get r).part.state = .matrix ∧ (replies.get r).part.property = property) ∨
  (forall r, (exists failure, (replies.get r).result = .error failure) ∧
    (replies.get r).part = a.part r)

end DistributedMatrix

/-- If the call evaluates a function, it serves the processes alike, unless the property fails. -/
def Call.Whole [Zero alpha] (numerics : Numerics delta alpha rho) (l : Layout n) :
    Call n delta alpha rho -> Prop
  | .fill f choice =>
      (exists failure, l.propertyFrom choice = .error failure) ∨
      DistributedMatrix.Supplies numerics l f ∨
      forall r, l.grid.active r = true ∧ ¬ DistributedMatrix.SuppliesOn numerics l f r
  | _ => True

namespace DistributedMatrix

variable [Zero alpha] {a : DistributedMatrix n alpha} {numerics : Numerics delta alpha rho}
  {f : Region -> Except Failure (Sheet delta)} {choice : PropertyChoice}

/-!
# One process
-/

theorem exists_evaluated_iff (r : Fin n) :
    (exists block, a.evaluated numerics f r = .ok block) ↔
      (a.layout.grid.active r = true -> SuppliesOn numerics a.layout f r) := by
  unfold evaluated SuppliesOn
  simp only
  cases hr : a.layout.grid.active r with
  | false =>
      constructor
      · intro _ hactive
        cases hactive
      · intro _
        exact ⟨_, rfl⟩
  | true =>
      cases hvalues : f (a.layout.indices r) with
      | error failure => simp [bind, Except.bind]
      | ok values =>
          cases hstretch : values.stretch? (numerics.enter a.layout.precision)
              (a.layout.localShape r).1 (a.layout.localShape r).2 with
          | none => simp [bind, Except.bind, hstretch]
          | some block => simp [bind, Except.bind, hstretch]

/-- A process loads if the property is granted and the function serves it, should it ask. -/
theorem result_fill_iff (r : Fin n) :
    ((a.fill numerics f choice).get r).result = .ok () ↔
      (exists property, a.layout.propertyFrom choice = .ok property) ∧
        (a.layout.grid.active r = true -> SuppliesOn numerics a.layout f r) := by
  rw [← exists_evaluated_iff]
  unfold fill fillOn
  rw [PerProcess.get_ofFn]
  cases a.layout.propertyFrom choice with
  | error failure => simp [Reply.refuse]
  | ok property =>
      cases a.evaluated numerics f r with
      | error failure => simp [Reply.refuse]
      | ok block => simp [loaded]

theorem part_fill {property : Option Property}
    (hproperty : a.layout.propertyFrom choice = .ok property) {r : Fin n}
    (h : ((a.fill numerics f choice).get r).result = .ok ()) :
    ((a.fill numerics f choice).get r).part.state = .matrix ∧
      ((a.fill numerics f choice).get r).part.property =
        property.getD (a.part r).freshProperty := by
  unfold fill fillOn at h ⊢
  rw [PerProcess.get_ofFn, hproperty] at h ⊢
  cases hblock : a.evaluated numerics f r with
  | error failure =>
      rw [hblock] at h
      cases h
  | ok block => exact ⟨rfl, rfl⟩

variable (numerics f choice) in
theorem loads_or_fails (r : Fin n) :
    ((a.fill numerics f choice).get r).result = .ok () ∨
      (exists failure, ((a.fill numerics f choice).get r).result = .error failure) ∧
        ((a.fill numerics f choice).get r).part = a.part r := by
  cases hresult : ((a.fill numerics f choice).get r).result with
  | ok _ => exact Or.inl rfl
  | error failure => exact Or.inr ⟨⟨failure, rfl⟩, atomic_fill f choice r failure hresult⟩

/-!
# All processes
-/

theorem nothing_of_refused {failure : Failure}
    (h : a.layout.propertyFrom choice = .error failure) (r : Fin n) :
    (exists failure, ((a.fill numerics f choice).get r).result = .error failure) ∧
      ((a.fill numerics f choice).get r).part = a.part r := by
  rcases loads_or_fails numerics f choice r with hok | hfails
  · rcases ((result_fill_iff r).mp hok).1 with ⟨property, hproperty⟩
    rw [h] at hproperty
    cases hproperty
  · exact hfails

theorem nothing_of_unsupplied {r : Fin n}
    (h : a.layout.grid.active r = true ∧ ¬ SuppliesOn numerics a.layout f r) :
    (exists failure, ((a.fill numerics f choice).get r).result = .error failure) ∧
      ((a.fill numerics f choice).get r).part = a.part r := by
  rcases loads_or_fails numerics f choice r with hok | hfails
  · exact absurd (((result_fill_iff r).mp hok).2 h.1) h.2
  · exact hfails

theorem all_of_supplies (hf : Supplies numerics a.layout f)
    (hfresh : choice = .unspecified ->
      forall r s, (a.part r).freshProperty = (a.part s).freshProperty)
    {property : Option Property} (hproperty : a.layout.propertyFrom choice = .ok property) :
    exists chosen, forall r, ((a.fill numerics f choice).get r).result = .ok () ∧
      ((a.fill numerics f choice).get r).part.state = .matrix ∧
      ((a.fill numerics f choice).get r).part.property = chosen := by
  have hok : forall r, ((a.fill numerics f choice).get r).result = .ok () :=
    fun r => (result_fill_iff r).mpr ⟨⟨property, hproperty⟩, hf r⟩
  -- The first process names the property, since all others load the same one.
  refine ⟨property.getD (a.part a.layout.grid.first).freshProperty, ?_⟩
  intro r
  rcases part_fill hproperty (hok r) with ⟨hstate, hchosen⟩
  refine ⟨hok r, hstate, hchosen.trans ?_⟩
  rcases Layout.given_of_propertyFrom hproperty with ⟨hopen, rfl⟩ | ⟨given, _, rfl, _⟩
  · exact hfresh hopen r _
  · rfl

theorem fresh_of_all {chosen : Property}
    (h : forall r, ((a.fill numerics f choice).get r).result = .ok () ∧
      ((a.fill numerics f choice).get r).part.state = .matrix ∧
      ((a.fill numerics f choice).get r).part.property = chosen)
    (hchoice : choice = .unspecified) (r s : Fin n) :
    (a.part r).freshProperty = (a.part s).freshProperty := by
  have hproperty : a.layout.propertyFrom choice = .ok none := by
    rw [hchoice]
    rfl
  have hown : forall r, (a.part r).freshProperty = chosen := by
    intro r
    rw [← (h r).2.2, (part_fill hproperty (h r).1).2]
    rfl
  rw [hown r, hown s]

/-- Only a function that serves the processes alike does not split them. -/
theorem allOrNothing_fill_iff :
    a.AllOrNothing (a.fill numerics f choice) ↔
      (exists failure, a.layout.propertyFrom choice = .error failure) ∨
      (Supplies numerics a.layout f ∧ (choice = .unspecified ->
        forall r s, (a.part r).freshProperty = (a.part s).freshProperty)) ∨
      (forall r, a.layout.grid.active r = true ∧ ¬ SuppliesOn numerics a.layout f r) := by
  constructor
  · rintro (⟨chosen, hall⟩ | hnothing)
    · have hsupplies : Supplies numerics a.layout f :=
        fun r => ((result_fill_iff r).mp (hall r).1).2
      exact Or.inr (Or.inl ⟨hsupplies, fresh_of_all hall⟩)
    · cases hproperty : a.layout.propertyFrom choice with
      | error failure => exact Or.inl ⟨failure, rfl⟩
      | ok property =>
          refine Or.inr (Or.inr fun r => ?_)
          rcases (hnothing r).1 with ⟨failure, hfailure⟩
          by_contra hserved
          have hok : ((a.fill numerics f choice).get r).result = .ok () :=
            (result_fill_iff r).mpr
              ⟨⟨property, hproperty⟩, fun hr => by_contra fun hnot => hserved ⟨hr, hnot⟩⟩
          rw [hfailure] at hok
          cases hok
  · rintro (⟨failure, hrefused⟩ | ⟨hsupplies, hfresh⟩ | hnone)
    · exact Or.inr (nothing_of_refused hrefused)
    · cases hproperty : a.layout.propertyFrom choice with
      | error failure => exact Or.inr (nothing_of_refused hproperty)
      | ok property => exact Or.inl (all_of_supplies hsupplies hfresh hproperty)
    · exact Or.inr fun r => nothing_of_unsupplied (hnone r)

theorem whole_fill_iff (ha : a.Agrees) :
    (Call.fill f choice : Call n delta alpha rho).Whole numerics a.layout ↔
      a.AllOrNothing (a.fill numerics f choice) := by
  rw [allOrNothing_fill_iff]
  constructor
  · rintro (hrefused | hsupplies | hnone)
    · exact Or.inl hrefused
    · exact Or.inr (Or.inl ⟨hsupplies, fun _ r s => Part.freshProperty_eq (ha r s)⟩)
    · exact Or.inr (Or.inr hnone)
  · rintro (hrefused | ⟨hsupplies, _⟩ | hnone)
    · exact Or.inl hrefused
    · exact Or.inr (Or.inl hsupplies)
    · exact Or.inr (Or.inr hnone)

/-!
# Histories
-/

section

variable [Zero rho] [Measure rho]

theorem next_fill_of_nothing
    (h : forall r, ((a.fill numerics f choice).get r).part = a.part r) :
    a.next numerics (.fill f choice) = a := by
  apply next_eq_of_parts
  intro r
  unfold perform
  rw [PerProcess.get_map]
  exact h r

theorem agrees_next_of_whole (hopen : a.layout.grid.released = false) (ha : a.Agrees)
    {call : Call n delta alpha rho} (hcall : call.Whole numerics a.layout) :
    (a.next numerics call).Agrees := by
  cases call with
  | fill f choice =>
      rcases hcall with ⟨failure, hrefused⟩ | hsupplies | hnone
      · rw [next_fill_of_nothing fun r => (nothing_of_refused hrefused r).2]
        exact ha
      · exact agrees_after _ (concur_perform hopen ha hsupplies)
      · rw [next_fill_of_nothing fun r => (nothing_of_unsupplied (hnone r)).2]
        exact ha
  | setElement writers i j value =>
      have hwrites : (Call.setElement writers i j value : Call n delta alpha rho).Writes :=
        trivial
      intro r s
      rw [(next_keeps numerics a hwrites r).1, (next_keeps numerics a hwrites s).1]
      exact ha r s
  | _ => exact agrees_after _ (concur_perform hopen ha trivial)

theorem agrees_run_of_whole (hopen : a.layout.grid.released = false) (ha : a.Agrees)
    {program : List (Call n delta alpha rho)}
    (hprogram : forall call, call ∈ program -> call.Whole numerics a.layout) :
    (a.run numerics program).Agrees := by
  apply run_preserves _ rfl ha hprogram
  intro b call hlayout hcall hb
  rw [← hlayout] at hopen hcall
  exact agrees_next_of_whole hopen hb hcall

/--
What a process does depends on the property and on its own indices: it loads, or it fails and
keeps its part. All processes load one property, or all of them fail, exactly where the
property is refused, or the function serves the whole grid, or nobody is left out and it
serves nobody. As long as every function does one of this, all processes agree.
-/
theorem fill_all_or_nothing (numerics : Numerics delta alpha rho) {q : MatrixRequest}
    {settings : Settings} {grid : Grid n} (hopen : grid.released = false) {shape : Argument}
    {made : Created n alpha} (hmade : q.create settings grid shape = .ok made)
    (before : List (Call n delta alpha rho)) (f : Region -> Except Failure (Sheet delta))
    (choice : PropertyChoice) :
    let a := made.matrix.run numerics before
    let l := a.layout
    let fill : Call n delta alpha rho := .fill f choice
    let replies := a.fill numerics f choice
    (forall r,
      ((replies.get r).result = .ok () ↔
        (exists property, l.propertyFrom choice = .ok property) ∧
          (l.grid.active r = true -> SuppliesOn numerics l f r)) ∧
      ((replies.get r).result = .ok () ∧ (replies.get r).part.state = .matrix ∨
        (exists failure, (replies.get r).result = .error failure) ∧
          (replies.get r).part = a.part r)) ∧
    (a.AllOrNothing replies ↔
      (exists failure, l.propertyFrom choice = .error failure) ∨
      (Supplies numerics l f ∧ (choice = .unspecified ->
        forall r s, (a.part r).freshProperty = (a.part s).freshProperty)) ∨
      (forall r, l.grid.active r = true ∧ ¬ SuppliesOn numerics l f r)) ∧
    ((forall call, call ∈ before -> call.Whole numerics made.matrix.layout) ->
      a.Agrees ∧ (fill.Whole numerics l ↔ a.AllOrNothing replies) ∧
        (fill.Whole numerics l -> (a.next numerics fill).Agrees)) := by
  intro a l fill replies
  rcases MatrixRequest.matrix_of_create hmade with ⟨hgrid, property, hblank⟩
  have hlayout : a.layout = made.matrix.layout := layout_run _ before
  have hopenMade : made.matrix.layout.grid.released = false := by rw [hgrid, hopen]
  refine ⟨?_, allOrNothing_fill_iff, ?_⟩
  · intro r
    refine ⟨result_fill_iff r, ?_⟩
    rcases loads_or_fails numerics f choice r with hok | hfails
    · rcases ((result_fill_iff r).mp hok).1 with ⟨granted, hgranted⟩
      exact Or.inl ⟨hok, (part_fill hgranted hok).1⟩
    · exact Or.inr hfails
  · intro hbefore
    have ha : a.Agrees := by
      apply agrees_run_of_whole hopenMade
      · rw [hblank]
        exact agrees_blank _ property
      · exact hbefore
    exact ⟨ha, whole_fill_iff ha, agrees_next_of_whole (by rw [hlayout, hopenMade]) ha⟩

end

/-- A function that raises on both processes of a grid leaves what a first one has loaded. -/
theorem fill_all_or_nothing_raising :
    let grid : Grid 2 := ⟨2, 1, by decide, by decide, by decide, fun _ => 0, false⟩
    let q : MatrixRequest := ⟨.whole 1, .absent, .unspecified, .absent⟩
    let made : Created 2 Int :=
      ⟨.blank ⟨grid, 3, 1, 1, 1, .double, by decide, by decide, by decide, by decide⟩ .general,
        .serialOnRoot⟩
    let single : Sheet Int := ⟨[], .ofPrecision .double, #[7]⟩
    let raising : Region -> Except Failure (Sheet Int) := fun _ => .error (.value .unsuitable)
    let load : Call 2 Int Int Int := .fill (fun _ => .ok single) .unspecified
    let fill : Call 2 Int Int Int := .fill raising (.given .lowerTriangular)
    let a := made.matrix.run exactNumerics [load]
    let b := a.next exactNumerics fill
    q.create .standard grid (.list [.whole 3, .whole 1]) = .ok made ∧
    load.Whole exactNumerics made.matrix.layout ∧ fill.Whole exactNumerics a.layout ∧
    a.AllOrNothing (a.fill exactNumerics raising (.given .lowerTriangular)) ∧
    b.Agrees ∧ (b.part 0).property = .general ∧ (b.part 0).block.entries = #[7, 7] := by
  intro grid q made single raising load fill a b
  have hmade : q.create .standard grid (.list [.whole 3, .whole 1]) = .ok made := rfl
  have hload : load.Whole exactNumerics made.matrix.layout :=
    Or.inr (Or.inl fun r _ => ⟨single, rfl, rfl⟩)
  have hfill : fill.Whole exactNumerics a.layout := by
    refine Or.inr (Or.inr fun r => ⟨?_, ?_⟩)
    · revert r
      decide
    · rintro ⟨values, hvalues, _⟩
      cases hvalues
  have hhistory : forall call, call ∈ [load] -> call.Whole exactNumerics made.matrix.layout := by
    intro call hcall
    rw [List.mem_singleton.mp hcall]
    exact hload
  rcases (fill_all_or_nothing exactNumerics rfl hmade [load] raising
    (.given .lowerTriangular)).2.2 hhistory with ⟨_, hwhole, hnext⟩
  exact ⟨hmade, hload, hfill, hwhole.mp hfill, hnext hfill, by decide +kernel,
    by decide +kernel⟩

/-!
# Some load and others fail

A column of two entries suits the first of two processes, which holds two rows, but not the
second, which holds one. The third is left out and loads without having been asked.
-/

theorem fill_loads_some :
    let grid : Grid 3 := ⟨2, 1, by decide, by decide, by decide, fun _ => 0, false⟩
    let q : MatrixRequest := ⟨.whole 1, .absent, .unspecified, .absent⟩
    let made : Created 3 Int :=
      ⟨.blank ⟨grid, 3, 1, 1, 1, .double, by decide, by decide, by decide, by decide⟩ .general,
        .serialOnRoot⟩
    let two : Sheet Int := ⟨[2, 1], .ofPrecision .double, #[1, 1]⟩
    let column : Region -> Except Failure (Sheet Int) := fun _ => .ok two
    let a := made.matrix
    let replies := a.fill exactNumerics column .unspecified
    let b := a.next exactNumerics (.fill column .unspecified)
    q.create .standard grid (.list [.whole 3, .whole 1]) = .ok made ∧
    (replies.get 0).result = .ok () ∧
    (replies.get 1).result = .error (.value .unsuitable) ∧
    (replies.get 2).result = .ok () ∧
    (b.part 0).state = .matrix ∧ (b.part 1).state = .uninitialized ∧
    (b.part 2).state = .matrix ∧ ¬ a.AllOrNothing replies := by
  intro grid q made two column a replies b
  have hfirst : (replies.get 0).result = .ok () := by with_unfolding_all rfl
  have hsecond : (replies.get 1).result = .error (.value .unsuitable) := by with_unfolding_all rfl
  refine ⟨rfl, hfirst, hsecond, by with_unfolding_all rfl, by decide +kernel, by decide +kernel,
    by decide +kernel, ?_⟩
  rintro (⟨_, hall⟩ | hnothing)
  · rw [(hall 1).1] at hsecond
    cases hsecond
  · rcases (hnothing 0).1 with ⟨failure, hfailure⟩
    rw [hfirst] at hfailure
    cases hfailure

end DistributedMatrix

end BlockCyclic
