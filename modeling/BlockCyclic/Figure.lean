import BlockCyclic.Matrix.Load

/-!
# Figures

What would be drawn of a distributed matrix, as data: which process owns which
entry, beside the content itself, or the local blocks of all processes.
-/

namespace BlockCyclic

inductive Picture where
  | counts (rows : List (List Int))
  | content (precision : Precision) (x : Dense Float)

/-- The range of an image and the marks along its axes. -/
structure Scale where
  low : Float
  high : Float
  across : List Nat
  down : List Nat

/-- A part of a figure: an image, a colour bar, or a title alone. -/
structure Panel where
  title : String
  picture : Option Picture
  scale : Option Scale
  /-- Marks of a colour bar. -/
  bar : Option (List Nat)

structure Figure where
  /-- Width and height in inches. -/
  width : Nat
  height : Nat
  title : Option String
  panels : List Panel

namespace Figure

def colours : String := "rainbow"

def barLabel : String := "Ranks"

end Figure

def Panel.plain (title : String) : Panel :=
  ⟨title, none, none, none⟩

def Panel.image (title : String) (picture : Picture) (scale : Option Scale) : Panel :=
  ⟨title, some picture, scale, none⟩

def Panel.colourBar (marks : Nat) : Panel :=
  ⟨"", none, none, some (List.range marks)⟩

variable {n : Nat}

namespace Layout

def ownershipTitle (l : Layout n) : String :=
  "Block-cyclic over a " ++ toString l.grid.rows ++ "x" ++ toString l.grid.cols
    ++ " grid, blocks " ++ toString l.rowBlock ++ "x" ++ toString l.colBlock

end Layout

namespace Figure

def ofOwnership (l : Layout n) (state : State) (content : Option (Dense Float)) : Figure :=
  let owners :=
    [Panel.image l.ownershipTitle (.counts l.ownershipMap) none,
      Panel.colourBar l.grid.activeCount]
  match content with
  | none => ⟨9, 5, none, owners⟩
  | some x =>
      let shown := Panel.image ("Matrix (" ++ state.name ++ ")") (.content l.precision x) none
      ⟨18, 5, none, shown :: owners⟩

/-- The least and the greatest finite number of some; zero for both if there is none. -/
def range (xs : List Float) : Float × Float :=
  match xs.filter Float.isFinite with
  | [] => (0.0, 0.0)
  | x :: rest =>
      (rest.foldl (fun m y => if y < m then y else m) x,
        rest.foldl (fun m y => if m < y then y else m) x)

def scaleOf (x : Dense Float) (low high : Option Float) : Scale :=
  let own := range x.entries.toList
  ⟨low.getD own.1, high.getD own.2, List.range x.cols, List.range x.rows⟩

/-- The block of a grid position; an empty one is not shown. -/
def localPanel (p : Precision) (cols k : Nat) (block : Dense Float) (low high : Option Float) :
    Panel :=
  let title := "Rank-" ++ toString k ++ " " ++ pairText (k / cols : Nat) (k % cols : Nat)
  if block.size = 0 then .plain title
  else .image title (.content p block) (some (scaleOf block low high))

def ofBlocks (a : DistributedMatrix n Float) (title : String) (low high : Option Float) :
    Figure :=
  let g := a.layout.grid
  let blocks := a.blocks.toList.take g.activeCount
  { width := 4 * g.cols
    height := 4 * g.rows
    title := some title
    panels := blocks.zipIdx.map fun b =>
      localPanel a.layout.precision g.cols b.2 b.1 low high }

end Figure
end BlockCyclic
