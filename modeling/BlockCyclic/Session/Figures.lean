import BlockCyclic.Figure.Markup
import BlockCyclic.Session.Matrices

/-!
# Turns with figures

The first process draws; the others only take part in collecting what is drawn.
-/

namespace BlockCyclic

variable {n : Nat}

def Picture.report : Picture -> Report
  | .counts rows => .rows Report.whole rows
  | .content p x => .content p x

namespace Panel

def pictureFields (p : Panel) : List (String × Report) :=
  match p.picture with
  | some x => [("image", x.report), ("cmap", .text Figure.colours)]
  | none => []

def scaleFields (p : Panel) : List (String × Report) :=
  match p.scale with
  | some c =>
      let marks (xs : List Nat) : Report := .wholes (xs.map Int.ofNat)
      [("clim", .list [.moved .double c.low, .moved .double c.high]),
        ("ticks", .list [marks c.across, marks c.down])]
  | none => []

def barFields (p : Panel) : List (String × Report) :=
  match p.bar with
  | some marks =>
      [("colorbar", .record
        [("label", .text Figure.barLabel), ("ticks", .wholes (marks.map Int.ofNat))])]
  | none => []

def report (p : Panel) : Report :=
  .record (("title", .text p.title) :: (p.pictureFields ++ p.scaleFields ++ p.barFields))

end Panel

namespace Figure

def titleFields (f : Figure) : List (String × Report) :=
  match f.title with
  | some title => [("suptitle", .text title)]
  | none => []

def report (f : Figure) : Report :=
  .record
    ([("size", .natPair (f.width, f.height)), ("axes", .list (f.panels.map Panel.report))]
      ++ f.titleFields)

end Figure

/-!
# Loosely given limits and titles
-/

namespace Figure

/-- A limit of an image; an absent one is left to the image. -/
def limit (a : Argument) : Except Failure (Option Float) :=
  match a with
  | .absent => .ok none
  | .list _ | .record _ => .error .unusable
  | a => a.spelled.double.map some

/-- The lower and the upper limit; a pair that stands for the lower one holds both. -/
def limits (low high : Argument) : Except Failure (Option Float × Option Float) := do
  match high, low.two with
  | .absent, .ok (low, high) => return (<- limit low, <- limit high)
  | _, _ => return (<- limit low, <- limit high)

def titleText (a : Argument) : Except Failure String :=
  let text :=
    match a with
    | .absent => ""
    | a => a.printed
  if Markup.titleHolds text then .ok text else .error (.value .unsuitable)

end Figure

namespace Session

def ownershipFigure (h : Held n) (copy : Except Failure (Answer Float Float)) (r : Fin n) :
    Except Failure Report := do
  let l := h.matrix.layout
  let state := (h.matrix.part r).state
  let content <-
    if state = .uninitialized ∨ state = .eigenvalues then pure none
    else copy.map Answer.content?
  l.checkOwners
  return (Figure.ofOwnership l state content).report

/-- The figure of who owns what; only a matrix can be drawn. -/
def drawOwnership (s : Session n) (name : Argument) : Turn n :=
  match name with
  | .text name =>
      match s.matrices.lookup name with
      | none => .fail s .notMatrix
      | some h =>
          let copies := h.perform (copyObstacle false h.matrix) (.copyTo false)
          .each s fun r =>
            if !h.present.get r then .error .notMatrix
            else if r.val ≠ 0 then .ok .nothing
            else ownershipFigure h (copies.get r).result r
  | .list _ | .record _ => .fail s .unusable
  | _ => .fail s .notMatrix

def drawBlocks (s : Session n) (name : String) (title low high : Argument) : Turn n :=
  s.inspect name fun h r =>
    if r.val = 0 then do
      let range <- Figure.limits low high
      let title <- Figure.titleText title
      return (Figure.ofBlocks h.matrix title range.1 range.2).report
    else .ok .nothing

end Session
end BlockCyclic
