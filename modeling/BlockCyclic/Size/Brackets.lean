import BlockCyclic.Decimal
import BlockCyclic.Size.Argument

/-!
# Nested lists in brackets

A list whose entries have one kind is written with entries of one width. Lines are
broken before they grow too long, long lists are shown by their first and last entries
only, and extents and kind are remarked where the brackets do not show them.
-/

namespace BlockCyclic

inductive EntryKind where
  | truth
  | signed
  | unsigned
  | double
  | text
  | mixed
deriving DecidableEq, Repr

namespace Argument

def toDouble : Argument -> Float
  | truth b => if b then 1.0 else 0.0
  | whole i => (Exact.ofInt .double i).toFloat
  | fraction x => x
  | _ => 0.0

def isList : Argument -> Bool
  | list _ => true
  | _ => false

/-- Extents of nested lists; `none` where they differ in shape. -/
def extents? : Nat -> Argument -> Option (List Nat)
  | 0, _ => none
  | fuel + 1, list items =>
      match items.map (extents? fuel) with
      | [] => some [0]
      | first :: rest =>
          if rest.all (· == first) then first.map (items.length :: ·) else none
  | _ + 1, _ => some []

def depth : Argument -> Nat
  | list items => 1 + (items.attach.map fun ⟨a, _⟩ => depth a).foldl max 0
  | _ => 0

def leaves : Nat -> Argument -> List Argument
  | 0, _ => []
  | fuel + 1, list items => items.flatMap (leaves fuel)
  | _ + 1, a => [a]

end Argument

namespace Brackets

def padLeft (width : Nat) (s : String) : String :=
  "".pushn ' ' (width - s.length) ++ s

def padRight (width : Nat) (s : String) : String :=
  s ++ "".pushn ' ' (width - s.length)

def widest (texts : List String) : Nat :=
  (texts.map String.length).foldl max 0

/-!
# Doubles of one width
-/

def places : Nat := 8

/-- The finite values among some, as signs and magnitudes. -/
def finite (xs : List Float) : List (Bool × Dyad) :=
  xs.filterMap fun x =>
    match Exact.ofFloat x with
    | .finite negative d => some (negative, d)
    | _ => none

/-- Whether magnitudes are too large, too small or too different to write the point out. -/
def needsExponent (xs : List Float) : Bool :=
  let magnitudes := (xs.filter fun x => x.isFinite && x != 0.0).map Float.abs
  match magnitudes with
  | [] => false
  | x :: rest =>
      let high := rest.foldl (fun m y => if m < y then y else m) x
      let low := rest.foldl (fun m y => if y < m then y else m) x
      1.0e8 ≤ high || low < 1.0e-4 || 1000.0 < high / low

structure DoubleStyle where
  withExponent : Bool
  /-- Width before the point. -/
  left : Nat
  /-- Width after the point. -/
  right : Nat
  exponentDigits : Nat

namespace DoubleStyle

def parts (s : DoubleStyle) (negative : Bool) (d : Dyad) : DecimalParts :=
  (if s.withExponent then DecimalParts.scientific places d
   else DecimalParts.positional places d).signed negative

/-- Width after the point, with an exponent if there is one. -/
def tail (s : DoubleStyle) : Nat :=
  if s.withExponent then s.right + s.exponentDigits + 2 else s.right

/-- A style with room for words that stand for values that are not finite. -/
def makeRoom (s : DoubleStyle) (xs : List Float) : DoubleStyle :=
  let width (x : Float) : Nat :=
    if x.isFinite then 0 else ((Exact.ofFloat x).shortest.length : Nat) - (s.tail + 1)
  { s with left := (xs.map width).foldl max s.left }

def of (xs : List Float) : DoubleStyle :=
  let start : DoubleStyle := ⟨needsExponent xs, 0, 0, 0⟩
  let all := (finite xs).map fun v => start.parts v.1 v.2
  let style : DoubleStyle :=
    { start with
      left := widest (all.map DecimalParts.whole)
      right := widest (all.map DecimalParts.fraction)
      exponentDigits := (all.map fun p => (toString p.exponent.natAbs).length).foldl max 2 }
  style.makeRoom xs

def exponentText (s : DoubleStyle) (e : Int) : String :=
  "e" ++ (if e < 0 then "-" else "+") ++ Scientific.padZeros s.exponentDigits (toString e.natAbs)

def write (s : DoubleStyle) (x : Float) : String :=
  match Exact.ofFloat x with
  | .finite negative d =>
      let p := s.parts negative d
      let whole := padLeft s.left p.whole ++ "."
      if s.withExponent then
        let zeros := "".pushn '0' (s.right - p.fraction.length)
        whole ++ p.fraction ++ zeros ++ s.exponentText p.exponent
      else whole ++ padRight s.right p.fraction
  | special => padLeft (s.left + s.tail + 1) special.shortest

end DoubleStyle

def aligned (kind : EntryKind) (items : List Argument) : Argument -> String :=
  match kind with
  | .truth => fun a => padLeft 5 a.literal
  | .double =>
      let style := DoubleStyle.of (items.map Argument.toDouble)
      fun a => style.write a.toDouble
  | .signed | .unsigned =>
      let width := widest (items.map fun a => toString (a.integer?.getD 0))
      fun a => padLeft width (toString (a.integer?.getD 0))
  | .text => fun a => Quoted.text (Quoted.unpadded a.printed)
  | .mixed => Argument.literal

/-!
# Lines
-/

def edge : Nat := 3

def threshold : Nat := 1000

def lineWidth : Nat := 75

/-- The entries to be shown; the ones left out are marked. -/
def shown (isLong : Bool) (items : List Argument) : List (Option Argument) :=
  if isLong && 2 * edge < items.length then
    (items.take edge).map some ++ [none] ++ (items.drop (items.length - edge)).map some
  else items.map some

def shownLeaves (isLong : Bool) : Nat -> Argument -> List Argument
  | 0, _ => []
  | fuel + 1, .list items =>
      (shown isLong items).flatMap fun a =>
        match a with
        | some a => shownLeaves isLong fuel a
        | none => []
  | _ + 1, a => [a]

/-- Finished lines and the one that is being written. -/
structure Lines where
  done : String
  line : String

/-- A word put on the line, or on a new one if the line would grow too long. -/
def Lines.extend (indent : Nat) (width : Int) (l : Lines) (word : String) : Lines :=
  if width < (l.line.length + word.length : Nat) && indent < l.line.length then
    ⟨l.done ++ l.line.trimAsciiEnd.toString ++ "\n", "".pushn ' ' indent ++ word⟩
  else ⟨l.done, l.line ++ word⟩

def row (indent : Nat) (width : Int) (words : List String) : String :=
  let start : Lines := ⟨"", "".pushn ' ' indent⟩
  let last := words.length - 1
  let l := words.zipIdx.foldl
    (fun (l : Lines) w =>
      let next := l.extend indent (width - 1) w.1
      if w.2 < last then { next with line := next.line ++ ", " } else next)
    start
  "[" ++ String.ofList ((l.done ++ l.line).toList.drop indent) ++ "]"

def nested (write : Argument -> String) (isLong : Bool) : Nat -> Nat -> Int -> Argument -> String
  | axes + 1, indent, width, .list items =>
      let word (a : Option Argument) : String :=
        match a with
        | some a => nested write isLong axes (indent + 1) (width - 1) a
        | none => "..."
      let words := (shown isLong items).map word
      if axes = 0 then row indent width words
      else
        let separator := "," ++ "".pushn '\n' axes ++ "".pushn ' ' indent
        "[" ++ separator.intercalate words ++ "]"
  | _, _, _, a => write a

def kindRemark (kind : EntryKind) (textLength : Nat) (isEmpty : Bool) : List String :=
  match kind with
  | .unsigned => ["dtype=uint64"]
  | .text => ["dtype='<U" ++ toString textLength ++ "'"]
  | .mixed => ["dtype=object"]
  | .double => if isEmpty then ["dtype=float64"] else []
  | _ => []

def extentRemark (dims : List Nat) (size : Nat) : List String :=
  if (size = 0 && dims != [0]) || threshold < size then
    ["shape=" ++ extentsText (dims.map Int.ofNat)]
  else []

def lastLine (s : String) : Nat :=
  (s.toList.reverse.takeWhile (· != '\n')).length

def opening : String := "array("

/-- A text with remarks after it, on a new line if the last one would grow too long. -/
def close (body : String) (remarks : List String) : String :=
  if remarks.isEmpty then body ++ ")"
  else
    let remark := ", ".intercalate remarks ++ ")"
    let body := body ++ ","
    let tooLong := lineWidth < lastLine body + remark.length + 1
    body ++ (if tooLong then "\n" ++ "".pushn ' ' opening.length else " ") ++ remark

def text (kind : EntryKind) (textLength : Nat) (a : Argument) : String :=
  let fuel := a.depth + 1
  let dims := (a.extents? fuel).getD []
  let size := dims.foldl (· * ·) 1
  let isLong : Bool := threshold < size
  let write := aligned kind (shownLeaves isLong fuel a)
  let body :=
    if size = 0 then "[]"
    else nested write isLong dims.length (opening.length + 1) (lineWidth - 1) a
  close (opening ++ body) (extentRemark dims size ++ kindRemark kind textLength (size == 0))

end Brackets
end BlockCyclic
