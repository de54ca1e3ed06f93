import BlockCyclic.Failure
import BlockCyclic.Number.Format
import BlockCyclic.Text

/-!
# Element types

The types that the entries of an array from outside can have. Only numbers in native
byte order are computed with; the other types still have names of their own, because
they can be asked for and can be refused by name.
-/

namespace BlockCyclic

/-!
# Units of time
-/

inductive TimeUnit where
  | year
  | month
  | week
  | day
  | hour
  | minute
  | second
  | milli
  | micro
  | nano
  | pico
  | femto
  | atto
deriving DecidableEq, Repr

namespace TimeUnit

def symbol : TimeUnit -> String
  | year => "Y"
  | month => "M"
  | week => "W"
  | day => "D"
  | hour => "h"
  | minute => "m"
  | second => "s"
  | milli => "ms"
  | micro => "us"
  | nano => "ns"
  | pico => "ps"
  | femto => "fs"
  | atto => "as"

def all : List TimeUnit :=
  [year, month, week, day, hour, minute, second, milli, micro, nano, pico, femto, atto]

/-- Finer units with the number of them in one, the coarsest one first. -/
def finer : TimeUnit -> List (Nat × TimeUnit)
  | year => [(12, month), (52, week), (365, day)]
  | month => [(4, week), (30, day), (720, hour)]
  | week => [(7, day), (168, hour), (10080, minute)]
  | day => [(24, hour), (1440, minute), (86400, second)]
  | hour => [(60, minute), (3600, second)]
  | minute => [(60, second), (60000, milli)]
  | second => [(1000, milli), (1000000, micro)]
  | milli => [(1000, micro), (1000000, nano)]
  | micro => [(1000, nano), (1000000, pico)]
  | nano => [(1000, pico), (1000000, femto)]
  | pico => [(1000, femto), (1000000, atto)]
  | femto => [(1000, atto)]
  | atto => []

end TimeUnit

structure TimeStep where
  count : Nat
  unit : TimeUnit
deriving DecidableEq, Repr

namespace TimeStep

def text (s : TimeStep) : String :=
  "[" ++ (if s.count = 1 then "" else toString s.count) ++ s.unit.symbol ++ "]"

/-- A part of a step, as a whole number of a finer unit. -/
def divide? (s : TimeStep) (parts : Nat) : Option TimeStep :=
  if parts = 1 then some s
  else
    (s.unit.finer.find? fun f => f.1 % parts == 0).map fun f => ⟨s.count * (f.1 / parts), f.2⟩

end TimeStep

/-!
# Types of single items
-/

/-- The type of a single item; numbers, text and time can be in swapped byte order. -/
inductive ItemType where
  | number (format : NumberFormat) (swapped : Bool)
  /-- Text of at most the given length; the length zero leaves it open. -/
  | text (length : Nat) (swapped : Bool)
  /-- Text of single bytes. -/
  | bytes (length : Nat)
  /-- Text of any length. -/
  | anyText
  | object
  | raw (length : Nat)
  /-- Points or spans of time; without a step their unit is open. -/
  | time (isSpan : Bool) (step : Option TimeStep) (swapped : Bool)
deriving DecidableEq, Repr

namespace ItemType

def orderMark (swapped : Bool) : String :=
  if swapped then ">" else "<"

def stepText (step : Option TimeStep) : String :=
  match step with
  | some s => s.text
  | none => ""

/-- A letter with a length, which is left out where it is open. -/
def sized (letter : String) (length : Nat) : String :=
  if length = 0 then letter else letter ++ toString length

def short : ItemType -> String
  | number .bool _ => "?"
  | number f swapped =>
      (if f.bytes = 1 then "" else orderMark swapped) ++ f.kindLetter ++ toString f.bytes
  | text length swapped => orderMark swapped ++ sized "U" length
  | bytes length => sized "S" length
  | anyText => "T"
  | object => "O"
  | raw length => sized "V" length
  | time isSpan step swapped =>
      orderMark swapped ++ (if isSpan then "m8" else "M8") ++ stepText step

def name : ItemType -> String
  | number f swapped => if swapped then (number f swapped).short else f.name
  | text length swapped => orderMark swapped ++ "U" ++ toString length
  | bytes length => "|S" ++ toString length
  | anyText => "StringDType()"
  | object => "object"
  | raw length => "|V" ++ toString length
  | time isSpan step swapped =>
      if swapped then (time isSpan step swapped).short
      else (if isSpan then "timedelta64" else "datetime64") ++ stepText step

end ItemType

/-!
# Types of entries
-/

/-- A block of items of one type; a single item has no extents. -/
structure CellType where
  item : ItemType
  dims : Option (List Nat)
deriving DecidableEq, Repr

namespace CellType

def single (item : ItemType) : CellType :=
  ⟨item, none⟩

def short (c : CellType) : String :=
  let item := Quoted.text c.item.short
  match c.dims with
  | none => item
  | some dims => item ++ ", " ++ extentsText (dims.map Int.ofNat)

def name (c : CellType) : String :=
  match c.dims with
  | none => c.item.name
  | some _ => "(" ++ c.short ++ ")"

end CellType

inductive ElementType where
  | cell (c : CellType)
  | record (fields : List (String × CellType))
deriving DecidableEq, Repr

namespace ElementType

def ofItem (item : ItemType) : ElementType :=
  cell (.single item)

def ofFormat (f : NumberFormat) : ElementType :=
  ofItem (.number f false)

def ofPrecision (p : Precision) : ElementType :=
  ofFormat (.real p)

def name : ElementType -> String
  | cell c => c.name
  | record fields =>
      "[" ++ ", ".intercalate
        (fields.map fun f => "(" ++ Quoted.text f.1 ++ ", " ++ f.2.short ++ ")") ++ "]"

def format? : ElementType -> Option NumberFormat
  | cell ⟨.number f _, none⟩ => some f
  | _ => none

def native? : ElementType -> Option NumberFormat
  | cell ⟨.number f false, none⟩ => some f
  | _ => none

def precision? (t : ElementType) : Option Precision :=
  match t.native? with
  | some (.real p) => some p
  | _ => none

def isComplex (t : ElementType) : Bool :=
  t.format?.any NumberFormat.isComplex

/-- Whether every value of the type is a value of the precision. -/
def safelyEnters (t : ElementType) (p : Precision) : Bool :=
  t.format?.any fun f => f.safelyEnters p

end ElementType
end BlockCyclic
