import BlockCyclic.Number.ElementType
import BlockCyclic.Size.Argument

/-!
# Names of element types

An element type may be asked for by its full name, by a letter, or by a letter with a
size or a length; a mark of the byte order may stand before the last two. Time has a
step in brackets. Several types that are parted by commas make a record, and a number
in front repeats a type.
-/

namespace BlockCyclic

/-!
# Numbers within names
-/

def ElementType.greatestLength : Nat := Nat.pow 2 31 - 1

namespace NameNumeral

def isBlank (c : Char) : Bool :=
  c == ' ' || (9 ≤ c.toNat && c.toNat ≤ 13)

def value (ds : List Char) : Nat :=
  ds.foldl (fun n c => 10 * n + (c.toNat - 48)) 0

/-- A whole number that is not negative, with blanks and a sign in front. -/
def whole? (cs : List Char) : Option Nat :=
  let cs := cs.dropWhile isBlank
  let negative := cs.head? == some '-'
  let ds := if negative || cs.head? == some '+' then cs.drop 1 else cs
  if ds.isEmpty || !ds.all Char.isDigit then none
  else if negative && value ds ≠ 0 then none
  else if ElementType.greatestLength < value ds then none
  else some (value ds)

end NameNumeral

/-!
# Single types
-/

namespace ItemType

def formatNames : List (NumberFormat × List String) :=
  [(.bool, ["bool", "bool_", "?"]),
    (.signed 8, ["int8", "byte", "b"]),
    (.signed 16, ["int16", "short", "h"]),
    (.signed 32, ["int32", "intc", "i"]),
    (.signed 64, ["int64", "int", "int_", "intp", "long", "longlong", "l", "q", "p", "n"]),
    (.unsigned 8, ["uint8", "ubyte", "B"]),
    (.unsigned 16, ["uint16", "ushort", "H"]),
    (.unsigned 32, ["uint32", "uintc", "I"]),
    (.unsigned 64, ["uint64", "uint", "uintp", "ulong", "ulonglong", "L", "Q", "P", "N"]),
    (.half, ["float16", "half", "e"]),
    (.real .single, ["float32", "single", "f"]),
    (.real .double, ["float64", "double", "float", "d"]),
    (.extended, ["float128", "longdouble", "g"]),
    (.complex .single, ["complex64", "csingle", "F"]),
    (.complex .double, ["complex128", "cdouble", "complex", "D"]),
    (.complexExtended, ["complex256", "clongdouble", "G"])]

def otherNames : List (ItemType × List String) :=
  [(object, ["object", "object_", "O"]),
    (text 0 false, ["str", "str_", "unicode", "U"]),
    (bytes 0, ["bytes", "bytes_", "S", "a"]),
    (bytes 1, ["c"]),
    (raw 0, ["void", "V"]),
    (anyText, ["T"]),
    (time false none false, ["M"]),
    (time true none false, ["m"])]

def ofWord? (word : String) : Option ItemType :=
  match formatNames.find? fun f => f.2.contains word with
  | some f => some (number f.1 false)
  | none => (otherNames.find? fun f => f.2.contains word).map Prod.fst

def ofKind? (kind : Char) (size : Nat) : Option ItemType :=
  match kind, size with
  | 'b', 1 => some (number .bool false)
  | 'i', 1 => some (number (.signed 8) false)
  | 'i', 2 => some (number (.signed 16) false)
  | 'i', 4 => some (number (.signed 32) false)
  | 'i', 8 => some (number (.signed 64) false)
  | 'u', 1 => some (number (.unsigned 8) false)
  | 'u', 2 => some (number (.unsigned 16) false)
  | 'u', 4 => some (number (.unsigned 32) false)
  | 'u', 8 => some (number (.unsigned 64) false)
  | 'f', 2 => some (number .half false)
  | 'f', 4 => some (number (.real .single) false)
  | 'f', 8 => some (number (.real .double) false)
  | 'f', 16 => some (number .extended false)
  | 'c', 8 => some (number (.complex .single) false)
  | 'c', 16 => some (number (.complex .double) false)
  | 'c', 32 => some (number .complexExtended false)
  | 'O', 4 => some object
  | 'O', 8 => some object
  | _, _ => none

/-- The type of a letter with a length in characters, or with a size in bytes. -/
def ofSized? (cs : List Char) : Option ItemType :=
  match cs with
  | [] => none
  | kind :: rest =>
      match NameNumeral.whole? rest with
      | none => none
      | some n =>
          if kind = 'S' || kind = 'a' then some (bytes n)
          else if kind = 'V' then some (raw n)
          else if kind = 'U' then
            if n ≤ ElementType.greatestLength / 4 then some (text n false) else none
          else ofKind? kind n

/-- The type in swapped byte order; text of bytes, objects and single bytes have none. -/
def swap : ItemType -> ItemType
  | number f _ => number f (decide (1 < f.bytes))
  | text length _ => text length true
  | time isSpan step _ => time isSpan step true
  | other => other

/-!
# Time
-/

def afterTimeName? (cs : List Char) : Option (Bool × List Char) :=
  let names : List (Bool × String) :=
    [(false, "M8"), (true, "m8"), (false, "datetime64"), (true, "timedelta64")]
  names.findSome? fun t =>
    if t.2.toList.isPrefixOf cs then some (t.1, cs.drop t.2.length) else none

/-- The unit with the given symbol; the open unit has none. -/
def unit? (symbol : String) : Option (Option TimeUnit) :=
  if symbol = "generic" then some none
  else (TimeUnit.all.find? fun u => u.symbol == symbol).map some

def denominator? (cs : List Char) : Option Nat :=
  match cs with
  | [] => some 1
  | _ :: rest => (NameNumeral.whole? rest).filter (· != 0)

def step (cs : List Char) : Except Failure (Option TimeStep) :=
  let isNumeral (c : Char) : Bool := c.isDigit || c == '+' || c == '-' || NameNumeral.isBlank c
  let counted := cs.takeWhile isNumeral
  let rest := cs.dropWhile isNumeral
  let count := if counted.isEmpty then some 1 else NameNumeral.whole? counted
  let symbol := String.ofList (rest.takeWhile (· != '/'))
  match count, unit? symbol, denominator? (rest.dropWhile (· != '/')) with
  | some n, some (some unit), some parts =>
      match (TimeStep.mk n unit).divide? parts with
      | some s => .ok (some s)
      | none => .error (.value .unsuitable)
  | some _, some none, some _ => .ok none
  | _, _, _ => .error .unusable

/-- The step in brackets; where it is missing, the unit is open. -/
def bracketedStep (cs : List Char) : Except Failure (Option TimeStep) :=
  match cs with
  | [] => .ok none
  | '[' :: rest =>
      match rest.reverse with
      | ']' :: inner => if inner.isEmpty then .error .unusable else step inner.reverse
      | _ => .error .unusable
  | _ => .error .unusable

/-!
# Names with a byte order
-/

def isOrder (c : Char) : Bool :=
  c == '<' || c == '>' || c == '=' || c == '|'

def splitOrder (cs : List Char) : Option Char × List Char :=
  match cs with
  | c :: rest => if isOrder c then (some c, rest) else (none, cs)
  | [] => (none, [])

/-- The type with the given name. Only letters and sizes can follow a byte order. -/
def ofName (name : String) : Except Failure ItemType :=
  let (order, cs) := splitOrder name.toList
  let ordered (t : ItemType) : ItemType := if order = some '>' then t.swap else t
  match afterTimeName? cs with
  | some (isSpan, rest) => (bracketedStep rest).map fun s => ordered (time isSpan s false)
  | none =>
      let short := if cs.length = 1 then ofWord? (String.ofList cs) else ofSized? cs
      match short with
      | some t => .ok (ordered t)
      | none =>
          match if order.isNone then ofWord? name else none with
          | some t => .ok t
          | none => .error .unusable

end ItemType

/-!
# Lists of types
-/

namespace ElementType

/-- Whether a name is a list of types or has a number in front. -/
def isList (cs : List Char) : Bool :=
  let plain := (ItemType.splitOrder cs).2
  plain.head?.any Char.isDigit || ['(', ')'].isPrefixOf plain || outside 0 (cs.drop 1)
where
  /-- Whether a comma stands outside of brackets. -/
  outside (depth : Int) : List Char -> Bool
    | [] => false
    | c :: rest =>
        if c = ',' && depth = 0 then true
        else if c = '[' then outside (depth + 1) rest
        else if c = ']' then outside (depth - 1) rest
        else outside depth rest

def optional (test : Char -> Bool) (cs : List Char) : List Char × List Char :=
  match cs with
  | c :: rest => if test c then ([c], rest) else ([], cs)
  | [] => ([], [])

def many (test : Char -> Bool) (cs : List Char) : List Char × List Char :=
  (cs.takeWhile test, cs.dropWhile test)

/-- The numbers in front of a type, as they stand there. -/
def repetition (cs : List Char) : List Char × List Char :=
  let (a, cs) := many (· == ' ') cs
  let (b, cs) := optional (· == '(') cs
  let (c, cs) := many (fun c => c == ' ' || c == ',' || c.isDigit) cs
  let (d, cs) := optional (· == ')') cs
  let (e, cs) := many (· == ' ') cs
  (a ++ b ++ c ++ d ++ e, cs)

/-- A step in brackets at the front, if the brackets are closed. -/
def bracketed (cs : List Char) : List Char × List Char :=
  match cs with
  | '[' :: rest =>
      let (inner, after) := many (fun c => c.isAlphanum || c == ',' || c == '.') rest
      match after with
      | ']' :: after => ('[' :: inner ++ [']'], after)
      | _ => ([], cs)
  | _ => ([], cs)

/-- How often a type is repeated: not at all, a number of times, or in several extents. -/
inductive Repetition where
  | never
  | times (n : Nat)
  | extents (dims : List Nat)

/-- The numbers between commas; after the last comma there may be none. -/
def numbers? (cs : List Char) : Option (List Nat) :=
  let parts := ((String.ofList cs).splitOn ",").map fun s => s.toList.filter (· != ' ')
  let parts := if parts.getLast? == some [] then parts.dropLast else parts
  parts.mapM fun ds =>
    if ds.isEmpty || !ds.all Char.isDigit then none else some (NameNumeral.value ds)

def Repetition.of? (cs : List Char) : Option Repetition :=
  if cs.isEmpty then some .never
  else
    let inner := cs.filter fun c => c != '(' && c != ')'
    match numbers? inner with
    | some [] => if cs.contains '(' then some (.extents []) else none
    | some [n] => if inner.contains ',' then some (.extents [n]) else some (.times n)
    | some dims => some (.extents dims)
    | none => none

def agreedOrder (a b : List Char) : Except Failure (List Char) :=
  let native (order : List Char) : List Char := if order = ['='] then ['<'] else order
  if b.isEmpty then .ok a
  else if a.isEmpty then .ok b
  else if native a = native b then .ok (native a)
  else .error (.value .unsuitable)

/-- A repeated type; a repeated type of open length gets that length. -/
def repeated (item : ItemType) (r : Repetition) : CellType :=
  match r, item with
  | .times n, .text 0 swapped => .single (.text n swapped)
  | .times n, .bytes 0 => .single (.bytes n)
  | .times n, .raw 0 => .single (.raw n)
  | .times 1, _ => .single item
  | .times n, _ => ⟨item, some [n]⟩
  | .extents [], _ => .single item
  | .extents dims, _ => ⟨item, some dims⟩
  | .never, _ => .single item

def member (cs : List Char) : Except Failure (CellType × List Char) := do
  let (first, cs) := optional ItemType.isOrder cs
  let (numbers, cs) := repetition cs
  let (second, cs) := optional ItemType.isOrder cs
  let (word, cs) := many (fun c => c.isAlphanum || c == '.' || c == '?') cs
  let (step, cs) := bracketed cs
  let order <- agreedOrder first second
  let order := if order = ['>'] then order else []
  match Repetition.of? numbers with
  | none => .error (.value .unsuitable)
  | some r =>
      let item <- ItemType.ofName (String.ofList (order ++ word ++ step))
      return (repeated item r, cs)

/-- What follows the comma after a member; nothing if the list is at its end. -/
def afterComma (cs : List Char) : Except Failure (Option (List Char)) :=
  match cs.dropWhile NameNumeral.isBlank with
  | [] => .ok none
  | ',' :: rest => .ok (some (rest.dropWhile NameNumeral.isBlank))
  | _ => .error (.value .unsuitable)

/-- The members of a list, and whether there is any comma. -/
def members : Nat -> List Char -> Except Failure (List CellType × Bool)
  | 0, _ => .error (.value .unsuitable)
  | fuel + 1, cs => do
      let (first, rest) <- member cs
      match <- afterComma rest with
      | none => return ([first], false)
      | some [] => return ([first], true)
      | some rest =>
          let (others, _) <- members fuel rest
          return (first :: others, true)

/-- The name of a field that has none. -/
def fieldName (k : Nat) : String :=
  "f" ++ toString k

def ofList (name : String) : Except Failure ElementType := do
  let (cells, isRecord) <- members (name.length + 1) name.toList
  match cells, isRecord with
  | [c], false => return .cell c
  | _, _ => return .record (cells.zipIdx.map fun c => (fieldName c.2, c.1))

def ofName (name : String) : Except Failure ElementType :=
  if name.isEmpty then .error .unusable
  else if isList name.toList then ofList name
  else (ItemType.ofName name).map ofItem

/-!
# Types from loosely given arguments
-/

def namedCell (name format : Argument) : Except Failure (String × CellType) :=
  match name, format with
  | .text n, .text f => do
      match <- ofName f with
      | .cell c => return (n, c)
      | .record _ => .error (.value .unsuitable)
  | .text n, .absent => .ok (n, .single (.number (.real .double) false))
  | _, .text _ => .error (.value .unsuitable)
  | _, _ => .error .unusable

def ofFields (fields : List (String × Argument)) : Except Failure ElementType :=
  let field (name : String) : Option Argument :=
    (fields.find? fun f => f.1 == name).map Prod.snd
  match field "names", field "formats" with
  | some (.list names), some (.list formats) =>
      if names.length ≠ formats.length then .error (.value .unsuitable)
      else do
        return .record (<- (names.zip formats).mapM fun f => namedCell f.1 f.2)
  | _, _ => if fields.isEmpty then .ok (.record []) else .error (.value .unsuitable)

/-- The type that an argument names; where it is absent, doubles. -/
def ofArgument : Argument -> Except Failure ElementType
  | .absent => .ok (ofPrecision .double)
  | .text name => ofName name
  | .list [] => .ok (.record [])
  | .record fields => ofFields fields
  | _ => .error .unusable

end ElementType
end BlockCyclic
