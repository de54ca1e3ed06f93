/-!
# Formulas in titles

A line with an even number of dollar signs holds formulas between them. A formula is a
row of symbols, groups in braces, named commands and scripts; a line whose formulas are
not of this form cannot be set.
-/

namespace BlockCyclic
namespace Markup

/-!
# Names of commands
-/

def fonts : List String :=
  ["rm", "cal", "it", "tt", "sf", "bf", "bfit", "default", "bb", "frak", "scr", "regular"]

def spaces : List String :=
  ["thinspace", "enspace", "quad", "qquad"]

def accents : List String :=
  ["hat", "breve", "bar", "grave", "acute", "tilde", "dot", "ddot", "dddot", "ddddot", "vec",
    "overrightarrow", "overleftarrow", "mathring", "widehat", "widetilde", "widebar"]

def functions : List String :=
  ["arccos", "csc", "ker", "min", "arcsin", "deg", "lg", "Pr", "arctan", "det", "lim", "sec",
    "arg", "dim", "liminf", "sin", "cos", "exp", "limsup", "sinh", "cosh", "gcd", "ln", "sup",
    "cot", "hom", "log", "tan", "coth", "inf", "max", "tanh"]

def greek : List String :=
  ["alpha", "beta", "gamma", "delta", "epsilon", "varepsilon", "zeta", "eta", "theta",
    "vartheta", "iota", "kappa", "varkappa", "lambda", "mu", "nu", "xi", "omicron", "pi",
    "varpi", "rho", "varrho", "sigma", "varsigma", "tau", "upsilon", "phi", "varphi", "chi",
    "psi", "omega", "digamma", "Gamma", "Delta", "Theta", "Lambda", "Xi", "Pi", "Sigma",
    "Upsilon", "Phi", "Psi", "Omega"]

def operators : List String :=
  ["sum", "prod", "coprod", "int", "iint", "iiint", "oint", "bigcap", "bigcup", "bigvee",
    "bigwedge", "bigoplus", "bigotimes", "cdot", "times", "div", "pm", "mp", "ast", "star",
    "circ", "bullet", "oplus", "ominus", "otimes", "odot", "cup", "cap", "vee", "wedge", "sqcup",
    "sqcap", "setminus", "dagger", "ddagger", "amalg", "wr", "diamond"]

def relations : List String :=
  ["leq", "le", "geq", "ge", "neq", "ne", "equiv", "sim", "simeq", "approx", "cong", "propto",
    "ll", "gg", "subset", "supset", "subseteq", "supseteq", "in", "ni", "notin", "perp",
    "parallel", "mid", "prec", "succ", "preceq", "succeq", "asymp", "doteq", "models", "vdash",
    "dashv"]

def arrows : List String :=
  ["rightarrow", "leftarrow", "to", "gets", "leftrightarrow", "Rightarrow", "Leftarrow",
    "Leftrightarrow", "mapsto", "uparrow", "downarrow", "updownarrow", "Uparrow", "Downarrow",
    "Updownarrow", "longrightarrow", "longleftarrow", "Longrightarrow", "Longleftarrow",
    "nearrow", "searrow", "swarrow", "nwarrow", "hookrightarrow", "hookleftarrow"]

def otherSymbols : List String :=
  ["infty", "partial", "nabla", "forall", "exists", "nexists", "neg", "emptyset", "varnothing",
    "prime", "ldots", "cdots", "vdots", "ddots", "dots", "ell", "hbar", "Re", "Im", "aleph",
    "degree", "angle", "triangle", "Box", "square", "sharp", "flat", "natural", "clubsuit",
    "diamondsuit", "heartsuit", "spadesuit", "S", "P", "copyright", "pounds", "yen", "euro",
    "AA", "ss", "ae", "AE", "oe", "OE", "o", "O", "imath", "jmath", "wp", "top", "bot"]

/-- Names that may also stand beside `left` and `right`. -/
def delimiters : List String :=
  ["lfloor", "rfloor", "lceil", "rceil", "langle", "rangle", "lbrace", "rbrace", "lbrack",
    "rbrack", "vert", "Vert", "backslash"]

def isSymbolName (name : String) : Bool :=
  [greek, operators, relations, arrows, otherSymbols, delimiters, functions].any fun names =>
    names.contains name

/-!
# Characters
-/

def isLetter (c : Char) : Bool :=
  ('a' ≤ c && c ≤ 'z') || ('A' ≤ c && c ≤ 'Z')

def isSymbol (c : Char) : Bool :=
  isLetter c || c.isDigit || 128 ≤ c.toNat || " +-*/<>=:,.;!?&'@()[]|".toList.contains c

def isEscaped (c : Char) : Bool :=
  c == '\x7b' || c == '\x7d' || "%$[]_|".toList.contains c

def command? : List Char -> Option (String × List Char)
  | '\\' :: cs =>
      match cs.takeWhile isLetter with
      | [] => none
      | name => some (String.ofList name, cs.dropWhile isLetter)
  | _ => none

def skipBlanks (cs : List Char) : List Char :=
  cs.dropWhile (· == ' ')

def after? (c : Char) (cs : List Char) : Option (List Char) :=
  match skipBlanks cs with
  | d :: rest => if c = d then some rest else none
  | [] => none

def afterDelimiter? (cs : List Char) : Option (List Char) :=
  match skipBlanks cs with
  | '\\' :: c :: rest =>
      if c == '\x7b' || c == '\x7d' || c == '|' then some rest
      else
        match command? ('\\' :: c :: rest) with
        | some (name, rest) =>
            if delimiters.contains name || arrows.contains name then some rest else none
        | none => none
  | c :: rest => if "|/.()[]<>".toList.contains c then some rest else none
  | [] => none

/-!
# Formulas

Each function gives what follows the part that it reads, if that part is well formed.
Blanks are symbols of their own, except before scripts and arguments.
-/

inductive Closing where
  | brace
  | bracket
  | right
deriving DecidableEq, Repr

def Closing.stands (closing : Closing) (cs : List Char) : Bool :=
  match closing with
  | brace => cs.head? == some '\x7d'
  | bracket => cs.head? == some ']'
  | right => (command? (skipBlanks cs)).any fun c => c.1 == "right"

mutual

/-- A row of tokens, up to its end or to the end of the formula. -/
def afterRow? (closing : Closing) : Nat -> List Char -> Option (List Char)
  | 0, _ => none
  | _ + 1, [] => some []
  | fuel + 1, c :: cs =>
      if closing.stands (c :: cs) then some (c :: cs)
      else
        match afterToken? fuel (c :: cs) with
        | some rest => afterRow? closing fuel rest
        | none => none

/-- A token: a space, a font, scripts, or something that can have scripts. -/
def afterToken? : Nat -> List Char -> Option (List Char)
  | 0, _ => none
  | fuel + 1, cs =>
      match cs with
      | '~' :: rest => some rest
      | '_' :: _ | '^' :: _ => afterScripts? false false fuel cs
      | '\\' :: c :: rest =>
          if ",/>:; !".toList.contains c then some rest
          else
            match command? cs with
            | some ("left", rest) =>
                ((afterDelimiter? rest).bind (afterRow? .right fuel)).bind fun rest =>
                  ((command? (skipBlanks rest)).bind fun c => afterDelimiter? c.2)
            | some ("middle", rest) => afterDelimiter? rest
            | some (name, rest) =>
                if spaces.contains name || fonts.contains name then some rest
                else (afterNucleus? fuel cs).bind (afterScripts? false false fuel)
            | none => (afterNucleus? fuel cs).bind (afterScripts? false false fuel)
      | _ => (afterNucleus? fuel cs).bind (afterScripts? false false fuel)

/-- Subscripts and superscripts, at most one of each. -/
def afterScripts? (lowered raised : Bool) : Nat -> List Char -> Option (List Char)
  | 0, _ => none
  | fuel + 1, cs =>
      match skipBlanks cs with
      | '_' :: rest =>
          if lowered then none
          else (afterNucleus? fuel rest).bind (afterScripts? true raised fuel)
      | '^' :: rest =>
          if raised then none
          else (afterNucleus? fuel rest).bind (afterScripts? lowered true fuel)
      | _ => some cs

/-- A group in braces, which may have to hold something. -/
def afterGroup? (filled : Bool) : Nat -> List Char -> Option (List Char)
  | 0, _ => none
  | fuel + 1, cs =>
      match after? '\x7b' cs with
      | none => none
      | some inner =>
          if filled && (after? '\x7d' inner).isSome then none
          else (afterRow? .brace fuel inner).bind (after? '\x7d')

/-- A symbol, a group, or a command with its arguments. -/
def afterNucleus? : Nat -> List Char -> Option (List Char)
  | 0, _ => none
  | fuel + 1, cs =>
      match cs with
      | '\x7b' :: _ => afterGroup? false fuel cs
      | '\\' :: c :: rest =>
          if isEscaped c then some rest
          else if "\"'`^~.".toList.contains c then afterNucleus? fuel (skipBlanks rest)
          else
            match command? cs with
            | none => none
            | some (name, rest) =>
                if accents.contains name then afterNucleus? fuel (skipBlanks rest)
                else if isSymbolName name then some rest
                else if fonts.any fun f => "math" ++ f == name then afterGroup? false fuel rest
                else if ["frac", "dfrac", "binom"].contains name then
                  (afterGroup? true fuel rest).bind (afterGroup? true fuel)
                else if ["overset", "underset"].contains name then
                  (afterGroup? false fuel rest).bind (afterGroup? false fuel)
                else if name == "overline" then afterGroup? true fuel rest
                else if ["operatorname", "boldsymbol", "text"].contains name then
                  afterGroup? false fuel rest
                else if name == "sqrt" then
                  match after? '[' rest with
                  | some root =>
                      ((afterRow? .bracket fuel root).bind (after? ']')).bind
                        (afterGroup? true fuel)
                  | none => afterGroup? true fuel rest
                else none
      | c :: rest => if isSymbol c then some rest else none
      | [] => none

end

def isFormula (cs : List Char) : Bool :=
  !cs.isEmpty && afterRow? .brace (4 * cs.length + 8) cs == some []

/-!
# Lines
-/

def dollars : List Char -> Nat
  | [] => 0
  | '\\' :: '$' :: rest => dollars rest
  | '$' :: rest => 1 + dollars rest
  | _ :: rest => dollars rest

def untilDollar? : List Char -> Option (List Char × List Char)
  | [] => none
  | '\\' :: c :: rest => (untilDollar? rest).map fun p => ('\\' :: c :: p.1, p.2)
  | '$' :: rest => some ([], rest)
  | c :: rest => (untilDollar? rest).map fun p => (c :: p.1, p.2)

def formulasHold : Nat -> List Char -> Bool
  | 0, _ => false
  | _ + 1, [] => true
  | fuel + 1, '\\' :: '$' :: rest => formulasHold fuel rest
  | fuel + 1, '$' :: rest =>
      match untilDollar? rest with
      | some (formula, rest) => isFormula formula && formulasHold fuel rest
      | none => false
  | fuel + 1, _ :: rest => formulasHold fuel rest

/-- Whether a line can be set; one without formulas always can. -/
def lineHolds (line : List Char) : Bool :=
  let count := dollars line
  count = 0 || count % 2 ≠ 0 || formulasHold (line.length + 1) line

def titleHolds (title : String) : Bool :=
  (title.splitOn "\n").all fun line => lineHolds line.toList

end Markup
end BlockCyclic
