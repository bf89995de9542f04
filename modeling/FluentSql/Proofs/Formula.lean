import FluentSql.Keyword
import FluentSql.Proofs.Reader
import FluentSql.Text.Hex

/-! # The grammar of conditions

A reader of conditions by recursive descent, with one function for each level of the usual SQL
grammar: OR binds weakest, then AND, then NOT, then the relations between terms; parentheses group.
`x BETWEEN a AND b` takes its AND for itself, and `x NOT BETWEEN a AND b` is the negation of it.

The number that some readers carry bounds how deep brackets nest and how many items a list has; the
number of lexemes is always enough. -/

namespace FluentSql

/-! ### Trees -/

/-- A part of a qualified name. -/
inductive NamePart where
  | name (n : String)
  | star
deriving DecidableEq, Repr

/-- One side of a relation. -/
inductive Term where
  | null
  | bool (b : Bool)
  | int (n : Int)
  | string (s : String)
  | name (parts : List NamePart)
  | array (items : List Term)
deriving Repr

/-- A condition as a tree. -/
inductive Formula where
  | compare (op : Operator) (x y : Term)
  | member (op : Operator) (x : Term) (items : List Term)
  | between (x low high : Term)
  | not (φ : Formula)
  | all (φs : List Formula)
  | any (φs : List Formula)
deriving Repr

/-- The conjunction of a run of formulas; a run of one is that formula. -/
def Formula.allOf : List Formula → Formula
  | [φ] => φ
  | φs => all φs

/-- The disjunction of formulas; a disjunction of one is that formula. -/
def Formula.anyOf : List Formula → Formula
  | [φ] => φ
  | φs => any φs

/-! ### Terms -/

namespace Term

/-- The number that a word of digits writes. -/
def number? (w : String) : Option Nat :=
  if w ≠ "" ∧ w.toList.all Char.isDigit then some (Text.decimalValue w.toList) else none

def ofWord? (w : String) : Option Term :=
  if w = "NULL" then some null
  else if w = "TRUE" then some (bool true)
  else if w = "FALSE" then some (bool false)
  else (number? w).map fun n : Nat => int n

def namePart? : Lexeme → Option NamePart
  | .name n => some (.name n)
  | .symbol c => if c = '*' then some .star else none
  | _ => none

/-- The parts of a name behind its first one, each with a dot in front. -/
def nameTail : List Lexeme → List NamePart × List Lexeme
  | d :: l :: ls =>
      match if d = .symbol '.' then namePart? l else none with
      | some part => (part :: (nameTail ls).1, (nameTail ls).2)
      | none => ([], d :: l :: ls)
  | ls => ([], ls)

/-- A name; a lone `*` is none. -/
def readName : Reader Term
  | [] => none
  | l :: ls =>
      (namePart? l).bind fun part =>
        if part :: (nameTail ls).1 = [.star] then none
        else some (name (part :: (nameTail ls).1), (nameTail ls).2)

/-- A term, with arrays nested less than `n` deep. -/
def read : Nat → Reader Term
  | 0, _ => none
  | _ + 1, [] => none
  | n + 1, l :: ls =>
      match l with
      | .string s => some (string s, ls)
      | .word w => (ofWord? w).map fun t => (t, ls)
      | .name _ => readName (l :: ls)
      | .symbol c =>
          if c = '-' then
            match ls with
            | .word w :: ls => (number? w).map fun n : Nat => (int (-n), ls)
            | _ => none
          else if c = '[' then
            match skip? [.symbol ']'] ls with
            | some rest => some (array [], rest)
            | none =>
                Reader.map array
                  (Reader.bracketed '[' ']' (Reader.separated (read n) (.symbol ',') n)) (l :: ls)
          else readName (l :: ls)

end Term

/-! ### Relations -/

/-- The operators between the sides of a relation, as they are written.  One that begins with
another one stands before it. -/
def writtenOperators : List (List Lexeme × Operator) :=
  [([.symbol '!', .symbol '='], .notEq), ([.symbol '<', .symbol '='], .lessOrEq),
   ([.symbol '>', .symbol '='], .greaterOrEq), ([.symbol '='], .eq), ([.symbol '<'], .less),
   ([.symbol '>'], .greater), ([.word "LIKE"], .like), ([.word "ILIKE"], .ilike),
   ([.word "NOT", .word "LIKE"], .notLike), ([.word "BETWEEN"], .between),
   ([.word "NOT", .word "BETWEEN"], .notBetween), ([.word "IN"], .isIn),
   ([.word "NOT", .word "IN"], .notIn), ([.word "GLOBAL", .word "IN"], .globalIn),
   ([.word "GLOBAL", .word "NOT", .word "IN"], .globalNotIn)]

def readOperator : Reader Operator := fun ls =>
  writtenOperators.findSome? fun e => (skip? e.1 ls).map fun rest => (e.2, rest)

namespace Formula

/-- The bounds of a range, with their AND. -/
def readRange (t : Reader Term) (x : Term) : Reader Formula := fun ls =>
  (t ls).bind fun low =>
    (skip? [.word "AND"] low.2).bind fun rest =>
      (t rest).map fun high => (between x low.1 high.1, high.2)

/-- What stands behind the operator of a relation. -/
def readRight (t : Reader Term) (n : Nat) (x : Term) (op : Operator) : Reader Formula :=
  if op.isMembership then
    Reader.map (member op x) (Reader.bracketed '(' ')' (Reader.separated t (.symbol ',') n))
  else if op = .between then readRange t x
  else if op = .notBetween then Reader.map not (readRange t x)
  else Reader.map (compare op x) t

def readRelation (t : Reader Term) (n : Nat) : Reader Formula := fun ls =>
  (t ls).bind fun x => (readOperator x.2).bind fun op => readRight t n x.1 op.1 op.2

/-! ### Conditions -/

/-- A relation, or a condition in parentheses. -/
def readPrimary (group relation : Reader Formula) : Reader Formula := fun ls =>
  if ls.head? = some (.symbol '(') then Reader.bracketed '(' ')' group ls else relation ls

def readNegation (primary : Reader Formula) : Reader Formula
  | [] => none
  | l :: ls =>
      if l = .word "NOT" then (readNegation primary ls).map fun r => (not r.1, r.2)
      else primary (l :: ls)

/-- A condition without AND and OR outside parentheses. -/
def readItem (group : Reader Formula) (n : Nat) : Reader Formula :=
  readNegation (readPrimary group (readRelation (Term.read n) n))

/-- A condition without OR outside parentheses. -/
def readRun (group : Reader Formula) (n : Nat) : Reader Formula :=
  Reader.map allOf (Reader.separated (readItem group n) (.word "AND") n)

/-- A condition, with parentheses nested less than `n` deep. -/
def read : Nat → Reader Formula
  | 0 => fun _ => none
  | n + 1 =>
      Reader.map anyOf (Reader.separated (readRun (read n) (n + 1)) (.word "OR") (n + 1))

/-- The condition that a whole text writes. -/
def parse? (sql : String) : Option Formula :=
  (Lexeme.read? sql).bind fun ls =>
    match read ls.length ls with
    | some (φ, []) => some φ
    | _ => none

end Formula

end FluentSql
