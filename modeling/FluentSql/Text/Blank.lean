/-! # Blank characters and pieces of text

The blanks are the characters with the Unicode property White_Space (`blankRanges`).  `trim`
removes them from both ends of a text.  No trimmed text starts or ends with a blank, and
trimming twice is trimming once (`trimChars_trimChars`).

Pieces are put together in three ways: `words` keeps each piece as it is, `fragments` trims the
pieces first, and `commaList` separates them by commas.  The first two leave out pieces that are
empty. -/

namespace FluentSql.Text

/-- The ranges of code points with the property White_Space, both ends included. -/
def blankRanges : List (Nat × Nat) :=
  [(0x9, 0xD), (0x20, 0x20), (0x85, 0x85), (0xA0, 0xA0), (0x1680, 0x1680), (0x2000, 0x200A),
   (0x2028, 0x2029), (0x202F, 0x202F), (0x205F, 0x205F), (0x3000, 0x3000)]

/-- Whether a code point lies in one of the ranges. -/
def inRanges (ranges : List (Nat × Nat)) (n : Nat) : Bool :=
  ranges.any fun r => r.1 ≤ n && n ≤ r.2

/-- Whether `c` is white space. -/
def isBlank (c : Char) : Bool := inRanges blankRanges c.toNat

/-- `cs` without the blanks at its end. -/
def trimEnd (cs : List Char) : List Char := (cs.reverse.dropWhile isBlank).reverse

/-- `cs` without the blanks at either end. -/
def trimChars (cs : List Char) : List Char := trimEnd (cs.dropWhile isBlank)

/-- `s` without the blanks at either end. -/
def trim (s : String) : String := String.ofList (trimChars s.toList)

@[simp] theorem toList_trim (s : String) : (trim s).toList = trimChars s.toList := by
  simp [trim]

theorem dropWhile_dropWhile (p : Char → Bool) (cs : List Char) :
    (cs.dropWhile p).dropWhile p = cs.dropWhile p := by
  induction cs with
  | nil => rfl
  | cons c cs ih => by_cases h : p c <;> simp [h, ih]

@[simp] theorem trimEnd_trimEnd (cs : List Char) : trimEnd (trimEnd cs) = trimEnd cs := by
  simp [trimEnd, dropWhile_dropWhile]

theorem trimEnd_cons (c : Char) (cs : List Char) :
    trimEnd (c :: cs) =
      if trimEnd cs = [] then (if isBlank c then [] else [c]) else c :: trimEnd cs := by
  by_cases h : trimEnd cs = []
  · have hr : cs.reverse.dropWhile isBlank = [] := by simpa [trimEnd] using h
    by_cases hc : isBlank c <;> simp [trimEnd, List.dropWhile_append, hr, hc]
  · have hr : cs.reverse.dropWhile isBlank ≠ [] := by simpa [trimEnd] using h
    simp [trimEnd, List.dropWhile_append, hr]

theorem dropWhile_trimEnd (cs : List Char) :
    (trimEnd cs).dropWhile isBlank = trimEnd (cs.dropWhile isBlank) := by
  induction cs with
  | nil => rfl
  | cons c cs ih =>
    by_cases hc : isBlank c
    · by_cases h : trimEnd cs = []
      · simp [trimEnd_cons, h, hc, ← ih]
      · simp [trimEnd_cons, h, hc, ih]
    · by_cases h : trimEnd cs = [] <;> simp [trimEnd_cons, h, hc]

@[simp] theorem trimChars_nil : trimChars [] = [] := rfl

@[simp] theorem trimChars_trimChars (cs : List Char) :
    trimChars (trimChars cs) = trimChars cs := by
  simp [trimChars, dropWhile_trimEnd, dropWhile_dropWhile]

/-! ### Joining pieces -/

/-- The pieces that are not empty, separated by single spaces. -/
def words (pieces : List String) : String :=
  " ".intercalate (pieces.filter (· ≠ ""))

/-- The trimmed pieces that are not blank, separated by single spaces. -/
def fragments (pieces : List String) : String := words (pieces.map trim)

/-- The pieces separated by a comma and a space. -/
def commaList (pieces : List String) : String := ", ".intercalate pieces

/-- A keyword in front of its body, or nothing when the body is empty. -/
def clause (keyword body : String) : String :=
  if body = "" then "" else keyword ++ " " ++ body

theorem clause_eq_empty_iff (keyword body : String) : clause keyword body = "" ↔ body = "" := by
  unfold clause
  split
  · rename_i h
    simp [h]
  · rename_i h
    simp [h, ← String.toList_eq_nil_iff]

end FluentSql.Text
