import FluentSql.Proofs.Lexeme

/-! # Readers of lexemes

A reader takes a result from the front of a list of lexemes and returns the rest.  What it takes
from given lexemes, whatever stands behind them but for some lexemes that go on, is said by
`Reader.Takes`.  Brackets around a result and separators between results are read in the one way
that they are written (`Reader.Takes.bracketed`, `Reader.Takes.separated`). -/

namespace FluentSql

/-- A reader takes a result from the front of a list of lexemes. -/
abbrev Reader (α : Type) := List Lexeme → Option (α × List Lexeme)

/-- The lexemes behind the given ones, if those are in front. -/
def skip? : List Lexeme → List Lexeme → Option (List Lexeme)
  | [], ls => some ls
  | _ :: _, [] => none
  | k :: ks, l :: ls => if k = l then skip? ks ls else none

theorem skip?_self (l : Lexeme) (ls : List Lexeme) : skip? [l] (l :: ls) = some ls := by
  simp [skip?]

theorem skip?_eq_none {l : Lexeme} {rest : List Lexeme} (h : ∀ k ∈ rest.head?, k ≠ l) :
    skip? [l] rest = none := by
  cases rest with
  | nil => rfl
  | cons k rest => exact if_neg fun e => h k rfl e.symm

namespace Reader

variable {α β : Type}

def map (g : α → β) (p : Reader α) : Reader β := fun ls => (p ls).map fun r => (g r.1, r.2)

/-- Only the results that `g` has something for. -/
def filterMap (g : α → Option β) (p : Reader α) : Reader β := fun ls =>
  (p ls).bind fun r => (g r.1).map fun b => (b, r.2)

/-- One result behind another one. -/
def both (p : Reader α) (q : Reader β) : Reader (α × β) := fun ls =>
  (p ls).bind fun r => (q r.2).map fun s => ((r.1, s.1), s.2)

/-- A result behind a given lexeme. -/
def after (k : Lexeme) (p : Reader α) : Reader α := fun ls => (skip? [k] ls).bind p

/-- One result between two brackets. -/
def bracketed (o c : Char) (p : Reader α) : Reader α := fun ls =>
  (skip? [.symbol o] ls).bind fun inner =>
    (p inner).bind fun r => (skip? [.symbol c] r.2).map fun rest => (r.1, rest)

/-- One or more results with `sep` between them, at most `n`. -/
def separated (p : Reader α) (sep : Lexeme) : Nat → Reader (List α)
  | 0, _ => none
  | n + 1, ls =>
      (p ls).bind fun r =>
        match skip? [sep] r.2 with
        | some rest => (separated p sep n rest).map fun rs => (r.1 :: rs.1, rs.2)
        | none => some ([r.1], r.2)

/-! ### What a reader takes -/

/-- The reader takes `x` from the lexemes `ls` in front of any others but those in `ks`. -/
def Takes (p : Reader α) (ks ls : List Lexeme) (x : α) : Prop :=
  ∀ rest : List Lexeme, (∀ l ∈ rest.head?, l ∉ ks) → p (ls ++ rest) = some (x, rest)

namespace Takes

variable {p : Reader α} {ks ls : List Lexeme} {x : α}

/-- A reader that stops before some lexemes also stops before more of them. -/
theorem mono {ks' : List Lexeme} (h : p.Takes ks ls x) (hks : ks ⊆ ks') : p.Takes ks' ls x :=
  fun rest hrest => h rest fun l hl hmem => hrest l hl (hks hmem)

theorem map (h : p.Takes ks ls x) (g : α → β) : (Reader.map g p).Takes ks ls (g x) := by
  intro rest hrest
  rw [Reader.map, h rest hrest]
  rfl

theorem filterMap (h : p.Takes ks ls x) {g : α → Option β} {y : β} (hg : g x = some y) :
    (Reader.filterMap g p).Takes ks ls y := by
  intro rest hrest
  rw [Reader.filterMap, h rest hrest, Option.bind_some, hg]
  rfl

/-- The second result must begin as the first one does not go on. -/
theorem both (h : p.Takes ks ls x) {q : Reader β} {ks' : List Lexeme} {l : Lexeme}
    {ms : List Lexeme} {y : β} (hl : l ∉ ks) (hq : q.Takes ks' (l :: ms) y) :
    (Reader.both p q).Takes ks' (ls ++ l :: ms) (x, y) := by
  intro rest hrest
  have hfirst := h (l :: ms ++ rest) (by simpa using hl)
  rw [List.append_assoc, Reader.both, hfirst, Option.bind_some, hq rest hrest]
  rfl

theorem after (h : p.Takes ks ls x) (k : Lexeme) : (Reader.after k p).Takes ks (k :: ls) x := by
  intro rest hrest
  rw [List.cons_append, Reader.after, skip?_self, Option.bind_some, h rest hrest]

theorem bracketed {o c : Char} (h : p.Takes ks ls x) (hc : .symbol c ∉ ks) :
    (Reader.bracketed o c p).Takes [] (.symbol o :: (ls ++ [.symbol c])) x := by
  intro rest _
  have hinner := h (.symbol c :: rest) (by simpa using hc)
  rw [Reader.bracketed, List.cons_append, List.append_assoc, List.singleton_append, skip?_self,
    Option.bind_some, hinner, Option.bind_some, skip?_self]
  rfl

/-- Results with `sep` between them, each taken by itself. -/
theorem separated {sep : Lexeme} (hsep : sep ∉ ks) :
    ∀ {items : List (List Lexeme × α)} {n : Nat}, items ≠ [] → items.length ≤ n →
      (∀ i ∈ items, p.Takes ks i.1 i.2) →
        (Reader.separated p sep n).Takes (sep :: ks) ([sep].intercalate (items.map (·.1)))
          (items.map (·.2))
  | [], _, hne, _, _ => absurd rfl hne
  | _ :: _, 0, _, hn, _ => absurd hn (by simp)
  | [i], n + 1, _, _, hitems => by
      intro rest hrest
      have hi := hitems i List.mem_cons_self rest fun l hl hmem =>
        hrest l hl (List.mem_cons_of_mem sep hmem)
      have hend : skip? [sep] rest = none :=
        skip?_eq_none fun l hl e => hrest l hl (by simp [e])
      simp only [List.map_cons, List.map_nil, List.intercalate_singleton, Reader.separated]
      rw [hi, Option.bind_some, hend]
  | i :: j :: items, n + 1, _, hn, hitems => by
      intro rest hrest
      have hi := hitems i List.mem_cons_self
        (sep :: ([sep].intercalate ((j :: items).map (·.1)) ++ rest)) (by simpa using hsep)
      have hrest' := separated hsep (List.cons_ne_nil j items) (Nat.le_of_succ_le_succ hn)
        (fun k hk => hitems k (List.mem_cons_of_mem i hk)) rest hrest
      have hsplit : [sep].intercalate ((i :: j :: items).map (·.1)) ++ rest =
          i.1 ++ (sep :: ([sep].intercalate ((j :: items).map (·.1)) ++ rest)) := by
        simp only [List.map_cons, List.intercalate_cons_cons, List.append_assoc,
          List.cons_append, List.nil_append]
      rw [hsplit, Reader.separated, hi, Option.bind_some, skip?_self]
      simp only
      rw [hrest']
      rfl

end Takes

end Reader

end FluentSql
