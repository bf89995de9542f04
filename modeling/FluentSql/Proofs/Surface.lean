import FluentSql.Proofs.Alike

/-! # What stands outside brackets

A mark is a lexeme together with whether it stands outside brackets.  `Lexeme.mark` goes over the
lexemes of a text as the outline does, and keeps them all; the head words among its marks outside
brackets are the outline (`Lexeme.scan_eq_map_mark`).  So a text with an outline has a surface
(`surface?_of_scan`), and surfaces are put together like the texts: what is written in
parentheses lies below the surface (`surface?_parenthesized`). -/

namespace FluentSql

/-- A lexeme at its place in a text. -/
structure Mark where
  lexeme : Lexeme
  isOuter : Bool
deriving DecidableEq, Repr

namespace Mark

/-- A lexeme outside brackets. -/
def outer (l : Lexeme) : Mark := ⟨l, true⟩

/-- A lexeme within brackets. -/
def inner (l : Lexeme) : Mark := ⟨l, false⟩

/-- The head words outside brackets. -/
def heads (ms : List Mark) : List String :=
  ms.flatMap fun m => if m.isOuter then Lexeme.seen [] m.lexeme else []

@[simp] theorem heads_append (ms ns : List Mark) : heads (ms ++ ns) = heads ms ++ heads ns :=
  List.flatMap_append

/-- A head word outside brackets is one of the head words. -/
theorem mem_heads {ms : List Mark} {w : String} (hw : isHeadWord w) (h : outer (.word w) ∈ ms) :
    w ∈ heads ms := by
  refine List.mem_flatMap.mpr ⟨_, h, ?_⟩
  simp [outer, Lexeme.seen, hw]

end Mark

namespace Lexeme

/-- The lexemes with their places, where the brackets `pending` are still to close, and the
brackets to close behind them. -/
def mark (pending : List Char) : List Lexeme → Option (List Char × List Mark)
  | [] => some (pending, [])
  | l :: ls =>
      (nest pending l).bind fun pending' =>
        (mark pending' ls).map fun r => (r.1, ⟨l, pending.isEmpty⟩ :: r.2)

theorem mark_nil_eq_some_iff {p q : List Char} {ms : List Mark} :
    mark p [] = some (q, ms) ↔ q = p ∧ ms = [] := by
  rw [mark, Option.some.injEq, Prod.mk.injEq, eq_comm, @eq_comm _ []]

/-- What marking does with the first lexeme. -/
theorem mark_cons_eq_some_iff {l : Lexeme} {ls : List Lexeme} {p q : List Char} {ms : List Mark} :
    mark p (l :: ls) = some (q, ms) ↔
      ∃ p' ns, nest p l = some p' ∧ mark p' ls = some (q, ns) ∧ ms = ⟨l, p.isEmpty⟩ :: ns := by
  rw [mark, Option.bind_eq_some_iff]
  refine exists_congr fun p' => ?_
  rw [exists_and_left, Option.map_eq_some_iff]
  refine and_congr_right fun _ => ?_
  constructor
  · rintro ⟨r, hr, ⟨⟩⟩
    exact ⟨r.2, hr, rfl⟩
  · rintro ⟨ns, hns, rfl⟩
    exact ⟨(q, ns), hns, rfl⟩

theorem seen_eq (p : List Char) (l : Lexeme) : seen p l = if p.isEmpty then seen [] l else [] := by
  cases l <;> cases p <;> simp [seen]

/-- The outline is what is seen of the marks. -/
theorem scan_eq_map_mark (ls : List Lexeme) : ∀ p : List Char,
    scan p ls = (mark p ls).map fun r => (r.1, Mark.heads r.2) := by
  induction ls with
  | nil => exact fun p => rfl
  | cons l ls ih =>
      intro p
      rw [scan, mark, Option.map_bind]
      congr 1
      funext p'
      rw [ih, Option.map_map, Function.comp_apply, Option.map_map]
      congr 1
      funext r
      simp only [Function.comp_apply, Mark.heads, List.flatMap_cons, seen_eq p l]

theorem exists_mark_of_scan {p q : List Char} {ls : List Lexeme} {ws : List String}
    (h : scan p ls = some (q, ws)) : ∃ ms, mark p ls = some (q, ms) ∧ Mark.heads ms = ws := by
  rw [scan_eq_map_mark] at h
  obtain ⟨⟨q', ms⟩, hms, heq⟩ := Option.map_eq_some_iff.mp h
  obtain ⟨rfl, rfl⟩ := Prod.mk.inj heq
  exact ⟨ms, hms, rfl⟩

theorem mark_append {ls ls' : List Lexeme} : ∀ {p q r : List Char} {ms ns : List Mark},
    mark p ls = some (q, ms) → mark q ls' = some (r, ns) →
      mark p (ls ++ ls') = some (r, ms ++ ns) := by
  induction ls with
  | nil =>
      intro p q r ms ns h h'
      obtain ⟨rfl, rfl⟩ := mark_nil_eq_some_iff.mp h
      exact h'
  | cons l ls ih =>
      intro p q r ms ns h h'
      obtain ⟨p', ms', hp', hms, rfl⟩ := mark_cons_eq_some_iff.mp h
      exact mark_cons_eq_some_iff.mpr ⟨p', ms' ++ ns, hp', ih hms h', rfl⟩

/-- The lexemes of marks are those that were marked. -/
theorem map_lexeme_of_mark {ls : List Lexeme} : ∀ {p q : List Char} {ms : List Mark},
    mark p ls = some (q, ms) → ms.map Mark.lexeme = ls := by
  induction ls with
  | nil =>
      intro p q ms h
      obtain ⟨-, rfl⟩ := mark_nil_eq_some_iff.mp h
      rfl
  | cons l ls ih =>
      intro p q ms h
      obtain ⟨_, ns, -, hns, rfl⟩ := mark_cons_eq_some_iff.mp h
      rw [List.map_cons, ih hns]

/-- Within brackets nothing is outside, and the brackets around stay open. -/
theorem mark_frame {ls : List Lexeme} {base : List Char} (hbase : base ≠ []) :
    ∀ {p q : List Char} {ms : List Mark}, mark p ls = some (q, ms) →
      mark (p ++ base) ls = some (q ++ base, ls.map Mark.inner) := by
  induction ls with
  | nil =>
      intro p q ms h
      obtain ⟨rfl, -⟩ := mark_nil_eq_some_iff.mp h
      rfl
  | cons l ls ih =>
      intro p q ms h
      obtain ⟨p', ns, hp', hns, -⟩ := mark_cons_eq_some_iff.mp h
      have hopen : (p ++ base).isEmpty = false := by simp [hbase]
      exact mark_cons_eq_some_iff.mpr
        ⟨_, _, nest_frame hp' base, ih hns, by rw [hopen, List.map_cons]; rfl⟩

end Lexeme

/-! ### Surfaces of texts -/

/-- The marks of a text whose brackets match. -/
def surface? (s : String) : Option (List Mark) :=
  (Lexeme.read? s).bind fun ls =>
    (Lexeme.mark [] ls).bind fun r => if r.1 = [] then some r.2 else none

theorem surface?_eq_some {s : String} {ms : List Mark} :
    surface? s = some ms ↔
      ∃ ls, Lexeme.read? s = some ls ∧ Lexeme.mark [] ls = some ([], ms) := by
  rw [surface?, Option.bind_eq_some_iff]
  refine exists_congr fun ls => and_congr_right fun _ => ?_
  rw [Option.bind_eq_some_iff]
  constructor
  · rintro ⟨⟨q, ms'⟩, hmark, hif⟩
    obtain ⟨hq, hms⟩ := Option.ite_none_right_eq_some.mp hif
    obtain rfl : ms' = ms := Option.some.inj hms
    rw [hmark, ← hq]
  · exact fun hmark => ⟨_, hmark, if_pos rfl⟩

/-- A text with an outline has a surface, and its outline is what is seen there. -/
theorem surface?_of_scan {s : String} {ls : List Lexeme} {ws : List String}
    (hread : Lexeme.read? s = some ls) (hscan : Lexeme.scan [] ls = some ([], ws)) :
    ∃ ms, surface? s = some ms ∧ Mark.heads ms = ws := by
  obtain ⟨ms, hmark, hheads⟩ := Lexeme.exists_mark_of_scan hscan
  exact ⟨ms, surface?_eq_some.mpr ⟨ls, hread, hmark⟩, hheads⟩

/-- A text that is alike to another one has a surface, and its outline is what is seen there. -/
theorem Alike.exists_surface {f : String → String} {ws : List String} {s s' : String}
    (h : Alike f ws s s') : ∃ ms, surface? s = some ms ∧ Mark.heads ms = ws := by
  obtain ⟨ts, ⟨htokens, -⟩, hscan⟩ := h
  refine surface?_of_scan ?_ hscan
  rw [Lexeme.read?, htokens]
  rfl

/-- A text behind a fixed one. -/
theorem surface?_behind {s : String} {ms ks : List Mark} (k : String)
    (hk : k.toList.all Token.isPlain) (hend : Token.endsApart (Token.ofText k))
    (hks : Lexeme.mark [] (Lexeme.ofText k) = some ([], ks)) (hs : surface? s = some ms) :
    surface? (k ++ s) = some (ks ++ ms) := by
  obtain ⟨ls, hread, hmark⟩ := surface?_eq_some.mp hs
  exact surface?_eq_some.mpr
    ⟨_, Lexeme.read?_behind k hk hend hread, Lexeme.mark_append hks hmark⟩

/-- Texts with a fixed one between them. -/
theorem surface?_glue {s t : String} {ms ns ks : List Mark} (k : String)
    (hk : k.toList.all Token.isPlain) (hlead : Token.leads k)
    (hend : Token.endsApart (Token.ofText k))
    (hks : Lexeme.mark [] (Lexeme.ofText k) = some ([], ks)) (hs : surface? s = some ms)
    (ht : surface? t = some ns) : surface? (s ++ k ++ t) = some (ms ++ (ks ++ ns)) := by
  obtain ⟨ls, hls, hms⟩ := surface?_eq_some.mp hs
  obtain ⟨ls', hls', hns⟩ := surface?_eq_some.mp ht
  exact surface?_eq_some.mpr ⟨_, Lexeme.read?_glue k hk hlead hend hls hls',
    Lexeme.mark_append hms (Lexeme.mark_append hks hns)⟩

/-- A text between an opening bracket and its closing one lies below the surface. -/
theorem surface?_enclosed {s : String} {ms os cs : List Mark} (k l : String) (c : Char)
    (hk : k.toList.all Token.isPlain) (hend : Token.endsApart (Token.ofText k))
    (hl : l.toList.all Token.isPlain) (hlead : Token.leads l)
    (hopen : Lexeme.mark [] (Lexeme.ofText k) = some ([c], os))
    (hclose : Lexeme.mark [c] (Lexeme.ofText l) = some ([], cs)) (hs : surface? s = some ms) :
    surface? (k ++ s ++ l) = some (os ++ (ms.map (.inner ·.lexeme) ++ cs)) := by
  obtain ⟨ls, hread, hmark⟩ := surface?_eq_some.mp hs
  have hbody := Lexeme.mark_frame (List.cons_ne_nil c []) hmark
  have hread' := Lexeme.read?_behind k hk hend (Lexeme.read?_before l hl hlead hread)
  have hlexemes : ms.map (Mark.inner ·.lexeme) = ls.map Mark.inner := by
    rw [← Lexeme.map_lexeme_of_mark hmark, List.map_map]
    rfl
  rw [String.append_assoc, hlexemes]
  exact surface?_eq_some.mpr
    ⟨_, hread', Lexeme.mark_append hopen (Lexeme.mark_append hbody hclose)⟩

/-- A text in parentheses lies below the surface. -/
theorem surface?_parenthesized {s : String} {ms : List Mark} (hs : surface? s = some ms) :
    surface? ("(" ++ s ++ ")") = some (.outer (.symbol '(') ::
      (ms.map (.inner ·.lexeme) ++ [.inner (.symbol ')')])) := by
  have hclose : Lexeme.mark [')'] (Lexeme.ofText ")") = some ([], [.inner (.symbol ')')]) := by
    decide
  have hopen : Lexeme.mark [] (Lexeme.ofText "(") = some ([')'], [.outer (.symbol '(')]) := by
    decide
  exact surface?_enclosed "(" ")" ')' (by decide) (by decide) (by decide) (by decide) hopen hclose
    hs

end FluentSql
