import MarkupOrder.Pattern.Escape

/-!
# Sets in brackets

A set in brackets lists characters, ranges, classes and further sets in brackets; between such lists
may stand operators, which bind alike and to the left. The open brackets form a stack, so that one
loop reads sets of any depth.

* `Part`: a set, and how deep its brackets nest.
* `Bracket`, `Bracket.open?`, `Bracket.close?`: an open bracket, with what has been read of it.
* `Bracket.readPart?`: a character, a range or a class.
* `Bracket.step?`, `Bracket.read?`: one step of the loop, and the loop behind an opening bracket.
-/

namespace MarkupOrder.Pattern

/-- A set of characters, and how deep the brackets nest that it is written with. -/
structure Part where
  set : CharSet
  height : Nat

/-- The union of parts. -/
def Part.union : List Part → Part
  | [] => ⟨.empty, 0⟩
  | [p] => p
  | ps => ⟨ps.foldr (fun p s => p.set.union s) .empty, ps.foldr (fun p h => Nat.max p.height h) 0 + 1⟩

/-- The operators on sets. -/
inductive SetOp where
  | inter
  | diff
  | symmDiff
deriving DecidableEq, Repr

namespace SetOp

/-- The operator that a doubled character stands for. -/
def ofChar? : Char → Option SetOp
  | '&' => some inter
  | '-' => some diff
  | '~' => some symmDiff
  | _ => none

/-- Apply an operator. -/
def apply (op : SetOp) (m : Mode) (p q : Part) : Part :=
  let s := m.fold p.set
  let t := m.fold q.set
  ⟨match op with
    | inter => s.inter t
    | diff => s.diff t
    | symmDiff => s.symmDiff t,
   Nat.max p.height q.height + 1⟩

end SetOp

/-- An open bracket: whether the complement is meant, the operator that waits for its right side
with its left side, and the parts since then, the latest first. -/
structure Bracket where
  negated : Bool
  pending? : Option (SetOp × Part)
  parts : List Part

namespace Bracket

/-- Add a part. -/
def add (b : Bracket) (p : Part) : Bracket := { b with parts := p :: b.parts }

/-- What has been read, with the waiting operator applied. -/
def operand (m : Mode) (b : Bracket) : Part :=
  match b.pending? with
  | none => Part.union b.parts
  | some (op, left) => op.apply m left (Part.union b.parts)

/-- Let an operator wait for its right side. -/
def operate (m : Mode) (op : SetOp) (b : Bracket) : Bracket :=
  { b with pending? := some (op, b.operand m), parts := [] }

/-- The set of the bracket, now that it is closed. -/
def close? (m : Mode) (b : Bracket) : Option Part := do
  let p := b.operand m
  return ⟨← m.complement? b.negated (m.fold p.set), p.height + 1⟩

/-- Read the hyphens at the start of a bracket, or else a closing bracket, which both stand for
themselves there. -/
def readFirst? (m : Mode) (negated : Bool) (t : Text) : Option (Bracket × Text) :=
  match m.gather (· == '-') t with
  | (_, []) => none
  | ([], ']' :: rest) => some (⟨negated, none, [⟨.single ']', 0⟩]⟩, rest)
  | (hyphens, rest) => some (⟨negated, none, hyphens.map fun _ => ⟨.single '-', 0⟩⟩, rest)

/-- Read what can stand only at the start of a bracket. -/
def open? (m : Mode) (t : Text) : Option (Bracket × Text) :=
  match m.skip t with
  | '^' :: rest => readFirst? m true rest
  | rest => readFirst? m false rest

/-- Read a class that is named between colons, behind its opening bracket: its set, and whether the
complement is meant. -/
def readAscii? : Text → Option (CharSet × Bool × Text)
  | ':' :: t =>
    let negated := t.head? == some '^'
    let t := if negated then t.drop 1 else t
    match t.dropWhile (· != ':') with
    | ':' :: ']' :: rest =>
      (CharSet.asciiNamed? (t.takeWhile (· != ':'))).map (·, negated, rest)
    | _ => none
  | _ => none

/-- Read a character or an escape. -/
def readAtom? (m : Mode) : Text → Option (Atom × Text)
  | [] => none
  | c :: rest => if c = '\\' then Atom.readEscape? m rest else some (.char c, rest)

/-- The part that an atom is by itself. A condition is not a set. -/
def partOf? (m : Mode) : Atom → Option Part
  | .char c => if m.allows c then some ⟨.single c, 0⟩ else none
  | .set s => some ⟨s, 0⟩
  | .look _ => none

/-- The range between two atoms, which have to be characters in ascending order. -/
def rangeOf? (m : Mode) : Atom → Atom → Option Part
  | .char c, .char d =>
    if m.allows c ∧ m.allows d ∧ c ≤ d then some ⟨.range c d, 0⟩ else none
  | _, _ => none

/-- Read a character, a class or a range. A hyphen before a closing bracket or before another hyphen
does not make a range. -/
def readPart? (m : Mode) (t : Text) : Option (Part × Text) := do
  let (first, rest) ← readAtom? m t
  match m.skip rest with
  | '-' :: tail =>
    if m.second? ('-' :: tail) = some ']' ∨ m.second? ('-' :: tail) = some '-' then
      return (← partOf? m first, '-' :: tail)
    else
      let (last, rest) ← readAtom? m (m.skip tail)
      return (← rangeOf? m first last, rest)
  | rest => return (← partOf? m first, rest)

/-- Read on from `c` within the bracket `b`, which stands within the brackets `outer`. The result is
the set, if the outermost bracket has been closed, or the brackets that are open now. -/
def step? (m : Mode) (b : Bracket) (outer : List Bracket) (c : Char) (rest : Text) :
    Option ((Part ⊕ Bracket × List Bracket) × Text) :=
  if c = '[' then
    match readAscii? rest with
    | some (s, negated, rest) => do
      let s ← m.complement? negated (m.fold s)
      return (.inr (b.add ⟨s, 0⟩, outer), rest)
    | none => do
      let (inner, rest) ← open? m rest
      return (.inr (inner, b :: outer), rest)
  else if c = ']' then do
    let p ← b.close? m
    match outer with
    | [] => return (.inl p, rest)
    | b :: outer => return (.inr (b.add p, outer), rest)
  else
    match if rest.head? = some c then SetOp.ofChar? c else none with
    | some op => some (.inr (b.operate m op, outer), rest.drop 1)
    | none => do
      let (p, rest) ← readPart? m (c :: rest)
      return (.inr (b.add p, outer), rest)

theorem length_of_readFirst? {m : Mode} {negated : Bool} {t rest : Text} {b : Bracket}
    (h : readFirst? m negated t = some (b, rest)) : rest.length ≤ t.length := by
  have hg := m.length_gather_le (· == '-') t
  unfold readFirst? at h
  split at h
  · simp at h
  · rename_i ht
    rw [ht] at hg
    cases h
    exact Nat.le_of_succ_le hg
  · rename_i ht
    rw [ht] at hg
    cases h
    exact hg

theorem length_of_open? {m : Mode} {t rest : Text} {b : Bracket}
    (h : open? m t = some (b, rest)) : rest.length ≤ t.length := by
  have hs := m.length_skip_le t
  unfold open? at h
  split at h
  · rename_i ht
    rw [ht] at hs
    exact Nat.le_trans (length_of_readFirst? h) (Nat.le_of_succ_le hs)
  · exact Nat.le_trans (length_of_readFirst? h) hs

theorem length_of_readAscii? {t rest : Text} {s : CharSet} {negated : Bool}
    (h : readAscii? t = some (s, negated, rest)) : rest.length ≤ t.length := by
  unfold readAscii? at h
  split at h
  · rename_i tail
    dsimp only at h
    generalize hu : (if (tail.head? == some '^') = true then tail.drop 1 else tail) = u at h
    have hd : u.length ≤ tail.length := by
      rw [← hu]
      split
      · simp
      · exact Nat.le_refl _
    have hw := (List.dropWhile_sublist (· != ':') (l := u)).length_le
    split at h
    · rename_i hr
      rw [hr] at hw
      simp only [Option.map_eq_some_iff, Prod.mk.injEq] at h
      obtain ⟨_, _, _, _, rfl⟩ := h
      simp only [List.length_cons] at hw ⊢
      omega
    · simp at h
  · simp at h

theorem length_of_readAtom? {m : Mode} {t rest : Text} {a : Atom}
    (h : readAtom? m t = some (a, rest)) : rest.length < t.length := by
  unfold readAtom? at h
  split at h
  · simp at h
  · split at h
    · exact Nat.lt_succ_of_lt (Atom.length_of_readEscape? h)
    · cases h
      exact Nat.lt_succ_self _

theorem length_of_readPart? {m : Mode} {t rest : Text} {p : Part}
    (h : readPart? m t = some (p, rest)) : rest.length < t.length := by
  simp only [readPart?, Option.bind_eq_bind, Option.bind_eq_some_iff, Prod.exists] at h
  obtain ⟨first, mid, hf, h⟩ := h
  have h₁ := length_of_readAtom? hf
  have h₂ := m.length_skip_le mid
  split at h
  · rename_i tail ht
    rw [ht] at h₂
    simp only [List.length_cons] at h₂
    split at h
    · simp only [Option.bind_eq_some_iff, Option.pure_def, Option.some.injEq, Prod.mk.injEq] at h
      obtain ⟨_, _, _, rfl⟩ := h
      simp only [List.length_cons]
      omega
    · simp only [Option.bind_eq_some_iff, Option.pure_def, Option.some.injEq, Prod.mk.injEq,
        Prod.exists] at h
      obtain ⟨_, _, hl, _, _, _, rfl⟩ := h
      have h₃ := length_of_readAtom? hl
      have h₄ := m.length_skip_le tail
      omega
  · simp only [Option.bind_eq_some_iff, Option.pure_def, Option.some.injEq, Prod.mk.injEq] at h
    obtain ⟨_, _, _, rfl⟩ := h
    omega

/-- A step takes at least the character it starts with. -/
theorem length_of_step? {m : Mode} {b : Bracket} {outer : List Bracket} {c : Char}
    {t rest : Text} {result : Part ⊕ Bracket × List Bracket}
    (h : step? m b outer c t = some (result, rest)) : rest.length ≤ t.length := by
  unfold step? at h
  split at h
  · split at h
    · rename_i ha
      simp only [Option.bind_eq_bind, Option.bind_eq_some_iff, Option.pure_def, Option.some.injEq,
        Prod.mk.injEq] at h
      obtain ⟨_, _, _, rfl⟩ := h
      exact length_of_readAscii? ha
    · simp only [Option.bind_eq_bind, Option.bind_eq_some_iff, Option.pure_def, Option.some.injEq,
        Prod.mk.injEq, Prod.exists] at h
      obtain ⟨_, _, ho, _, rfl⟩ := h
      exact length_of_open? ho
  · split at h
    · simp only [Option.bind_eq_bind, Option.bind_eq_some_iff] at h
      obtain ⟨_, _, h⟩ := h
      split at h <;> cases h <;> exact Nat.le_refl _
    · split at h
      · cases h
        simp
      · simp only [Option.bind_eq_bind, Option.bind_eq_some_iff, Option.pure_def,
          Option.some.injEq, Prod.mk.injEq, Prod.exists] at h
        obtain ⟨_, _, hp, _, rfl⟩ := h
        exact Nat.le_of_lt_succ (length_of_readPart? hp)

theorem length_remainder_step?_le (m : Mode) (b : Bracket) (outer : List Bracket) (c : Char)
    (t : Text) : (remainder (step? m b outer c t)).length ≤ t.length :=
  length_remainder_le fun _ _ h => length_of_step? h

/-- Read on within the bracket `b`, which stands within the brackets `outer`, until the outermost
one is closed. -/
def readWithin? (m : Mode) (b : Bracket) (outer : List Bracket) (t : Text) :
    Option (Part × Text) :=
  match _ht : m.skip t with
  | [] => none
  | c :: rest =>
    let result := step? m b outer c rest
    match result with
    | none => none
    | some (.inl p, rest) => some (p, rest)
    | some (.inr (inner, around), _) => readWithin? m inner around (remainder result)
termination_by t.length
decreasing_by
  have h₁ := m.length_skip_le t
  have h₂ := length_remainder_step?_le m b outer c rest
  rw [_ht] at h₁
  exact Nat.lt_of_lt_of_le (Nat.lt_succ_of_le h₂) h₁

theorem length_of_readWithin? {m : Mode} {b : Bracket} {outer : List Bracket} {t rest : Text}
    {p : Part} (h : readWithin? m b outer t = some (p, rest)) : rest.length ≤ t.length := by
  fun_induction readWithin? m b outer t with
  | case1 => simp at h
  | case2 => simp at h
  | case3 b outer t c tail ht _ _ _ hs =>
    have h₁ := m.length_skip_le t
    have h₂ := length_of_step? hs
    rw [ht, List.length_cons] at h₁
    cases h
    omega
  | case4 b outer t c tail ht result _ _ _ _ ih =>
    have h₁ := m.length_skip_le t
    have h₂ : (remainder result).length ≤ tail.length :=
      length_remainder_step?_le m b outer c tail
    have h₃ := ih h
    rw [ht, List.length_cons] at h₁
    omega

/-- Read a set behind its opening bracket. -/
def read? (m : Mode) (t : Text) : Option (Part × Text) := do
  let (b, rest) ← open? m t
  readWithin? m b [] rest

theorem length_of_read? {m : Mode} {t rest : Text} {p : Part}
    (h : read? m t = some (p, rest)) : rest.length ≤ t.length := by
  simp only [read?, Option.bind_eq_bind, Option.bind_eq_some_iff, Prod.exists] at h
  obtain ⟨_, _, ho, hw⟩ := h
  exact Nat.le_trans (length_of_readWithin? hw) (length_of_open? ho)

end Bracket

end MarkupOrder.Pattern
