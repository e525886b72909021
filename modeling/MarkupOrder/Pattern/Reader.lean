import MarkupOrder.Pattern.Bracket

/-!
# Reading patterns

A pattern is read from left to right in one loop. The groups that are open form a stack, each with
the alternatives and the pieces that have been read of it.

* `Piece`: an expression, how deep it nests, and whether it can be repeated.
* `Group`: an open group.
* `Reading`, `Reading.step?`: the state of the loop, and one step of it.
* `Regex.ofText?`: the expression that a text stands for; `none` if the text is not well-formed or
  the expression exceeds the limits `maxHeight` and `maxSize`.

The size counts a set as one step. An automaton over bytes takes several states for a large set, and
reaches the limit sooner where such a set is repeated very often.
-/

namespace MarkupOrder.Pattern

/-- A piece of a pattern. Flags that change the mode are a piece that cannot be repeated. -/
structure Piece where
  regex : Regex
  height : Nat
  repeatable : Bool

namespace Piece

/-- A piece that no other piece is part of. -/
def leaf (r : Regex) : Piece := ⟨r, 0, true⟩

/-- The piece that a set in brackets is. -/
def ofPart (p : Part) : Piece := ⟨.set p.set, p.height, true⟩

/-- The piece that only changes the mode. -/
def directive : Piece := ⟨.empty, 0, false⟩

/-- The combination of pieces; a single one stays as it is. -/
def combine (f : List Regex → Regex) : List Piece → Piece
  | [p] => p
  | [] => leaf .empty
  | ps => ⟨f (ps.map (·.regex)), ps.foldr (fun p h => Nat.max p.height h) 0 + 1, true⟩

end Piece

/-- An open group: the mode to go back to behind it, its finished alternatives, and the pieces of
the alternative that is being read. The latest come first. -/
structure Group where
  mode : Mode
  branches : List Piece
  pieces : List Piece

namespace Group

/-- The group that has just been opened. -/
def opened (m : Mode) : Group := ⟨m, [], []⟩

/-- Add a piece. -/
def add (g : Group) (p : Piece) : Group := { g with pieces := p :: g.pieces }

/-- Finish an alternative. -/
def branch (g : Group) : Group :=
  { g with branches := Piece.combine Regex.sequence g.pieces.reverse :: g.branches, pieces := [] }

/-- What the group is, without the group itself. -/
def content (g : Group) : Piece := Piece.combine Regex.choice g.branch.branches.reverse

/-- The group as a piece of the group around it. -/
def close (g : Group) : Piece := ⟨g.content.regex, g.content.height + 1, true⟩

/-- Repeat the last piece. -/
def repeatLast? (g : Group) (min : Nat) (max? : Option Nat) : Option Group :=
  match g.pieces with
  | [] => none
  | p :: ps =>
    if p.repeatable then
      some { g with pieces := ⟨Regex.repeated min max? p.regex, p.height + 1, true⟩ :: ps }
    else none

end Group

/-! ## Parts with a form of their own -/

/-- What follows the mark of a lazy repetition, if there is one. Whether a repetition is lazy makes
no difference to whether there is a match. -/
def skipLazy : Text → Text
  | '?' :: rest => rest
  | t => t

theorem length_skipLazy_le (t : Text) : (skipLazy t).length ≤ t.length := by
  unfold skipLazy
  split
  · exact Nat.le_succ _
  · exact Nat.le_refl _

/-- The largest number that a repetition can be counted with. -/
def maxCount : Nat := 0xffffffff

/-- Read a number. White space around it does not matter. -/
def readCount? (m : Mode) (t : Text) : Option (Nat × Text) :=
  match m.gather Char.isDigit (t.dropWhile Unicode.isWhitespace) with
  | ([], _) => none
  | (digits, rest) =>
    let n := digits.foldl (fun n c => 10 * n + (c.toNat - '0'.toNat)) 0
    if n ≤ maxCount then some (n, rest.dropWhile Unicode.isWhitespace) else none

/-- Read the bounds of a counted repetition, behind its opening brace. -/
def readBounds? (m : Mode) (t : Text) : Option (Nat × Option Nat × Text) := do
  let (min, rest) ← readCount? m t
  match rest with
  | '\x7d' :: rest => return (min, some min, rest)
  | ',' :: rest =>
    match m.skip rest with
    | '\x7d' :: rest => return (min, none, rest)
    | rest =>
      let (max, rest) ← readCount? m rest
      guard (min ≤ max)
      match rest with
      | '\x7d' :: rest => return (min, some max, rest)
      | _ => none
  | _ => none

/-- Whether a name of a group is well-formed: it starts with a letter or an underscore, and goes on
with letters, digits, underscores, dots and square brackets. -/
def isGroupName : Text → Bool
  | [] => false
  | c :: rest =>
    (c == '_' || Unicode.isAlphabetic c) &&
      rest.all fun c => ['_', '.', '[', ']'].contains c || Unicode.isAlphanumeric c

/-- Read the name of a group, behind its opening angle bracket. -/
def readGroupName? (t : Text) : Option (Text × Text) :=
  match t.dropWhile (· != '>') with
  | [] => none
  | _ :: rest =>
    let name := t.takeWhile (· != '>')
    if isGroupName name then some (name, rest) else none

theorem length_of_readCount? {m : Mode} {t rest : Text} {n : Nat}
    (h : readCount? m t = some (n, rest)) : rest.length ≤ t.length := by
  have h₁ := m.length_gather_le Char.isDigit (t.dropWhile Unicode.isWhitespace)
  have h₂ := (List.dropWhile_sublist Unicode.isWhitespace (l := t)).length_le
  unfold readCount? at h
  split at h
  · simp at h
  · rename_i digits tail _ ht
    rw [ht] at h₁
    have h₃ := (List.dropWhile_sublist Unicode.isWhitespace (l := tail)).length_le
    dsimp only at h h₁
    split at h
    · cases h
      omega
    · simp at h

theorem length_of_readBounds? {m : Mode} {t rest : Text} {min : Nat} {max? : Option Nat}
    (h : readBounds? m t = some (min, max?, rest)) : rest.length ≤ t.length := by
  obtain ⟨⟨n, mid⟩, hn, h⟩ := Option.bind_eq_some_iff.1 h
  dsimp only at h
  have h₁ := length_of_readCount? hn
  split at h
  · cases h
    exact Nat.le_of_succ_le h₁
  · rename_i tail
    have h₂ := m.length_skip_le tail
    simp only [List.length_cons] at h₁
    split at h
    · rename_i ht
      cases h
      rw [ht] at h₂
      simp only [List.length_cons] at h₂
      omega
    · obtain ⟨⟨k, rest'⟩, hk, h⟩ := Option.bind_eq_some_iff.1 h
      obtain ⟨_, -, h⟩ := Option.bind_eq_some_iff.1 h
      dsimp only at h
      have h₃ := length_of_readCount? hk
      split at h
      · cases h
        simp only [List.length_cons] at h₃
        omega
      · simp at h
  · simp at h

theorem length_of_readGroupName? {t name rest : Text}
    (h : readGroupName? t = some (name, rest)) : rest.length ≤ t.length := by
  have h₁ := (List.dropWhile_sublist (· != '>') (l := t)).length_le
  unfold readGroupName? at h
  split at h
  · simp at h
  · rename_i ht
    rw [ht] at h₁
    dsimp only at h
    split at h
    · cases h
      exact Nat.le_of_succ_le h₁
    · simp at h

/-! ## The loop -/

/-- What has been read of a pattern: the mode, the names of groups, the innermost open group, and
the groups around it. The last of these is the pattern as a whole. -/
structure Reading where
  mode : Mode
  names : List Text
  group : Group
  outer : List Group

namespace Reading

/-- Nothing has been read. -/
def initial : Reading := ⟨{}, [], .opened {}, []⟩

/-- Add a piece to the innermost group. -/
def add (r : Reading) (p : Piece) : Reading := { r with group := r.group.add p }

/-- Open a group. -/
def push (r : Reading) (m : Mode) : Reading :=
  { r with mode := m, group := .opened r.mode, outer := r.group :: r.outer }

/-- Open a group with a name, which no other group may have. -/
def pushNamed? (r : Reading) (name : Text) : Option Reading :=
  if r.names.contains name then none else some { r.push r.mode with names := name :: r.names }

/-- Close the innermost group, if it is one and not the pattern as a whole. -/
def pop? (r : Reading) : Option Reading :=
  match r.outer with
  | [] => none
  | g :: outer =>
    some { r with mode := r.group.mode, group := g.add r.group.close, outer }

/-- Finish an alternative of the innermost group. -/
def branch (r : Reading) : Reading := { r with group := r.group.branch }

/-- Repeat the last piece. -/
def repeatLast? (r : Reading) (min : Nat) (max? : Option Nat) : Option Reading :=
  (r.group.repeatLast? min max?).map fun group => { r with group }

/-- Whether what follows a parenthesis would look ahead or behind, which is not supported. -/
def looksAround (t : Text) : Bool :=
  t.startsWith ['?', '='] || t.startsWith ['?', '!'] || t.startsWith ['?', '<', '='] ||
    t.startsWith ['?', '<', '!']

/-- Read on behind an opening parenthesis. -/
def openGroup? (r : Reading) (t : Text) : Option (Reading × Text) :=
  let t := r.mode.skip t
  if looksAround t then none
  else
    match t with
    | '?' :: 'P' :: '<' :: rest => do
      let (name, rest) ← readGroupName? rest
      return (← r.pushNamed? name, rest)
    | '?' :: '<' :: rest => do
      let (name, rest) ← readGroupName? rest
      return (← r.pushNamed? name, rest)
    | '?' :: rest => do
      let (flags, rest) ← r.mode.readFlags? [] true rest
      if flags.isGroup then return (r.push flags.mode, rest)
      else if flags.isEmpty then none
      else return ({ r.add .directive with mode := flags.mode }, rest)
    | rest => some (r.push r.mode, rest)

/-- The piece that an atom is. -/
def pieceOf (m : Mode) : Atom → Piece
  | .char c => .leaf (.set (m.literal c))
  | .set s => .leaf (.set s)
  | .look l => .leaf (.look l)

/-- Read on from `c`, with `rest` behind it. -/
def step? (r : Reading) (c : Char) (rest : Text) : Option (Reading × Text) :=
  match c with
  | '(' => r.openGroup? rest
  | ')' => r.pop?.map (·, rest)
  | '|' => some (r.branch, rest)
  | '[' => do
    let (p, rest) ← Bracket.read? r.mode rest
    return (r.add (.ofPart p), rest)
  | '?' => (r.repeatLast? 0 (some 1)).map (·, skipLazy rest)
  | '*' => (r.repeatLast? 0 none).map (·, skipLazy rest)
  | '+' => (r.repeatLast? 1 none).map (·, skipLazy rest)
  | '\x7b' => do
    let (min, max?, rest) ← readBounds? r.mode rest
    return (← r.repeatLast? min max?, skipLazy (r.mode.skip rest))
  | '\\' => do
    let (a, rest) ← Atom.readEscape? r.mode rest
    return (r.add (pieceOf r.mode a), rest)
  | '.' => r.mode.dot?.map fun s => (r.add (.leaf (.set s)), rest)
  | '^' => some (r.add (.leaf (.look r.mode.lineStart)), rest)
  | '$' => some (r.add (.leaf (.look r.mode.lineEnd)), rest)
  | c => some (r.add (pieceOf r.mode (.char c)), rest)

theorem length_of_openGroup? {r result : Reading} {t rest : Text}
    (h : r.openGroup? t = some (result, rest)) : rest.length ≤ t.length := by
  have hs := r.mode.length_skip_le t
  unfold openGroup? at h
  dsimp only at h
  split at h
  · simp at h
  · split at h
    · rename_i ht
      rw [ht] at hs
      simp only [Option.bind_eq_bind, Option.bind_eq_some_iff, Option.pure_def, Option.some.injEq,
        Prod.mk.injEq, Prod.exists] at h
      obtain ⟨_, _, hn, _, _, _, rfl⟩ := h
      have := length_of_readGroupName? hn
      simp only [List.length_cons] at hs
      omega
    · rename_i ht
      rw [ht] at hs
      simp only [Option.bind_eq_bind, Option.bind_eq_some_iff, Option.pure_def, Option.some.injEq,
        Prod.mk.injEq, Prod.exists] at h
      obtain ⟨_, _, hn, _, _, _, rfl⟩ := h
      have := length_of_readGroupName? hn
      simp only [List.length_cons] at hs
      omega
    · rename_i ht
      rw [ht] at hs
      simp only [Option.bind_eq_bind, Option.bind_eq_some_iff, Prod.exists] at h
      obtain ⟨_, _, hf, h⟩ := h
      have := Mode.length_of_readFlags? hf
      simp only [List.length_cons] at hs
      split at h
      · cases h
        omega
      · split at h
        · simp at h
        · cases h
          omega
    · cases h
      exact hs

/-- A step takes at least the character it starts with. -/
theorem length_of_step? {r result : Reading} {c : Char} {t rest : Text}
    (h : r.step? c t = some (result, rest)) : rest.length ≤ t.length := by
  unfold step? at h
  split at h
  case h_1 => exact length_of_openGroup? h
  case h_4 =>
    simp only [Option.bind_eq_bind, Option.bind_eq_some_iff, Option.pure_def, Option.some.injEq,
      Prod.mk.injEq, Prod.exists] at h
    obtain ⟨_, _, hb, _, rfl⟩ := h
    exact Bracket.length_of_read? hb
  case h_5 | h_6 | h_7 =>
    simp only [Option.map_eq_some_iff, Prod.mk.injEq] at h
    obtain ⟨_, _, _, rfl⟩ := h
    exact length_skipLazy_le t
  case h_8 =>
    simp only [Option.bind_eq_bind, Option.bind_eq_some_iff, Option.pure_def, Option.some.injEq,
      Prod.mk.injEq, Prod.exists] at h
    obtain ⟨_, _, mid, hb, _, _, _, rfl⟩ := h
    have h₁ := length_of_readBounds? hb
    have h₂ := r.mode.length_skip_le mid
    have h₃ := length_skipLazy_le (r.mode.skip mid)
    omega
  case h_9 =>
    simp only [Option.bind_eq_bind, Option.bind_eq_some_iff, Option.pure_def, Option.some.injEq,
      Prod.mk.injEq, Prod.exists] at h
    obtain ⟨_, _, ha, _, _, _, rfl⟩ := h
    exact Nat.le_of_lt (Atom.length_of_readEscape? ha)
  all_goals
    simp only [Option.map_eq_some_iff, Option.some.injEq, Prod.mk.injEq] at h
    grind

theorem length_remainder_step?_le (r : Reading) (c : Char) (t : Text) :
    (remainder (r.step? c t)).length ≤ t.length :=
  length_remainder_le fun _ _ h => length_of_step? h

/-- Read a text to its end. -/
def run? (r : Reading) (t : Text) : Option Reading :=
  match _ht : r.mode.skip t with
  | [] => some r
  | c :: rest =>
    let result := r.step? c rest
    match result with
    | none => none
    | some (next, _) => run? next (remainder result)
termination_by t.length
decreasing_by
  have h₁ := r.mode.length_skip_le t
  have h₂ := length_remainder_step?_le r c rest
  rw [_ht] at h₁
  exact Nat.lt_of_lt_of_le (Nat.lt_succ_of_le h₂) h₁

/-- What has been read, if no group is open. -/
def finish? (r : Reading) : Option Piece := if r.outer.isEmpty then some r.group.content else none

end Reading

namespace Regex

/-- How deep a pattern may nest. -/
def maxHeight : Nat := 250

/-- How many steps an expression may have when its repetitions are written out: ten mebibytes, at
32 bytes a step. -/
def maxSize : Nat := 327680

/-- The expression that a text stands for. -/
def ofText? (t : Text) : Option Regex := do
  let p ← (← Reading.initial.run? t).finish?
  guard (p.height ≤ maxHeight ∧ p.regex.size ≤ maxSize)
  return p.regex

end Regex

end MarkupOrder.Pattern
