import MarkupOrder.Pattern.Regex

/-!
# Modes

What a pattern's characters mean depends on flags, which the pattern itself turns on and off.

* `remainder`: what follows the part that has been read.
* `Mode`: the flags; `Mode.set?` turns one on or off by its letter.
* `Mode.skip`: in verbose mode, white space and comments are nothing.
* `Mode.gather`: the characters in front that pass a test, with nothings between them left out.
* `Mode.literal`, `Mode.fold`, `Mode.complement?`, `Mode.dot?`, `Mode.lineStart`, `Mode.lineEnd`:
  the meaning of characters, sets and anchors. Where Unicode is turned off, a set can hold only
  ASCII characters, since no other ones stand for a single byte; a character by itself can be any.
* `Mode.readFlags?`: the flags of a group.
-/

namespace MarkupOrder.Pattern

/-- What follows the part of a pattern that has been read; nothing if it could not be read. -/
def remainder {α : Type} : Option (α × Text) → Text
  | some (_, rest) => rest
  | none => []

@[simp] theorem remainder_some {α : Type} (a : α) (rest : Text) :
    remainder (some (a, rest)) = rest := rfl

theorem length_remainder_le {α : Type} {result : Option (α × Text)} {t : Text}
    (h : ∀ a rest, result = some (a, rest) → rest.length ≤ t.length) :
    (remainder result).length ≤ t.length := by
  match result with
  | none => exact Nat.zero_le _
  | some (a, rest) => exact h a rest rfl

/-- The flags that are on. -/
structure Mode where
  caseless : Bool := false
  multiLine : Bool := false
  dotAll : Bool := false
  lazyFirst : Bool := false
  unicode : Bool := true
  crlf : Bool := false
  verbose : Bool := false
deriving DecidableEq, Repr

namespace Mode

/-- Turn a flag on or off; there is no flag for most letters. -/
def set? (m : Mode) (letter : Char) (on : Bool) : Option Mode :=
  match letter with
  | 'i' => some { m with caseless := on }
  | 'm' => some { m with multiLine := on }
  | 's' => some { m with dotAll := on }
  | 'U' => some { m with lazyFirst := on }
  | 'u' => some { m with unicode := on }
  | 'R' => some { m with crlf := on }
  | 'x' => some { m with verbose := on }
  | _ => none

/-! ## Verbose mode -/

/-- What follows white space and comments; a comment runs from `#` to the end of its line. -/
def skipBlank (comment : Bool) : Text → Text
  | [] => []
  | c :: t =>
    if comment then skipBlank (c != '\n') t
    else if Unicode.isWhitespace c then skipBlank false t
    else if c = '#' then skipBlank true t
    else c :: t

/-- What follows, in verbose mode, white space and comments. -/
def skip (m : Mode) (t : Text) : Text := if m.verbose then skipBlank false t else t

theorem length_skipBlank_le (comment : Bool) (t : Text) :
    (skipBlank comment t).length ≤ t.length := by
  induction t generalizing comment with
  | nil => exact Nat.le_refl _
  | cons c t ih =>
    rw [skipBlank]
    split
    · exact Nat.le_succ_of_le (ih _)
    · split
      · exact Nat.le_succ_of_le (ih _)
      · split
        · exact Nat.le_succ_of_le (ih _)
        · exact Nat.le_refl _

theorem length_skip_le (m : Mode) (t : Text) : (m.skip t).length ≤ t.length := by
  unfold skip
  split
  · exact length_skipBlank_le _ _
  · exact Nat.le_refl _

/-- The characters in front that pass the test, and what follows them. In verbose mode, white space
and comments may stand before each of them. -/
def gather (m : Mode) (test : Char → Bool) (t : Text) : Text × Text :=
  match _h : m.skip t with
  | [] => ([], [])
  | c :: rest =>
    if test c then (c :: (m.gather test rest).1, (m.gather test rest).2) else ([], c :: rest)
termination_by t.length
decreasing_by
  all_goals
    have := m.length_skip_le t
    rw [_h] at this
    exact this

theorem length_gather_le (m : Mode) (test : Char → Bool) (t : Text) :
    (m.gather test t).2.length ≤ t.length := by
  fun_induction gather m test t with
  | case1 => exact Nat.zero_le _
  | case2 t c rest h _ ih =>
    have := m.length_skip_le t
    rw [h] at this
    exact Nat.le_trans ih (Nat.le_of_succ_le this)
  | case3 t c rest h _ =>
    have := m.length_skip_le t
    rwa [h] at this

/-- The character behind the first one, as far as a look ahead can tell. In verbose mode it passes
over white space and the mark of a comment, but not over the comment itself. -/
def second? (m : Mode) (t : Text) : Option Char :=
  let rest := t.drop 1
  if m.verbose then
    match rest.dropWhile Unicode.isWhitespace with
    | '#' :: comment => (comment.dropWhile Unicode.isWhitespace).head?.or rest.head?
    | c :: _ => some c
    | [] => rest.head?
  else rest.head?

/-! ## Meanings -/

/-- The set with all that is alike to its members up to case, if case makes no difference. -/
def fold (m : Mode) (s : CharSet) : CharSet := if m.caseless then s.caseClosure m.unicode else s

/-- The set that a character by itself stands for. -/
def literal (m : Mode) (c : Char) : CharSet := m.fold (.single c)

/-- Whether a set can list a character: any one, or only ASCII without Unicode. -/
def allows (m : Mode) (c : Char) : Bool := m.unicode || decide (c.toNat < 128)

/-- The set, or its complement if `negated`. -/
def complement? (m : Mode) (negated : Bool) (s : CharSet) : Option CharSet :=
  if negated then (if m.unicode then some s.compl else none) else some s

/-- The set that a dot matches. -/
def dot? (m : Mode) : Option CharSet :=
  if !m.unicode then none
  else if m.dotAll then some .any
  else if m.crlf then some (.compl (.ofList ['\r', '\n']))
  else some (.compl (.single '\n'))

/-- The condition that `^` stands for. -/
def lineStart (m : Mode) : Look :=
  if !m.multiLine then .textStart else if m.crlf then .crlfLineStart else .lineStart

/-- The condition that `$` stands for. -/
def lineEnd (m : Mode) : Look :=
  if !m.multiLine then .textEnd else if m.crlf then .crlfLineEnd else .lineEnd

/-! ## Flags -/

/-- The flags of a group. -/
structure Flags where
  mode : Mode
  /-- Whether there were none. -/
  isEmpty : Bool
  /-- Whether they belong to a group, `:`, and not to what is left of the group around them, `)`. -/
  isGroup : Bool

/-- Read flags up to `:` or `)`. Behind the one hyphen that there may be they are turned off; no
flag may come twice, and the hyphen not last. -/
def readFlags? (m : Mode) (seen : List Char) (on : Bool) : Text → Option (Flags × Text)
  | [] => none
  | c :: t =>
    if c = ':' ∨ c = ')' then
      if seen.head? = some '-' then none else some (⟨m, seen.isEmpty, c == ':'⟩, t)
    else if c ∈ seen then none
    else if c = '-' then readFlags? m (c :: seen) false t
    else do readFlags? (← m.set? c on) (c :: seen) on t

theorem length_of_readFlags? {m : Mode} {seen : List Char} {on : Bool} {t rest : Text}
    {flags : Flags} (h : readFlags? m seen on t = some (flags, rest)) :
    rest.length < t.length := by
  induction t generalizing m seen on with
  | nil => simp [readFlags?] at h
  | cons c t ih =>
    rw [readFlags?] at h
    split at h
    · split at h
      · simp at h
      · simp at h
        simp [h]
    · split at h
      · simp at h
      · split at h
        · exact Nat.lt_succ_of_lt (ih h)
        · cases hs : m.set? c on with
          | none => simp [hs] at h
          | some m' => exact Nat.lt_succ_of_lt (ih (by simpa [hs] using h))

end Mode

end MarkupOrder.Pattern
