import MarkupOrder.Pattern.Mode
import MarkupOrder.Pattern.Property

/-!
# Escapes

* `Atom`: what an escape can stand for.
* `Atom.readHex?`, `Atom.readProperty?`, `Atom.readWordEdge?`: the escapes that have a longer form.
* `Atom.readEscape?`: the escape behind a backslash; `Atom.length_of_readEscape?` says that it is
  not empty.
-/

namespace MarkupOrder.Pattern

/-- What an escape stands for. A character keeps its own constructor, since only characters bound
ranges. -/
inductive Atom where
  | char (c : Char)
  | set (s : CharSet)
  | look (l : Look)

namespace Atom

/-- The value of a hexadecimal digit. -/
def hexDigit? (c : Char) : Option Nat :=
  if c.isDigit then some (c.toNat - '0'.toNat)
  else if 'a' ≤ c ∧ c ≤ 'f' then some (c.toNat - 'a'.toNat + 10)
  else if 'A' ≤ c ∧ c ≤ 'F' then some (c.toNat - 'A'.toNat + 10)
  else none

/-- The character of a code point; surrogates and numbers beyond the last one have none. -/
def charOf? (n : Nat) : Option Char := if n.isValidChar then some (Char.ofNat n) else none

/-- Read a fixed number of hexadecimal digits, behind digits of value `n`. -/
def readHexDigits? (m : Mode) : Nat → Nat → Text → Option (Nat × Text)
  | 0, n, t => some (n, t)
  | count + 1, n, t =>
    match m.skip t with
    | [] => none
    | c :: rest => do readHexDigits? m count (16 * n + (← hexDigit? c)) rest

/-- Read a code point: the given number of hexadecimal digits, or any number of them in braces.
Without Unicode two digits stand for a byte, and one beyond ASCII is no character. -/
def readHex? (m : Mode) (count : Nat) (t : Text) : Option (Atom × Text) :=
  match m.skip t with
  | '\x7b' :: rest =>
    match m.gather (fun c => (hexDigit? c).isSome) rest with
    | ([], _) => none
    | (digits, '\x7d' :: rest) =>
      (charOf? (digits.foldl (fun n c => 16 * n + (hexDigit? c).getD 0) 0)).map (char ·, rest)
    | _ => none
  | rest => do
    let (n, rest) ← readHexDigits? m count 0 rest
    guard (m.unicode || count != 2 || decide (n < 128))
    return (char (← charOf? n), rest)

/-- Read the name of a property: a letter, or a text in braces. -/
def readPropertyName? (m : Mode) (t : Text) : Option (Text × Text) :=
  match m.skip t with
  | [] => none
  | '\x7b' :: rest =>
    match m.gather (· != '\x7d') rest with
    | (_, []) => none
    | (name, _ :: rest) => some (name, rest)
  | c :: rest => if c = '\\' then none else some ([c], rest)

/-- Read a property, or the complement of one. -/
def readProperty? (m : Mode) (negated : Bool) (t : Text) : Option (Atom × Text) := do
  guard m.unicode
  let (name, rest) ← readPropertyName? m t
  let (s, other) ← Property.query? name
  return (set (← m.complement? (negated != other) (m.fold s)), rest)

/-- The edges of words that have a name. -/
def wordEdge? (name : Text) : Option WordEdge :=
  if name = "start".toList then some .start
  else if name = "end".toList then some .finish
  else if name = "start-half".toList then some .startHalf
  else if name = "end-half".toList then some .finishHalf
  else none

/-- Whether a character can be part of the name of an edge. -/
def isEdgeLetter (c : Char) : Bool := c.isAlpha || c == '-'

/-- Read the edge of a word, which may be named in braces. Braces that do not begin with a letter
are left to be read as a repetition. -/
def readWordEdge? (m : Mode) (t : Text) : Option (Atom × Text) :=
  let plain : Option (Atom × Text) := some (look (.word .boundary m.unicode), t)
  match t with
  | '\x7b' :: rest =>
    match m.skip rest with
    | [] => none
    | c :: _ =>
      if isEdgeLetter c then
        match m.gather isEdgeLetter rest with
        | (name, '\x7d' :: rest) => (wordEdge? name).map fun edge => (look (.word edge m.unicode), rest)
        | _ => none
      else plain
  | _ => plain

/-- Whether a backslash before the character makes it stand for itself: ASCII characters other than
letters, digits and angle brackets. -/
def isPlainEscape (c : Char) : Bool :=
  decide (c.toNat < 128) && !(c.isAlphanum || c == '<' || c == '>')

/-- The characters that a letter behind a backslash stands for. -/
def control? : Char → Option Char
  | 'a' => some '\x07'
  | 'f' => some '\x0c'
  | 't' => some '\t'
  | 'n' => some '\n'
  | 'r' => some '\r'
  | 'v' => some '\x0b'
  | _ => none

/-- The conditions that a character behind a backslash stands for. -/
def condition? (m : Mode) : Char → Option Look
  | 'A' => some .textStart
  | 'z' => some .textEnd
  | 'B' => some (.word .inside m.unicode)
  | '<' => some (.word .start m.unicode)
  | '>' => some (.word .finish m.unicode)
  | _ => none

/-- The classes that a letter behind a backslash stands for. An upper-case letter stands for the
complement. -/
def class? (m : Mode) : Char → Option CharSet
  | 'd' => some (.digit m.unicode)
  | 's' => some (.space m.unicode)
  | 'w' => some (.word m.unicode)
  | 'D' => m.complement? true (.digit m.unicode)
  | 'S' => m.complement? true (.space m.unicode)
  | 'W' => m.complement? true (.word m.unicode)
  | _ => none

/-- Read the escape behind a backslash. -/
def readEscape? (m : Mode) : Text → Option (Atom × Text)
  | [] => none
  | c :: rest =>
    match c with
    | 'x' => readHex? m 2 rest
    | 'u' => readHex? m 4 rest
    | 'U' => readHex? m 8 rest
    | 'p' => readProperty? m false rest
    | 'P' => readProperty? m true rest
    | 'b' => readWordEdge? m rest
    | c =>
      if isPlainEscape c then some (char c, rest)
      else
        (((control? c).map char).or (((condition? m c).map look).or ((class? m c).map set))).map
          (·, rest)

theorem length_of_readHexDigits? {m : Mode} {count n k : Nat} {t rest : Text}
    (h : readHexDigits? m count n t = some (k, rest)) : rest.length ≤ t.length := by
  induction count generalizing n t with
  | zero => cases h; exact Nat.le_refl _
  | succ count ih =>
    have hs := m.length_skip_le t
    rw [readHexDigits?] at h
    split at h
    · simp at h
    · rename_i c tail hc
      rw [hc] at hs
      cases hd : hexDigit? c with
      | none => simp [hd] at h
      | some d => exact Nat.le_trans (ih (by simpa [hd] using h)) (Nat.le_of_succ_le hs)

theorem length_of_readHex? {m : Mode} {count : Nat} {t rest : Text} {a : Atom}
    (h : readHex? m count t = some (a, rest)) : rest.length ≤ t.length := by
  have hs := m.length_skip_le t
  unfold readHex? at h
  split at h
  · rename_i tail ht
    rw [ht] at hs
    have hg := m.length_gather_le (fun c => (hexDigit? c).isSome) tail
    split at h
    · simp at h
    · rename_i digits rest' _ hd
      rw [hd] at hg
      simp only [List.length_cons] at hg hs
      simp only [Option.map_eq_some_iff, Prod.mk.injEq] at h
      obtain ⟨_, _, _, rfl⟩ := h
      omega
    · simp at h
  · obtain ⟨⟨k, rest'⟩, hd, h⟩ := Option.bind_eq_some_iff.1 h
    obtain ⟨_, -, h⟩ := Option.bind_eq_some_iff.1 h
    obtain ⟨c, -, h⟩ := Option.bind_eq_some_iff.1 h
    cases h
    exact Nat.le_trans (length_of_readHexDigits? hd) hs

theorem length_of_readPropertyName? {m : Mode} {t name rest : Text}
    (h : readPropertyName? m t = some (name, rest)) : rest.length ≤ t.length := by
  have hs := m.length_skip_le t
  unfold readPropertyName? at h
  split at h
  · simp at h
  · rename_i tail ht
    rw [ht] at hs
    have hg := m.length_gather_le (· != '\x7d') tail
    split at h
    · simp at h
    · rename_i hd
      rw [hd] at hg
      simp only [List.length_cons] at hg hs
      cases h
      omega
  · rename_i ht
    rw [ht] at hs
    split at h
    · simp at h
    · cases h
      exact Nat.le_of_succ_le hs

theorem length_of_readProperty? {m : Mode} {negated : Bool} {t rest : Text} {a : Atom}
    (h : readProperty? m negated t = some (a, rest)) : rest.length ≤ t.length := by
  obtain ⟨_, -, h⟩ := Option.bind_eq_some_iff.1 h
  obtain ⟨⟨name, rest'⟩, hn, h⟩ := Option.bind_eq_some_iff.1 h
  obtain ⟨⟨q, other⟩, -, h⟩ := Option.bind_eq_some_iff.1 h
  obtain ⟨s, -, h⟩ := Option.bind_eq_some_iff.1 h
  cases h
  exact length_of_readPropertyName? hn

theorem length_of_readWordEdge? {m : Mode} {t rest : Text} {a : Atom}
    (h : readWordEdge? m t = some (a, rest)) : rest.length ≤ t.length := by
  unfold readWordEdge? at h
  split at h
  · rename_i tail
    have hg := m.length_gather_le isEdgeLetter tail
    split at h
    · simp at h
    · split at h
      · split at h
        · rename_i hd
          rw [hd] at hg
          simp only [Option.map_eq_some_iff, Prod.mk.injEq] at h
          obtain ⟨_, _, _, rfl⟩ := h
          simp only [List.length_cons] at hg ⊢
          omega
        · simp at h
      · cases h; exact Nat.le_refl _
  · cases h; exact Nat.le_refl _

/-- An escape takes at least the character behind the backslash. -/
theorem length_of_readEscape? {m : Mode} {t rest : Text} {a : Atom}
    (h : readEscape? m t = some (a, rest)) : rest.length < t.length := by
  unfold readEscape? at h
  split at h
  · simp at h
  · refine Nat.lt_succ_of_le ?_
    split at h
    · exact length_of_readHex? h
    · exact length_of_readHex? h
    · exact length_of_readHex? h
    · exact length_of_readProperty? h
    · exact length_of_readProperty? h
    · exact length_of_readWordEdge? h
    · split at h
      · cases h; exact Nat.le_refl _
      · simp only [Option.map_eq_some_iff, Prod.mk.injEq] at h
        obtain ⟨_, _, _, rfl⟩ := h
        exact Nat.le_refl _

end Atom

end MarkupOrder.Pattern
