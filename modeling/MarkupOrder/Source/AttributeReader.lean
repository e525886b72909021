import MarkupOrder.Markup.Attribute
import MarkupOrder.Source.SyntaxError

/-!
# Reading attributes

* `Lexeme.upTo`: the text of the lexemes before the first one that passes a test.
* `Wrapper.read?`, `Wrapper.close`: the opening and the closing part of a wrapper.
* `Attribute.readValue`: the value behind `=`, quoted or not.
* `Attribute.read`: an attribute; `Attribute.length_of_read` says that it is never empty.
-/

namespace MarkupOrder

namespace Lexeme

/-- The text of the lexemes before the first one that passes the test, and that one with all that
follows it. -/
def upTo (stop : Lexeme → Bool) (ls : List Lexeme) : Text × List Lexeme :=
  (joined (ls.takeWhile fun l => !stop l), ls.dropWhile fun l => !stop l)

theorem length_upTo_le (stop : Lexeme → Bool) (ls : List Lexeme) :
    (upTo stop ls).2.length ≤ ls.length :=
  (List.dropWhile_sublist _).length_le

theorem upTo_of_stop {stop : Lexeme → Bool} {l : Lexeme} (h : stop l = true) (ls : List Lexeme) :
    upTo stop (l :: ls) = ([], l :: ls) := by
  simp [upTo, h]

theorem upTo_of_go {stop : Lexeme → Bool} {l : Lexeme} (h : stop l = false) (ls : List Lexeme) :
    upTo stop (l :: ls) = (l.text ++ (upTo stop ls).1, (upTo stop ls).2) := by
  simp [upTo, h]

/-- Whether a lexeme can be part of an attribute's name: identifiers, the marks `-`, `:`, `.` and
`@`, ASCII digits and the underscore. -/
def isNamePart (l : Lexeme) : Bool :=
  match l.kind with
  | .identifier | .minus | .colon | .dot | .atSign => true
  | .unknown => l.text.all fun c => c.isDigit || c == '_'
  | _ => false

/-- Whether a lexeme ends an unquoted value. -/
def endsValue (l : Lexeme) : Bool :=
  match l.kind with
  | .whitespace | .tagClose | .commentEnd => true
  | kind => kind.isQuote

end Lexeme

namespace Wrapper

/-- The opening part of a wrapper, and what the name begins with: the identifier of a plain name,
nothing else yet in a wrapper of punctuation. -/
def read? : List Lexeme → Option (Wrapper × Text × List Lexeme)
  | [] => none
  | l :: rest =>
    match l.kind with
    | .identifier => some (.plain, l.text, rest)
    | .leftParen => some (.paren, [], rest)
    | .leftBracket =>
      match rest with
      | ⟨.leftParen, _⟩ :: rest => some (.twoWay, [], rest)
      | _ => some (.bracket, [], rest)
    | .hash => some (.hash, [], rest)
    | .atSign => some (.atSign, [], rest)
    | .star => some (.star, [], rest)
    | _ => none

/-- The closing part of a wrapper. -/
def close : Wrapper → List Lexeme → Except Failure (List Lexeme)
  | .paren, ls => Expectation.parenEnd.meet ls
  | .bracket, ls => Expectation.bracketEnd.meet ls
  | .twoWay, ls => do Expectation.bracketEnd.meet (← Expectation.parenEnd.meet ls)
  | _, ls => .ok ls

theorem length_of_read? {ls rest : List Lexeme} {w : Wrapper} {start : Text}
    (h : read? ls = some (w, start, rest)) : rest.length < ls.length := by
  unfold read? at h
  split at h
  · simp at h
  · split at h <;> try split at h
    all_goals
      simp only [Option.some.injEq, Prod.mk.injEq, reduceCtorEq] at h
    all_goals
      obtain ⟨_, _, rfl⟩ := h
      simp only [List.length_cons]
      omega

theorem length_of_close {w : Wrapper} {ls rest : List Lexeme} (h : w.close ls = .ok rest) :
    rest.length ≤ ls.length := by
  cases w with
  | plain | hash | atSign | star => cases h; exact Nat.le_refl _
  | paren | bracket => have := Expectation.length_of_meet h; omega
  | twoWay =>
    obtain ⟨mid, hp, hb⟩ := Failure.bind_eq_ok_iff.1 h
    have h₁ := Expectation.length_of_meet hp
    have h₂ := Expectation.length_of_meet hb
    omega

end Wrapper

namespace Attribute

/-- An unquoted value runs up to white space, `>` or a quote. Where it meets `-->`, the two hyphens
belong to the value and the `>` to the tag. -/
def readUnquoted (ls : List Lexeme) : Except Failure (Text × List Lexeme) :=
  match Lexeme.upTo Lexeme.endsValue ls with
  | (value, ⟨.commentEnd, _⟩ :: rest) => .ok (value ++ ['-', '-'], ⟨.tagClose, ['>']⟩ :: rest)
  | ([], rest) => .error ⟨.attributeValue, rest⟩
  | (value, rest) => .ok (value, rest)

/-- A quoted value begins with a quote, runs up to the same quote, and keeps both. -/
def readQuoted (quote : Lexeme) (ls : List Lexeme) : Except Failure (Text × List Lexeme) :=
  if quote.kind.isQuote then do
    let (content, rest) := Lexeme.upTo (fun l => l.kind == quote.kind) ls
    let rest ← (Expectation.quoteEnd quote.kind).meet rest
    return (quote.text ++ content ++ quote.text, rest)
  else .error ⟨.quoteStart, quote :: ls⟩

/-- The value behind `=`. -/
def readValue : List Lexeme → Except Failure (Text × List Lexeme)
  | [] => readUnquoted []
  | l :: rest => if l.kind.isQuote then readQuoted l rest else readUnquoted (l :: rest)

/-- The value of an attribute, if `=` follows its name. -/
def readAssignment? : List Lexeme → Except Failure (Option Text × List Lexeme)
  | ⟨.equals, _⟩ :: rest => do
    let (value, rest) ← readValue rest
    return (some value, rest)
  | ls => .ok (none, ls)

/-- An attribute. -/
def read (ls : List Lexeme) : Except Failure (Attribute × List Lexeme) :=
  match Wrapper.read? ls with
  | none => .error ⟨.attributeName, ls⟩
  | some (wrapper, start, rest) => do
    let (name, rest) := Lexeme.upTo (fun l => !l.isNamePart) rest
    let rest ← wrapper.close rest
    let (value?, rest) ← readAssignment? rest
    return (⟨start ++ name, wrapper, value?⟩, rest)

theorem length_of_readUnquoted {ls rest : List Lexeme} {value : Text}
    (h : readUnquoted ls = .ok (value, rest)) : rest.length ≤ ls.length := by
  have hle := Lexeme.length_upTo_le Lexeme.endsValue ls
  unfold readUnquoted at h
  split at h <;> simp_all
  · obtain ⟨rfl, rfl⟩ := h
    exact hle

theorem length_of_readQuoted {quote : Lexeme} {ls rest : List Lexeme} {value : Text}
    (h : readQuoted quote ls = .ok (value, rest)) : rest.length ≤ ls.length := by
  unfold readQuoted at h
  split at h
  case isFalse => cases h
  obtain ⟨mid, hm, hv⟩ := Failure.bind_eq_ok_iff.1 h
  have h₁ := Lexeme.length_upTo_le (fun l => l.kind == quote.kind) ls
  have h₂ : (Lexeme.upTo (fun l => l.kind == quote.kind) ls).2.length = mid.length + 1 :=
    Expectation.length_of_meet hm
  cases hv
  omega

theorem length_of_readValue {ls rest : List Lexeme} {value : Text}
    (h : readValue ls = .ok (value, rest)) : rest.length ≤ ls.length := by
  unfold readValue at h
  split at h
  · exact length_of_readUnquoted h
  · split at h
    · have := length_of_readQuoted h
      simp only [List.length_cons]
      omega
    · exact length_of_readUnquoted h

theorem length_of_readAssignment? {ls rest : List Lexeme} {value? : Option Text}
    (h : readAssignment? ls = .ok (value?, rest)) : rest.length ≤ ls.length := by
  unfold readAssignment? at h
  split at h
  · obtain ⟨⟨value, mid⟩, hr, hv⟩ := Failure.bind_eq_ok_iff.1 h
    cases hv
    exact Nat.le_succ_of_le (length_of_readValue hr)
  · cases h
    exact Nat.le_refl _

/-- An attribute has at least one lexeme. -/
theorem length_of_read {ls rest : List Lexeme} {a : Attribute} (h : read ls = .ok (a, rest)) :
    rest.length < ls.length := by
  unfold read at h
  split at h
  · cases h
  · rename_i wrapper start tail hw
    obtain ⟨mid, hc, h⟩ := Failure.bind_eq_ok_iff.1 h
    obtain ⟨⟨value?, behind⟩, hr, hv⟩ := Failure.bind_eq_ok_iff.1 h
    have h₁ := Wrapper.length_of_read? hw
    have h₂ := Lexeme.length_upTo_le (fun l => !l.isNamePart) tail
    have h₃ : mid.length ≤ (Lexeme.upTo (fun l => !l.isNamePart) tail).2.length :=
      Wrapper.length_of_close hc
    have h₄ := length_of_readAssignment? hr
    cases hv
    omega

theorem length_remainder_read_lt (l : Lexeme) (rest : List Lexeme) :
    (remainder (read (l :: rest))).length < (l :: rest).length := by
  cases h : read (l :: rest) with
  | error f => exact Nat.zero_lt_succ _
  | ok result => exact length_of_read h

end Attribute

end MarkupOrder
