import MarkupOrder.Text.Basic

/-!
# Kinds of tokens

* `Kind`: the kinds; most are one punctuation character.
* `Kind.name`: the name by which messages and listings call a kind.
* `Kind.isQuote`: the two kinds that open and close quoted attribute values.
* `Kind.punctuation?`: the kind of a character that is a token by itself.
-/

namespace MarkupOrder

/-- The kind of a token. -/
inductive Kind where
  /-- The character `<`. -/
  | tagOpen
  /-- The character `>`. -/
  | tagClose
  /-- A letter and the letters and digits behind it. -/
  | identifier
  | equals
  | leftParen
  | rightParen
  | leftBracket
  | rightBracket
  | singleQuote
  | doubleQuote
  | slash
  /-- The character `!`, not behind `<`. -/
  | bang
  /-- The character `-`, not the first of `-->`. -/
  | minus
  | hash
  | atSign
  | star
  | colon
  | dot
  /-- A longest run of white space. -/
  | whitespace
  /-- The characters `<!--`. -/
  | commentStart
  /-- The characters `-->`. -/
  | commentEnd
  /-- The characters `<!`, not before `--`. -/
  | bangTagStart
  /-- Any other character. -/
  | unknown
  /-- The end of the input. -/
  | endOfStream
deriving DecidableEq, Repr

namespace Kind

/-- The name of a kind. -/
def name : Kind → String
  | tagOpen => "tag-open"
  | tagClose => "tag-close"
  | identifier => "identifier"
  | equals => "equals"
  | leftParen => "left-paren"
  | rightParen => "right-paren"
  | leftBracket => "left-bracket"
  | rightBracket => "right-bracket"
  | singleQuote => "single-quote"
  | doubleQuote => "double-quote"
  | slash => "slash"
  | bang => "bang"
  | minus => "minus"
  | hash => "hash"
  | atSign => "at"
  | star => "star"
  | colon => "colon"
  | dot => "dot"
  | whitespace => "whitespace"
  | commentStart => "comment-start"
  | commentEnd => "comment-end"
  | bangTagStart => "bang-tag-start"
  | unknown => "unknown"
  | endOfStream => "end-of-stream"

/-- Every kind, once. -/
def all : List Kind :=
  [tagOpen, tagClose, identifier, equals, leftParen, rightParen, leftBracket, rightBracket,
   singleQuote, doubleQuote, slash, bang, minus, hash, atSign, star, colon, dot, whitespace,
   commentStart, commentEnd, bangTagStart, unknown, endOfStream]

/-- Whether tokens of the kind open and close a quoted attribute value. -/
def isQuote : Kind → Bool
  | singleQuote | doubleQuote => true
  | _ => false

/-- The kind of a character that is a token by itself, whatever stands around it. -/
def punctuation? : Char → Option Kind
  | '<' => some tagOpen
  | '>' => some tagClose
  | '\x22' => some doubleQuote
  | '\x27' => some singleQuote
  | ':' => some colon
  | '.' => some dot
  | '=' => some equals
  | '(' => some leftParen
  | ')' => some rightParen
  | '[' => some leftBracket
  | ']' => some rightBracket
  | '/' => some slash
  | '!' => some bang
  | '-' => some minus
  | '#' => some hash
  | '@' => some atSign
  | '*' => some star
  | _ => none

end Kind

end MarkupOrder
