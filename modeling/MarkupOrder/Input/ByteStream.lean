import MarkupOrder.Document

/-!
# Documents from bytes

* `decode?`: the text whose UTF-8 form some bytes are.
* `ByteStream`, `ByteStream.readText`: bytes that come in chunks, with an end or a failure behind
  them, and the text they are.
* `InputError`: why there is no text.
* `ByteStream.tokens`, `ByteStream.reorder`: the tokens of the text, and its reordered form.
* `DocumentError`: why there is no reordered form, with its message and its place in the text.
-/

namespace MarkupOrder

/-- The text whose UTF-8 form the bytes are. -/
def decode? (bytes : ByteArray) : Option Text := (String.fromUTF8? bytes).map String.toList

/-- The UTF-8 form of a text. -/
def encode (t : Text) : ByteArray := (String.ofList t).toUTF8

/-- Why bytes could not be read as a text. -/
inductive InputError where
  /-- Reading failed, for the given reason. -/
  | failed (reason : Text)
  /-- The bytes are not the UTF-8 form of a text. -/
  | notUtf8
deriving DecidableEq, Repr

namespace InputError

/-- The reason in words. -/
def reason : InputError → Text
  | failed reason => reason
  | notUtf8 => "stream did not contain valid UTF-8".toList

/-- The error message. -/
def message (e : InputError) : Text := "failed to read input: ".toList ++ e.reason

end InputError

/-- Bytes in chunks, with the reason of a failure behind them or a proper end. -/
structure ByteStream where
  chunks : List ByteArray
  failure? : Option Text

/-- Why a document could not be reordered. -/
inductive DocumentError where
  | input (e : InputError)
  | malformed (e : SyntaxError)
deriving DecidableEq, Repr

namespace DocumentError

/-- The error message. -/
def message : DocumentError → Text
  | input e => e.message
  | malformed e => e.message

/-- Where in the text the error was found, if it was found in the text. -/
def position? : DocumentError → Option Position
  | input _ => none
  | malformed e => some e.found.position

end DocumentError

namespace ByteStream

/-- All bytes of a stream. -/
def bytes (s : ByteStream) : ByteArray := s.chunks.foldl (· ++ ·) .empty

/-- The text of a stream. A failure counts even if what came before it is no text. -/
def readText (s : ByteStream) : Except InputError Text :=
  match s.failure? with
  | some reason => .error (.failed reason)
  | none =>
    match decode? s.bytes with
    | none => .error .notUtf8
    | some t => .ok t

/-- The tokens of a stream's text. -/
def tokens (s : ByteStream) : Except InputError (List Token) := s.readText.map Token.ofText

/-- The text of a stream with the attributes of each tag in order. -/
def reorder (settings : OrderSettings) (s : ByteStream) : Except DocumentError Text := do
  let t ← s.readText.mapError .input
  (Document.reorder settings t).mapError .malformed

end ByteStream

end MarkupOrder
