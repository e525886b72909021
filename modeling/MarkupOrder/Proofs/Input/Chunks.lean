import MarkupOrder.Input.ByteStream
import Mathlib.Data.List.Basic

/-!
# Texts that come in chunks

* `decode?_eq_some_iff`: decoding is the inverse of encoding, and fails on all other bytes.
* `ByteStream.toList_bytes`: the bytes of a stream are those of its chunks, one after another.
* `ByteStream.readText_eq_ok_iff`: the text of a stream.
* `ByteStream.reads_as_text`: wherever the bytes of a text are cut, its tokens and its reordered
  form are those of the text.
-/

namespace MarkupOrder

variable {bytes : ByteArray} {t : Text}

theorem toUTF8_of_fromUTF8? {u : String} : String.fromUTF8? bytes = some u ↔ u.toUTF8 = bytes := by
  unfold String.fromUTF8?
  constructor
  · intro h
    split at h
    · cases h
      rfl
    · cases h
  · rintro rfl
    rw [String.toUTF8_eq_toByteArray, dif_pos u.isValidUTF8]
    rfl

/-- Decoding is the inverse of encoding, and fails on all other bytes. -/
theorem decode?_eq_some_iff : decode? bytes = some t ↔ bytes = encode t := by
  simp only [decode?, Option.map_eq_some_iff, toUTF8_of_fromUTF8?, encode]
  constructor
  · rintro ⟨u, rfl, rfl⟩
    rw [String.ofList_toList]
  · rintro rfl
    exact ⟨_, rfl, String.toList_ofList⟩

/-- The bytes of a text are those of its characters. -/
theorem toList_encode (t : Text) : (encode t).data.toList = t.flatMap String.utf8EncodeChar := by
  rw [encode, String.toUTF8_eq_toByteArray, String.toByteArray_ofList, List.utf8Encode,
    List.data_toByteArray, List.toList_toArray]

theorem eq_encode_iff : bytes = encode t ↔ bytes.data.toList = t.flatMap String.utf8EncodeChar := by
  rw [← toList_encode, ByteArray.ext_iff, Array.toList_inj]

namespace ByteStream

/-- The bytes of a stream are those of its chunks, one after another. -/
theorem toList_bytes (s : ByteStream) :
    s.bytes.data.toList = s.chunks.flatMap (·.data.toList) := by
  obtain ⟨chunks, failure?⟩ := s
  have hfoldl (bytes : ByteArray) : (chunks.foldl (· ++ ·) bytes).data.toList =
      bytes.data.toList ++ chunks.flatMap (·.data.toList) := by
    induction chunks generalizing bytes with
    | nil => simp
    | cons chunk chunks ih => simp [ih, ByteArray.data_append]
  exact hfoldl .empty

/-- A stream is read as the text that its bytes encode, if it does not fail. -/
theorem readText_eq_ok_iff {s : ByteStream} : s.readText = .ok t ↔
    s.failure? = none ∧ s.chunks.flatMap (·.data.toList) = t.flatMap String.utf8EncodeChar := by
  rw [← toList_bytes, ← eq_encode_iff, ← decode?_eq_some_iff, readText]
  cases s.failure? with
  | some reason => simp
  | none => cases decode? s.bytes <;> simp

theorem readText_eq_notUtf8_iff {s : ByteStream} : s.readText = .error .notUtf8 ↔
    s.failure? = none ∧
      ∀ t : Text, s.chunks.flatMap (·.data.toList) ≠ t.flatMap String.utf8EncodeChar := by
  simp only [← toList_bytes, ne_eq, ← eq_encode_iff, ← decode?_eq_some_iff, readText,
    ← Option.eq_none_iff_forall_ne_some]
  cases s.failure? with
  | some reason => simp
  | none => cases decode? s.bytes <;> simp

theorem tokens_of_readText {s : ByteStream} {e : InputError} (h : s.readText = .error e) :
    s.tokens = .error e := by
  rw [tokens, h]
  rfl

theorem reorder_of_readText {s : ByteStream} {e : InputError} (settings : OrderSettings)
    (h : s.readText = .error e) : s.reorder settings = .error (.input e) := by
  rw [reorder, h]
  rfl

/-- **A stream is read as the text that it is.** Wherever the bytes of a text are cut into chunks,
also within a character, the tokens are those of the text, and the reordered form is that of the
text, or the error in it. Bytes that are no text are an input error, which has no place in a text,
and so is a failure behind any bytes. -/
theorem reads_as_text (settings : OrderSettings) (chunks : List ByteArray) :
    (∀ t : Text, chunks.flatMap (·.data.toList) = t.flatMap String.utf8EncodeChar →
      tokens ⟨chunks, none⟩ = .ok (Token.ofText t) ∧
        reorder settings ⟨chunks, none⟩ = (Document.reorder settings t).mapError .malformed) ∧
    ((∀ t : Text, chunks.flatMap (·.data.toList) ≠ t.flatMap String.utf8EncodeChar) →
      tokens ⟨chunks, none⟩ = .error .notUtf8 ∧
        reorder settings ⟨chunks, none⟩ = .error (.input .notUtf8)) ∧
    (∀ reason, tokens ⟨chunks, some reason⟩ = .error (.failed reason) ∧
      reorder settings ⟨chunks, some reason⟩ = .error (.input (.failed reason))) ∧
    ∀ e, (DocumentError.input e).position? = none := by
  refine ⟨fun t ht => ?_, fun hnone => ?_, fun reason => ?_, fun _ => rfl⟩
  · have hread : readText ⟨chunks, none⟩ = .ok t := readText_eq_ok_iff.2 ⟨rfl, ht⟩
    rw [tokens, reorder, hread]
    exact ⟨rfl, rfl⟩
  · have hread : readText ⟨chunks, none⟩ = .error .notUtf8 :=
      readText_eq_notUtf8_iff.2 ⟨rfl, hnone⟩
    exact ⟨tokens_of_readText hread, reorder_of_readText settings hread⟩
  · have hread : readText ⟨chunks, some reason⟩ = .error (.failed reason) := rfl
    exact ⟨tokens_of_readText hread, reorder_of_readText settings hread⟩

/-- The two bytes of a character may come apart. -/
theorem reads_as_text_within_character :
    tokens ⟨[⟨#[0xC3]⟩, ⟨#[]⟩, ⟨#[0xA9]⟩], none⟩ = .ok (Token.ofText "é".toList) ∧
      reorder ⟨[]⟩ ⟨[⟨#[0xC3]⟩, ⟨#[]⟩, ⟨#[0xA9]⟩], none⟩ =
        (Document.reorder ⟨[]⟩ "é".toList).mapError .malformed :=
  (reads_as_text ⟨[]⟩ [⟨#[0xC3]⟩, ⟨#[]⟩, ⟨#[0xA9]⟩]).1 "é".toList (by decide)

end ByteStream

end MarkupOrder
