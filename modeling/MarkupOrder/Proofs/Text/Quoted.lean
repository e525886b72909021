import MarkupOrder.Proofs.Text.Forms
import MarkupOrder.Text.Quoted

/-!
# Numbers and quoted texts are read back

* `Text.decimal_injective`, `Text.hexValue_hex`: the digits of a number tell the number.
* `Quoted.next?`: reading one character of a quoted text. `Quoted.next?_escape` says that it is the
  character that was written.
* `Quoted.quote_append_inj`: a quoted text tells the text, and where it ends.
* `Quoted.filter_quote`: of white space, a quoted text holds nothing but the spaces of the text.
-/

namespace MarkupOrder

open Unicode

/-! ## Digits -/

namespace Text

/-- Two texts with a mark behind each are the same only if the texts are, where neither holds the
mark. -/
theorem append_cons_inj {s t x y : Text} {c : Char} (hs : c ∉ s) (ht : c ∉ t)
    (h : s ++ c :: x = t ++ c :: y) : s = t ∧ x = y := by
  induction s generalizing t with
  | nil =>
    cases t with
    | nil => exact ⟨rfl, (List.cons.inj h).2⟩
    | cons d t => exact absurd (List.mem_cons.2 (.inl (List.cons.inj h).1)) ht
  | cons d s ih =>
    cases t with
    | nil => exact absurd (List.mem_cons.2 (.inl (List.cons.inj h).1.symm)) hs
    | cons e t =>
      obtain ⟨rfl, htail⟩ := List.cons.inj h
      obtain ⟨rfl, hxy⟩ := ih (fun hc => hs (List.mem_cons_of_mem d hc))
        (fun hc => ht (List.mem_cons_of_mem d hc)) htail
      exact ⟨rfl, hxy⟩

theorem decimal_injective : Function.Injective decimal := by
  intro m n h
  have hvalue := congrArg (Nat.ofDigitChars 10 · 0) h
  simp only [decimal, Nat.ofDigitChars_ten_toDigits] at hvalue
  exact hvalue

theorem isDigit_of_mem_decimal {n : Nat} {c : Char} (h : c ∈ decimal n) : c.isDigit = true :=
  Nat.isDigit_of_mem_toDigits (by decide) (by decide) h

/-- The value of a lower-case hexadecimal digit. -/
def digitValue (c : Char) : Nat :=
  if c.isDigit then c.toNat - '0'.toNat else c.toNat - 'a'.toNat + 10

/-- The value of lower-case hexadecimal digits. -/
def hexValue (t : Text) : Nat := t.foldl (fun n c => 16 * n + digitValue c) 0

theorem digitValue_digitChar : ∀ d < 16, digitValue (Nat.digitChar d) = d := by decide

theorem hexValue_hex (n : Nat) : hexValue (hex n) = n := by
  induction n using Nat.strongRecOn with
  | ind n ih =>
    rw [hex, Nat.toDigits_eq_if (by decide)]
    split
    case isTrue hn => simpa [hexValue] using digitValue_digitChar n hn
    case isFalse hn =>
      have ih : (Nat.toDigits 16 (n / 16)).foldl (fun n c => 16 * n + digitValue c) 0 = n / 16 :=
        ih (n / 16) (by omega)
      have hlast := digitValue_digitChar (n % 16) (Nat.mod_lt n (by decide))
      rw [hexValue, List.foldl_append, ih, List.foldl_cons, List.foldl_nil, hlast]
      omega

/-- What holds of the sixteen digits holds of the characters of a hexadecimal number. -/
theorem forall_mem_hex {P : Char → Prop} (h : ∀ d < 16, P (Nat.digitChar d)) (n : Nat) :
    ∀ c ∈ hex n, P c := by
  induction n using Nat.strongRecOn with
  | ind n ih =>
    rw [hex, Nat.toDigits_eq_if (by decide)]
    split
    case isTrue hn => simpa using h n hn
    case isFalse hn =>
      intro c hc
      rcases List.mem_append.1 hc with hc | hc
      · exact ih (n / 16) (by omega) c hc
      · rw [List.mem_singleton.1 hc]
        exact h (n % 16) (Nat.mod_lt n (by decide))

end Text

/-! ## White space -/

/-- Of white space, only the space is printable. -/
theorem Unicode.eq_space_of_isPrintable {c : Char} (hc : isPrintable c = true)
    (hw : isWhitespace c = true) : c = ' ' := by
  have hcodes : ∀ n ∈ whitespaceRanges.codes,
      isPrintable (Char.ofNat n) = true → Char.ofNat n = ' ' := by
    decide +kernel
  have hspace := hcodes c.toNat (CodeRanges.toNat_mem_codes hw)
  rw [Char.ofNat_toNat] at hspace
  exact hspace hc

namespace Quoted

open Text

/-! ## One character -/

/-- The letters that stand behind a backslash, each with the character that it stands for. -/
def letters : List (Char × Char) :=
  [('\x22', '\x22'), ('\\', '\\'), ('0', '\x00'), ('t', '\t'), ('r', '\r'), ('n', '\n')]

/-- A character is written as a letter behind a backslash, by its code point or as it is. -/
theorem escape_cases (c : Char) :
    (∃ l, escape c = ['\\', l] ∧ (l, c) ∈ letters) ∨
      (escape c = ['\\', 'u', '\x7b'] ++ hex c.toNat ++ ['\x7d'] ∧ c ≠ ' ') ∨
      (escape c = [c] ∧ c ≠ '\x22' ∧ c ≠ '\\' ∧ isPrintable c = true) := by
  by_cases hc : c ∈ letters.map (·.2)
  · left
    simp only [letters, List.map_cons, List.map_nil, List.mem_cons, List.not_mem_nil,
      or_false] at hc
    rcases hc with rfl | rfl | rfl | rfl | rfl | rfl <;> exact ⟨_, rfl, by decide⟩
  · right
    simp only [letters, List.map_cons, List.map_nil, List.mem_cons, List.not_mem_nil,
      or_false, not_or] at hc
    obtain ⟨hquote, hslash, hnul, htab, hreturn, hline⟩ := hc
    rw [escape, if_neg hquote, if_neg hslash, if_neg hnul, if_neg htab, if_neg hreturn,
      if_neg hline]
    split
    case isTrue hcode =>
      refine .inl ⟨rfl, ?_⟩
      rintro rfl
      revert hcode
      decide +kernel
    case isFalse hcode =>
      exact .inr ⟨rfl, hquote, hslash, by simp_all⟩

/-- The character that a letter behind a backslash stands for. -/
def unescape (c : Char) : Char := (letters.lookup c).getD c

theorem unescape_of_mem {l c : Char} (h : (l, c) ∈ letters) : unescape l = c ∧ l ≠ 'u' := by
  have hall : ∀ p ∈ letters, unescape p.1 = p.2 ∧ p.1 ≠ 'u' := by decide
  exact hall _ h

/-- The first character of a quoted text, read behind the opening quote, and what follows it. There
is none where the closing quote follows. -/
def next? : Text → Option (Char × Text)
  | '\\' :: 'u' :: '\x7b' :: t =>
    some (Char.ofNat (hexValue (t.takeWhile (· != '\x7d'))), (t.dropWhile (· != '\x7d')).tail)
  | '\\' :: c :: t => some (unescape c, t)
  | '\x22' :: _ => none
  | c :: t => some (c, t)
  | [] => none

theorem next?_code (c : Char) (t : Text) :
    next? (['\\', 'u', '\x7b'] ++ hex c.toNat ++ ['\x7d'] ++ t) = some (c, t) := by
  have hhex : ∀ d ∈ hex c.toNat, (d != '\x7d') = true := forall_mem_hex (by decide) _
  have htake : (hex c.toNat ++ '\x7d' :: t).takeWhile (· != '\x7d') = hex c.toNat := by
    rw [List.takeWhile_append_of_pos hhex, List.takeWhile_cons_of_neg (by decide), List.append_nil]
  have hdrop : (hex c.toNat ++ '\x7d' :: t).dropWhile (· != '\x7d') = '\x7d' :: t := by
    rw [List.dropWhile_append_of_pos hhex, List.dropWhile_cons_of_neg (by decide)]
  have htext : ['\\', 'u', '\x7b'] ++ hex c.toNat ++ ['\x7d'] ++ t =
      '\\' :: 'u' :: '\x7b' :: (hex c.toNat ++ '\x7d' :: t) := by simp
  rw [htext, next?, htake, hdrop, hexValue_hex, Char.ofNat_toNat, List.tail_cons]

theorem next?_letter {l : Char} (h : l ≠ 'u') (t : Text) :
    next? ('\\' :: l :: t) = some (unescape l, t) := by
  rw [next?]
  exact fun _ hu => absurd hu h

theorem next?_plain {c : Char} (hquote : c ≠ '\x22') (hslash : c ≠ '\\') (t : Text) :
    next? (c :: t) = some (c, t) := by
  rw [next?]
  · exact fun _ hc _ => hslash hc
  · exact fun _ _ hc _ => hslash hc
  · exact hquote

/-- **A character is read as it was written.** -/
theorem next?_escape (c : Char) (t : Text) : next? (escape c ++ t) = some (c, t) := by
  rcases escape_cases c with ⟨l, hc, hl⟩ | ⟨hc, -⟩ | ⟨hc, hquote, hslash, -⟩
  · obtain ⟨hletter, hu⟩ := unescape_of_mem hl
    rw [hc, ← hletter]
    exact next?_letter hu t
  · rw [hc]
    exact next?_code c t
  · rw [hc]
    exact next?_plain hquote hslash t

/-! ## A whole text -/

/-- What stands between the quotes tells the text, and where it ends. -/
theorem flatMap_escape_append_inj {t u x y : Text}
    (h : t.flatMap escape ++ '\x22' :: x = u.flatMap escape ++ '\x22' :: y) : t = u ∧ x = y := by
  induction t generalizing u with
  | nil =>
    cases u with
    | nil => exact ⟨rfl, (List.cons.inj h).2⟩
    | cons d u =>
      have hnext := congrArg next? h
      rw [List.flatMap_cons, List.append_assoc, next?_escape] at hnext
      cases hnext
  | cons c t ih =>
    have hnext := congrArg next? h
    rw [List.flatMap_cons, List.append_assoc, next?_escape] at hnext
    cases u with
    | nil => cases hnext
    | cons d u =>
      rw [List.flatMap_cons, List.append_assoc, next?_escape] at hnext
      obtain ⟨rfl, htail⟩ := Prod.mk.inj (Option.some.inj hnext)
      obtain ⟨rfl, hxy⟩ := ih htail
      exact ⟨rfl, hxy⟩

theorem quote_append (t x : Text) :
    quote t ++ x = '\x22' :: (t.flatMap escape ++ '\x22' :: x) := by
  simp [quote]

/-- **A quoted text is read as it was written.** It tells the text, and where it ends. -/
theorem quote_append_inj {t u x y : Text} (h : quote t ++ x = quote u ++ y) : t = u ∧ x = y := by
  rw [quote_append, quote_append] at h
  exact flatMap_escape_append_inj (List.cons.inj h).2

theorem filter_escape (c : Char) :
    (escape c).filter isWhitespace = if c = ' ' then [' '] else [] := by
  rcases escape_cases c with ⟨l, hc, hl⟩ | ⟨hc, hspace⟩ | ⟨hc, -, -, hprint⟩
  · have hall : ∀ p ∈ letters, ['\\', p.1].filter isWhitespace = [] ∧ p.2 ≠ ' ' := by decide
    obtain ⟨hfilter, hspace⟩ := hall _ hl
    rw [hc, if_neg hspace, hfilter]
  · have hhex : (hex c.toNat).filter isWhitespace = [] :=
      List.filter_eq_nil_iff.2 (forall_mem_hex (by decide +kernel) _)
    have hmarks : ['\\', 'u', '\x7b'].filter isWhitespace = [] ∧
        ['\x7d'].filter isWhitespace = [] := by decide
    rw [hc, if_neg hspace, List.filter_append, List.filter_append, hhex, hmarks.1, hmarks.2]
    rfl
  · rw [hc]
    by_cases hspace : c = ' '
    · subst hspace
      decide
    · have hw : ¬ isWhitespace c = true := fun hw => hspace (eq_space_of_isPrintable hprint hw)
      rw [if_neg hspace, List.filter_cons_of_neg hw, List.filter_nil]

theorem filter_flatMap_escape (t : Text) :
    (t.flatMap escape).filter isWhitespace = List.replicate (t.count ' ') ' ' := by
  induction t with
  | nil => rfl
  | cons c t ih =>
    rw [List.flatMap_cons, List.filter_append, filter_escape, ih]
    by_cases hc : c = ' '
    · subst hc
      rw [if_pos rfl, List.count_cons_self, List.replicate_succ]
      rfl
    · rw [if_neg hc, List.count_cons_of_ne hc]
      rfl

/-- Of white space, a quoted text holds nothing but the spaces of the text. -/
theorem filter_quote (t : Text) :
    (quote t).filter isWhitespace = List.replicate (t.count ' ') ' ' := by
  have hmark : isWhitespace '\x22' = false := by decide
  simp [quote, hmark, filter_flatMap_escape]

end Quoted

end MarkupOrder
