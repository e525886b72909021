import MarkupOrder.Proofs.Unicode.Classes

/-!
# Forms of names and values

* `Text.isWords`: words and marks. A word is a letter with the letters and digits behind it; which
  characters are marks depends on what is named: `isTagMark` for tags, `isNameMark` for attributes.
* `Text.splitTagName`: the part of a text that the name of a tag can take, and the rest.
* `Text.inQuotes`, `Text.isBare`: the two forms of a value.
-/

namespace MarkupOrder

open Unicode

namespace Text

/-! ## Words and marks -/

/-- Whether a character begins a word, or goes on with the one that is being read. -/
def inWordBy (inWord : Bool) (c : Char) : Bool := isAlphabetic c || (inWord && isAlphanumeric c)

/-- Whether a text consists of words and of the given marks, where its beginning may belong to a
word that is being read. -/
def isWordsFrom (mark : Char → Bool) : Bool → Text → Bool
  | _, [] => true
  | inWord, c :: t =>
    if inWordBy inWord c then isWordsFrom mark true t else mark c && isWordsFrom mark false t

/-- Whether a text consists of words and of the given marks. -/
def isWords (mark : Char → Bool) (t : Text) : Bool := isWordsFrom mark false t

/-- The mark in the names of tags. -/
def isTagMark (c : Char) : Bool := c == '-'

/-- The marks in the names of attributes. -/
def isNameMark (c : Char) : Bool :=
  c == '-' || c == ':' || c == '.' || c == '@' || c == '_' || c.isDigit

/-- Whether a text begins with a word. -/
def beginsWord (t : Text) : Bool := t.head?.any isAlphabetic

theorem beginsWord_append {t : Text} (h : t.beginsWord = true) (u : Text) :
    (t ++ u).beginsWord = true := by
  cases t with
  | nil => cases h
  | cons c t => exact h

/-- Whether a text ends in two hyphens, which before `>` are the end of a comment. -/
def endsInHyphens (t : Text) : Bool := ['-', '-'].isSuffixOf t

/-- The longest beginning of a text that goes on with the name of a tag, and the rest. -/
def splitTagNameFrom : Bool → Text → Text × Text
  | _, [] => ([], [])
  | inWord, c :: t =>
    if inWordBy inWord c then
      let (start, rest) := splitTagNameFrom true t
      (c :: start, rest)
    else if isTagMark c then
      let (start, rest) := splitTagNameFrom false t
      (c :: start, rest)
    else ([], c :: t)

/-- The part of a text that the name of a tag takes, and the rest. -/
def splitTagName (t : Text) : Text × Text := splitTagNameFrom false t

/-- The marks of names are ASCII characters, so that what holds of them can be decided. -/
theorem forall_isNameMark {P : Char → Prop}
    (h : ∀ n < 128, isNameMark (Char.ofNat n) = true → P (Char.ofNat n)) {c : Char}
    (hc : isNameMark c = true) : P c := by
  have hlt : c.toNat < 128 := by
    simp only [isNameMark, Char.isDigit, Bool.or_eq_true, beq_iff_eq, Bool.and_eq_true,
      decide_eq_true_eq] at hc
    rcases hc with ((((rfl | rfl) | rfl) | rfl) | rfl) | ⟨-, hc⟩
    case inr => exact Nat.lt_of_le_of_lt (UInt32.le_iff_toNat_le.1 hc) (by decide)
    all_goals decide
  have := h c.toNat hlt
  rw [Char.ofNat_toNat] at this
  exact this hc

theorem classes_of_isNameMark {c : Char} (h : isNameMark c = true) :
    isWhitespace c = false ∧ isAlphabetic c = false ∧ c ≠ '<' ∧ c ≠ '>' :=
  forall_isNameMark (P := fun c => isWhitespace c = false ∧ isAlphabetic c = false ∧ c ≠ '<' ∧
    c ≠ '>') (by decide +kernel) h

theorem isNameMark_of_isTagMark {c : Char} (h : isTagMark c = true) : isNameMark c = true := by
  simp_all [isTagMark, isNameMark]

theorem inWordBy_of_true {c : Char} : inWordBy true c = isAlphanumeric c := by
  cases h : isAlphabetic c <;> simp [inWordBy, h, isAlphanumeric]

theorem inWordBy_mono {c : Char} (h : inWordBy false c = true) (inWord : Bool) :
    inWordBy inWord c = true := by
  simp_all [inWordBy]

theorem isWordsFrom_mono {mark : Char → Bool} {t : Text} (h : isWordsFrom mark false t = true)
    (inWord : Bool) : isWordsFrom mark inWord t = true := by
  induction t generalizing inWord with
  | nil => rfl
  | cons c t ih =>
    rw [isWordsFrom] at h ⊢
    by_cases hc : inWordBy false c = true
    · rw [if_pos hc] at h
      rwa [if_pos (inWordBy_mono hc inWord)]
    · rw [if_neg hc, Bool.and_eq_true] at h
      split
      · exact ih h.2 true
      · exact Bool.and_eq_true_iff.2 h

theorem isWords_of_append {mark : Char → Bool} {u t : Text} {inWord : Bool}
    (h : isWordsFrom mark inWord (u ++ t) = true) : isWordsFrom mark inWord u = true := by
  induction u generalizing inWord with
  | nil => rfl
  | cons c u ih =>
    rw [List.cons_append, isWordsFrom] at h
    rw [isWordsFrom]
    split
    · rename_i hc
      rw [if_pos hc] at h
      exact ih h
    · rename_i hc
      rw [if_neg hc, Bool.and_eq_true] at h
      exact Bool.and_eq_true_iff.2 ⟨h.1, ih h.2⟩

theorem isWords_append {mark : Char → Bool} {u t : Text} {inWord : Bool}
    (hu : isWordsFrom mark inWord u = true) (ht : isWords mark t = true) :
    isWordsFrom mark inWord (u ++ t) = true := by
  induction u generalizing inWord with
  | nil => exact isWordsFrom_mono ht inWord
  | cons c u ih =>
    rw [isWordsFrom] at hu
    rw [List.cons_append, isWordsFrom]
    split
    · rename_i hc
      rw [if_pos hc] at hu
      exact ih hu
    · rename_i hc
      rw [if_neg hc, Bool.and_eq_true] at hu
      exact Bool.and_eq_true_iff.2 ⟨hu.1, ih hu.2⟩

theorem isWordsFrom_of_imp {mark mark' : Char → Bool} (himp : ∀ c, mark c = true → mark' c = true)
    {t : Text} {inWord : Bool} (h : isWordsFrom mark inWord t = true) :
    isWordsFrom mark' inWord t = true := by
  induction t generalizing inWord with
  | nil => rfl
  | cons c t ih =>
    rw [isWordsFrom] at h ⊢
    split
    · rename_i hc
      rw [if_pos hc] at h
      exact ih h
    · rename_i hc
      rw [if_neg hc, Bool.and_eq_true] at h
      exact Bool.and_eq_true_iff.2 ⟨himp c h.1, ih h.2⟩

theorem isWords_isNameMark {t : Text} (h : t.isWords isTagMark = true) :
    t.isWords isNameMark = true :=
  isWordsFrom_of_imp (fun _ => isNameMark_of_isTagMark) h

theorem forall_of_isWords {mark : Char → Bool} {t : Text} {inWord : Bool}
    (h : isWordsFrom mark inWord t = true) : ∀ c ∈ t, isAlphanumeric c = true ∨ mark c = true := by
  induction t generalizing inWord with
  | nil => simp
  | cons c t ih =>
    rw [isWordsFrom] at h
    by_cases hc : inWordBy inWord c = true
    · rw [if_pos hc] at h
      have hc : isAlphanumeric c = true := by
        cases ha : isAlphabetic c <;> simp_all [inWordBy, isAlphanumeric]
      exact List.forall_mem_cons.2 ⟨.inl hc, ih h⟩
    · rw [if_neg hc, Bool.and_eq_true] at h
      exact List.forall_mem_cons.2 ⟨.inr h.1, ih h.2⟩

/-- A word reaches as far as its letters and digits do. -/
theorem isWordsFrom_run {mark : Char → Bool} {t : Text} (h : isWordsFrom mark true t = true) :
    isWords mark (t.drop (t.run isAlphanumeric)) = true := by
  induction t with
  | nil => rfl
  | cons c t ih =>
    rw [isWordsFrom, inWordBy_of_true] at h
    by_cases hc : isAlphanumeric c = true
    · rw [if_pos hc] at h
      simpa [run, hc] using ih h
    · have ha : inWordBy false c = false := by
        simp_all [inWordBy, isAlphanumeric]
      simpa [run, hc, isWords, isWordsFrom, ha] using h

/-- Letters and digits go on with a word. -/
theorem isWordsFrom_append_of_all {mark : Char → Bool} {u t : Text}
    (hu : ∀ c ∈ u, isAlphanumeric c = true) (ht : isWords mark t = true) :
    isWordsFrom mark true (u ++ t) = true := by
  induction u with
  | nil => exact isWordsFrom_mono ht true
  | cons c u ih =>
    rw [List.cons_append, isWordsFrom, inWordBy_of_true, if_pos (hu c List.mem_cons_self)]
    exact ih fun d hd => hu d (List.mem_cons_of_mem c hd)

theorem splitTagNameFrom_run (t : Text) :
    splitTagNameFrom true t =
      (t.take (t.run isAlphanumeric) ++ (splitTagName (t.drop (t.run isAlphanumeric))).1,
        (splitTagName (t.drop (t.run isAlphanumeric))).2) := by
  induction t with
  | nil => rfl
  | cons c t ih =>
    by_cases hc : isAlphanumeric c = true
    · simp only [run] at ih
      simp [splitTagNameFrom, inWordBy_of_true, run, hc, ih]
    · have ha : inWordBy false c = false := by
        simp_all [inWordBy, isAlphanumeric]
      simp [splitTagName, splitTagNameFrom, inWordBy_of_true, run, hc, ha]

theorem splitTagNameFrom_append (inWord : Bool) (t : Text) :
    (splitTagNameFrom inWord t).1 ++ (splitTagNameFrom inWord t).2 = t := by
  induction t generalizing inWord with
  | nil => rfl
  | cons c t ih =>
    rw [splitTagNameFrom]
    split
    · simp [ih]
    · split <;> simp [ih]

theorem splitTagName_append (t : Text) : (splitTagName t).1 ++ (splitTagName t).2 = t :=
  splitTagNameFrom_append false t

theorem isWordsFrom_splitTagNameFrom (inWord : Bool) (t : Text) :
    isWordsFrom isTagMark inWord (splitTagNameFrom inWord t).1 = true := by
  fun_induction splitTagNameFrom inWord t with
  | case1 => rfl
  | case2 inWord c t hc start rest h ih => simpa [isWordsFrom, hc, h] using ih
  | case3 inWord c t hc hm start rest h ih => simpa [isWordsFrom, hc, hm, h] using ih
  | case4 => rfl

theorem isWords_splitTagName (t : Text) : (splitTagName t).1.isWords isTagMark = true :=
  isWordsFrom_splitTagNameFrom false t

/-- What the name of a tag leaves of a text begins with a mark. -/
theorem isWords_splitTagNameFrom {mark : Char → Bool} {inWord : Bool} {t : Text}
    (h : isWordsFrom mark inWord t = true) : (splitTagNameFrom inWord t).2.isWords mark = true := by
  fun_induction splitTagNameFrom inWord t with
  | case1 => rfl
  | case2 inWord c t hc start rest hs ih => simp_all [isWordsFrom]
  | case3 inWord c t hc hm start rest hs ih => simp_all [isWordsFrom]
  | case4 inWord c t hc hm =>
    rw [isWordsFrom, if_neg hc, Bool.and_eq_true] at h
    rw [isWords, isWordsFrom]
    split
    · rename_i hw
      exact absurd (inWordBy_mono hw inWord) hc
    · exact Bool.and_eq_true_iff.2 h

/-- Where the name of a tag is split off before a character, it is split off there whatever follows
this character. -/
theorem splitTagNameFrom_cut {inWord : Bool} {t start more : Text} {c : Char}
    (h : splitTagNameFrom inWord t = (start, c :: more)) :
    inWordBy false c = false ∧ isTagMark c = false ∧
      splitTagNameFrom inWord (start ++ [c]) = (start, [c]) := by
  fun_induction splitTagNameFrom inWord t generalizing start with
  | case1 => cases h
  | case2 inWord d t hd start' rest hs ih =>
    cases h
    have ih := ih hs
    simp [splitTagNameFrom, hd, ih]
  | case3 inWord d t hd hm start' rest hs ih =>
    cases h
    have ih := ih hs
    simp [splitTagNameFrom, hd, hm, ih]
  | case4 inWord d t hd hm =>
    cases h
    have hfirst : inWordBy false c = false := by
      rw [← Bool.not_eq_true]
      exact fun h => hd (inWordBy_mono h inWord)
    simp [splitTagNameFrom, hd, hm, hfirst]

theorem splitTagName_ne_nil {t : Text} (h : t.beginsWord = true) : (splitTagName t).1 ≠ [] := by
  cases t with
  | nil => simp [beginsWord] at h
  | cons c t =>
    have hc : inWordBy false c = true := by simpa [beginsWord, inWordBy] using h
    simp [splitTagName, splitTagNameFrom, hc]

/-- A text that begins with a word can be split behind any name of a tag. -/
theorem splitTagNameFrom_of_isWords {name t : Text} {inWord : Bool}
    (hname : isWordsFrom isTagMark inWord name = true) (ht : beginsWord t = true) :
    splitTagNameFrom inWord (name ++ t) = (name ++ (splitTagName t).1, (splitTagName t).2) := by
  induction name generalizing inWord with
  | nil =>
    cases t with
    | nil => simp [beginsWord] at ht
    | cons c t =>
      have hc : inWordBy false c = true := by simpa [beginsWord, inWordBy] using ht
      simp [splitTagName, splitTagNameFrom, hc, inWordBy_mono hc inWord]
  | cons c name ih =>
    rw [isWordsFrom] at hname
    rw [List.cons_append, splitTagNameFrom]
    split
    · rename_i hc
      rw [if_pos hc] at hname
      rw [ih hname, List.cons_append]
    · rename_i hc
      rw [if_neg hc, Bool.and_eq_true] at hname
      rw [if_pos hname.1, ih hname.2, List.cons_append]

/-- What the name of a tag leaves of the name of an attribute begins with a mark other than a
hyphen, and the name of the tag is split off before it whatever follows. -/
theorem splitTagName_mark {name t start more : Text} {c : Char}
    (hname : name.isWords isTagMark = true) (ht : t.isWords isNameMark = true)
    (hbegins : t.beginsWord = true) (h : splitTagName t = (start, c :: more)) : isNameMark c = true ∧ c ≠ '-' ∧
      more.isWords isNameMark = true ∧
        splitTagName (name ++ start ++ [c]) = (name ++ start, [c]) := by
  obtain ⟨hfirst, hmark, hcut⟩ := splitTagNameFrom_cut h
  have hrest : (splitTagNameFrom false t).2.isWords isNameMark = true := isWords_splitTagNameFrom ht
  rw [show splitTagNameFrom false t = _ from h, isWords, isWordsFrom, hfirst] at hrest
  simp only [Bool.false_eq_true, if_false, Bool.and_eq_true] at hrest
  have hne := splitTagName_ne_nil hbegins
  have happend := splitTagName_append t
  rw [h] at hne happend
  have hbegins' : (start ++ [c]).beginsWord = true := by
    rw [← happend] at hbegins
    cases start with
    | nil => exact absurd rfl hne
    | cons d start => exact hbegins
  refine ⟨hrest.1, by simpa [isTagMark] using hmark, hrest.2, ?_⟩
  rw [List.append_assoc, splitTagName, splitTagNameFrom_of_isWords hname hbegins', splitTagName,
    hcut]

/-! ## Values -/

/-- The characters that quote a value. -/
def isQuoteMark (c : Char) : Bool := c == '\x22' || c == '\x27'

/-- Whether a value stands in quotes: the quote it begins with comes again at its end, and only
there. -/
def inQuotes : Text → Bool
  | [] => false
  | q :: t => isQuoteMark q && t.getLast? == some q && !t.dropLast.contains q

/-- Whether a character can be part of a value that does not stand in quotes. -/
def isBareMark (c : Char) : Bool := !(isWhitespace c || c == '>' || isQuoteMark c)

theorem isBareMark_of_isAlphanumeric {c : Char} (h : isAlphanumeric c = true) :
    isBareMark c = true := by
  have hw := isWhitespace_of_isAlphanumeric h
  have hmark : c ≠ '>' ∧ c ≠ '\x22' ∧ c ≠ '\x27' := by
    refine ⟨?_, ?_, ?_⟩ <;>
      · rintro rfl
        revert h
        decide
  simp [isBareMark, isQuoteMark, hw, hmark]

theorem isBareMark_of_isNameMark {c : Char} (h : isNameMark c = true) : isBareMark c = true :=
  forall_isNameMark (P := fun c => isBareMark c = true) (by decide +kernel) h

/-- A value without quotes can go on with a name. -/
theorem isBareMark_of_isWords {t : Text} (h : t.isWords isNameMark = true) :
    t.all isBareMark = true := by
  apply List.all_eq_true.2
  intro c hc
  rcases forall_of_isWords h c hc with hc | hc
  · exact isBareMark_of_isAlphanumeric hc
  · exact isBareMark_of_isNameMark hc

/-- Whether a value can be written without quotes. -/
def isBare (t : Text) : Bool := !t.isEmpty && t.all isBareMark

theorem isBare_append {t u : Text} (ht : t.isBare = true) (hu : u.all isBareMark = true) :
    (t ++ u).isBare = true := by
  simp only [isBare, Bool.and_eq_true, Bool.not_eq_true', List.isEmpty_eq_false_iff] at ht
  simp [isBare, ht, List.all_append, hu]

theorem inQuotes_iff {t : Text} : t.inQuotes = true ↔
    ∃ q content, isQuoteMark q = true ∧ q ∉ content ∧ t = q :: (content ++ [q]) := by
  constructor
  · intro h
    cases t with
    | nil => simp [inQuotes] at h
    | cons q t =>
      simp only [inQuotes, Bool.and_eq_true, beq_iff_eq, Bool.not_eq_true',
        List.contains_eq_mem, decide_eq_false_iff_not] at h
      obtain ⟨⟨hq, hlast⟩, hmem⟩ := h
      obtain ⟨content, rfl⟩ := List.getLast?_eq_some_iff.1 hlast
      exact ⟨q, content, hq, by simpa using hmem, rfl⟩
  · rintro ⟨q, content, hq, hmem, rfl⟩
    simp [inQuotes, hq, hmem]

end Text

end MarkupOrder
