import MarkupOrder.Token.Lexeme
import MarkupOrder.Proofs.Unicode.Classes
import Mathlib.Data.List.TakeWhile

/-!
# Where lexemes end

Lexemes are cut off from left to right, each as long as it can be. So a list of lexemes is cut out
of its text again if every one of them is whole and takes in nothing of what follows.

* `Lexeme.IsWhole`: the lexeme's text, read by itself, is this one lexeme.
* `Lexeme.drawsIn`: whether a lexeme would take in something of the text behind it.
* `Lexeme.Stands`: the lexemes of a list stay as they are when a text follows them.
  `Stands.ofText_append` cuts them off, and `stands_ofText` says that what has been cut off stands.
-/

namespace MarkupOrder.Text

@[simp] theorem startsWith_iff {t start : Text} : t.startsWith start = true ↔ start <+: t :=
  List.isPrefixOf_iff_prefix

@[simp] theorem startsWith_eq_false_iff {t start : Text} :
    t.startsWith start = false ↔ ¬ start <+: t := by
  rw [← startsWith_iff, Bool.not_eq_true]

theorem run_append {test : Char → Bool} {r t : Text} (h : r.run test = r.length)
    (ht : t.head?.any test = false) : Text.run test (r ++ t) = r.length := by
  have hr : (r.takeWhile test).length = r.length := h
  have htake : t.takeWhile test = [] := by
    cases t with
    | nil => rfl
    | cons c t => exact List.takeWhile_cons_of_neg (by simpa using ht)
  rw [run, List.takeWhile_append, if_pos hr, htake, List.append_nil]

theorem forall_of_run {test : Char → Bool} {t : Text} (h : t.run test = t.length) :
    ∀ c ∈ t, test c = true :=
  List.takeWhile_eq_self_iff.1 ((List.takeWhile_prefix test).eq_of_length h)

theorem run_of_all {test : Char → Bool} {t : Text} (h : t.all test = true) :
    t.run test = t.length := by
  rw [run, List.takeWhile_eq_self_iff.2 (List.all_eq_true.1 h)]

theorem run_take_run (test : Char → Bool) (t : Text) :
    Text.run test (t.take (t.run test)) = t.run test := by
  induction t with
  | nil => rfl
  | cons c t ih =>
    by_cases hc : test c = true
    · simpa [run, hc] using ih
    · simp [run, hc]

theorem head?_drop_run (test : Char → Bool) (t : Text) :
    (t.drop (t.run test)).head?.any test = false := by
  induction t with
  | nil => rfl
  | cons c t ih =>
    by_cases hc : test c = true
    · simpa [run, hc] using ih
    · simp [run, hc]

end MarkupOrder.Text

namespace MarkupOrder.Lexeme

open Unicode

/-! ## Whole lexemes -/

/-- A lexeme is whole if its text, read by itself, is this one lexeme. -/
def IsWhole (l : Lexeme) : Prop := ofText l.text = [l]

/-- Whether a lexeme that stands directly before a text would take in some of it. -/
def drawsIn (l : Lexeme) (t : Text) : Bool :=
  match l.kind with
  | .whitespace => t.head?.any isWhitespace
  | .identifier => t.head?.any isAlphanumeric
  | .tagOpen => t.startsWith ['!']
  | .bangTagStart => t.startsWith ['-', '-']
  | .minus => t.startsWith ['-', '>']
  | _ => false

/-- `Leads rest c k n`: before `rest`, the character `c` starts a lexeme of kind `k` that takes in
`n` characters of `rest`. -/
inductive Leads (rest : Text) : Char → Kind → Nat → Prop
  | whitespace {c : Char} (h : isWhitespace c = true) :
    Leads rest c .whitespace (rest.run isWhitespace)
  | commentStart (h : ['!', '-', '-'] <+: rest) : Leads rest '<' .commentStart 3
  | bangTagStart (h : ['!'] <+: rest) (hc : ¬ ['!', '-', '-'] <+: rest) :
    Leads rest '<' .bangTagStart 1
  | commentEnd (h : ['-', '>'] <+: rest) : Leads rest '-' .commentEnd 2
  | punctuation {c : Char} {k : Kind} (h : Kind.punctuation? c = some k)
    (hopen : c = '<' → ¬ ['!'] <+: rest) (hminus : c = '-' → ¬ ['-', '>'] <+: rest) :
    Leads rest c k 0
  | identifier {c : Char} (h : isAlphabetic c = true) :
    Leads rest c .identifier (rest.run isAlphanumeric)
  | unknown {c : Char} (hw : isWhitespace c = false) (hp : Kind.punctuation? c = none)
    (ha : isAlphabetic c = false) : Leads rest c .unknown 0

theorem leads_leading (c : Char) (rest : Text) :
    Leads rest c (leading c rest).1 (leading c rest).2 := by
  unfold leading
  split
  case isTrue hw => exact .whitespace hw
  case isFalse hw =>
    split
    case isTrue h => obtain ⟨rfl, h⟩ := h; exact .commentStart (Text.startsWith_iff.1 h)
    case isFalse hs =>
      split
      case isTrue h =>
        obtain ⟨rfl, h⟩ := h
        exact .bangTagStart (Text.startsWith_iff.1 h) fun hc =>
          hs ⟨rfl, Text.startsWith_iff.2 hc⟩
      case isFalse hb =>
        split
        case isTrue h => obtain ⟨rfl, h⟩ := h; exact .commentEnd (Text.startsWith_iff.1 h)
        case isFalse he =>
          split
          case h_1 k hk =>
            exact .punctuation hk (fun hc h => hb ⟨hc, Text.startsWith_iff.2 h⟩)
              (fun hc h => he ⟨hc, Text.startsWith_iff.2 h⟩)
          case h_2 hk =>
            split
            case isTrue ha => exact .identifier ha
            case isFalse ha => exact .unknown (by simpa using hw) hk (by simpa using ha)

theorem leading_eq_of_leads {c : Char} {rest : Text} {k : Kind} {n : Nat} (h : Leads rest c k n) :
    leading c rest = (k, n) := by
  cases h with
  | whitespace h => simp [leading, h]
  | commentStart h => simp [leading, show isWhitespace '<' = false by decide, h]
  | bangTagStart h hc => simp [leading, show isWhitespace '<' = false by decide, h, hc]
  | commentEnd h => simp [leading, show isWhitespace '-' = false by decide, h]
  | punctuation h hopen hminus =>
    have hs : c = '<' → ¬ ['!', '-', '-'] <+: rest := fun hc hp =>
      hopen hc ((by decide : ['!'] <+: ['!', '-', '-']).trans hp)
    simp [leading, Kind.isWhitespace_of_punctuation h, h, not_and.2 hopen, not_and.2 hminus,
      not_and.2 hs]
  | identifier h =>
    have ha := isAlphanumeric_of_isAlphabetic h
    have hp : Kind.punctuation? c = none := by
      cases hp : Kind.punctuation? c with
      | none => rfl
      | some k => simp [Kind.isAlphanumeric_of_punctuation hp] at ha
    have hopen : c ≠ '<' := by rintro rfl; simp [Kind.punctuation?] at hp
    have hminus : c ≠ '-' := by rintro rfl; simp [Kind.punctuation?] at hp
    simp [leading, isWhitespace_of_isAlphanumeric ha, hopen, hminus, hp, h]
  | unknown hw hp ha =>
    have hopen : c ≠ '<' := by rintro rfl; simp [Kind.punctuation?] at hp
    have hminus : c ≠ '-' := by rintro rfl; simp [Kind.punctuation?] at hp
    simp [leading, hw, hopen, hminus, hp, ha]

theorem leads_iff {c : Char} {rest : Text} {k : Kind} {n : Nat} :
    Leads rest c k n ↔ leading c rest = (k, n) := by
  refine ⟨leading_eq_of_leads, ?_⟩
  intro h
  have := leads_leading c rest
  rwa [h] at this

theorem Leads.le {c : Char} {rest : Text} {k : Kind} {n : Nat} (h : Leads rest c k n) :
    n ≤ rest.length := by
  cases h with
  | whitespace | identifier => exact Text.run_le_length _ _
  | commentStart h | bangTagStart h | commentEnd h => simpa using h.length_le
  | punctuation | unknown => exact Nat.zero_le _

theorem isWhole_iff {l : Lexeme} :
    l.IsWhole ↔ ∃ c r, l.text = c :: r ∧ Leads r c l.kind r.length := by
  constructor
  · intro h
    cases ht : l.text with
    | nil => simp [IsWhole, ht] at h
    | cons c r =>
      refine ⟨c, r, rfl, ?_⟩
      rw [IsWhole, ht, ofText_cons, List.cons.injEq] at h
      have htake : r.take (leading c r).2 = r := by
        have := congrArg text h.1
        rwa [ht, first, List.cons.injEq, and_iff_right rfl] at this
      have hlen := congrArg List.length htake
      have hle := (leads_leading c r).le
      rw [List.length_take] at hlen
      exact leads_iff.2 (Prod.ext (congrArg kind h.1) (by omega))
  · rintro ⟨c, r, ht, hl⟩
    have h := leads_iff.1 hl
    have hfirst : first c r = l := by
      rw [first, h, List.take_length, ← ht]
    rw [IsWhole, ht, ofText_cons, hfirst, behind, h, List.drop_length, ofText_nil]

/-- A lexeme that takes in nothing of `t` is the same before `t`. -/
theorem Leads.append {c : Char} {r t : Text} {k : Kind} (h : Leads r c k r.length)
    (hd : drawsIn ⟨k, c :: r⟩ t = false) : Leads (r ++ t) c k r.length := by
  generalize hn : r.length = n at h
  cases h with
  | whitespace h =>
    rw [← hn, ← Text.run_append hn.symm hd]
    exact .whitespace h
  | commentStart h => exact .commentStart (h.trans (List.prefix_append r t))
  | bangTagStart h hc =>
    obtain ⟨d, rfl⟩ := List.length_eq_one_iff.1 hn
    obtain rfl : '!' = d := by simpa using h
    have hd : ¬ ['-', '-'] <+: t := by simpa [drawsIn] using hd
    exact .bangTagStart (by simp) fun hp => hd (by simpa using hp)
  | commentEnd h => exact .commentEnd (h.trans (List.prefix_append r t))
  | punctuation h hopen hminus =>
    obtain rfl := List.length_eq_zero_iff.1 hn
    refine .punctuation h ?_ ?_
    · rintro rfl
      obtain rfl : Kind.tagOpen = k := by simpa [Kind.punctuation?] using h
      simpa [drawsIn] using hd
    · rintro rfl
      obtain rfl : Kind.minus = k := by simpa [Kind.punctuation?] using h
      simpa [drawsIn] using hd
  | identifier h =>
    rw [← hn, ← Text.run_append hn.symm hd]
    exact .identifier h
  | unknown hw hp ha => exact .unknown hw hp ha

theorem Leads.take {c : Char} {rest : Text} {k : Kind} {n : Nat} (h : Leads rest c k n) :
    Leads (rest.take n) c k n := by
  cases h with
  | whitespace h =>
    have hrun : Leads (rest.take (rest.run isWhitespace)) _ .whitespace _ := .whitespace h
    rwa [Text.run_take_run] at hrun
  | commentStart h => exact .commentStart (List.prefix_take_iff.2 ⟨h, by simp⟩)
  | bangTagStart h hc =>
    apply Leads.bangTagStart (List.prefix_take_iff.2 ⟨h, by simp⟩)
    intro hp
    exact hc (hp.trans (List.take_prefix _ _))
  | commentEnd h => exact .commentEnd (List.prefix_take_iff.2 ⟨h, by simp⟩)
  | punctuation h => exact .punctuation h (by simp) (by simp)
  | identifier h =>
    have hrun : Leads (rest.take (rest.run isAlphanumeric)) _ .identifier _ := .identifier h
    rwa [Text.run_take_run] at hrun
  | unknown hw hp ha => exact .unknown hw hp ha

theorem Leads.drawsIn_drop {c : Char} {rest : Text} {k : Kind} {n : Nat} (h : Leads rest c k n)
    (text : Text) : drawsIn ⟨k, text⟩ (rest.drop n) = false := by
  cases h with
  | whitespace | identifier => exact Text.head?_drop_run _ _
  | commentStart | commentEnd | unknown => rfl
  | bangTagStart h hc =>
    obtain ⟨t, rfl⟩ := h
    simpa [drawsIn] using hc
  | punctuation h hopen hminus =>
    have htext := Kind.text?_of_punctuation h
    unfold drawsIn
    cases k with
    | whitespace | identifier | bangTagStart => simp [Kind.text?] at htext
    | tagOpen =>
      have hc : c = '<' := by simpa [Kind.text?] using htext.symm
      exact Text.startsWith_eq_false_iff.2 (hopen hc)
    | minus =>
      have hc : c = '-' := by simpa [Kind.text?] using htext.symm
      exact Text.startsWith_eq_false_iff.2 (hminus hc)
    | _ => rfl

theorem isWhole_first (c : Char) (rest : Text) : (first c rest).IsWhole := by
  refine isWhole_iff.2 ⟨c, rest.take (leading c rest).2, rfl, ?_⟩
  have h := leads_leading c rest
  rw [List.length_take, Nat.min_eq_left h.le]
  exact h.take

theorem drawsIn_first (c : Char) (rest : Text) : (first c rest).drawsIn (behind c rest) = false :=
  (leads_leading c rest).drawsIn_drop _

theorem IsWhole.ne_nil {l : Lexeme} (h : l.IsWhole) : l.text ≠ [] := by
  obtain ⟨c, r, ht, -⟩ := isWhole_iff.1 h
  simp [ht]

/-- The lexemes of a kind that has one text only have this text. -/
theorem IsWhole.text_eq {l : Lexeme} {t : Text} (h : l.IsWhole) (ht : l.kind.text? = some t) :
    l.text = t := by
  obtain ⟨c, r, htext, hl⟩ := isWhole_iff.1 h
  rw [htext]
  generalize hk : l.kind = k at hl ht
  generalize hn : r.length = n at hl
  cases hl with
  | whitespace | identifier | unknown => simp [Kind.text?] at ht
  | commentStart h | bangTagStart h | commentEnd h =>
    rw [← h.eq_of_length (by simp [hn])]
    exact Option.some.inj ht
  | punctuation h =>
    obtain rfl := List.length_eq_zero_iff.1 hn
    exact Option.some.inj ((Kind.text?_of_punctuation h).symm.trans ht)

theorem IsWhole.word {l : Lexeme} (h : l.IsWhole) (hk : l.kind = .identifier) :
    ∃ c r, l.text = c :: r ∧ isAlphabetic c = true ∧ ∀ d ∈ r, isAlphanumeric d = true := by
  obtain ⟨c, r, htext, hl⟩ := isWhole_iff.1 h
  rw [hk] at hl
  generalize hn : r.length = n at hl
  cases hl with
  | punctuation h => cases Kind.text?_of_punctuation h
  | identifier h => exact ⟨c, r, htext, h, Text.forall_of_run hn.symm⟩

theorem IsWhole.blank {l : Lexeme} (h : l.IsWhole) (hk : l.kind = .whitespace) :
    l.text.all isWhitespace = true := by
  obtain ⟨c, r, htext, hl⟩ := isWhole_iff.1 h
  rw [hk] at hl
  generalize hn : r.length = n at hl
  cases hl with
  | punctuation h => cases Kind.text?_of_punctuation h
  | whitespace h =>
    rw [htext, List.all_cons, h, Bool.true_and]
    exact List.all_eq_true.2 (Text.forall_of_run hn.symm)

theorem IsWhole.unknown {l : Lexeme} (h : l.IsWhole) (hk : l.kind = .unknown) :
    ∃ c, l.text = [c] ∧ isWhitespace c = false ∧ Kind.punctuation? c = none ∧
      isAlphabetic c = false := by
  obtain ⟨c, r, htext, hl⟩ := isWhole_iff.1 h
  rw [hk] at hl
  generalize hn : r.length = n at hl
  cases hl with
  | punctuation h => cases Kind.text?_of_punctuation h
  | unknown hw hp ha => exact ⟨c, by rw [htext, List.length_eq_zero_iff.1 hn], hw, hp, ha⟩

/-- A lexeme of one character. -/
theorem isWhole_singleton {k : Kind} {c : Char} : IsWhole ⟨k, [c]⟩ ↔ Leads [] c k 0 := by
  rw [isWhole_iff]
  constructor
  · rintro ⟨d, r, h, hl⟩
    obtain ⟨rfl, rfl⟩ := List.cons.inj h
    exact hl
  · exact fun hl => ⟨c, [], rfl, hl⟩

/-- The lexeme of a hyphen. -/
def hyphen : Lexeme := ⟨.minus, ['-']⟩

theorem isWhole_hyphen : hyphen.IsWhole := isWhole_singleton.2 (leads_iff.2 (by decide))

theorem IsWhole.eq_hyphen {l : Lexeme} (h : l.IsWhole) (ht : l.text = ['-']) : l = hyphen := by
  have hk : IsWhole ⟨l.kind, ['-']⟩ := by rwa [← ht]
  have hl := leads_iff.1 (isWhole_singleton.1 hk)
  rw [show leading '-' [] = (.minus, 0) by decide, Prod.mk.injEq] at hl
  cases l
  simp_all [hyphen]

/-- A whole lexeme is cut off before a text that it takes in nothing of. -/
theorem IsWhole.ofText_append {l : Lexeme} {t : Text} (h : l.IsWhole)
    (hd : l.drawsIn t = false) : ofText (l.text ++ t) = l :: ofText t := by
  obtain ⟨c, r, ht, hl⟩ := isWhole_iff.1 h
  have hd : drawsIn ⟨l.kind, c :: r⟩ t = false := hd
  have happend := leads_iff.1 (hl.append hd)
  rw [ht, List.cons_append, ofText_cons, first, behind, happend]
  simp [← ht]

/-- What is behind a lexeme decides by its first two characters whether any is taken in. -/
theorem drawsIn_append {l : Lexeme} {u t : Text} (hu : l.drawsIn u = false)
    (hnil : u = [] → l.drawsIn t = false)
    (hhyphen : u = ['-'] → (l.kind = .bangTagStart → ¬ ['-'] <+: t) ∧
      (l.kind = .minus → ¬ ['>'] <+: t)) : l.drawsIn (u ++ t) = false := by
  rcases u with _ | ⟨c, _ | ⟨d, u⟩⟩
  · exact hnil rfl
  · unfold drawsIn at hu ⊢
    split at hu
    case h_4 hk | h_5 hk =>
      by_cases hc : c = '-'
      · simp_all
      · simp [Ne.symm hc]
    all_goals simp_all
  · unfold drawsIn at hu ⊢
    split at hu
    case h_6 => rfl
    all_goals simpa using hu

theorem drawsIn_of_append {l : Lexeme} {u t : Text} (h : l.drawsIn (u ++ t) = false) :
    l.drawsIn u = false := by
  unfold drawsIn at h ⊢
  split at h
  case h_1 | h_2 => cases u <;> simp_all
  case h_6 => rfl
  all_goals
    simp only [Text.startsWith_eq_false_iff] at h ⊢
    exact fun hp => h (hp.trans (List.prefix_append u t))

/-! ## Lexemes that stand before a text -/

/-- The lexemes stay as they are when the text follows them: each is whole, and takes in nothing of
what is behind it. -/
def Stands : List Lexeme → Text → Prop
  | [], _ => True
  | l :: ls, t => l.IsWhole ∧ l.drawsIn (joined ls ++ t) = false ∧ Stands ls t

@[simp] theorem stands_nil (t : Text) : Stands [] t := trivial

theorem stands_cons {l : Lexeme} {ls : List Lexeme} {t : Text} :
    Stands (l :: ls) t ↔ l.IsWhole ∧ l.drawsIn (joined ls ++ t) = false ∧ Stands ls t := Iff.rfl

theorem stands_append {ks ls : List Lexeme} {t : Text} :
    Stands (ks ++ ls) t ↔ Stands ks (joined ls ++ t) ∧ Stands ls t := by
  induction ks with
  | nil => simp
  | cons k ks ih => simp only [List.cons_append, stands_cons, joined_append, List.append_assoc, ih,
      and_assoc]

theorem stands_ofText (t : Text) : Stands (ofText t) [] := by
  fun_induction ofText t with
  | case1 => trivial
  | case2 c rest ih =>
    refine ⟨isWhole_first c rest, ?_, ih⟩
    rw [joined_ofText, List.append_nil]
    exact drawsIn_first c rest

namespace Stands

theorem ofText_append {ls : List Lexeme} {t : Text} (h : Stands ls t) :
    ofText (joined ls ++ t) = ls ++ ofText t := by
  induction ls with
  | nil => rfl
  | cons l ls ih =>
    obtain ⟨hw, hd, h⟩ := h
    rw [joined_cons, List.append_assoc, hw.ofText_append hd, ih h, List.cons_append]

theorem ofText_joined {ls : List Lexeme} (h : Stands ls []) : ofText (joined ls) = ls := by
  have := h.ofText_append
  rwa [List.append_nil, ofText_nil, List.append_nil] at this

theorem isWhole {ls : List Lexeme} {t : Text} (h : Stands ls t) {l : Lexeme} (hl : l ∈ ls) :
    l.IsWhole := by
  induction ls with
  | nil => simp at hl
  | cons k ls ih =>
    rcases List.mem_cons.1 hl with rfl | hl
    · exact h.1
    · exact ih h.2.2 hl

theorem of_append {ls : List Lexeme} {u t : Text} (h : Stands ls (u ++ t)) : Stands ls u := by
  induction ls with
  | nil => trivial
  | cons l ls ih =>
    obtain ⟨hw, hd, h⟩ := h
    rw [← List.append_assoc] at hd
    exact ⟨hw, drawsIn_of_append hd, ih h⟩

theorem alone {ls : List Lexeme} {t : Text} (h : Stands ls t) : Stands ls [] :=
  of_append (u := []) h

/-- A character is enough to tell that the lexemes stand, unless it is a hyphen. -/
theorem append {ls : List Lexeme} {u : Text} (h : Stands ls u) (hnil : u ≠ []) (hu : u ≠ ['-'])
    (t : Text) : Stands ls (u ++ t) := by
  induction ls with
  | nil => trivial
  | cons l ls ih =>
    obtain ⟨hw, hd, h⟩ := h
    refine ⟨hw, ?_, ih h⟩
    rw [← List.append_assoc]
    refine drawsIn_append hd (fun hj => ?_) fun hj => ?_
    · exact absurd (List.append_eq_nil_iff.1 hj).2 hnil
    · rcases List.append_eq_singleton_iff.1 hj with ⟨-, hj⟩ | ⟨-, hj⟩
      · exact absurd hj hu
      · exact absurd hj hnil

end Stands

end MarkupOrder.Lexeme
