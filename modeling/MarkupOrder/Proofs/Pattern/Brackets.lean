import MarkupOrder.Proofs.Pattern.Readers

/-!
# Sets in brackets before a closing parenthesis

* `Bracket.isSteady_readPart?`: the members of a set and the ranges between them.
* `Bracket.take?`, `Bracket.goOn?`: the loop over the parts of a set, in which a bracket is open
  even if nothing stands behind it.
* `Bracket.isSteady_read?`: a set in brackets is read before a closing parenthesis as it is read by
  itself.
-/

namespace MarkupOrder.Pattern

variable {m : Mode} {t : Text}

namespace Bracket

/-- The atoms that a set can have as members: all but conditions. -/
def member? : Atom → Option Atom
  | .look _ => none
  | a => some a

/-- What is read of the text of a member. -/
def readMember? (m : Mode) (t : Text) : Option (Atom × Text) :=
  (readAtom? m t).bind fun p => (member? p.1).map (·, p.2)

theorem suffix_of_readAtom? {a : Atom} {x : Text} (h : readAtom? m t = some (a, x)) : x <:+ t := by
  unfold readAtom? at h
  split at h
  · cases h
  · rename_i c t
    split at h
    · exact (Atom.suffix_of_readEscape? h).trans (List.suffix_cons c t)
    · cases h
      exact List.suffix_cons c x

theorem exists_readAtom?_of_readMember? {a : Atom} {x : Text} (h : readMember? m t = some (a, x)) :
    ∃ b, readAtom? m t = some (b, x) := by
  obtain ⟨⟨b, x⟩, hb, hx⟩ := Option.bind_eq_some_iff.1 h
  obtain ⟨_, -, hx⟩ := Option.map_eq_some_iff.1 hx
  cases hx
  exact ⟨b, hb⟩

theorem isSteady_readMember? (m : Mode) : IsSteady (readMember? m) where
  agrees t := by
    have hmember (a : Atom) : IsSteady fun x => (member? a).map (·, x) := .ofOption _
    match t with
    | [] =>
      refine .ends (fun a x h => by cases h) (fun v b y h => ?_)
      obtain ⟨_, hatom⟩ := exists_readAtom?_of_readMember? h
      exact Nat.le_of_lt_succ (length_of_readAtom? hatom)
    | c :: t =>
      by_cases hc : c = '\\'
      · subst hc
        have hescape (t : Text) : readAtom? m ('\\' :: t) = Atom.readEscape? m t := rfl
        simp only [readMember?, List.cons_append, hescape]
        by_cases hedge : ∃ s, t = 'b' :: '\x7b' :: s ∧ m.skip s = []
        · -- the edge of a word is not a member, so the brace behind it does not come into it
          obtain ⟨s, rfl, hs⟩ := hedge
          obtain ⟨hnone, hbehind⟩ := Atom.readEscape?_of_skip_nil hs
          refine .ends (fun a x h => by simp [hnone] at h) (fun v b y h => ?_)
          obtain ⟨⟨a, x⟩, ha, hx⟩ := Option.bind_eq_some_iff.1 h
          rcases hbehind v a x ha with hle | ⟨⟨l, rfl⟩, -⟩
          · obtain ⟨_, -, hx⟩ := Option.map_eq_some_iff.1 hx
            cases hx
            exact hle
          · cases hx
        · exact (Atom.agrees_readEscape? fun s hs hnil => hedge ⟨s, hs, hnil⟩).bind hmember
      · have hchar (t : Text) : readMember? m (c :: t) = some (.char c, t) := by
          simp [readMember?, readAtom?, hc, member?]
        exact .stops (hchar t) fun v => hchar _
  suffix h := by
    obtain ⟨_, hatom⟩ := exists_readAtom?_of_readMember? h
    exact suffix_of_readAtom? hatom

/-- A look ahead for a mark sees the same, since the parenthesis is not that mark. -/
theorem second?_append {c d : Char} (hc : c ≠ ')' ∧ c ≠ '#' ∧ Unicode.isWhitespace c = false)
    (t v : Text) : m.second? (d :: (t ++ ')' :: v)) = some c ↔ m.second? (d :: t) = some c := by
  obtain ⟨hparen, hhash, hblank⟩ := hc
  have hhead : (t ++ ')' :: v).head? = some c ↔ t.head? = some c := by
    cases t <;> simp [Ne.symm hparen]
  -- where the look ahead falls back on the first character, that is white space or begins a comment
  have hkeep (h : t.head? = some c) : ∃ r, t.dropWhile Unicode.isWhitespace = c :: r := by
    obtain ⟨r, rfl⟩ := List.head?_eq_some_iff.1 h
    exact ⟨r, by simp [hblank]⟩
  unfold Mode.second?
  simp only [List.drop_succ_cons, List.drop_zero, dropWhile_append_parenthesis]
  split
  · cases hd : t.dropWhile Unicode.isWhitespace with
    | nil =>
      have hne : t.head? ≠ some c := fun h => by
        obtain ⟨r', hr'⟩ := hkeep h
        simp_all
      simpa [Ne.symm hparen] using hne
    | cons e r =>
      by_cases he : e = '#'
      · subst he
        have hne : t.head? ≠ some c := fun h => by
          obtain ⟨r', hr'⟩ := hkeep h
          simp_all
        simp only [List.cons_append, dropWhile_append_parenthesis]
        cases r.dropWhile Unicode.isWhitespace <;> simp [hne, Ne.symm hparen]
      · simp
  · exact hhead

/-- Whether a hyphen comes first and makes a range. -/
def opensRange (m : Mode) (t : Text) : Bool :=
  t.head? == some '-' && !(m.second? t == some ']' || m.second? t == some '-')

theorem opensRange_append (t v : Text) : opensRange m (t ++ ')' :: v) = opensRange m t := by
  cases t with
  | nil => rfl
  | cons c t =>
    have hmark {d : Char} (hd : d ≠ ')' ∧ d ≠ '#' ∧ Unicode.isWhitespace d = false) :
        (m.second? (c :: (t ++ ')' :: v)) == some d) = (m.second? (c :: t) == some d) := by
      rw [Bool.eq_iff_iff, beq_iff_eq, beq_iff_eq, second?_append hd]
    rw [opensRange, List.cons_append, hmark (by decide), hmark (by decide)]
    rfl

/-- What is read of a part behind its first member. -/
def readBehindMember? (m : Mode) (first : Atom) (t : Text) : Option (Part × Text) :=
  if opensRange m t then
    (readMember? m (m.skip (t.drop 1))).bind fun p => (rangeOf? m first p.1).map (·, p.2)
  else (partOf? m first).map (·, t)

theorem rangeOf?_look (a : Atom) (l : Look) : rangeOf? m a (.look l) = none := by
  cases a <;> rfl

/-- A part is read from its members, for a condition is none of them. -/
theorem readPart?_eq (m : Mode) (t : Text) :
    readPart? m t = (readMember? m t).bind fun p => readBehindMember? m p.1 (m.skip p.2) := by
  have hrange (first : Atom) (u : Text) :
      ((readAtom? m u).bind fun p => (rangeOf? m first p.1).map (·, p.2)) =
        (readMember? m u).bind fun p => (rangeOf? m first p.1).map (·, p.2) := by
    cases hu : readAtom? m u with
    | none => simp [readMember?, hu]
    | some p =>
      obtain ⟨last, rest⟩ := p
      cases last <;> simp [readMember?, hu, member?, rangeOf?_look]
  cases hu : readAtom? m t with
  | none => simp [readPart?, readMember?, hu]
  | some p =>
    obtain ⟨first, rest⟩ := p
    have hbehind : readPart? m t = readBehindMember? m first (m.skip rest) := by
      simp only [readPart?, hu, readBehindMember?, ← hrange]
      rw [Option.bind_eq_bind, Option.bind_some]
      split
      · rename_i tail h
        simp only [h, opensRange]
        by_cases hmark : m.second? ('-' :: tail) = some ']' ∨ m.second? ('-' :: tail) = some '-'
        · rw [if_pos hmark, if_neg (by rcases hmark with h | h <;> simp [h])]
          cases partOf? m first <;> rfl
        · rw [if_neg hmark, if_pos (by simpa using hmark), List.drop_succ_cons, List.drop_zero]
          cases readAtom? m (m.skip tail) with
          | none => rfl
          | some p => cases h : rangeOf? m first p.1 <;> simp [h]
      · rename_i h
        have hhead : (m.skip rest).head? ≠ some '-' := by
          intro hhead
          obtain ⟨tail, htail⟩ := List.head?_eq_some_iff.1 hhead
          exact h tail htail
        rw [if_neg (by simp [opensRange, hhead])]
        cases partOf? m first <;> rfl
    rw [hbehind]
    cases first with
    | look l =>
      simp [readMember?, hu, member?, readBehindMember?, partOf?, rangeOf?]
    | char | set => simp [readMember?, hu, member?]

theorem isSteady_readBehindMember? (m : Mode) (first : Atom) :
    IsSteady (readBehindMember? m first) := by
  have hrange : IsSteady fun t =>
      (readMember? m (m.skip (t.drop 1))).bind fun p => (rangeOf? m first p.1).map (·, p.2) :=
    (((isSteady_readMember? m).afterSkip m).bindMap (rangeOf? m first)).dropOne
  refine hrange.iteAt (.ofOption (partOf? m first)) (p := fun t => opensRange m t = true) ?_
  intro t v
  rw [opensRange_append]

theorem isSteady_readPart? (m : Mode) : IsSteady (readPart? m) :=
  ((isSteady_readMember? m).bind fun first =>
    (isSteady_readBehindMember? m first).afterSkip m).congr (readPart?_eq m)

theorem asciiNamed?_of_mem {name : Text} (h : ')' ∈ name) : CharSet.asciiNamed? name = none := by
  have hnames : (CharSet.asciiClasses.all fun entry => !entry.1.toList.contains ')') = true := by
    cbv
  rw [CharSet.asciiNamed?, List.find?_eq_none.2, Option.map_none]
  intro entry hentry heq
  have := List.all_eq_true.1 hnames entry hentry
  simp_all

theorem asciiNamed?_takeWhile_append {u : Text} (h : u.dropWhile (· != ':') = []) (v : Text) :
    CharSet.asciiNamed? ((u ++ ')' :: v).takeWhile (· != ':')) = none := by
  have hall : u.takeWhile (· != ':') = u := by
    simpa [h] using List.takeWhile_append_dropWhile (p := (· != ':')) (l := u)
  refine asciiNamed?_of_mem ?_
  rw [List.takeWhile_append, if_pos (by rw [hall])]
  simp

/-- A class that is named between colons ends before the parenthesis, since no name holds one. -/
theorem readAscii?_append (t v : Text) : readAscii? (t ++ ')' :: v) =
    (readAscii? t).map fun p => (p.1, p.2.1, p.2.2 ++ ')' :: v) := by
  cases t with
  | nil => rfl
  | cons c t =>
    by_cases hc : c = ':'
    · subst hc
      have hhead : ((t ++ ')' :: v).head? == some '^') = (t.head? == some '^') := by
        cases t <;> rfl
      have hdrop :
          (if (t.head? == some '^') = true then (t ++ ')' :: v).drop 1 else t ++ ')' :: v) =
          (if (t.head? == some '^') = true then t.drop 1 else t) ++ ')' :: v := by
        cases t <;> split <;> simp_all
      simp only [List.cons_append, readAscii?, hhead, hdrop]
      generalize (if (t.head? == some '^') = true then t.drop 1 else t) = u
      cases hd : u.dropWhile (· != ':') with
      | nil =>
        simp only [asciiNamed?_takeWhile_append hd, Option.map_none]
        split <;> rfl
      | cons d r =>
        obtain ⟨htake, hdrop⟩ := cut_append hd (')' :: v)
        rw [htake, hdrop]
        cases r with
        | nil => split <;> simp_all
        | cons e r =>
          simp only [List.cons_append]
          split
          · rename_i heq
            cases heq
            simp [Option.map_map, Function.comp_def]
          · rename_i hne
            split
            · rename_i heq
              cases heq
              exact absurd rfl (hne _)
            · rfl
    · have hnone (t : Text) : readAscii? (c :: t) = none := by
        unfold readAscii?
        split
        · simp_all
        · rfl
      simp only [List.cons_append, hnone, Option.map_none]

theorem suffix_of_readAscii? {p : CharSet × Bool × Text} (h : readAscii? t = some p) :
    p.2.2 <:+ t := by
  unfold readAscii? at h
  split at h
  · rename_i t
    have hdrop : (if (t.head? == some '^') = true then t.drop 1 else t) <:+ t := by
      split
      · exact List.drop_suffix 1 t
      · exact List.suffix_rfl
    dsimp only at h
    generalize (if (t.head? == some '^') = true then t.drop 1 else t) = u at h hdrop
    have hcut := (List.dropWhile_suffix (· != ':') (l := u)).trans hdrop
    split at h
    · rename_i rest hu
      obtain ⟨_, -, rfl⟩ := Option.map_eq_some_iff.1 h
      rw [hu] at hcut
      have hrest : rest <:+ ':' :: ']' :: rest := List.suffix_append [':', ']'] rest
      exact (hrest.trans hcut).trans (List.suffix_cons ':' t)
    · cases h
  · cases h

/-- A bracket as far as its beginning has been read, even if nothing is left behind that. -/
def begun (m : Mode) (negated : Bool) (t : Text) : Bracket × Text :=
  match m.gather (· == '-') t with
  | ([], ']' :: rest) => (⟨negated, none, [⟨.single ']', 0⟩]⟩, rest)
  | (hyphens, rest) => (⟨negated, none, hyphens.map fun _ => ⟨.single '-', 0⟩⟩, rest)

/-- A bracket behind the mark that it begins with. -/
def opened (m : Mode) (t : Text) : Bracket × Text :=
  match m.skip t with
  | '^' :: rest => begun m true rest
  | rest => begun m false rest

theorem readFirst?_eq (m : Mode) (negated : Bool) (t : Text) :
    readFirst? m negated t = some (begun m negated t) ∨
      (readFirst? m negated t = none ∧ (begun m negated t).2 = []) := by
  unfold readFirst? begun
  generalize m.gather (· == '-') t = p
  rcases p with ⟨hyphens, _ | ⟨c, rest⟩⟩
  · cases hyphens <;> exact .inr ⟨rfl, rfl⟩
  · left
    split <;> simp_all

theorem opened_of_negated {rest : Text} (h : m.skip t = '^' :: rest) :
    opened m t = begun m true rest ∧ open? m t = readFirst? m true rest := by
  simp [opened, open?, h]

theorem opened_of_plain (h : (m.skip t).head? ≠ some '^') :
    opened m t = begun m false (m.skip t) ∧ open? m t = readFirst? m false (m.skip t) := by
  rw [opened, open?]
  generalize m.skip t = u at h
  cases u with
  | nil => exact ⟨rfl, rfl⟩
  | cons c u => simp_all

theorem open?_eq (m : Mode) (t : Text) :
    open? m t = some (opened m t) ∨ (open? m t = none ∧ (opened m t).2 = []) := by
  by_cases h : (m.skip t).head? = some '^'
  · obtain ⟨rest, hrest⟩ := List.head?_eq_some_iff.1 h
    obtain ⟨hopened, hopen⟩ := opened_of_negated hrest
    rw [hopened, hopen]
    exact readFirst?_eq m true rest
  · obtain ⟨hopened, hopen⟩ := opened_of_plain h
    rw [hopened, hopen]
    exact readFirst?_eq m false (m.skip t)

theorem isSteady_begun (m : Mode) (negated : Bool) :
    IsSteady fun t => some (begun m negated t) := by
  have hfirst (hyphens : Text) : IsSteady fun rest => some (match (hyphens, rest) with
      | ([], ']' :: rest) => (⟨negated, none, [⟨.single ']', 0⟩]⟩, rest)
      | (hyphens, rest) =>
        ((⟨negated, none, hyphens.map fun _ => ⟨.single '-', 0⟩⟩ : Bracket), rest)) := by
    cases hyphens with
    | nil =>
      refine .ofHead (c := ']') (by decide) (.pure _) (.pure ⟨negated, none, []⟩)
        (fun rest => rfl) fun t ht => ?_
      split <;> simp_all
    | cons c hyphens => exact .pure _
  exact (m.isSteady_gather (p := (· == '-')) (by decide)).bind hfirst

theorem isSteady_opened (m : Mode) : IsSteady fun t => some (opened m t) := by
  refine .ofSkip m (c := '^') (by decide) (isSteady_begun m true) (isSteady_begun m false)
    (fun t rest h => ?_) fun t h => ?_
  · rw [(opened_of_negated h).1]
  · rw [(opened_of_plain h).1]

/-- One step of the loop, which opens a bracket even if nothing is left behind that. -/
def take? (m : Mode) (b : Bracket) (outer : List Bracket) (c : Char) (rest : Text) :
    Option ((Part ⊕ Bracket × List Bracket) × Text) :=
  if c = '[' ∧ readAscii? rest = none then
    some (.inr ((opened m rest).1, b :: outer), (opened m rest).2)
  else step? m b outer c rest

theorem step?_eq (m : Mode) (b : Bracket) (outer : List Bracket) (c : Char) (rest : Text) :
    step? m b outer c rest = take? m b outer c rest ∨
      (step? m b outer c rest = none ∧
        ∃ inner, take? m b outer c rest = some (.inr inner, [])) := by
  unfold take?
  split
  · rename_i h
    obtain ⟨rfl, hascii⟩ := h
    simp only [step?, if_true, hascii]
    rcases open?_eq m rest with hopen | ⟨hopen, hnil⟩
    · left
      rw [hopen]
      rfl
    · right
      rw [hopen, hnil]
      exact ⟨rfl, _, rfl⟩
  · exact .inl rfl

theorem isSteady_take?_bracket (m : Mode) (b : Bracket) (outer : List Bracket) :
    IsSteady (take? m b outer '[') where
  agrees t := by
    have happend := readAscii?_append t
    cases hascii : readAscii? t with
    | none =>
      have hinner (t : Text) (h : readAscii? t = none) : take? m b outer '[' t =
          (some (opened m t)).map fun p => (.inr (p.1, b :: outer), p.2) := by
        simp [take?, h]
      simp only [hascii, Option.map_none] at happend
      simp only [hinner _ hascii, hinner _ (happend _)]
      exact ((isSteady_opened m).agrees t).map fun inner => Sum.inr (inner, b :: outer)
    | some p =>
      have hclass (t : Text) (p : CharSet × Bool × Text) (h : readAscii? t = some p) :
          take? m b outer '[' t = (m.complement? p.2.1 (m.fold p.1)).map
            fun s => (.inr (b.add ⟨s, 0⟩, outer), p.2.2) := by
        simp only [take?, h, step?]
        cases m.complement? p.2.1 (m.fold p.1) <;> rfl
      simp only [hascii, Option.map_some] at happend
      simp only [hclass _ _ hascii, hclass _ _ (happend _)]
      cases m.complement? p.2.1 (m.fold p.1) with
      | none => exact IsSteady.fail.agrees []
      | some s => exact .stops rfl fun v => rfl
  suffix {t x a} h := by
    cases hascii : readAscii? t with
    | none =>
      rw [take?, if_pos ⟨rfl, hascii⟩] at h
      cases h
      exact (isSteady_opened m).suffix rfl
    | some p =>
      have hp := suffix_of_readAscii? hascii
      simp only [take?, hascii, step?] at h
      cases hs : m.complement? p.2.1 (m.fold p.1) with
      | none => simp [hs] at h
      | some s =>
        obtain rfl : p.2.2 = x := by simp_all
        exact hp

theorem isSteady_take? (m : Mode) (b : Bracket) (outer : List Bracket) (c : Char) :
    IsSteady (take? m b outer c) := by
  by_cases hopening : c = '['
  · subst hopening
    exact isSteady_take?_bracket m b outer
  have htake (t : Text) : take? m b outer c t = step? m b outer c t := by
    simp [take?, hopening]
  by_cases hclosing : c = ']'
  · subst hclosing
    refine (IsSteady.ofOption ((b.close? m).map fun p => match outer with
      | [] => Sum.inl p
      | b :: outer => Sum.inr (b.add p, outer))).congr fun t => ?_
    rw [htake, step?, if_neg hopening, if_pos rfl]
    cases b.close? m <;> cases outer <;> rfl
  have hpart : IsSteady fun t => (readPart? m (c :: t)).bind fun p =>
      some ((.inr (b.add p.1, outer) : Part ⊕ Bracket × List Bracket), p.2) := by
    let result (p : Part) : Part ⊕ Bracket × List Bracket := .inr (b.add p, outer)
    have hresult (p : Part) : IsSteady fun x => some (result p, x) := .pure _
    refine ⟨fun t => ((isSteady_readPart? m).agrees (c :: t)).bind hresult, fun h => ?_⟩
    obtain ⟨⟨p, y⟩, hp, h⟩ := Option.bind_eq_some_iff.1 h
    cases h
    -- a part is not empty, so that at least its first character is gone
    rcases List.suffix_cons_iff.1 ((isSteady_readPart? m).suffix hp) with rfl | hsuffix
    · exact absurd (length_of_readPart? hp) (Nat.lt_irrefl _)
    · exact hsuffix
  cases hop : SetOp.ofChar? c with
  | none =>
    refine hpart.congr fun t => ?_
    rw [htake, step?, if_neg hopening, if_neg hclosing, hop, ite_self]
    rfl
  | some op =>
    have hne : c ≠ ')' := by
      rintro rfl
      cases hop
    have hdouble := (IsSteady.pure (.inr (b.operate m op, outer) :
      Part ⊕ Bracket × List Bracket)).dropOne
    refine (hdouble.iteAt hpart (p := fun t => t.head? = some c) fun t v => ?_).congr fun t => ?_
    · cases t <;> simp [Ne.symm hne]
    · rw [htake, step?, if_neg hopening, if_neg hclosing, hop]
      by_cases ht : t.head? = some c
      · rw [if_pos ht, if_pos ht]
      · rw [if_neg ht, if_neg ht]
        rfl

/-- What is left to do behind a step: nothing, if the outermost bracket has been closed. -/
def goOn? (m : Mode) : Part ⊕ Bracket × List Bracket → Text → Option (Part × Text)
  | .inl part, t => some (part, t)
  | .inr (inner, around), t => readWithin? m inner around t

theorem readWithin?_of_skip_nil {b : Bracket} {outer : List Bracket} (h : m.skip t = []) :
    readWithin? m b outer t = none := by
  rw [readWithin?]
  split
  · rfl
  · simp_all

theorem readWithin?_of_skip_cons {b : Bracket} {outer : List Bracket} {c : Char} {rest : Text}
    (h : m.skip t = c :: rest) : readWithin? m b outer t =
      (take? m b outer c rest).bind fun p => goOn? m p.1 p.2 := by
  rw [readWithin?]
  split
  · simp_all
  · rename_i c' rest' h'
    obtain ⟨rfl, rfl⟩ := List.cons.inj (h'.symm.trans h)
    dsimp only
    rcases step?_eq m b outer c' rest' with hstep | ⟨hstep, inner, htake⟩
    · rw [← hstep]
      split
      · rename_i hnone
        rw [hnone]
        rfl
      · rename_i hsome
        rw [hsome]
        rfl
      · rename_i hsome
        rw [hsome]
        rfl
    · rw [hstep, htake]
      exact (readWithin?_of_skip_nil m.skip_nil).symm

theorem suffix_of_readWithin? {b : Bracket} {outer : List Bracket} {p : Part} {rest : Text}
    (h : readWithin? m b outer t = some (p, rest)) : rest <:+ t := by
  induction hn : t.length using Nat.strongRecOn generalizing b outer t with
  | ind n ih =>
    subst hn
    cases hs : m.skip t with
    | nil => simp [readWithin?_of_skip_nil hs] at h
    | cons c tail =>
      rw [readWithin?_of_skip_cons hs] at h
      obtain ⟨⟨result, x⟩, ha, h⟩ := Option.bind_eq_some_iff.1 h
      have hskip := m.skip_suffix t
      rw [hs] at hskip
      have hx := (((isSteady_take? m b outer c).suffix ha).trans
        (List.suffix_cons c tail)).trans hskip
      rcases result with part | ⟨inner, around⟩
      · cases h
        exact hx
      · have hle := (isSteady_take? m b outer c).length_le ha
        have hlt : x.length < t.length := Nat.lt_of_le_of_lt hle hskip.length_le
        exact (ih x.length hlt h rfl).trans hx

theorem length_of_goOn? {result : Part ⊕ Bracket × List Bracket} {rest : Text} {p : Part}
    (h : goOn? m result t = some (p, rest)) : rest.length ≤ t.length := by
  rcases result with part | ⟨inner, around⟩
  · cases h
    exact Nat.le_refl _
  · exact length_of_readWithin? h

theorem agrees_readWithin? (m : Mode) (b : Bracket) (outer : List Bracket) (t : Text) :
    Agrees (readWithin? m b outer t) fun v => readWithin? m b outer (t ++ ')' :: v) := by
  induction hn : t.length using Nat.strongRecOn generalizing b outer t with
  | ind n ih =>
    subst hn
    cases hs : m.skip t with
    | nil =>
      refine .ends (fun a x ha => by simp [readWithin?_of_skip_nil hs] at ha) (fun v p y hp => ?_)
      have hle := Mode.length_skip_append_le hs v
      cases hs' : m.skip (t ++ ')' :: v) with
      | nil => simp [readWithin?_of_skip_nil hs'] at hp
      | cons c rest =>
        rw [readWithin?_of_skip_cons hs'] at hp
        obtain ⟨⟨a, x⟩, ha, hp⟩ := Option.bind_eq_some_iff.1 hp
        rw [hs'] at hle
        exact Nat.le_trans (length_of_goOn? hp)
          (Nat.le_trans ((isSteady_take? m b outer c).length_le ha) (Nat.le_of_succ_le_succ hle))
    | cons c rest =>
      have hlt : rest.length < t.length := by
        have := m.length_skip_le t
        rwa [hs] at this
      simp only [readWithin?_of_skip_cons hs, readWithin?_of_skip_cons (Mode.skip_append hs _)]
      refine ((isSteady_take? m b outer c).agrees rest).bindAt (fun a x ha => ?_) length_of_goOn?
      rcases a with part | ⟨inner, around⟩
      · exact (IsSteady.pure part).agrees x
      · have hle := (isSteady_take? m b outer c).length_le ha
        exact ih x.length (Nat.lt_of_le_of_lt hle hlt) inner around x rfl

theorem isSteady_read? (m : Mode) : IsSteady (read? m) := by
  have hwithin (b : Bracket) : IsSteady (readWithin? m b []) :=
    ⟨agrees_readWithin? m b [], suffix_of_readWithin?⟩
  refine ((isSteady_opened m).bind hwithin).congr fun t => ?_
  simp only [read?]
  rcases open?_eq m t with hopen | ⟨hopen, hnil⟩
  · rw [hopen]
    rfl
  · rw [hopen, Option.bind_some, hnil, readWithin?_of_skip_nil m.skip_nil]
    rfl

end Bracket

end MarkupOrder.Pattern
