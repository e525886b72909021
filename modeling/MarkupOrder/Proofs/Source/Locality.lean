import MarkupOrder.Proofs.Source.Nodes

/-!
# A reading does not look beyond the lexeme it stops at

A reading that stops at a lexeme, with success or with a failure, does the same whatever lexemes are
behind that one. A reading that takes all there is leaves nothing that was there when more follows.

* `Reading.IsLocal`: the readings of which this is true.
* `Reading.IsLocal.bind`, `Reading.IsLocal.meet`, `Reading.IsLocal.upTo`, `Reading.IsLocal.of_head`:
  what local readings are made of.
* `Reading.IsClosed`, `Reading.IsLocal.isClosed_marked`: readings that end at a mark, and so leave
  what is behind it.
* `OpeningTag.isLocal_readAttributes`, `SourceNode.isLocal_read`: attributes and nodes.
* `Reading.IsLocal.congr_tail`: what is left can be changed behind the first lexeme of it.
-/

namespace MarkupOrder

/-- A reading takes a part off the lexemes in front. -/
abbrev Reading (α : Type) := List Lexeme → Except Failure (α × List Lexeme)

namespace Reading

variable {α β : Type} {ls post : List Lexeme} {l : Lexeme}

/-- What a reading leaves, with or without success. -/
def left : Except Failure (α × List Lexeme) → List Lexeme
  | .ok (_, rest) => rest
  | .error f => f.rest

/-- The result of a reading, with other lexemes left. -/
def leaving (rest : List Lexeme) :
    Except Failure (α × List Lexeme) → Except Failure (α × List Lexeme)
  | .ok (a, _) => .ok (a, rest)
  | .error f => .error { f with rest }

@[simp] theorem left_leaving (rest : List Lexeme) (r : Except Failure (α × List Lexeme)) :
    left (leaving rest r) = rest := by
  cases r <;> rfl

@[simp] theorem leaving_leaving (rest rest' : List Lexeme) (r : Except Failure (α × List Lexeme)) :
    leaving rest (leaving rest' r) = leaving rest r := by
  cases r <;> rfl

/-- Whether more lexemes behind the given ones change nothing but what is left. -/
structure IsLocalAt (read : Reading α) (ls : List Lexeme) : Prop where
  /-- A reading that has stopped stops at the same lexeme. -/
  stays : left (read ls) ≠ [] →
    ∀ more, read (ls ++ more) = leaving (left (read ls) ++ more) (read ls)
  /-- A reading that has not stopped goes on behind the given lexemes. -/
  goesOn : left (read ls) = [] → ∀ more, (left (read (ls ++ more))).length ≤ more.length

/-- Whether a reading does not look beyond the lexeme it stops at. -/
structure IsLocal (read : Reading α) : Prop where
  nil : left (read []) = []
  isLocalAt (ls : List Lexeme) : IsLocalAt read ls

theorem IsLocal.length_left_le {read : Reading α} (h : IsLocal read) (ls : List Lexeme) :
    (left (read ls)).length ≤ ls.length :=
  (h.isLocalAt []).goesOn h.nil ls

theorem IsLocalAt.congr {read read' : Reading α} (h : IsLocalAt read' (l :: ls))
    (heq : ∀ rest, read (l :: rest) = read' (l :: rest)) : IsLocalAt read (l :: ls) := by
  refine ⟨?_, ?_⟩ <;> simp only [List.cons_append, heq]
  · exact h.stays
  · exact h.goesOn

/-! ## What local readings are made of -/

theorem isLocal_done (a : α) : IsLocal fun ls => .ok (a, ls) := by
  refine ⟨rfl, fun ls => ⟨fun _ more => rfl, ?_⟩⟩
  rintro rfl more
  exact Nat.le_refl _

theorem isLocal_fail (e : Expectation) : IsLocal fun ls => (.error ⟨e, ls⟩ : Except _ (α × _)) := by
  refine ⟨rfl, fun ls => ⟨fun _ more => rfl, ?_⟩⟩
  rintro rfl more
  exact Nat.le_refl _

/-- Two readings in a row, where the second one need only be local behind the first one. -/
theorem IsLocalAt.bind {read : Reading α} {next : α → Reading β} (h : IsLocalAt read ls)
    (hnext : ∀ a mid, read ls = .ok (a, mid) → IsLocalAt (next a) mid)
    (hnil : ∀ a, left (next a []) = []) (hle : ∀ a mid, (left (next a mid)).length ≤ mid.length) :
    IsLocalAt (fun ls => read ls >>= fun r => next r.1 r.2) ls := by
  have hgoesOn (hleft : left (read ls) = []) (more : List Lexeme) :
      (left (read (ls ++ more) >>= fun r => next r.1 r.2)).length ≤ more.length := by
    have hmore := h.goesOn hleft more
    cases hread : read (ls ++ more) with
    | error f => rwa [hread] at hmore
    | ok r =>
      rw [hread] at hmore
      exact (hle r.1 r.2).trans hmore
  have hstays (hleft : left (read ls) ≠ []) := h.stays hleft
  cases hread : read ls with
  | error f =>
    rw [hread] at hgoesOn hstays
    refine ⟨fun hleft more => ?_, fun hleft => ?_⟩
    · simp only [hread] at hleft ⊢
      rw [hstays hleft more]
      rfl
    · simp only [hread] at hleft
      exact hgoesOn hleft
  | ok r =>
    obtain ⟨a, mid⟩ := r
    rw [hread] at hgoesOn hstays
    have hmid := hnext a mid hread
    cases mid with
    | nil =>
      refine ⟨fun hleft more => ?_, fun _ => hgoesOn rfl⟩
      simp only [hread] at hleft
      exact absurd (hnil a) hleft
    | cons m mid =>
      have hok (more : List Lexeme) : read (ls ++ more) = .ok (a, m :: mid ++ more) :=
        hstays (List.cons_ne_nil m mid) more
      refine ⟨fun hleft more => ?_, fun hleft more => ?_⟩
      · simp only [hread] at hleft ⊢
        rw [hok]
        exact hmid.stays hleft more
      · simp only [hread] at hleft
        simp only [hok]
        exact hmid.goesOn hleft more

theorem IsLocal.bind {read : Reading α} {next : α → Reading β} (h : IsLocal read)
    (hnext : ∀ a, IsLocal (next a)) : IsLocal fun ls => read ls >>= fun r => next r.1 r.2 := by
  refine ⟨?_, fun ls => (h.isLocalAt ls).bind (fun a mid _ => (hnext a).isLocalAt mid)
    (fun a => (hnext a).nil) fun a => (hnext a).length_left_le⟩
  have hnil := h.nil
  cases hread : read [] with
  | error f =>
    rw [hread] at hnil
    exact hnil
  | ok r =>
    rw [hread] at hnil
    change left (next r.1 r.2) = []
    rw [show r.2 = [] from hnil]
    exact (hnext r.1).nil

/-- Behind a lexeme that is passed, whatever it is. -/
theorem IsLocal.skip {next : Reading α} (h : IsLocal next) : IsLocal fun ls => next ls.tail := by
  refine ⟨h.nil, fun ls => ?_⟩
  cases ls with
  | nil =>
    refine ⟨fun hleft => absurd h.nil hleft, fun _ more => ?_⟩
    exact (h.length_left_le more.tail).trans (List.length_tail ▸ Nat.sub_le _ _)
  | cons l ls => exact ⟨(h.isLocalAt ls).stays, (h.isLocalAt ls).goesOn⟩

/-- A reading is local if its first lexeme makes it a local one. -/
theorem IsLocal.of_head {read : Reading α} (hnil : left (read []) = [])
    (h : ∀ l, ∃ read' : Reading α, IsLocal read' ∧ ∀ rest, read (l :: rest) = read' (l :: rest)) :
    IsLocal read := by
  refine ⟨hnil, fun ls => ?_⟩
  cases ls with
  | nil =>
    refine ⟨fun hleft => absurd hnil hleft, fun _ more => ?_⟩
    cases more with
    | nil => exact Nat.le_of_eq (congrArg List.length hnil)
    | cons l more =>
      obtain ⟨read', hlocal, heq⟩ := h l
      rw [List.nil_append, heq]
      exact hlocal.length_left_le _
  | cons l ls =>
    obtain ⟨read', hlocal, heq⟩ := h l
    exact (hlocal.isLocalAt _).congr heq

theorem IsLocal.meet (e : Expectation) {next : Reading α} (h : IsLocal next) :
    IsLocal fun ls => e.meet ls >>= next := by
  refine .of_head rfl fun l => ?_
  by_cases hk : l.kind = e.kind
  · exact ⟨_, h.skip, fun rest => by simp only [Expectation.meet, if_pos hk]; rfl⟩
  · exact ⟨_, isLocal_fail e, fun rest => by simp only [Expectation.meet, if_neg hk]; rfl⟩

theorem isLocal_upTo (stop : Lexeme → Bool) : IsLocal fun ls => .ok (Lexeme.upTo stop ls) := by
  refine ⟨rfl, fun ls => ?_⟩
  induction ls with
  | nil =>
    exact ⟨fun hleft => absurd rfl hleft, fun _ more => Lexeme.length_upTo_le stop more⟩
  | cons l ls ih =>
    cases hstop : stop l with
    | true =>
      refine ((isLocal_done []).isLocalAt (l :: ls)).congr fun tail => ?_
      rw [Lexeme.upTo_of_stop hstop]
    | false =>
      constructor
      · intro hleft more
        rw [Lexeme.upTo_of_go hstop] at hleft ⊢
        have hmore : Lexeme.upTo stop (ls ++ more) =
            ((Lexeme.upTo stop ls).1, (Lexeme.upTo stop ls).2 ++ more) :=
          Except.ok.inj (ih.stays hleft more)
        rw [List.cons_append, Lexeme.upTo_of_go hstop, hmore]
        rfl
      · intro hleft more
        rw [Lexeme.upTo_of_go hstop] at hleft
        rw [List.cons_append, Lexeme.upTo_of_go hstop]
        exact ih.goesOn hleft more

theorem IsLocal.upTo (stop : Lexeme → Bool) {next : Text → Reading α} (h : ∀ t, IsLocal (next t)) :
    IsLocal fun ls => next (Lexeme.upTo stop ls).1 (Lexeme.upTo stop ls).2 :=
  (isLocal_upTo stop).bind h

theorem isLocal_blank : IsLocal fun ls => .ok (Lexeme.blank ls) := by
  refine .of_head rfl fun l => ?_
  by_cases hk : l.kind = .whitespace
  · refine ⟨_, (isLocal_done l.text).skip, fun rest => ?_⟩
    obtain ⟨k, t⟩ := l
    cases hk
    rfl
  · exact ⟨_, isLocal_done [], fun rest => by rw [Lexeme.blank_cons hk]⟩

theorem IsLocal.blank {next : Text → Reading α} (h : ∀ t, IsLocal (next t)) :
    IsLocal fun ls => next (Lexeme.blank ls).1 (Lexeme.blank ls).2 :=
  isLocal_blank.bind h

/-! ## Readings that end at a mark -/

/-- A part of a text, and the lexeme of an expectation behind it. -/
def marked (read : Reading α) (e : Expectation) (f : α → β) : Reading β := fun ls =>
  read ls >>= fun r => e.meet r.2 >>= fun rest => .ok (f r.1, rest)

/-- Whether a reading that succeeds leaves what is behind its part as it is. -/
def IsClosed (read : Reading α) : Prop :=
  ∀ ⦃ls a rest⦄, read ls = .ok (a, rest) → ∀ more, read (ls ++ more) = .ok (a, rest ++ more)

theorem exists_marked_iff {read : Reading α} {e : Expectation} {f : α → β} {rest : List Lexeme} :
    (∃ b, marked read e f ls = .ok (b, rest)) ↔
      ∃ r, read ls = .ok r ∧ e.meet r.2 = .ok rest := by
  constructor
  · rintro ⟨b, h⟩
    obtain ⟨r, hread, h⟩ := Failure.bind_eq_ok_iff.1 h
    obtain ⟨rest', hmeet, h⟩ := Failure.bind_eq_ok_iff.1 h
    cases h
    exact ⟨r, hread, hmeet⟩
  · rintro ⟨r, hread, hmeet⟩
    exact ⟨f r.1, Failure.bind_eq_ok_iff.2 ⟨r, hread, Failure.bind_eq_ok_iff.2 ⟨_, hmeet, rfl⟩⟩⟩

theorem IsLocal.isLocal_marked {read : Reading α} (h : IsLocal read) (e : Expectation)
    (f : α → β) : IsLocal (marked read e f) :=
  h.bind fun a => (isLocal_done (f a)).meet e

/-- The mark keeps what is behind it apart. -/
theorem IsLocal.isClosed_marked {read : Reading α} (h : IsLocal read) (e : Expectation)
    (f : α → β) : IsClosed (marked read e f) := by
  intro ls b rest hread more
  obtain ⟨⟨a, mid⟩, hmid, hread⟩ := Failure.bind_eq_ok_iff.1 hread
  obtain ⟨rest', hmeet, hread⟩ := Failure.bind_eq_ok_iff.1 hread
  cases hread
  cases mid with
  | nil => cases hmeet
  | cons l tail =>
    have hmore := (h.isLocalAt ls).stays (by rw [hmid]; exact List.cons_ne_nil l tail) more
    rw [hmid] at hmore
    have hl : l.kind = e.kind := by
      by_contra hl
      simp [Expectation.meet, hl] at hmeet
    rw [Expectation.meet, if_pos hl] at hmeet
    cases hmeet
    exact Failure.bind_eq_ok_iff.2 ⟨_, hmore, Failure.bind_eq_ok_iff.2 ⟨_, if_pos hl, rfl⟩⟩

/-! ## Changing what is behind -/

/-- The lexemes left behind the first of them do not matter. -/
theorem IsLocal.congr_tail {read : Reading α} (h : IsLocal read) {pre p : List Lexeme} (hp : p ≠ [])
    (hleft : left (read (pre ++ (p ++ post))) = p ++ post) (post' : List Lexeme) :
    read (pre ++ (p ++ post')) = leaving (p ++ post') (read (pre ++ (p ++ post))) := by
  rw [← List.append_assoc] at hleft ⊢
  have hpre := h.isLocalAt (pre ++ p)
  have hne : left (read (pre ++ p)) ≠ [] := by
    intro hnil
    have hle := hpre.goesOn hnil post
    have hpos := List.length_pos_iff.2 hp
    rw [hleft, List.length_append] at hle
    omega
  have hread := hpre.stays hne post
  rw [hread, left_leaving, List.append_left_inj] at hleft
  rw [← List.append_assoc, hpre.stays hne post', hread, hleft, leaving_leaving]

end Reading

namespace Attribute

open Reading

/-! ## Attributes -/

/-- The opening part of an attribute, and what its name begins with. -/
def readOpening : Reading (Wrapper × Text) := fun ls =>
  match Wrapper.read? ls with
  | none => .error ⟨.attributeName, ls⟩
  | some (wrapper, start, rest) => .ok ((wrapper, start), rest)

/-- The name of an attribute and the closing part, behind what the name begins with. -/
def readName (opening : Wrapper × Text) : Reading Attribute := fun ls =>
  opening.1.close (Lexeme.upTo (fun l => !l.isNamePart) ls).2 >>= fun rest =>
    .ok (⟨opening.2 ++ (Lexeme.upTo (fun l => !l.isNamePart) ls).1, opening.1, none⟩, rest)

/-- The value of an attribute, behind the name. -/
def readRest (a : Attribute) : Reading Attribute := fun ls =>
  readAssignment? ls >>= fun r => .ok ({ a with value? := r.1 }, r.2)

/-- An attribute is read in three parts. -/
theorem read_eq (ls : List Lexeme) : read ls =
    readOpening ls >>= fun r => readName r.1 r.2 >>= fun r => readRest r.1 r.2 := by
  rw [read, readOpening]
  cases Wrapper.read? ls with
  | none => rfl
  | some r =>
    simp only [bind, Except.bind, readName]
    cases r.1.close (Lexeme.upTo (fun l => !l.isNamePart) r.2.2).2 <;> rfl

/-- What follows `[`: a name, or `(` and a name. -/
def readBracket : Reading (Wrapper × Text)
  | ⟨.leftParen, _⟩ :: rest => .ok ((.twoWay, []), rest)
  | ls => .ok ((.bracket, []), ls)

theorem isLocal_readBracket : IsLocal readBracket := by
  refine .of_head rfl fun l => ?_
  by_cases hk : l.kind = .leftParen
  · refine ⟨_, (isLocal_done (.twoWay, [])).skip, fun rest => ?_⟩
    obtain ⟨k, t⟩ := l
    cases hk
    rfl
  · refine ⟨_, isLocal_done (.bracket, []), fun rest => ?_⟩
    obtain ⟨k, t⟩ := l
    cases k with
    | leftParen => exact absurd rfl hk
    | _ => rfl

theorem isLocal_readOpening : IsLocal readOpening := by
  refine .of_head rfl fun l => ?_
  obtain ⟨k, t⟩ := l
  cases k with
  | leftBracket =>
    refine ⟨_, isLocal_readBracket.skip, fun rest => ?_⟩
    rcases rest with _ | ⟨⟨k', t'⟩, rest⟩
    · rfl
    · cases k' <;> rfl
  | identifier | leftParen | hash | atSign | star =>
    exact ⟨_, (isLocal_done _).skip, fun rest => rfl⟩
  | _ => exact ⟨_, isLocal_fail .attributeName, fun rest => rfl⟩

theorem IsLocal.close (w : Wrapper) {α : Type} {next : Reading α} (h : IsLocal next) :
    IsLocal fun ls => w.close ls >>= next := by
  cases w with
  | plain | hash | atSign | star => exact h
  | paren | bracket => exact h.meet _
  | twoWay =>
    convert (h.meet .bracketEnd).meet .parenEnd using 2 with ls
    rw [Wrapper.close, bind_assoc]

theorem isLocal_readName (opening : Wrapper × Text) : IsLocal (readName opening) := by
  have hclose (name : Text) : IsLocal fun ls => opening.1.close ls >>= fun rest =>
      .ok ((⟨opening.2 ++ name, opening.1, none⟩ : Attribute), rest) :=
    IsLocal.close _ (isLocal_done _)
  exact IsLocal.upTo _ hclose

/-- What is made of an unquoted value at the lexeme that ends it. -/
def endValue (value : Text) : Reading Text
  | ⟨.commentEnd, _⟩ :: rest => .ok (value ++ ['-', '-'], ⟨.tagClose, ['>']⟩ :: rest)
  | rest => if value = [] then .error ⟨.attributeValue, rest⟩ else .ok (value, rest)

theorem endValue_cons {l : Lexeme} (hl : l.kind ≠ .commentEnd) (value : Text) (rest : List Lexeme) :
    endValue value (l :: rest) =
      if value = [] then .error ⟨.attributeValue, l :: rest⟩ else .ok (value, l :: rest) := by
  obtain ⟨k, t⟩ := l
  cases k with
  | commentEnd => exact absurd rfl hl
  | _ => rfl

theorem readUnquoted_eq (ls : List Lexeme) : readUnquoted ls =
    endValue (Lexeme.upTo Lexeme.endsValue ls).1 (Lexeme.upTo Lexeme.endsValue ls).2 := by
  rcases h : Lexeme.upTo Lexeme.endsValue ls with ⟨value, _ | ⟨⟨k, t⟩, rest⟩⟩
  · rw [readUnquoted, h]
    cases value <;> rfl
  · rw [readUnquoted, h]
    cases k <;> cases value <;> rfl

theorem isLocal_endValue (value : Text) : IsLocal (endValue value) := by
  have hplain : IsLocal fun ls =>
      if value = [] then .error ⟨.attributeValue, ls⟩ else .ok (value, ls) := by
    split
    · exact isLocal_fail _
    · exact isLocal_done _
  have hmark (t : Text) (rest : List Lexeme) : endValue value (⟨.commentEnd, t⟩ :: rest) =
    .ok (value ++ ['-', '-'], ⟨.tagClose, ['>']⟩ :: rest) := rfl
  refine ⟨hplain.nil, fun ls => ?_⟩
  rcases ls with _ | ⟨⟨k, t⟩, ls⟩
  · refine ⟨fun hleft => absurd hplain.nil hleft, fun _ more => ?_⟩
    rcases more with _ | ⟨⟨k, t⟩, more⟩
    · exact hplain.length_left_le []
    · by_cases hk : k = .commentEnd
      · subst hk
        exact Nat.le_refl _
      · rw [List.nil_append, endValue_cons hk]
        exact hplain.length_left_le _
  · by_cases hk : k = .commentEnd
    · subst hk
      exact ⟨fun _ more => rfl, nofun⟩
    · exact (hplain.isLocalAt _).congr fun rest => endValue_cons hk value rest

theorem isLocal_readUnquoted : IsLocal readUnquoted := by
  have hup := IsLocal.upTo Lexeme.endsValue isLocal_endValue
  rwa [← funext readUnquoted_eq] at hup

theorem isLocal_readQuoted {quote : Lexeme} (hquote : quote.kind.isQuote = true) :
    IsLocal (readQuoted quote) := by
  have hmeet (content : Text) : IsLocal fun ls => (Expectation.quoteEnd quote.kind).meet ls >>=
      fun rest => .ok (quote.text ++ content ++ quote.text, rest) :=
    (isLocal_done _).meet _
  have hup := IsLocal.upTo (fun l => l.kind == quote.kind) hmeet
  convert hup using 2 with ls
  exact if_pos hquote

theorem isLocal_readValue : IsLocal readValue := by
  refine .of_head rfl fun l => ?_
  by_cases hl : l.kind.isQuote = true
  · exact ⟨_, (isLocal_readQuoted hl).skip, fun rest => if_pos hl⟩
  · exact ⟨_, isLocal_readUnquoted, fun rest => if_neg hl⟩

theorem isLocal_readAssignment? : IsLocal readAssignment? := by
  refine .of_head rfl fun l => ?_
  obtain ⟨k, t⟩ := l
  cases k with
  | equals =>
    have hvalue := isLocal_readValue.bind fun value => isLocal_done (some value)
    exact ⟨_, hvalue.skip, fun rest => rfl⟩
  | _ => exact ⟨_, isLocal_done none, fun rest => rfl⟩

/-- An attribute is read without a look beyond the lexeme that ends it. -/
theorem isLocal_read : IsLocal read := by
  have hvalue (a : Attribute) (value? : Option Text) : IsLocal fun ls =>
      .ok ({ a with value? }, ls) :=
    isLocal_done _
  have hrest (a : Attribute) : IsLocal (readRest a) := isLocal_readAssignment?.bind (hvalue a)
  have hname (opening : Wrapper × Text) := (isLocal_readName opening).bind hrest
  convert isLocal_readOpening.bind hname using 2 with ls
  exact read_eq ls

end Attribute

namespace OpeningTag

open Reading

/-! ## Tags -/

/-- The slots of a tag, behind the white space of the next one. -/
def readSlot (tag : OpeningTag) (whitespace : Text) : Reading OpeningTag
  | [] => .ok (tag.finish whitespace false, [])
  | l :: rest =>
    if l.kind = .slash then .ok (tag.finish whitespace true, rest)
    else if l.kind = .tagClose then .ok (tag.finish whitespace false, l :: rest)
    else Attribute.read (l :: rest) >>= fun r => (tag.push whitespace r.1).readAttributes r.2

theorem readAttributes_eq (tag : OpeningTag) (ls : List Lexeme) :
    tag.readAttributes ls = tag.readSlot (Lexeme.blank ls).1 (Lexeme.blank ls).2 := by
  rcases hb : Lexeme.blank ls with ⟨w, _ | ⟨l, rest⟩⟩
  · rw [readAttributes]
    split <;> simp_all [readSlot]
  · rw [readSlot]
    split
    case isTrue hslash => exact readAttributes_of_slash hb hslash
    case isFalse hslash =>
      split
      case isTrue hclose => exact readAttributes_of_close hb hclose
      case isFalse hclose =>
        cases hread : Attribute.read (l :: rest) with
        | error f => exact readAttributes_of_error hb ⟨hslash, hclose⟩ hread
        | ok r => exact readAttributes_of_read hb hread

theorem length_left_readSlot_le (tag : OpeningTag) (whitespace : Text) (ls : List Lexeme)
    (hle : ∀ tag ls', ls'.length < ls.length →
      (left (readAttributes tag ls')).length ≤ ls'.length) :
    (left (tag.readSlot whitespace ls)).length ≤ ls.length := by
  cases ls with
  | nil => exact Nat.le_refl _
  | cons l ls =>
    rw [readSlot]
    split_ifs
    · exact Nat.le_succ _
    · exact Nat.le_refl _
    · cases hread : Attribute.read (l :: ls) with
      | error f =>
        have hlen := Attribute.isLocal_read.length_left_le (l :: ls)
        rwa [hread] at hlen
      | ok r =>
        have hlt := Attribute.length_of_read hread
        exact (hle _ _ hlt).trans (Nat.le_of_lt hlt)

theorem length_left_readAttributes_le (tag : OpeningTag) (ls : List Lexeme) :
    (left (tag.readAttributes ls)).length ≤ ls.length := by
  induction hn : ls.length using Nat.strong_induction_on generalizing tag ls with
  | _ n ih =>
    subst hn
    have hblank := Lexeme.length_blank_le ls
    rw [readAttributes_eq]
    refine (length_left_readSlot_le _ _ _ fun tag ls' hlt => ?_).trans hblank
    exact ih _ (Nat.lt_of_lt_of_le hlt hblank) tag ls' rfl

/-- The slots of a tag are read without a look beyond the lexeme that ends them. -/
theorem isLocal_readAttributes (tag : OpeningTag) : IsLocal tag.readAttributes := by
  have hnil (tag : OpeningTag) : left (tag.readAttributes []) = [] := by
    rw [readAttributes_eq]
    rfl
  refine ⟨hnil tag, fun ls => ?_⟩
  induction hn : ls.length using Nat.strong_induction_on generalizing tag ls with
  | _ n ih =>
    subst hn
    -- the slot behind the white space is local, since the ones behind it are
    have hslot (w : Text) (mid : List Lexeme) (hmid : mid.length ≤ ls.length) :
        IsLocalAt (tag.readSlot w) mid := by
      have hle (mid : List Lexeme) : (left (tag.readSlot w mid)).length ≤ mid.length :=
        length_left_readSlot_le tag w mid fun tag ls' _ => length_left_readAttributes_le tag ls'
      cases mid with
      | nil => exact ⟨fun hleft => absurd rfl hleft, fun _ => hle⟩
      | cons l mid =>
        by_cases hslash : l.kind = .slash
        · exact ((isLocal_done _).skip.isLocalAt (l :: mid)).congr fun rest => if_pos hslash
        · by_cases hclose : l.kind = .tagClose
          · refine ((isLocal_done (tag.finish w false)).isLocalAt (l :: mid)).congr fun rest => ?_
            exact (if_neg hslash).trans (if_pos hclose)
          · have hmore (a : Attribute) (rest : List Lexeme)
                (hread : Attribute.read (l :: mid) = .ok (a, rest)) :
                IsLocalAt (tag.push w a).readAttributes rest := by
              have hlt := Nat.lt_of_lt_of_le (Attribute.length_of_read hread) hmid
              exact ih _ hlt (tag.push w a) rest rfl
            have hbind := (Attribute.isLocal_read.isLocalAt (l :: mid)).bind hmore
              (fun a => hnil _) fun a => length_left_readAttributes_le _
            exact hbind.congr fun rest => (if_neg hslash).trans (if_neg hclose)
    have hblank (w : Text) (mid : List Lexeme)
        (hmid : (.ok (Lexeme.blank ls) : Except Failure _) = .ok (w, mid)) :
        mid.length ≤ ls.length := by
      have hle := Lexeme.length_blank_le ls
      rwa [Except.ok.inj hmid] at hle
    have hbind := (isLocal_blank.isLocalAt ls).bind
      (fun w mid hmid => hslot w mid (hblank w mid hmid)) (fun w => rfl) fun w mid =>
        length_left_readSlot_le tag w mid fun tag ls' _ => length_left_readAttributes_le tag ls'
    convert hbind using 2 with ls
    exact readAttributes_eq tag ls

end OpeningTag

namespace SourceNode

open Reading

variable (arrange : List Attribute → List Attribute)

/-! ## Nodes -/

theorem readUntil_eq (e : Expectation) (node : Text → Node) : readUntil e node =
    marked (fun ls => .ok (Lexeme.upTo (fun l => l.kind == e.kind) ls)) e
      fun content => ⟨[], node content⟩ := rfl

theorem readClosingTag_eq : readClosingTag =
    marked (fun ls => .ok (Lexeme.tagName ls)) .closingTagEnd
      fun name => ⟨[], .closingTag name⟩ := rfl

/-- An opening tag behind `<`, without its `>`. -/
def readSlots : Reading (Text × OpeningTag) := fun ls =>
  OpeningTag.readNamed (Lexeme.blank ls).2 >>= fun r => .ok (((Lexeme.blank ls).1, r.1), r.2)

theorem readOpeningTag_eq_marked : readOpeningTag arrange =
    marked readSlots .tagEnd fun r => ⟨r.1, .openingTag (r.2.mapAttributes arrange)⟩ := by
  funext ls
  rw [readOpeningTag_eq, marked, readSlots]
  cases OpeningTag.readNamed (Lexeme.blank ls).2 <;> rfl

theorem isLocal_tagName : IsLocal fun ls => .ok (Lexeme.tagName ls) := isLocal_upTo _

theorem isLocal_readSlots : IsLocal readSlots := by
  have hdone (lead : Text) (tag : OpeningTag) : IsLocal fun ls => .ok ((lead, tag), ls) :=
    isLocal_done _
  have hread (lead name : Text) :=
    (OpeningTag.isLocal_readAttributes (.named name)).bind (hdone lead)
  exact IsLocal.blank fun lead => isLocal_tagName.bind (hread lead)

/-- A tag, behind `<`. -/
def readTag : Reading SourceNode
  | ⟨.slash, _⟩ :: rest => readClosingTag rest
  | ls => readOpeningTag arrange ls

variable {arrange} in
theorem readTag_of_ne {l : Lexeme} (hl : l.kind ≠ .slash) (rest : List Lexeme) :
    readTag arrange (l :: rest) = readOpeningTag arrange (l :: rest) := by
  obtain ⟨k, t⟩ := l
  cases k with
  | slash => exact absurd rfl hl
  | _ => rfl

theorem isLocal_readTag : IsLocal (readTag arrange) := by
  have hopening : IsLocal (readOpeningTag arrange) :=
    readOpeningTag_eq_marked arrange ▸ isLocal_readSlots.isLocal_marked _ _
  have hclosing : IsLocal readClosingTag :=
    readClosingTag_eq ▸ isLocal_tagName.isLocal_marked _ _
  refine .of_head hopening.nil fun l => ?_
  by_cases hl : l.kind = .slash
  · refine ⟨_, hclosing.skip, fun rest => ?_⟩
    obtain ⟨k, t⟩ := l
    cases hl
    rfl
  · exact ⟨_, hopening, readTag_of_ne hl⟩

/-- **A node is read without a look beyond the lexeme at which the reading stops.** -/
theorem isLocal_read (l : Lexeme) : IsLocal (read arrange l) := by
  have huntil (e : Expectation) (node : Text → Node) : IsLocal (readUntil e node) :=
    readUntil_eq e node ▸ (isLocal_upTo _).isLocal_marked e _
  have htext (content : Text) : IsLocal fun ls =>
      .ok ((⟨[], .text (l.text ++ content)⟩ : SourceNode), ls) :=
    isLocal_done _
  rw [show read arrange l = _ from funext fun rest => read_eq arrange l rest]
  split
  · exact isLocal_readTag arrange
  · exact huntil _ _
  · exact huntil _ _
  · exact IsLocal.upTo endsText htext

/-- A tag is kept apart from what is behind it by its `>`. -/
theorem isClosed_readTag : IsClosed (readTag arrange) := by
  have hopening : IsClosed (readOpeningTag arrange) :=
    readOpeningTag_eq_marked arrange ▸ isLocal_readSlots.isClosed_marked _ _
  have hclosing : IsClosed readClosingTag :=
    readClosingTag_eq ▸ isLocal_tagName.isClosed_marked _ _
  intro ls n rest hread more
  rcases ls with _ | ⟨l, ls⟩
  · have hnil : readTag arrange [] = .error ⟨.tagEnd, []⟩ := by
      change readOpeningTag arrange [] = _
      rw [readOpeningTag_eq, OpeningTag.readNamed, OpeningTag.readAttributes_eq]
      rfl
    rw [hnil] at hread
    cases hread
  · by_cases hl : l.kind = .slash
    · obtain ⟨k, t⟩ := l
      cases hl
      exact hclosing hread more
    · rw [readTag_of_ne hl] at hread
      rw [List.cons_append, readTag_of_ne hl]
      exact hopening hread more

theorem isClosed_readUntil (e : Expectation) (node : Text → Node) : IsClosed (readUntil e node) :=
  readUntil_eq e node ▸ (isLocal_upTo _).isClosed_marked e _

end SourceNode

end MarkupOrder
