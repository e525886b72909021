import MarkupOrder.Proofs.Pattern.Brackets

/-!
# Repetitions and groups before a closing parenthesis

* `isSteady_readRange?`: the bounds of a counted repetition.
* `Mode.isSteady_readFlags?`, `isSteady_readGroupName?`, `Reading.isSteady_openGroup?`: what stands
  behind an opening parenthesis.
* `Reading.isSteady_step?`: what one step of the loop reads.
-/

namespace MarkupOrder.Pattern

variable {α : Type} {m : Mode} {t : Text}

/-! ## Repetitions -/

theorem isSteady_skipLazy : IsSteady fun t => some ((), skipLazy t) := by
  refine .ofHead (c := '?') (by decide) (.pure ()) (.pure ()) (fun rest => rfl) fun t ht => ?_
  unfold skipLazy
  split
  · simp at ht
  · rfl

/-- What is read behind the digits of a count. -/
theorem isSteady_behindDigits (digits : Text) : IsSteady fun rest => match (digits, rest) with
    | ([], _) => none
    | (digits, rest) =>
      let n := digits.foldl (fun n c => 10 * n + (c.toNat - '0'.toNat)) 0
      if n ≤ maxCount then some (n, rest.dropWhile Unicode.isWhitespace) else none := by
  cases digits with
  | nil => exact .fail
  | cons d digits => exact .ite (isSteady_blank.bind fun _ => .pure _) .fail _

theorem isSteady_readCount? (m : Mode) : IsSteady (readCount? m) := by
  have hdigits := (m.isSteady_gather (p := Char.isDigit) (by decide)).bind isSteady_behindDigits
  exact isSteady_blank.bind fun _ => hdigits

/-- The bounds of a counted repetition, as one value. -/
def readRange? (m : Mode) (t : Text) : Option ((Nat × Option Nat) × Text) :=
  (readBounds? m t).map fun p => ((p.1, p.2.1), p.2.2)

/-- What ends the bounds of a counted repetition. -/
theorem isSteady_braceEnd (a : α) : IsSteady fun t => match t with
    | '\x7d' :: rest => some (a, rest)
    | _ => none := by
  refine .ofHead (c := '\x7d') (by decide) (.pure a) .fail (fun rest => rfl) fun t ht => ?_
  split <;> simp_all

/-- What is read of the upper bound, if there is one. -/
def readUpper? (m : Mode) (min : Nat) (t : Text) : Option ((Nat × Option Nat) × Text) :=
  (readCount? m t).bind fun p =>
    if min ≤ p.1 then
      match p.2 with
      | '\x7d' :: rest => some ((min, some p.1), rest)
      | _ => none
    else none

/-- What is read behind the comma between two bounds. -/
def readMax? (m : Mode) (min : Nat) (t : Text) : Option ((Nat × Option Nat) × Text) :=
  match m.skip t with
  | '\x7d' :: rest => some ((min, none), rest)
  | rest => readUpper? m min rest

theorem isSteady_readUpper? (m : Mode) (min : Nat) : IsSteady (readUpper? m min) :=
  (isSteady_readCount? m).bind fun max => .ite (isSteady_braceEnd (min, some max)) .fail _

theorem isSteady_readMax? (m : Mode) (min : Nat) : IsSteady (readMax? m min) := by
  refine .ofSkip m (c := '\x7d') (by decide) (.pure (min, none)) (isSteady_readUpper? m min)
    (fun t rest h => ?_) fun t h => ?_
  · rw [readMax?, h]
    rfl
  · rw [readMax?]
    split
    · simp_all
    · rfl

theorem readUpper?_eq (m : Mode) (min : Nat) (t : Text) : readUpper? m min t =
    Option.map (fun p => ((p.1, p.2.1), p.2.2)) (do
      let (max, rest) ← readCount? m t
      guard (min ≤ max)
      match rest with
      | '\x7d' :: rest => return (min, some max, rest)
      | _ => none) := by
  unfold readUpper?
  cases readCount? m t with
  | none => rfl
  | some p =>
    obtain ⟨max, rest⟩ := p
    by_cases hle : min ≤ max
    · match rest with
      | [] => simp [guard, hle]
      | c :: rest => by_cases hc : c = '\x7d' <;> simp [guard, hle, hc]
    · rw [Option.bind_some, if_neg hle, Option.bind_eq_bind, Option.bind_some]
      simp only [guard, if_neg hle]
      rfl

theorem readRange?_eq (m : Mode) (t : Text) : readRange? m t = (readCount? m t).bind fun p =>
    match p.2 with
    | '\x7d' :: rest => some ((p.1, some p.1), rest)
    | ',' :: rest => readMax? m p.1 rest
    | _ => none := by
  unfold readRange? readBounds?
  cases readCount? m t with
  | none => rfl
  | some p =>
    obtain ⟨min, rest⟩ := p
    match rest with
    | [] => rfl
    | c :: rest =>
      by_cases hbrace : c = '\x7d'
      · simp [hbrace]
      by_cases hcomma : c = ','
      · cases hu : m.skip rest with
        | nil =>
          have hupper := readUpper?_eq m min []
          simp [readMax?, hcomma, hu] at hupper ⊢
          exact hupper.symm
        | cons d u =>
          by_cases hd : d = '\x7d'
          · simp [readMax?, hcomma, hu, hd]
          · have hupper := readUpper?_eq m min (d :: u)
            simp [readMax?, hcomma, hu, hd] at hupper ⊢
            exact hupper.symm
      · simp [hbrace, hcomma]

/-- What is read behind the lower bound, if a comma comes there. -/
def readComma? (m : Mode) (min : Nat) (t : Text) : Option ((Nat × Option Nat) × Text) :=
  match t with
  | ',' :: rest => readMax? m min rest
  | _ => none

theorem isSteady_readComma? (m : Mode) (min : Nat) : IsSteady (readComma? m min) := by
  refine .ofHead (c := ',') (by decide) (isSteady_readMax? m min) .fail (fun rest => rfl)
    fun t ht => ?_
  unfold readComma?
  split <;> simp_all

theorem isSteady_readRange? (m : Mode) : IsSteady (readRange? m) := by
  have hbehind (min : Nat) : IsSteady fun t => match t with
      | '\x7d' :: rest => some ((min, some min), rest)
      | ',' :: rest => readMax? m min rest
      | _ => none := by
    refine .ofHead (c := '\x7d') (by decide) (.pure (min, some min)) (isSteady_readComma? m min)
      (fun rest => rfl) fun t ht => ?_
    unfold readComma?
    split <;> simp_all
  exact ((isSteady_readCount? m).bind hbehind).congr (readRange?_eq m)

/-! ## Groups -/

theorem isSteady_readGroupName? : IsSteady readGroupName? where
  agrees t := by
    simp only [readGroupName?]
    cases hd : t.dropWhile (· != '>') with
    | nil =>
      refine .ends (fun a x h => by cases h) (fun v b y h => ?_)
      rw [List.dropWhile_append, hd] at h
      have hle := (List.dropWhile_sublist (· != '>') (l := v)).length_le
      split at h
      · cases h
      · rename_i c rest hv
        split at h
        · cases h
          have hv : v.dropWhile (· != '>') = c :: y := by simpa using hv
          rw [hv] at hle
          exact Nat.le_of_succ_le hle
        · cases h
    | cons c rest =>
      simp only [cut_append hd _]
      by_cases hname : isGroupName (t.takeWhile (· != '>')) = true
      · simp only [if_pos hname]
        exact (IsSteady.pure _).agrees rest
      · simp only [if_neg hname]
        exact IsSteady.fail.agrees rest
  suffix {t x a} h := by
    unfold readGroupName? at h
    split at h
    · cases h
    · rename_i c rest ht
      have hcut := List.dropWhile_suffix (· != '>') (l := t)
      rw [ht] at hcut
      dsimp only at h
      split at h
      · cases h
        exact (List.suffix_cons c x).trans hcut
      · cases h

theorem Mode.agrees_readFlags? (m : Mode) (seen : List Char) (on : Bool) (t : Text) :
    Agrees (m.readFlags? seen on t) fun v => m.readFlags? seen on (t ++ ')' :: v) := by
  induction t generalizing m seen on with
  | nil =>
    refine .ends (fun a x h => by cases h) (fun v b y h => ?_)
    exact Nat.le_of_lt_succ (length_of_readFlags? h)
  | cons c t ih =>
    simp only [List.cons_append, readFlags?]
    by_cases hend : c = ':' ∨ c = ')'
    · simp only [if_pos hend]
      split
      · exact IsSteady.fail.agrees t
      · exact (IsSteady.pure _).agrees t
    simp only [if_neg hend]
    by_cases hseen : c ∈ seen
    · simp only [if_pos hseen]
      exact IsSteady.fail.agrees t
    simp only [if_neg hseen]
    by_cases hoff : c = '-'
    · simp only [if_pos hoff]
      exact ih m _ false
    · simp only [if_neg hoff]
      cases m.set? c on with
      | none => exact IsSteady.fail.agrees t
      | some m => exact ih m _ on

theorem Mode.suffix_of_readFlags? {m : Mode} {seen : List Char} {on : Bool} {t x : Text}
    {flags : Mode.Flags} (h : m.readFlags? seen on t = some (flags, x)) : x <:+ t := by
  induction t generalizing m seen on with
  | nil => cases h
  | cons c t ih =>
    rw [readFlags?] at h
    split at h
    · split at h
      · cases h
      · cases h
        exact List.suffix_cons c x
    · split at h
      · cases h
      · split at h
        · exact (ih h).trans (List.suffix_cons c t)
        · obtain ⟨_, -, h⟩ := Option.bind_eq_some_iff.1 h
          exact (ih h).trans (List.suffix_cons c t)

theorem Mode.isSteady_readFlags? (m : Mode) (seen : List Char) (on : Bool) :
    IsSteady (m.readFlags? seen on) :=
  ⟨m.agrees_readFlags? seen on, suffix_of_readFlags?⟩

namespace Reading

variable {r : Reading}

theorem looksAround_append (t v : Text) : looksAround (t ++ ')' :: v) = looksAround t := by
  match t with
  | [] => rfl
  | [a] => simp [looksAround, Text.startsWith, List.isPrefixOf]
  | [a, b] => simp [looksAround, Text.startsWith, List.isPrefixOf]
  | a :: b :: c :: t => simp [looksAround, Text.startsWith, List.isPrefixOf]

/-- Open a group by its name. -/
def openNamed? (r : Reading) (t : Text) : Option (Reading × Text) :=
  (readGroupName? t).bind fun p => (r.pushNamed? p.1).map (·, p.2)

/-- Open a group with flags, or change the mode of the group that is open. -/
def applyFlags? (r : Reading) (flags : Mode.Flags) : Option Reading :=
  if flags.isGroup then some (r.push flags.mode)
  else if flags.isEmpty then none
  else some { r.add .directive with mode := flags.mode }

/-- Read flags, and apply them. -/
def openFlags? (r : Reading) (t : Text) : Option (Reading × Text) :=
  (r.mode.readFlags? [] true t).bind fun p => (r.applyFlags? p.1).map (·, p.2)

theorem isSteady_openNamed? (r : Reading) : IsSteady r.openNamed? :=
  isSteady_readGroupName?.bindMap r.pushNamed?

theorem isSteady_openFlags? (r : Reading) : IsSteady r.openFlags? :=
  (r.mode.isSteady_readFlags? [] true).bindMap r.applyFlags?

/-- What is read behind an opening parenthesis and a question mark. -/
def openMarked? (r : Reading) (t : Text) : Option (Reading × Text) :=
  match t with
  | 'P' :: '<' :: rest => r.openNamed? rest
  | '<' :: rest => r.openNamed? rest
  | rest => r.openFlags? rest

/-- What is read of a name in angle brackets. -/
def openAngled? (r : Reading) (t : Text) : Option (Reading × Text) :=
  match t with
  | '<' :: rest => r.openNamed? rest
  | _ => none

/-- What is read of a name behind a letter, and of flags. -/
def openLettered? (r : Reading) (t : Text) : Option (Reading × Text) :=
  match t with
  | 'P' :: '<' :: rest => r.openNamed? rest
  | rest => r.openFlags? rest

theorem openFlags?_P (r : Reading) (t : Text) : r.openFlags? ('P' :: t) = none := by
  simp [openFlags?, Mode.readFlags?, Mode.set?]

theorem isSteady_openAngled? (r : Reading) : IsSteady r.openAngled? := by
  refine .ofHead (c := '<') (by decide) r.isSteady_openNamed? .fail (fun rest => rfl)
    fun t ht => ?_
  unfold openAngled?
  split <;> simp_all

theorem isSteady_openLettered? (r : Reading) : IsSteady r.openLettered? := by
  refine .ofHead (c := 'P') (by decide) r.isSteady_openAngled? r.isSteady_openFlags?
    (fun rest => ?_) fun t ht => ?_
  · cases rest with
    | nil => exact r.openFlags?_P []
    | cons c rest =>
      by_cases hc : c = '<'
      · subst hc
        rfl
      · unfold openLettered? openAngled?
        split
        · simp_all
        · rw [openFlags?_P]
          split <;> simp_all
  · unfold openLettered?
    split <;> simp_all

theorem isSteady_openMarked? (r : Reading) : IsSteady r.openMarked? := by
  refine .ofHead (c := '<') (by decide) r.isSteady_openNamed? r.isSteady_openLettered?
    (fun rest => rfl) fun t ht => ?_
  unfold openMarked? openLettered?
  split <;> simp_all

theorem openNamed?_eq (r : Reading) (t : Text) : r.openNamed? t = do
    let (name, rest) ← readGroupName? t
    return (← r.pushNamed? name, rest) := by
  unfold openNamed?
  cases readGroupName? t with
  | none => rfl
  | some p => cases h : r.pushNamed? p.1 <;> simp [h]

theorem openGroup?_eq (r : Reading) (t : Text) : r.openGroup? t =
    if looksAround (r.mode.skip t) = true then none
    else match r.mode.skip t with
      | '?' :: rest => r.openMarked? rest
      | rest => some (r.push r.mode, rest) := by
  unfold openGroup?
  generalize r.mode.skip t = u
  dsimp only
  split
  · rfl
  · split
    · exact (r.openNamed?_eq _).symm
    · exact (r.openNamed?_eq _).symm
    · rename_i rest hP hangle _
      have hmarked : r.openMarked? rest = r.openFlags? rest := by
        unfold openMarked?
        split
        · exact absurd rfl (hP _)
        · exact absurd rfl (hangle _)
        · rfl
      change _ = r.openMarked? rest
      rw [hmarked, openFlags?]
      cases r.mode.readFlags? [] true rest with
      | none => rfl
      | some p =>
        rw [Option.bind_eq_bind, Option.bind_some, Option.bind_some, applyFlags?]
        dsimp only
        split
        · rfl
        · split <;> rfl
    · rename_i hmark
      split
      · exact absurd rfl (hmark _)
      · rfl

theorem isSteady_openGroup? (r : Reading) : IsSteady r.openGroup? := by
  have hopened : IsSteady fun t => match t with
      | '?' :: rest => r.openMarked? rest
      | rest => some (r.push r.mode, rest) := by
    refine .ofHead (c := '?') (by decide) r.isSteady_openMarked? (.pure (r.push r.mode))
      (fun rest => rfl) fun t ht => ?_
    split <;> simp_all
  have hlook := IsSteady.fail.iteAt hopened (p := fun t => looksAround t = true) fun t v => by
    rw [looksAround_append]
  exact (hlook.afterSkip r.mode).congr (openGroup?_eq r)

/-! ## The loop -/

theorem isSteady_repeatLast? (r : Reading) (min : Nat) (max? : Option Nat) :
    IsSteady fun t => (r.repeatLast? min max?).map (·, skipLazy t) := by
  cases r.repeatLast? min max? with
  | none => exact .fail
  | some r => exact isSteady_skipLazy.bind fun _ => .pure r

theorem isSteady_step? (r : Reading) {c : Char} (hc : c ≠ '\\') : IsSteady (r.step? c) := by
  have hset : IsSteady fun t => (Bracket.read? r.mode t).bind fun p =>
      (some (r.add (.ofPart p.1))).map (·, p.2) :=
    (Bracket.isSteady_read? r.mode).bindMap fun p => some (r.add (.ofPart p))
  have hcounted : IsSteady fun t => (readRange? r.mode t).bind fun p =>
      (r.repeatLast? p.1.1 p.1.2).map (·, skipLazy (r.mode.skip p.2)) :=
    (isSteady_readRange? r.mode).bind fun range =>
      (r.isSteady_repeatLast? range.1 range.2).afterSkip r.mode
  unfold step?
  split
  · exact r.isSteady_openGroup?
  · exact .ofOption r.pop?
  · exact .pure r.branch
  · refine hset.congr fun t => ?_
    cases Bracket.read? r.mode t <;> rfl
  · exact r.isSteady_repeatLast? 0 (some 1)
  · exact r.isSteady_repeatLast? 0 none
  · exact r.isSteady_repeatLast? 1 none
  · refine hcounted.congr fun t => ?_
    simp only [readRange?, Option.bind_map]
    cases hb : readBounds? r.mode t with
    | none => rfl
    | some b => cases hr : r.repeatLast? b.1 b.2.1 <;> simp [hr]
  · exact absurd rfl hc
  · refine (IsSteady.ofOption (r.mode.dot?.map fun s => r.add (.leaf (.set s)))).congr fun t => ?_
    rw [Option.map_map]
    rfl
  · exact .pure (r.add (.leaf (.look r.mode.lineStart)))
  · exact .pure (r.add (.leaf (.look r.mode.lineEnd)))
  · exact .pure (r.add (pieceOf r.mode (.char c)))

end Reading

end MarkupOrder.Pattern
