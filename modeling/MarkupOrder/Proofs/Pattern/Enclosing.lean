import MarkupOrder.Proofs.Pattern.Prefixes

/-!
# Texts inside a group

* `Reading.within`: a reading with more open groups around it. `Reading.Leads.within` and
  `Reading.Leads.of_within`: they make no difference until one of them is closed.
* `Reading.home?`: the mode behind the outermost group, which no step changes.
* `Piece.ofText?`: what a text stands for, whatever its size; `Regex.ofText?_eq`.
* `ClosesGroup`: whether a parenthesis behind a text closes a group that the text has not opened;
  `closesGroup_iff`.
-/

namespace MarkupOrder.Pattern

namespace Reading

variable {r r₁ r' R : Reading} {c : Char} {t x y rest : Text} {m : Mode} {base : List Group}

/-! ## Groups around a reading -/

/-- The reading with more open groups around it. -/
def within (r : Reading) (base : List Group) : Reading := { r with outer := r.outer ++ base }

@[simp] theorem within_mode (r : Reading) (base : List Group) : (r.within base).mode = r.mode := rfl

@[simp] theorem within_outer (r : Reading) (base : List Group) :
    (r.within base).outer = r.outer ++ base := rfl

theorem pushNamed?_within (r : Reading) (base : List Group) (name : Text) :
    (r.within base).pushNamed? name = (r.pushNamed? name).map (·.within base) := by
  unfold pushNamed?
  change (if r.names.contains name = true then _ else _) = _
  split <;> rfl

theorem repeatLast?_within (r : Reading) (base : List Group) (min : Nat) (max? : Option Nat) :
    (r.within base).repeatLast? min max? = (r.repeatLast? min max?).map (·.within base) := by
  unfold repeatLast?
  rw [Option.map_map]
  rfl

theorem pop?_within (h : r.outer ≠ []) : (r.within base).pop? = r.pop?.map (·.within base) := by
  obtain ⟨mode, names, group, _ | ⟨g, outer⟩⟩ := r
  · exact absurd rfl h
  · rfl

theorem openNamed?_within (r : Reading) (base : List Group) (t : Text) :
    (r.within base).openNamed? t = (r.openNamed? t).map fun p => (p.1.within base, p.2) := by
  unfold openNamed?
  cases readGroupName? t with
  | none => rfl
  | some p => simp [pushNamed?_within, Option.map_map, Function.comp_def]

theorem openFlags?_within (r : Reading) (base : List Group) (t : Text) :
    (r.within base).openFlags? t = (r.openFlags? t).map fun p => (p.1.within base, p.2) := by
  unfold openFlags?
  rw [within_mode]
  cases r.mode.readFlags? [] true t with
  | none => rfl
  | some p =>
    simp only [Option.bind_some, applyFlags?]
    split
    · rfl
    · split <;> rfl

theorem openGroup?_within (r : Reading) (base : List Group) (t : Text) :
    (r.within base).openGroup? t = (r.openGroup? t).map fun p => (p.1.within base, p.2) := by
  rw [openGroup?_eq, openGroup?_eq, within_mode]
  split
  · rfl
  · split
    · unfold openMarked?
      split
      · exact r.openNamed?_within base _
      · exact r.openNamed?_within base _
      · exact r.openFlags?_within base _
    · rfl

/-- A step does not depend on the groups around a reading, unless it closes one of them. -/
theorem step?_within (h : c = ')' → r.outer ≠ []) :
    (r.within base).step? c t = (r.step? c t).map fun p => (p.1.within base, p.2) := by
  unfold step?
  split
  · exact r.openGroup?_within base t
  · rw [pop?_within (h rfl)]
    cases r.pop? <;> rfl
  · rfl
  · rw [within_mode]
    cases Bracket.read? r.mode t <;> rfl
  · rw [repeatLast?_within]
    cases r.repeatLast? 0 (some 1) <;> rfl
  · rw [repeatLast?_within]
    cases r.repeatLast? 0 none <;> rfl
  · rw [repeatLast?_within]
    cases r.repeatLast? 1 none <;> rfl
  · rw [within_mode]
    cases readBounds? r.mode t with
    | none => rfl
    | some b =>
      obtain ⟨min, max?, rest⟩ := b
      simp only [Option.bind_eq_bind, Option.bind_some, repeatLast?_within]
      cases r.repeatLast? min max? <;> rfl
  · rw [within_mode]
    cases Atom.readEscape? r.mode t <;> rfl
  · rw [within_mode]
    cases r.mode.dot? <;> rfl
  · rfl
  · rfl
  · rfl

theorem step?_close_of_outer_nil (h : r.outer = []) : r.step? ')' t = none := by
  simp [step?, pop?, h]

/-- **What is read by itself is read inside groups.** -/
theorem Leads.within (h : Leads r t r' x) (base : List Group) :
    Leads (r.within base) t (r'.within base) x := by
  induction h with
  | refl => exact .refl _ _
  | @step r r₁ r' c t t₁ x rest hskip hstep _ ih =>
    have hopen : c = ')' → r.outer ≠ [] := by
      rintro rfl hnil
      simp [step?_close_of_outer_nil hnil] at hstep
    exact .step hskip (by rw [step?_within hopen, hstep, Option.map_some]) ih

/-- **What is read inside groups** is read by itself, up to where one of the groups is closed. -/
theorem Leads.of_within (h : Leads (r.within base) t R y) :
    (∃ r', R = r'.within base ∧ Leads r t r' y) ∨
      ∃ r' x w, Leads r t r' x ∧ r'.outer = [] ∧ r'.mode.skip x = ')' :: w := by
  generalize hs : r.within base = s at h
  induction h generalizing r with
  | refl => exact .inl ⟨r, hs.symm, .refl r _⟩
  | @step _ s₁ R c t t₁ y rest hskip hstep h ih =>
    subst hs
    by_cases hclose : c = ')' ∧ r.outer = []
    · obtain ⟨rfl, hnil⟩ := hclose
      exact .inr ⟨r, t, rest, .refl r t, hnil, hskip⟩
    · rw [step?_within fun hc hnil => hclose ⟨hc, hnil⟩] at hstep
      obtain ⟨⟨r₁, x₁⟩, hown, hstep⟩ := Option.map_eq_some_iff.1 hstep
      cases hstep
      refine (ih rfl).imp ?_ ?_
      · rintro ⟨r', hR, hleads⟩
        exact ⟨r', hR, .step hskip hown hleads⟩
      · rintro ⟨r', x, w, hleads, hr'⟩
        exact ⟨r', x, w, .step hskip hown hleads, hr'⟩

/-! ## The mode behind the outermost group -/

/-- The modes to go back to behind the open groups, the innermost first. -/
def modes (r : Reading) : List Mode := (r.group :: r.outer).map (·.mode)

/-- The mode to go back to behind the outermost group. -/
def home? (r : Reading) : Option Mode := r.modes.getLast?

theorem modes_push (r : Reading) (m : Mode) : (r.push m).modes = r.mode :: r.modes := rfl

theorem modes_add (r : Reading) (p : Piece) : (r.add p).modes = r.modes := rfl

theorem modes_pop? (h : r.pop? = some r') : ∃ m, r.modes = m :: r'.modes := by
  unfold pop? at h
  split at h
  · cases h
  · rename_i g outer houter
    cases h
    exact ⟨r.group.mode, by simp [modes, houter, Group.add]⟩

theorem modes_repeatLast? {min : Nat} {max? : Option Nat} (h : r.repeatLast? min max? = some r') :
    r'.modes = r.modes := by
  obtain ⟨g, hg, rfl⟩ := Option.map_eq_some_iff.1 h
  unfold Group.repeatLast? at hg
  split at hg
  · cases hg
  · split at hg
    · cases hg
      rfl
    · cases hg

theorem modes_openGroup? (h : r.openGroup? t = some (r', rest)) :
    r'.modes = r.modes ∨ r'.modes = r.mode :: r.modes := by
  have hnamed {t : Text} (h : r.openNamed? t = some (r', rest)) : r'.modes = r.mode :: r.modes := by
    obtain ⟨⟨name, _⟩, -, h⟩ := Option.bind_eq_some_iff.1 h
    obtain ⟨r₁, hr₁, h⟩ := Option.map_eq_some_iff.1 h
    cases h
    unfold pushNamed? at hr₁
    split at hr₁
    · cases hr₁
    · cases hr₁
      rfl
  rw [openGroup?_eq] at h
  split at h
  · cases h
  · split at h
    · unfold openMarked? at h
      split at h
      · exact .inr (hnamed h)
      · exact .inr (hnamed h)
      · obtain ⟨⟨flags, _⟩, -, h⟩ := Option.bind_eq_some_iff.1 h
        obtain ⟨r₁, hr₁, h⟩ := Option.map_eq_some_iff.1 h
        cases h
        unfold applyFlags? at hr₁
        split at hr₁
        · cases hr₁
          exact .inr (modes_push r _)
        · split at hr₁
          · cases hr₁
          · cases hr₁
            exact .inl (modes_add r _)
    · cases h
      exact .inr (modes_push r _)

/-- What a step does to the open groups: nothing, or it opens or closes one. -/
theorem modes_step? (h : r.step? c t = some (r', rest)) :
    r'.modes = r.modes ∨ r'.modes = r.mode :: r.modes ∨ ∃ m, r.modes = m :: r'.modes := by
  unfold step? at h
  split at h
  case h_1 => exact (modes_openGroup? h).imp_right .inl
  case h_2 =>
    obtain ⟨r₁, hr₁, h⟩ := Option.map_eq_some_iff.1 h
    cases h
    exact .inr (.inr (modes_pop? hr₁))
  case h_5 | h_6 | h_7 =>
    obtain ⟨r₁, hr₁, h⟩ := Option.map_eq_some_iff.1 h
    cases h
    exact .inl (modes_repeatLast? hr₁)
  case h_8 =>
    obtain ⟨_, -, h⟩ := Option.bind_eq_some_iff.1 h
    obtain ⟨r₁, hr₁, h⟩ := Option.bind_eq_some_iff.1 h
    cases h
    exact .inl (modes_repeatLast? hr₁)
  case h_4 | h_9 =>
    obtain ⟨_, -, h⟩ := Option.bind_eq_some_iff.1 h
    cases h
    exact .inl (modes_add r _)
  case h_10 =>
    obtain ⟨_, -, h⟩ := Option.map_eq_some_iff.1 h
    cases h
    exact .inl (modes_add r _)
  all_goals
    cases h
    exact .inl rfl

theorem home?_step? (h : r.step? c t = some (r', rest)) : r'.home? = r.home? := by
  have hcons (m : Mode) (r : Reading) : (m :: r.modes).getLast? = r.home? := List.getLast?_cons_cons
  rcases modes_step? h with hsame | hopen | ⟨m, hclose⟩
  · rw [home?, hsame, home?]
  · rw [home?, hopen, hcons]
  · rw [home?, home?, hclose]
    exact (hcons m r').symm

/-- The mode behind the outermost group stays. -/
theorem Leads.home?_eq (h : Leads r t r' x) : r'.home? = r.home? := by
  induction h with
  | refl => rfl
  | step _ hstep _ ih => exact ih.trans (home?_step? hstep)

/-- Where all groups but the outermost are closed, the mode behind it is that of the beginning. -/
theorem Leads.group_mode_eq (h : Leads initial t r' x) (houter : r'.outer = []) :
    r'.group.mode = {} := by
  have := h.home?_eq
  simpa [home?, modes, houter, initial, Group.opened] using this

end Reading

/-! ## Texts that close a group around them -/

/-- Whether a piece keeps to the limits. -/
def Piece.Fits (p : Piece) : Prop := p.height ≤ Regex.maxHeight ∧ p.regex.size ≤ Regex.maxSize

instance (p : Piece) : Decidable p.Fits := inferInstanceAs (Decidable (_ ∧ _))

/-- What a text stands for, whether or not it keeps to the limits. -/
def Piece.ofText? (t : Text) : Option Piece := (Reading.initial.run? t).bind Reading.finish?

theorem Regex.ofText?_eq (t : Text) :
    Regex.ofText? t = (Piece.ofText? t).bind fun p => if p.Fits then some p.regex else none := by
  unfold Regex.ofText? Piece.ofText?
  cases Reading.initial.run? t with
  | none => rfl
  | some r =>
    rw [Option.bind_eq_bind, Option.bind_some, Option.bind_some]
    cases r.finish? with
    | none => rfl
    | some p =>
      by_cases hfits : p.Fits
      · simp [guard, hfits, show p.height ≤ maxHeight ∧ p.regex.size ≤ maxSize from hfits]
      · simp [guard, hfits, show ¬ (p.height ≤ maxHeight ∧ p.regex.size ≤ maxSize) from hfits]

/-- Whether a parenthesis behind a text closes a group that the text is in: the text is well-formed,
and behind it a parenthesis without a group is one too many. -/
def ClosesGroup (t : Text) : Prop :=
  (Piece.ofText? t).isSome = true ∧ Piece.ofText? (t ++ [')']) = none

variable {r r' : Reading} {t u v x : Text}

theorem Reading.finish?_eq_some_iff {p : Piece} :
    r.finish? = some p ↔ r.outer = [] ∧ r.group.content = p := by
  rw [finish?]
  cases r.outer <;> simp

theorem Piece.ofText?_eq_some_iff {p : Piece} : Piece.ofText? t = some p ↔
    ∃ r x, Reading.initial.Leads t r x ∧ r.mode.skip x = [] ∧ r.outer = [] ∧
      r.group.content = p := by
  simp only [ofText?, Option.bind_eq_some_iff, Reading.run?_eq_some_iff,
    Reading.finish?_eq_some_iff]
  constructor
  · rintro ⟨r, ⟨x, hleads, hx⟩, houter, hp⟩
    exact ⟨r, x, hleads, hx, houter, hp⟩
  · rintro ⟨r, x, hleads, hx, houter, hp⟩
    exact ⟨r, ⟨x, hleads, hx⟩, houter, hp⟩

namespace Reading

/-- Behind a text that is well-formed by itself, a parenthesis is one too many. -/
theorem Reaches.run?_eq_none (h : Reaches r t r' x) (houter : r'.outer = []) (v : Text) :
    r.run? (t ++ ')' :: v) = none := by
  rw [(h.behind v).run?_eq, run?_of_skip_cons (h.skip_behind v),
    step?_close_of_outer_nil houter, Option.bind_none]

end Reading

open MarkupOrder.Pattern.Reading

theorem closesGroup_iff : ClosesGroup t ↔ ∃ r x, initial.Reaches t r x ∧ r.outer = [] := by
  constructor
  · rintro ⟨hsome, hnone⟩
    obtain ⟨p, hp⟩ := Option.isSome_iff_exists.1 hsome
    obtain ⟨r, x, hleads, hx, houter, -⟩ := Piece.ofText?_eq_some_iff.1 hp
    rcases hleads.extend hx with hreaches | hrun
    · exact ⟨r, x, hreaches, houter⟩
    · simp [Piece.ofText?, hrun, finish?, houter] at hnone
  · rintro ⟨r, x, hreaches, houter⟩
    have hown := Piece.ofText?_eq_some_iff.2 ⟨r, x, hreaches.own, hreaches.skip_own, houter, rfl⟩
    refine ⟨by rw [hown, Option.isSome_some], ?_⟩
    rw [Piece.ofText?, hreaches.run?_eq_none houter [], Option.bind_none]

/-- A text that is well-formed does not close a group anywhere within. -/
theorem not_closesGroup_of_isSome (h : (Piece.ofText? (u ++ ')' :: v)).isSome = true) :
    ¬ ClosesGroup u := by
  intro hcloses
  obtain ⟨r, x, hreaches, houter⟩ := closesGroup_iff.1 hcloses
  rw [Piece.ofText?, hreaches.run?_eq_none houter v] at h
  cases h

/-- Where a parenthesis comes to be read with no group open, the text before it closes a group. -/
theorem closesGroup_of_leads {w : Text} (h : initial.Leads (t ++ ')' :: w) r x)
    (houter : r.outer = []) (hx : r.mode.skip x = ')' :: w) : ClosesGroup t := by
  obtain ⟨x, hreaches⟩ := h.cut hx
  exact closesGroup_iff.2 ⟨r, x, hreaches, houter⟩

end MarkupOrder.Pattern
