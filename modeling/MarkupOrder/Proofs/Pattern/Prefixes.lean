import MarkupOrder.Proofs.Pattern.Groups

/-!
# Reading up to a closing parenthesis

* `Reading.Leads`: the steps of the loop, with `Reading.run?_eq_some_iff` for a whole text.
* `Reading.agrees_step?`: what one step reads of a text before a closing parenthesis. The exception
  is `Reading.EndsInBrace`, a brace behind the edge of a word.
* `Reading.Leads.extend`: what has been read of a whole text is read of it before a parenthesis, or
  the parenthesis is read with it.
* `Reading.Leads.cut`: where a parenthesis comes to be read as such, the text before it can be read
  by itself.
-/

namespace MarkupOrder.Pattern

namespace Reading

variable {r r₁ r₂ r' : Reading} {c : Char} {s t t₁ t₂ rest u x y : Text}

/-! ## The steps of the loop -/

/-- Whether the loop gets from one state and what is left of the text to another. -/
inductive Leads : Reading → Text → Reading → Text → Prop
  | refl (r : Reading) (t : Text) : Leads r t r t
  | step {r r₁ r' : Reading} {c : Char} {t t₁ t' rest : Text} (hskip : r.mode.skip t = c :: rest)
    (hstep : r.step? c rest = some (r₁, t₁)) (h : Leads r₁ t₁ r' t') : Leads r t r' t'

theorem run?_of_skip_nil (h : r.mode.skip t = []) : r.run? t = some r := by
  rw [run?]
  split
  · rfl
  · simp_all

theorem run?_of_skip_cons (h : r.mode.skip t = c :: rest) :
    r.run? t = (r.step? c rest).bind fun p => p.1.run? p.2 := by
  rw [run?]
  split
  · simp_all
  · rename_i c' rest' h'
    obtain ⟨rfl, rfl⟩ := List.cons.inj (h'.symm.trans h)
    dsimp only
    split
    · rename_i hnone
      rw [hnone]
      rfl
    · rename_i hsome
      rw [hsome]
      rfl

/-- No step takes back anything of a run. -/
theorem Leads.run?_eq (h : Leads r t r' u) : r.run? t = r'.run? u := by
  induction h with
  | refl => rfl
  | step hskip hstep _ ih => rw [run?_of_skip_cons hskip, hstep, ← ih, Option.bind_some]

/-- A whole text is read in steps. -/
theorem run?_eq_some_iff : r.run? t = some r' ↔ ∃ u, Leads r t r' u ∧ r'.mode.skip u = [] := by
  constructor
  · intro h
    fun_induction run? r t with
    | case1 r t hskip =>
      cases h
      exact ⟨t, .refl _ t, hskip⟩
    | case2 => cases h
    | case3 r t c rest hskip result next t₁ hresult ih =>
      have hstep : r.step? c rest = some (next, t₁) := hresult
      rw [show remainder result = t₁ by rw [hresult]; rfl] at ih h
      obtain ⟨u, hleads, hu⟩ := ih h
      exact ⟨u, .step hskip hstep hleads, hu⟩
  · rintro ⟨u, hleads, hu⟩
    rw [hleads.run?_eq, run?_of_skip_nil hu]

theorem suffix_of_step? (h : r.step? c t = some (r', rest)) : rest <:+ t := by
  by_cases hc : c = '\\'
  · subst hc
    simp only [step?, Option.bind_eq_bind, Option.bind_eq_some_iff, Option.pure_def,
      Option.some.injEq, Prod.mk.injEq, Prod.exists] at h
    obtain ⟨_, _, ha, _, rfl⟩ := h
    exact Atom.suffix_of_readEscape? ha
  · exact (r.isSteady_step? hc).suffix h

theorem Leads.suffix (h : Leads r t r' u) : u <:+ t := by
  induction h with
  | refl => exact List.suffix_rfl
  | @step r _ _ c t _ _ rest hskip hstep _ ih =>
    have ht : rest <:+ t := (List.suffix_cons c rest).trans (hskip ▸ r.mode.skip_suffix t)
    exact (ih.trans (suffix_of_step? hstep)).trans ht

/-! ## One step before a closing parenthesis -/

/-- Whether a brace that may name the edge of a word is followed by the end of the text. -/
def EndsInBrace (m : Mode) (c : Char) (t : Text) : Prop :=
  c = '\\' ∧ ∃ s, t = 'b' :: '\x7b' :: s ∧ m.skip s = []

theorem step?_escape (r : Reading) (t : Text) : r.step? '\\' t =
    (Atom.readEscape? r.mode t).map fun p => (r.add (pieceOf r.mode p.1), p.2) := by
  rw [step?]
  cases Atom.readEscape? r.mode t <;> rfl

theorem agrees_step? (h : ¬ EndsInBrace r.mode c t) :
    Agrees (r.step? c t) fun v => r.step? c (t ++ ')' :: v) := by
  by_cases hc : c = '\\'
  · subst hc
    simp only [step?_escape]
    exact (Atom.agrees_readEscape? fun s hs hnil => h ⟨rfl, s, hs, hnil⟩).map
      fun a => r.add (pieceOf r.mode a)
  · exact (r.isSteady_step? hc).agrees t

/-- A brace that the text ends behind does not repeat anything. -/
theorem step?_brace_of_skip_nil (h : r.mode.skip s = []) : r.step? '\x7b' s = none := by
  have hcount : readCount? r.mode s = none := by
    rw [readCount?, Mode.gather_of_skip_nil (Mode.skip_dropWhile_of_skip_nil h)]
  simp [step?, readBounds?, hcount]

theorem step?_escape_of_skip_nil (h : r.mode.skip s = []) :
    r.step? '\\' ('b' :: '\x7b' :: s) = none ∧
      ∀ v r' y, r.step? '\\' ('b' :: '\x7b' :: (s ++ ')' :: v)) = some (r', y) →
        y.length ≤ v.length ∨ (r'.mode = r.mode ∧ y = '\x7b' :: (s ++ ')' :: v)) := by
  obtain ⟨hnone, hbehind⟩ := Atom.readEscape?_of_skip_nil h
  refine ⟨by rw [step?_escape, hnone, Option.map_none], fun v r' y hy => ?_⟩
  rw [step?_escape] at hy
  obtain ⟨⟨a, y⟩, ha, hy⟩ := Option.map_eq_some_iff.1 hy
  cases hy
  exact (hbehind v a y ha).imp_right fun ⟨_, hy⟩ => ⟨rfl, hy⟩

theorem EndsInBrace.step?_eq_none (h : EndsInBrace r.mode c t) : r.step? c t = none := by
  obtain ⟨rfl, s, rfl, hs⟩ := h
  exact (step?_escape_of_skip_nil hs).1

/-- Behind such a brace, no parenthesis comes to be read as such before the one that the text is
followed by, nor that one itself. -/
theorem EndsInBrace.length_le {v w : Text} (hbrace : EndsInBrace r.mode c t)
    (hstep : r.step? c (t ++ ')' :: v) = some (r₁, t₁)) (h : Leads r₁ t₁ r' y)
    (hy : r'.mode.skip y = ')' :: w) : y.length ≤ v.length := by
  obtain ⟨rfl, s, rfl, hs⟩ := hbrace
  rcases (step?_escape_of_skip_nil hs).2 v r₁ t₁ hstep with hle | ⟨hmode, rfl⟩
  · exact Nat.le_trans h.suffix.length_le hle
  · -- the edge of a word has been read, and the brace is left
    cases h with
    | refl => simp [Mode.skip_brace] at hy
    | step hskip hstep h =>
      rw [Mode.skip_brace] at hskip
      cases hskip
      have hagrees := (r₁.isSteady_step? (c := '\x7b') (by decide)).agrees s
      have hnone := step?_brace_of_skip_nil (r := r₁) (hmode ▸ hs)
      exact Nat.le_trans h.suffix.length_le (hagrees.length_le_of_none hnone hstep)

/-! ## A text before a closing parenthesis -/

/-- Reading gets to the end of a text, and before a parenthesis to the parenthesis. -/
structure Reaches (r : Reading) (t : Text) (r' : Reading) (x : Text) : Prop where
  own : Leads r t r' x
  skip_own : r'.mode.skip x = []
  behind (v : Text) : Leads r (t ++ ')' :: v) r' (x ++ ')' :: v)
  skip_behind (v : Text) : r'.mode.skip (x ++ ')' :: v) = ')' :: v

theorem Reaches.refl (h : r.mode.skip t = [])
    (hbehind : ∀ v, r.mode.skip (t ++ ')' :: v) = ')' :: v) : Reaches r t r t where
  own := .refl r t
  skip_own := h
  behind _ := .refl r _
  skip_behind := hbehind

theorem Reaches.step (hskip : r.mode.skip t = c :: rest) (hstep : r.step? c rest = some (r₁, t₁))
    (hbehind : ∀ v, r.step? c (rest ++ ')' :: v) = some (r₁, t₁ ++ ')' :: v))
    (h : Reaches r₁ t₁ r' x) : Reaches r t r' x where
  own := .step hskip hstep h.own
  skip_own := h.skip_own
  behind v := .step (Mode.skip_append hskip v) (hbehind v) (h.behind v)
  skip_behind := h.skip_behind

/-- **A text that can be read by itself** is read the same before a parenthesis, or the parenthesis
belongs to what has been read last. -/
theorem Leads.extend (h : Leads r t r' x) (hx : r'.mode.skip x = []) :
    Reaches r t r' x ∨ r.run? (t ++ [')']) = some r' := by
  induction h with
  | refl r t =>
    rcases Mode.skip_append_of_skip_nil hx with hbehind | ⟨hnil, -⟩
    · exact .inl (.refl hx hbehind)
    · exact .inr (run?_of_skip_nil hnil)
  | @step r r₁ r' c t t₁ x rest hskip hstep h ih =>
    have hbrace : ¬ EndsInBrace r.mode c rest := fun h => by simp [h.step?_eq_none] at hstep
    cases agrees_step? hbrace with
    | stops hown hbehind =>
      cases hstep.symm.trans hown
      refine (ih hx).imp (Reaches.step hskip hstep hbehind) fun hrun => ?_
      rw [run?_of_skip_cons (Mode.skip_append hskip []), hbehind, Option.bind_some, hrun]
    | ends hown hbehind =>
      obtain ⟨rfl, hnil⟩ := hown _ _ hstep
      have hend : r₁.run? [] = some r' := run?_eq_some_iff.2 ⟨x, h, hx⟩
      right
      rw [run?_of_skip_cons (Mode.skip_append hskip []), hnil, Option.bind_some, hend]

/-- **Where a parenthesis comes to be read as such**, the text before it can be read by itself. -/
theorem Leads.cut {w : Text} (h : Leads r (t ++ ')' :: w) r' y) (hy : r'.mode.skip y = ')' :: w) :
    ∃ x, Reaches r t r' x := by
  have hlong : w.length < y.length := by
    have := r'.mode.length_skip_le y
    rwa [hy] at this
  generalize hu : t ++ ')' :: w = u at h
  induction h generalizing t with
  | refl r u =>
    subst hu
    cases ht : r.mode.skip t with
    | nil =>
      rcases Mode.skip_append_of_skip_nil ht with hbehind | ⟨-, hle⟩
      · exact ⟨t, .refl ht hbehind⟩
      · have := hle w
        rw [hy] at this
        exact absurd this (Nat.not_succ_le_self _)
    | cons c rest =>
      have := congrArg List.length (hy.symm.trans (Mode.skip_append ht w))
      simp at this
      omega
  | @step r r₁ r' c u t₁ y tail hskip hstep h ih =>
    subst hu
    have hle : y.length ≤ tail.length := (h.suffix.trans (suffix_of_step? hstep)).length_le
    cases ht : r.mode.skip t with
    | nil =>
      have := Mode.length_skip_append_le ht w
      rw [hskip] at this
      exact absurd (Nat.le_trans hle (Nat.le_of_succ_le_succ this)) (Nat.not_le_of_lt hlong)
    | cons d rest =>
      obtain ⟨rfl, rfl⟩ := List.cons.inj (hskip.symm.trans (Mode.skip_append ht w))
      by_cases hbrace : EndsInBrace r.mode c rest
      · exact absurd (hbrace.length_le hstep h hy) (Nat.not_le_of_lt hlong)
      · cases agrees_step? hbrace with
        | stops hown hbehind =>
          cases hstep.symm.trans (hbehind w)
          obtain ⟨x, hx⟩ := ih hy hlong rfl
          exact ⟨x, hx.step ht hown hbehind⟩
        | ends hown hbehind =>
          have := Nat.le_trans h.suffix.length_le (hbehind w r₁ t₁ hstep)
          exact absurd this (Nat.not_le_of_lt hlong)

end Reading

end MarkupOrder.Pattern
