import MarkupOrder.Order.Settings
import MarkupOrder.Proofs.Pattern.Enclosing
import MarkupOrder.Proofs.Pattern.Matches
import Mathlib.Data.List.Forall2
import Mathlib.Data.List.Permutation

/-!
# Patterns for whole names

A pattern is read as a group between anchors, put together as text. What it means as an expression
by itself is what it means there, if the group ends where the text does.

* `Pattern.Reading.ofText?_anchored_of_closesGroup`,
  `Pattern.Reading.closesGroup_of_ofText?_anchored`: what is read between the anchors, and where the
  group around it is closed.
* `OrderPattern.IsEnclosed`: whether the group that is put around a text ends with the text.
  `IsEnclosed.ofText?_anchored`, `IsEnclosed.hits_iff`: what such a text stands for, and what it
  matches. `IsValid.isSome_ofSource?_iff`: of the texts that are expressions, those are accepted.
* `IsFirst`: the first text in a list of which something is true.
* `OrderSettings.ofSources_of_isEnclosed`: which lists of patterns are accepted, what is reported of
  the other ones, and the ranks of names. `OrderSettings.ofSources_of_unbalanced` is a text that is
  accepted without being an expression.
-/

namespace MarkupOrder

open Pattern

/-- A piece as a group between the anchors of a text. -/
def Pattern.Piece.anchored (p : Piece) : Piece := ⟨p.regex.anchored, p.height + 2, true⟩

/-! ## Between the anchors -/

namespace Pattern.Reading

open OrderPattern (anchored)

variable {source : Text}

/-- What stands before the group that a pattern is read as. -/
def anchor : Group := (Group.opened {}).add (.leaf (.look .textStart))

theorem run?_anchored (source : Text) : initial.run? (anchored source) =
    (initial.within [anchor]).run? (source ++ [')', '$']) := by
  let u := source ++ [')', '$']
  let started := initial.add (.leaf (.look .textStart))
  have hstart : initial.run? ('^' :: '(' :: '?' :: ':' :: u) =
      started.run? ('(' :: '?' :: ':' :: u) := by
    rw [run?_of_skip_cons (c := '^') rfl]
    rfl
  have hopen : started.run? ('(' :: '?' :: ':' :: u) = (initial.within [anchor]).run? u := by
    rw [run?_of_skip_cons (c := '(') rfl]
    rfl
  exact hstart.trans hopen

/-- The group that is put around a text ends where a parenthesis closes it. -/
theorem run?_closing {r : Reading} {x : Text} (houter : r.outer = [])
    (hmode : r.group.mode = {}) (hx : r.mode.skip x = [')', '$']) :
    ((r.within [anchor]).run? x).bind finish? = some r.group.content.anchored := by
  let closed : Reading := ⟨{}, r.names, anchor.add r.group.close, []⟩
  have hclose : (r.within [anchor]).step? ')' ['$'] = some (closed, ['$']) := by
    simp [step?, pop?, within, houter, hmode, closed]
  have hend : closed.run? ['$'] = some (closed.add (.leaf (.look .textEnd))) := by
    rw [run?_of_skip_cons (c := '$') rfl]
    exact run?_of_skip_nil rfl
  rw [run?_of_skip_cons (r := r.within [anchor]) hx, hclose, Option.bind_some, hend]
  change some (Piece.mk _ (max 0 (max (r.group.content.height + 1) (max 0 0)) + 1) true) = _
  simp [Piece.anchored, Regex.anchored, Piece.leaf, Group.close, Regex.sequence]

/-- A text that closes a group stands between the anchors as it stands by itself. -/
theorem ofText?_anchored_of_closesGroup (h : ClosesGroup source) :
    Piece.ofText? (anchored source) = (Piece.ofText? source).map Piece.anchored := by
  obtain ⟨r, x, hreaches, houter⟩ := closesGroup_iff.1 h
  have hown := Piece.ofText?_eq_some_iff.2 ⟨r, x, hreaches.own, hreaches.skip_own, houter, rfl⟩
  have hmode := hreaches.own.group_mode_eq houter
  have hbehind := (hreaches.behind ['$']).within [anchor]
  rw [hown, Piece.ofText?, run?_anchored, hbehind.run?_eq,
    run?_closing houter hmode (hreaches.skip_behind ['$'])]
  rfl

/-- **What can be read between the anchors** closes the group there, or before. -/
theorem closesGroup_of_ofText?_anchored (h : (Piece.ofText? (anchored source)).isSome = true) :
    ClosesGroup source ∨ ∃ u v, source = u ++ ')' :: v ∧ ClosesGroup u := by
  obtain ⟨p, hp⟩ := Option.isSome_iff_exists.1 h
  rw [Piece.ofText?, run?_anchored] at hp
  obtain ⟨R, hrun, hR⟩ := Option.bind_eq_some_iff.1 hp
  obtain ⟨y, hleads, -⟩ := run?_eq_some_iff.1 hrun
  rcases hleads.of_within with ⟨r, rfl, -⟩ | ⟨r, x, w, hown, houter, hx⟩
  · -- the group has not been closed at all
    simp [finish?] at hR
  · have hsuffix : ')' :: w <:+ source ++ [')', '$'] := by
      rw [← hx]
      exact (r.mode.skip_suffix x).trans hown.suffix
    obtain ⟨u, hu⟩ := hsuffix
    have hcloses : ClosesGroup u := closesGroup_of_leads (hu ▸ hown) houter hx
    rcases List.append_eq_append_iff.1 hu with ⟨v, hv, hw⟩ | ⟨v, rfl, hv⟩
    · cases v with
      | nil => exact .inl (by simpa [hv] using hcloses)
      | cons c v =>
        cases hw
        exact .inr ⟨u, v, hv, hcloses⟩
    · cases v with
      | nil => exact .inl (by simpa using hcloses)
      | cons c v =>
        -- the last parenthesis of the two that are left is that of the group
        have := (List.cons.inj hv).2
        simp [List.cons_eq_append_iff] at this

end Pattern.Reading

/-! ## Validity -/

namespace OrderPattern

open Pattern.Reading

variable {source : Text}

/-- Whether a text is a regular expression by itself. -/
def IsValid (source : Text) : Prop := (Regex.ofText? source).isSome = true

/-- Whether a text, as a regular expression by itself, matches a whole name. -/
def MatchesWhole (source name : Text) : Prop :=
  ∃ r, Regex.ofText? source = some r ∧ r.Spans name 0 name.length

/-- Whether the group that is put around a text ends with the text. -/
structure IsEnclosed (source : Text) : Prop where
  /-- No parenthesis in the text closes the group. -/
  apart (u v : Text) : source = u ++ ')' :: v → ¬ ClosesGroup u
  /-- The parenthesis behind the text closes it, and is not part of a comment at the end. -/
  closed : (Piece.ofText? source).isSome = true → ClosesGroup source
  /-- The group and the anchors keep to the limits if the text does. -/
  room (p : Piece) : Piece.ofText? source = some p → p.Fits → p.anchored.Fits

theorem fits_of_fits_anchored {p : Piece} (h : p.anchored.Fits) : p.Fits := by
  obtain ⟨hheight, hsize⟩ := h
  refine ⟨Nat.le_of_add_right_le hheight, ?_⟩
  simp only [Piece.anchored, Regex.anchored, Regex.size] at hsize
  omega

theorem isValid_iff : IsValid source ↔ ∃ p, Piece.ofText? source = some p ∧ p.Fits := by
  rw [IsValid, Regex.ofText?_eq]
  cases Piece.ofText? source with
  | none => simp
  | some p => by_cases h : p.Fits <;> simp [h]

/-- **A text that is enclosed** stands for what it stands for by itself, between anchors. -/
theorem IsEnclosed.ofText?_anchored (h : IsEnclosed source) :
    Regex.ofText? (anchored source) =
      (Regex.ofText? source).map Regex.anchored := by
  rw [Regex.ofText?_eq, Regex.ofText?_eq]
  cases hown : Piece.ofText? source with
  | none =>
    have hnone : Piece.ofText? (anchored source) = none := by
      refine Option.not_isSome_iff_eq_none.1 fun hsome => ?_
      rcases closesGroup_of_ofText?_anchored hsome with hcloses | ⟨u, v, hv, hcloses⟩
      · exact absurd hcloses.1 (by simp [hown])
      · exact h.apart u v hv hcloses
    rw [hnone]
    rfl
  | some p =>
    have hcloses := h.closed (by rw [hown, Option.isSome_some])
    rw [ofText?_anchored_of_closesGroup hcloses, hown, Option.map_some, Option.bind_some,
      Option.bind_some]
    by_cases hfits : p.Fits
    · rw [if_pos hfits, if_pos (h.room p hown hfits)]
      rfl
    · rw [if_neg hfits, if_neg fun h => hfits (fits_of_fits_anchored h)]
      rfl

/-- **Which regular expressions are accepted**: those that are enclosed. -/
theorem IsValid.isSome_ofSource?_iff (h : IsValid source) :
    (ofSource? source).isSome = true ↔ IsEnclosed source := by
  obtain ⟨p, hp, hfits⟩ := isValid_iff.1 h
  rw [ofSource?, Option.isSome_map]
  constructor
  · intro haccepted
    obtain ⟨q, hq, hqfits⟩ := isValid_iff.1 haccepted
    have happart (u v : Text) (hv : source = u ++ ')' :: v) : ¬ ClosesGroup u :=
      not_closesGroup_of_isSome (by rw [← hv, hp, Option.isSome_some])
    have hcloses : ClosesGroup source := by
      rcases closesGroup_of_ofText?_anchored (by rw [hq, Option.isSome_some]) with
        hcloses | ⟨u, v, hv, hcloses⟩
      · exact hcloses
      · exact absurd hcloses (happart u v hv)
    refine ⟨happart, fun _ => hcloses, fun p' hp' _ => ?_⟩
    rw [ofText?_anchored_of_closesGroup hcloses, hp', Option.map_some] at hq
    cases hq
    exact hqfits
  · intro henclosed
    rw [henclosed.ofText?_anchored, Option.isSome_map]
    exact h

theorem IsEnclosed.isSome_ofSource?_iff (h : IsEnclosed source) :
    (ofSource? source).isSome = true ↔ IsValid source := by
  rw [ofSource?, h.ofText?_anchored, Option.isSome_map, Option.isSome_map, IsValid]

/-- **What an enclosed pattern matches**: the names that its text matches as a whole. -/
theorem IsEnclosed.hits_iff (h : IsEnclosed source) {p : OrderPattern}
    (hp : ofSource? source = some p) (name : Text) : p.hits name = true ↔ MatchesWhole source name := by
  rw [ofSource?, h.ofText?_anchored, Option.map_map] at hp
  obtain ⟨r, hr, rfl⟩ := Option.map_eq_some_iff.1 hp
  change r.anchored.occursIn name = true ↔ _
  rw [Regex.occursIn_anchored_iff]
  constructor
  · exact fun hspans => ⟨r, hr, hspans⟩
  · rintro ⟨r', hr', hspans⟩
    cases hr.symm.trans hr'
    exact hspans

end OrderPattern

/-! ## Lists of patterns -/

/-- Whether the text with an index is the first in a list of which something is true. -/
def IsFirst (P : Text → Prop) (ts : List Text) (i : Nat) : Prop :=
  (∃ t, ts[i]? = some t ∧ P t) ∧ ∀ j < i, ∀ t, ts[j]? = some t → ¬ P t

section IsFirst

variable {P Q : Text → Prop} {t : Text} {ts : List Text} {i : Nat}

theorem not_isFirst_nil : ¬ IsFirst P [] i := by simp [IsFirst]

theorem isFirst_zero_iff : IsFirst P (t :: ts) 0 ↔ P t := by simp [IsFirst]

theorem isFirst_succ_iff : IsFirst P (t :: ts) (i + 1) ↔ ¬ P t ∧ IsFirst P ts i := by
  simp only [IsFirst, List.getElem?_cons_succ, Nat.forall_lt_succ_left, List.getElem?_cons_zero,
    Option.some.injEq, forall_eq']
  exact and_left_comm

theorem IsFirst.congr (h : ∀ t ∈ ts, P t ↔ Q t) : IsFirst P ts i ↔ IsFirst Q ts i := by
  have hiff {j : Nat} {t : Text} (ht : ts[j]? = some t) : P t ↔ Q t := h t (List.mem_of_getElem? ht)
  unfold IsFirst
  refine and_congr (exists_congr fun t => and_congr_right hiff) ?_
  exact forall₂_congr fun j _ => forall₂_congr fun t ht => not_congr (hiff ht)

end IsFirst

namespace OrderSettings

variable {source name : Text} {sources : List Text} {ps : List OrderPattern} {e : PatternError}

theorem compile_cons_of_none (h : OrderPattern.ofSource? source = none) (sources : List Text) :
    compile (source :: sources) = .error ⟨source⟩ := by
  rw [compile, h]

theorem compile_cons_of_some {p : OrderPattern} (h : OrderPattern.ofSource? source = some p)
    (sources : List Text) : compile (source :: sources) = (compile sources).map (p :: ·) := by
  rw [compile, h]
  cases compile sources <;> rfl

/-- What texts are compiled to. -/
theorem compile_eq_ok_iff : compile sources = .ok ps ↔
    List.Forall₂ (fun source p => OrderPattern.ofSource? source = some p) sources ps := by
  induction sources generalizing ps with
  | nil => rw [compile, List.forall₂_nil_left_iff, Except.ok.injEq, eq_comm]
  | cons source sources ih =>
    rw [List.forall₂_cons_left_iff]
    cases hp : OrderPattern.ofSource? source with
    | none => simp [compile_cons_of_none hp]
    | some p =>
      rw [compile_cons_of_some hp]
      constructor
      · intro h
        cases hps : compile sources with
        | error e => simp [hps, Except.map] at h
        | ok qs =>
          rw [hps] at h
          cases h
          exact ⟨p, qs, rfl, ih.1 hps, rfl⟩
      · rintro ⟨q, qs, hq, hqs, rfl⟩
        cases hq
        rw [ih.2 hqs]
        rfl

/-- Which text is reported: the first that is not a pattern. -/
theorem compile_eq_error_iff : compile sources = .error e ↔
    ∃ i, sources[i]? = some e.source ∧
      IsFirst (fun source => OrderPattern.ofSource? source = none) sources i := by
  obtain ⟨reported⟩ := e
  induction sources with
  | nil => simp [compile]
  | cons source sources ih =>
    rw [← Nat.or_exists_add_one]
    simp only [List.getElem?_cons_zero, List.getElem?_cons_succ, isFirst_zero_iff, isFirst_succ_iff]
    cases hp : OrderPattern.ofSource? source with
    | none => simp [compile_cons_of_none hp]
    | some p =>
      have hmap : (compile sources).map (p :: ·) = .error ⟨reported⟩ ↔
          compile sources = .error ⟨reported⟩ := by
        cases compile sources <;> simp [Except.map]
      simp [compile_cons_of_some hp, hmap, ih]

/-- Texts are compiled if each of them is a pattern. -/
theorem exists_compile_eq_ok_iff : (∃ ps, compile sources = .ok ps) ↔
    ∀ source ∈ sources, (OrderPattern.ofSource? source).isSome = true := by
  induction sources with
  | nil => simp [compile]
  | cons source sources ih =>
    rw [List.forall_mem_cons, ← ih]
    cases hp : OrderPattern.ofSource? source with
    | none => simp [compile_cons_of_none hp]
    | some p =>
      rw [compile_cons_of_some hp]
      cases compile sources <;> simp [Except.map]

theorem exists_ofSources_eq_ok_iff : (∃ s, ofSources sources = .ok s) ↔
    ∀ source ∈ sources, (OrderPattern.ofSource? source).isSome = true := by
  rw [← exists_compile_eq_ok_iff, ofSources]
  cases compile sources <;> simp

theorem ofSources_eq_ok_iff {s : OrderSettings} :
    ofSources sources = .ok s ↔ compile sources = .ok s.patterns := by
  obtain ⟨ps⟩ := s
  rw [ofSources]
  cases compile sources <;> simp

theorem ofSources_eq_error_iff : ofSources sources = .error e ↔ compile sources = .error e := by
  rw [ofSources]
  cases compile sources <;> simp

/-- The first of the patterns that hits a name, in terms of the texts that they were given by. -/
theorem findIdx?_hits_eq_some_iff {P : Text → Prop} {i : Nat}
    (h : List.Forall₂ (fun source p => OrderPattern.hits p name = true ↔ P source) sources ps) :
    ps.findIdx? (·.hits name) = some i ↔ IsFirst P sources i := by
  induction h generalizing i with
  | nil => simp [not_isFirst_nil]
  | @cons source p sources ps hp _ ih =>
    rw [List.findIdx?_cons]
    by_cases hhits : p.hits name = true
    · rw [if_pos hhits]
      cases i with
      | zero => simp [isFirst_zero_iff, hp.1 hhits]
      | succ i => simp [isFirst_succ_iff, hp.1 hhits]
    · rw [if_neg hhits]
      have hsource : ¬ P source := fun hsource => hhits (hp.2 hsource)
      cases i with
      | zero => simp [isFirst_zero_iff, hsource]
      | succ i => simp [isFirst_succ_iff, hsource, ih]

theorem findIdx?_hits_eq_none_iff {P : Text → Prop}
    (h : List.Forall₂ (fun source p => OrderPattern.hits p name = true ↔ P source) sources ps) :
    ps.findIdx? (·.hits name) = none ↔ ∀ source ∈ sources, ¬ P source := by
  induction h with
  | nil => simp
  | cons hp _ ih => simp [← hp, ← ih, List.findIdx?_eq_none_iff]

open OrderPattern

/-- **Enclosed patterns are regular expressions for whole names.** They are accepted if all of them
are regular expressions, otherwise the first that is none is reported, and the rank of a name is the
index of the first that matches it as a whole. -/
theorem ofSources_of_isEnclosed (h : ∀ source ∈ sources, IsEnclosed source) :
    ((∃ s, ofSources sources = .ok s) ↔ ∀ source ∈ sources, IsValid source) ∧
    (∀ e, ofSources sources = .error e ↔
      ∃ i, sources[i]? = some e.source ∧ IsFirst (¬ IsValid ·) sources i) ∧
    ∀ s, ofSources sources = .ok s → ∀ name,
      (∀ i, s.rank name = some i ↔ IsFirst (MatchesWhole · name) sources i) ∧
      (s.rank name = none ↔ ∀ source ∈ sources, ¬ MatchesWhole source name) := by
  have hvalid (source : Text) (hsource : source ∈ sources) :=
    (h source hsource).isSome_ofSource?_iff
  refine ⟨?_, fun e => ?_, fun s hs name => ?_⟩
  · rw [exists_ofSources_eq_ok_iff]
    exact forall₂_congr hvalid
  · rw [ofSources_eq_error_iff, compile_eq_error_iff]
    refine exists_congr fun i => and_congr_right fun _ => IsFirst.congr fun source hsource => ?_
    rw [← hvalid source hsource, Option.not_isSome_iff_eq_none]
  · have hhits : List.Forall₂ (fun source p => p.hits name = true ↔ MatchesWhole source name)
        sources s.patterns := by
      have hcompiled := compile_eq_ok_iff.1 (ofSources_eq_ok_iff.1 hs)
      refine ((List.forall₂_and_left _ _).2 ⟨h, hcompiled⟩).imp fun source p hp => ?_
      exact hp.1.hits_iff hp.2 name
    exact ⟨fun i => findIdx?_hits_eq_some_iff hhits, findIdx?_hits_eq_none_iff hhits⟩

/-- The patterns may have alternatives at the top, and flags, groups and comments of their own. -/
theorem ofSources_of_isEnclosed_two :
    let sources : List Text := ["id|class".toList, "(?xi) (data-)? [a-z]+ # (all)\n".toList]
    (∀ source ∈ sources, IsEnclosed source) ∧
      ∃ s, ofSources sources = .ok s ∧ ∀ name,
        (∀ i, s.rank name = some i ↔ IsFirst (MatchesWhole · name) sources i) ∧
        (s.rank name = none ↔ ∀ source ∈ sources, ¬ MatchesWhole source name) := by
  intro sources
  have hid : IsValid "id|class".toList := by cbv
  have hdata : IsValid "(?xi) (data-)? [a-z]+ # (all)\n".toList := by cbv
  have hvalid : ∀ source ∈ sources, IsValid source :=
    List.forall_mem_cons.2 ⟨hid, List.forall_mem_singleton.2 hdata⟩
  have henclosed : ∀ source ∈ sources, IsEnclosed source := by
    refine List.forall_mem_cons.2 ⟨hid.isSome_ofSource?_iff.1 (by cbv), ?_⟩
    exact List.forall_mem_singleton.2 (hdata.isSome_ofSource?_iff.1 (by cbv))
  obtain ⟨haccepted, -, hrank⟩ := ofSources_of_isEnclosed henclosed
  obtain ⟨s, hs⟩ := haccepted.2 hvalid
  exact ⟨henclosed, s, hs, hrank s hs⟩

/-- A text that is no regular expression is accepted, since it closes the group that is put around
it and opens another one. -/
theorem ofSources_of_unbalanced : ¬ ((∃ s, ofSources ["a)|(b".toList] = .ok s) ↔
    ∀ source ∈ ["a)|(b".toList], IsValid source) := by
  have haccepted : (ofSource? "a)|(b".toList).isSome = true := by cbv
  have hinvalid : ¬ IsValid "a)|(b".toList := by
    rw [IsValid, Bool.not_eq_true]
    cbv
  rw [exists_ofSources_eq_ok_iff]
  intro h
  refine hinvalid (h.1 (fun source hsource => ?_) _ (List.mem_singleton_self _))
  rwa [List.mem_singleton.1 hsource]

/-- **Of regular expressions** exactly those are accepted that are enclosed. -/
theorem ofSources_of_isValid (h : ∀ source ∈ sources, IsValid source) :
    (∃ s, ofSources sources = .ok s) ↔ ∀ source ∈ sources, IsEnclosed source := by
  rw [exists_ofSources_eq_ok_iff]
  exact forall₂_congr fun source hsource => (h source hsource).isSome_ofSource?_iff

/-- A comment at the end takes in the parenthesis that would close the group. -/
example : (Regex.ofText? "(?x)a #b".toList).isSome = true ∧
    (OrderPattern.ofSource? "(?x)a #b".toList).isSome = false := by
  constructor <;> cbv

end OrderSettings

end MarkupOrder
