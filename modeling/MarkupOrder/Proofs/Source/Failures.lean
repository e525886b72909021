import MarkupOrder.Proofs.Source.Locality
import MarkupOrder.Proofs.Source.Lossless

/-!
# Where a reading fails

A reading fails at a lexeme of the text, or at its end: never at the `>` that is made up where an
unquoted value meets the end of a comment, since that one always ends the tag.

* `Failure.FoundIn`: what is true of every failure of a reading.
* `Attribute.foundIn_of_read`, `OpeningTag.foundIn_of_readToEnd`, `SourceNode.foundIn_of_read`: the
  failures of attributes, tags and nodes.
* `SourceNode.foundIn_of_readAll`: the failure of a document.
-/

namespace MarkupOrder

namespace Expectation

/-- Whether the search for what is expected goes on to the end of the text. -/
def runsOn : Expectation → Bool
  | quoteEnd _ | commentEnd | bangTagEnd => true
  | _ => false

theorem suffix_of_meet {e : Expectation} {ls rest : List Lexeme} (h : e.meet ls = .ok rest) :
    rest <:+ ls := by
  cases ls with
  | nil => cases h
  | cons l ls =>
    rw [meet] at h
    split at h <;> cases h
    exact List.suffix_cons l _

end Expectation

namespace Lexeme

theorem suffix_upTo (stop : Lexeme → Bool) (ls : List Lexeme) : (upTo stop ls).2 <:+ ls :=
  List.dropWhile_suffix _

theorem suffix_blank (ls : List Lexeme) : (blank ls).2 <:+ ls := by
  unfold blank
  split
  · exact List.suffix_cons _ _
  · exact List.suffix_rfl

theorem suffix_tagName (ls : List Lexeme) : (tagName ls).2 <:+ ls := suffix_upTo _ ls

end Lexeme

namespace Failure

/-- What is true of the failure of a reading. -/
structure FoundIn (f : Failure) (ls : List Lexeme) : Prop where
  /-- The reading fails at a lexeme that it was given, or behind the last one. -/
  suffix : f.rest <:+ ls
  /-- What was found is not what was expected. -/
  kind_ne : f.found.kind ≠ f.expectation.kind
  /-- What a part begins with has been seen when the part is read. -/
  notMem_openings : f.expectation ∉ Expectation.openings
  /-- What goes on to the end of the text fails there. -/
  rest_eq_nil : f.expectation.runsOn = true → f.rest = []

variable {f : Failure} {e : Expectation} {ls ms : List Lexeme}

theorem FoundIn.trans (h : f.FoundIn ms) (hms : ms <:+ ls) : f.FoundIn ls :=
  ⟨h.suffix.trans hms, h.kind_ne, h.notMem_openings, h.rest_eq_nil⟩

/-- At the end of the text, anything may be missing but what a part begins with. -/
theorem foundIn_nil (hend : e.kind ≠ .endOfStream) (hopening : e ∉ Expectation.openings) :
    FoundIn ⟨e, []⟩ ls :=
  ⟨List.nil_suffix, hend.symm, hopening, fun _ => rfl⟩

theorem foundIn_of_meet (hend : e.kind ≠ .endOfStream) (hopening : e ∉ Expectation.openings)
    (hruns : e.runsOn = false) (h : e.meet ls = .error f) : f.FoundIn ls := by
  cases ls with
  | nil =>
    cases h
    exact foundIn_nil hend hopening
  | cons l ls =>
    rw [Expectation.meet] at h
    split at h <;> cases h
    exact ⟨List.suffix_rfl, ‹_›, hopening, fun h => Bool.noConfusion (hruns.symm.trans h)⟩

/-- Where all is skipped up to the lexeme that is expected, that one is missing only at the end. -/
theorem foundIn_of_meet_upTo (hend : e.kind ≠ .endOfStream) (hopening : e ∉ Expectation.openings)
    (h : e.meet (Lexeme.upTo (fun l => l.kind == e.kind) ls).2 = .error f) : f.FoundIn ls := by
  have hhead := Lexeme.head?_upTo (fun l => l.kind == e.kind) ls
  cases hup : (Lexeme.upTo (fun l => l.kind == e.kind) ls).2 with
  | nil =>
    rw [hup] at h
    cases h
    exact foundIn_nil hend hopening
  | cons l rest =>
    rw [hup, List.head?_cons, Option.all_some, beq_iff_eq] at hhead
    rw [hup, Expectation.meet, if_pos hhead] at h
    cases h

/-- A reading in two steps fails if the first one does, or the second one behind it. -/
theorem bind_eq_error_iff {α β : Type} {x : Except Failure α} {next : α → Except Failure β} :
    (x >>= next) = .error f ↔ x = .error f ∨ ∃ a, x = .ok a ∧ next a = .error f := by
  cases x <;> simp [bind, Except.bind]

end Failure

/-! ## Attributes -/

namespace Wrapper

variable {f : Failure} {w : Wrapper} {ls rest : List Lexeme} {start : Text}

theorem suffix_of_read? (h : read? ls = some (w, start, rest)) : rest <:+ ls := by
  unfold read? at h
  split at h
  · cases h
  · split at h <;> try split at h
    all_goals cases h
    all_goals first | exact List.suffix_cons _ _ |
      exact (List.suffix_cons _ _).trans (List.suffix_cons _ _)

theorem head?_of_read? (h : read? ls = none) : ∀ l ∈ ls.head?, l.kind ≠ .identifier := by
  cases ls with
  | nil => nofun
  | cons l ls =>
    rintro _ ⟨⟩ hk
    simp [read?, hk] at h

theorem suffix_of_close (h : w.close ls = .ok rest) : rest <:+ ls := by
  cases w with
  | plain | hash | atSign | star =>
    cases h
    exact List.suffix_rfl
  | paren | bracket => exact Expectation.suffix_of_meet h
  | twoWay =>
    obtain ⟨mid, hparen, hbracket⟩ := Failure.bind_eq_ok_iff.1 h
    exact (Expectation.suffix_of_meet hbracket).trans (Expectation.suffix_of_meet hparen)

theorem foundIn_of_close (h : w.close ls = .error f) : f.FoundIn ls := by
  cases w with
  | plain | hash | atSign | star => cases h
  | paren | bracket => exact Failure.foundIn_of_meet (by decide) (by decide) rfl h
  | twoWay =>
    rcases Failure.bind_eq_error_iff.1 h with h | ⟨mid, hparen, h⟩
    · exact Failure.foundIn_of_meet (by decide) (by decide) rfl h
    · have hmid := Failure.foundIn_of_meet (by decide) (by decide) rfl h
      exact hmid.trans (Expectation.suffix_of_meet hparen)

end Wrapper

namespace Attribute

variable {f : Failure} {a : Attribute} {v : Text} {value? : Option Text} {l : Lexeme}
  {ls rest : List Lexeme}

/-- What an attribute leaves: lexemes that were there, or those behind the end of a comment that
ends the tag. -/
def Leaves (ls rest : List Lexeme) : Prop :=
  rest <:+ ls ∨ ∃ tail, rest = ⟨.tagClose, ['>']⟩ :: tail ∧ tail <:+ ls

theorem Leaves.trans {mid : List Lexeme} (h : Leaves mid rest) (hmid : mid <:+ ls) :
    Leaves ls rest := by
  rcases h with h | ⟨tail, rfl, h⟩
  · exact .inl (h.trans hmid)
  · exact .inr ⟨tail, rfl, h.trans hmid⟩

theorem leaves_of_readUnquoted (h : readUnquoted ls = .ok (v, rest)) : Leaves ls rest := by
  have hsuffix := Lexeme.suffix_upTo Lexeme.endsValue ls
  rw [readUnquoted_eq] at h
  unfold endValue at h
  split at h
  · rename_i hup
    cases h
    rw [hup] at hsuffix
    exact .inr ⟨_, rfl, (List.suffix_cons _ _).trans hsuffix⟩
  · split at h <;> cases h
    exact .inl hsuffix

/-- A value that is missing is not a quote, where the first lexeme is none. -/
theorem foundIn_of_readUnquoted (hls : ∀ l ∈ ls, l.text ≠ [])
    (hhead : ∀ l ∈ ls.head?, l.kind.isQuote = false) (h : readUnquoted ls = .error f) :
    f.FoundIn ls := by
  have hup (hnil : (Lexeme.upTo Lexeme.endsValue ls).1 = []) :
      (Lexeme.upTo Lexeme.endsValue ls).2 = ls := by
    cases ls with
    | nil => rfl
    | cons l ls =>
      cases hl : l.endsValue with
      | true => rw [Lexeme.upTo_of_stop hl]
      | false =>
        rw [Lexeme.upTo_of_go hl] at hnil
        exact absurd (List.append_eq_nil_iff.1 hnil).1 (hls l List.mem_cons_self)
  rw [readUnquoted_eq] at h
  unfold endValue at h
  split at h
  · cases h
  · split at h <;> cases h
    rename_i hnil
    refine ⟨Lexeme.suffix_upTo _ _, ?_, by simp [Expectation.openings], nofun⟩
    rw [Failure.found, hup hnil]
    cases ls with
    | nil => nofun
    | cons l ls =>
      intro hk
      have hquote := hhead l rfl
      rw [show l.kind = .doubleQuote from hk] at hquote
      cases hquote

theorem leaves_of_readQuoted (h : readQuoted l ls = .ok (v, rest)) : rest <:+ ls := by
  unfold readQuoted at h
  split at h
  case isFalse => cases h
  obtain ⟨mid, hmeet, h⟩ := Failure.bind_eq_ok_iff.1 h
  cases h
  exact (Expectation.suffix_of_meet hmeet).trans (Lexeme.suffix_upTo _ ls)

theorem foundIn_of_readQuoted (hl : l.kind.isQuote = true) (h : readQuoted l ls = .error f) :
    f.FoundIn ls := by
  rw [readQuoted, if_pos hl] at h
  rcases Failure.bind_eq_error_iff.1 h with h | ⟨mid, -, h⟩
  · refine Failure.foundIn_of_meet_upTo (e := .quoteEnd l.kind) ?_ ?_ h
    · intro hk
      have hk : l.kind = .endOfStream := hk
      rw [hk] at hl
      cases hl
    · simp [Expectation.openings]
  · cases h

theorem leaves_of_readValue (h : readValue ls = .ok (v, rest)) : Leaves ls rest := by
  unfold readValue at h
  split at h
  · exact leaves_of_readUnquoted h
  · split at h
    · exact .inl ((leaves_of_readQuoted h).trans (List.suffix_cons _ _))
    · exact leaves_of_readUnquoted h

theorem foundIn_of_readValue (hls : ∀ l ∈ ls, l.text ≠ []) (h : readValue ls = .error f) :
    f.FoundIn ls := by
  unfold readValue at h
  split at h
  · exact foundIn_of_readUnquoted hls (fun l hl => by cases hl) h
  · split at h
    · exact (foundIn_of_readQuoted ‹_› h).trans (List.suffix_cons _ _)
    · rename_i hquote
      refine foundIn_of_readUnquoted hls ?_ h
      rintro _ ⟨⟩
      simpa using hquote

theorem leaves_of_readAssignment? (h : readAssignment? ls = .ok (value?, rest)) :
    Leaves ls rest := by
  unfold readAssignment? at h
  split at h
  · obtain ⟨⟨v, mid⟩, hvalue, h⟩ := Failure.bind_eq_ok_iff.1 h
    cases h
    exact (leaves_of_readValue hvalue).trans (List.suffix_cons _ _)
  · cases h
    exact .inl List.suffix_rfl

theorem foundIn_of_readAssignment? (hls : ∀ l ∈ ls, l.text ≠ [])
    (h : readAssignment? ls = .error f) : f.FoundIn ls := by
  unfold readAssignment? at h
  split at h
  · rcases Failure.bind_eq_error_iff.1 h with h | ⟨r, -, h⟩
    · refine (foundIn_of_readValue (fun l hl => ?_) h).trans (List.suffix_cons _ _)
      exact hls l (List.mem_cons_of_mem _ hl)
    · cases h
  · cases h

theorem leaves_of_read (h : read ls = .ok (a, rest)) : Leaves ls rest := by
  unfold read at h
  split at h
  · cases h
  · rename_i w start behind hw
    obtain ⟨mid, hclose, h⟩ := Failure.bind_eq_ok_iff.1 h
    obtain ⟨⟨value?, behind⟩, hassign, h⟩ := Failure.bind_eq_ok_iff.1 h
    cases h
    have hmid := (Wrapper.suffix_of_close hclose).trans (Lexeme.suffix_upTo _ _)
    exact (leaves_of_readAssignment? hassign).trans (hmid.trans (Wrapper.suffix_of_read? hw))

theorem foundIn_of_read (hls : ∀ l ∈ ls, l.text ≠ []) (h : read ls = .error f) : f.FoundIn ls := by
  unfold read at h
  split at h
  · rename_i hw
    cases h
    refine ⟨List.suffix_rfl, ?_, by simp [Expectation.openings], nofun⟩
    cases ls with
    | nil => nofun
    | cons l ls => exact Wrapper.head?_of_read? hw l rfl
  · rename_i w start behind hw
    have hname := (Lexeme.suffix_upTo (fun l => !l.isNamePart) behind).trans
      (Wrapper.suffix_of_read? hw)
    rcases Failure.bind_eq_error_iff.1 h with h | ⟨mid, hclose, h⟩
    · exact (Wrapper.foundIn_of_close h).trans hname
    · have hmid := (Wrapper.suffix_of_close hclose).trans hname
      rcases Failure.bind_eq_error_iff.1 h with h | ⟨r, -, h⟩
      · exact (foundIn_of_readAssignment? (fun l hl => hls l (hmid.subset hl)) h).trans hmid
      · cases h

end Attribute

/-! ## Tags -/

namespace OpeningTag

variable {f : Failure} {tag result : OpeningTag} {ls rest : List Lexeme}

/-- The slots of a tag and the end of it. -/
def readToEnd (tag : OpeningTag) : Reading OpeningTag := fun ls =>
  tag.readAttributes ls >>= fun r => Expectation.tagEnd.meet r.2 >>= fun rest => .ok (r.1, rest)

/-- The `>` that is made up ends the tag. -/
theorem readToEnd_tagClose (tag : OpeningTag) (t : Text) (ls : List Lexeme) :
    tag.readToEnd (⟨.tagClose, t⟩ :: ls) = .ok (tag.finish [] false, ls) := by
  rw [readToEnd, readAttributes_of_close (w := []) rfl rfl]
  rfl

/-- Behind an attribute, a tag is read on to its end. -/
theorem readToEnd_eq (tag : OpeningTag) (ls : List Lexeme) : tag.readToEnd ls =
    match (Lexeme.blank ls).2 with
    | [] => .error ⟨.tagEnd, []⟩
    | l :: rest =>
      if l.kind = .slash then Expectation.tagEnd.meet rest >>= fun rest' =>
        .ok (tag.finish (Lexeme.blank ls).1 true, rest')
      else if l.kind = .tagClose then .ok (tag.finish (Lexeme.blank ls).1 false, rest)
      else Attribute.read (l :: rest) >>= fun r =>
        (tag.push (Lexeme.blank ls).1 r.1).readToEnd r.2 := by
  rw [readToEnd, readAttributes_eq]
  cases (Lexeme.blank ls).2 with
  | nil => rfl
  | cons l rest =>
    simp only [readSlot]
    split_ifs with hslash hclose
    · rfl
    · simp only [bind, Except.bind, Expectation.meet, Expectation.kind, hclose, if_true]
    · rw [bind_assoc]
      rfl

/-- Induction over the slots of a tag that is read to its end. -/
theorem readToEnd_induction {P : List Lexeme → Prop} (h : tag.readToEnd ls = .ok (result, rest))
    (slash : ∀ ls l behind, (Lexeme.blank ls).2 = l :: behind → l.kind = .slash →
      Expectation.tagEnd.meet behind = .ok rest → P ls)
    (close : ∀ ls l, (Lexeme.blank ls).2 = l :: rest → l.kind = .tagClose → P ls)
    (slot : ∀ ls mid a tag, Attribute.read (Lexeme.blank ls).2 = .ok (a, mid) →
      readToEnd tag mid = .ok (result, rest) → P mid → P ls) : P ls := by
  induction hn : ls.length using Nat.strong_induction_on generalizing tag ls with
  | _ n ih =>
    subst hn
    have hlen := Lexeme.length_blank_le ls
    rw [readToEnd_eq] at h
    split at h
    · cases h
    · rename_i l behind hb
      split_ifs at h with hslash hclose
      · obtain ⟨mid, hmeet, h⟩ := Failure.bind_eq_ok_iff.1 h
        cases h
        exact slash ls l behind hb hslash hmeet
      · cases h
        exact close ls l hb hclose
      · obtain ⟨⟨a, mid⟩, hread, h⟩ := Failure.bind_eq_ok_iff.1 h
        rw [← hb] at hread
        have hlt := Nat.lt_of_lt_of_le (Attribute.length_of_read hread) hlen
        exact slot ls mid a _ hread h (ih _ hlt h rfl)

/-- A tag leaves lexemes that were there. -/
theorem suffix_of_readToEnd (h : tag.readToEnd ls = .ok (result, rest)) : rest <:+ ls := by
  refine readToEnd_induction h ?slash ?close ?slot
  case slash =>
    intro ls l behind hb _ hmeet
    have hbehind := (Expectation.suffix_of_meet hmeet).trans (List.suffix_cons l behind)
    exact hbehind.trans (hb ▸ Lexeme.suffix_blank ls)
  case close =>
    intro ls l hb _
    exact (List.suffix_cons l rest).trans (hb ▸ Lexeme.suffix_blank ls)
  case slot =>
    intro ls mid a tag hread hmore hrest
    have hblank := Lexeme.suffix_blank ls
    rcases Attribute.leaves_of_read hread with hmid | ⟨tail, rfl, htail⟩
    · exact hrest.trans (hmid.trans hblank)
    · rw [readToEnd_tagClose] at hmore
      cases hmore
      exact htail.trans hblank

theorem foundIn_of_readToEnd (hls : ∀ l ∈ ls, l.text ≠ []) (h : tag.readToEnd ls = .error f) :
    f.FoundIn ls := by
  induction hn : ls.length using Nat.strong_induction_on generalizing tag ls with
  | _ n ih =>
    subst hn
    have hsuffix := Lexeme.suffix_blank ls
    rw [readToEnd_eq] at h
    split at h
    · cases h
      exact Failure.foundIn_nil (by decide) (by decide)
    · rename_i l behind hb
      rw [hb] at hsuffix
      split_ifs at h with hslash hclose
      · rcases Failure.bind_eq_error_iff.1 h with h | ⟨mid, -, h⟩
        · have hbehind := Failure.foundIn_of_meet (by decide) (by decide) rfl h
          exact hbehind.trans ((List.suffix_cons l behind).trans hsuffix)
        · cases h
      · have hread (l' : Lexeme) (hl' : l' ∈ l :: behind) := hls l' (hsuffix.subset hl')
        rcases Failure.bind_eq_error_iff.1 h with h | ⟨⟨a, mid⟩, hok, h⟩
        · exact (Attribute.foundIn_of_read hread h).trans hsuffix
        · have hlt := Nat.lt_of_lt_of_le (Attribute.length_of_read hok) hsuffix.length_le
          rcases Attribute.leaves_of_read hok with hmid | ⟨tail, rfl, -⟩
          · have hmid := hmid.trans hsuffix
            exact (ih _ hlt (fun l' hl' => hls l' (hmid.subset hl')) h rfl).trans hmid
          · rw [readToEnd_tagClose] at h
            cases h

end OpeningTag

/-! ## Nodes and documents -/

namespace SourceNode

open Lexeme

variable {f : Failure} {n : SourceNode} {l : Lexeme} {ls rest : List Lexeme}

variable (arrange : List Attribute → List Attribute)

theorem readOpeningTag_eq_readToEnd (ls : List Lexeme) : readOpeningTag arrange ls =
    (OpeningTag.named (tagName (blank ls).2).1).readToEnd (tagName (blank ls).2).2 >>= fun r =>
      .ok (⟨(blank ls).1, .openingTag (r.1.mapAttributes arrange)⟩, r.2) := by
  rw [readOpeningTag_eq, OpeningTag.readNamed, OpeningTag.readToEnd]
  cases (OpeningTag.named (tagName (blank ls).2).1).readAttributes (tagName (blank ls).2).2 with
  | error f => rfl
  | ok r =>
    simp only [bind, Except.bind]
    cases Expectation.tagEnd.meet r.2 <;> rfl

variable {arrange}

theorem suffix_of_read (h : read arrange l ls = .ok (n, rest)) : rest <:+ ls := by
  have hclosing {ks : List Lexeme} (h : readClosingTag ks = .ok (n, rest)) : rest <:+ ks := by
    obtain ⟨mid, hmeet, h⟩ := Failure.bind_eq_ok_iff.1 h
    cases h
    exact (Expectation.suffix_of_meet hmeet).trans (suffix_tagName ks)
  have huntil {e : Expectation} {node : Text → Node} (h : readUntil e node ls = .ok (n, rest)) :
      rest <:+ ls := by
    obtain ⟨mid, hmeet, h⟩ := Failure.bind_eq_ok_iff.1 h
    cases h
    exact (Expectation.suffix_of_meet hmeet).trans (suffix_upTo _ ls)
  rw [read_eq] at h
  split at h
  · split at h
    · exact (hclosing h).trans (List.suffix_cons _ _)
    · rw [readOpeningTag_eq_readToEnd] at h
      obtain ⟨⟨tag, mid⟩, hread, h⟩ := Failure.bind_eq_ok_iff.1 h
      cases h
      have hname := (suffix_tagName (blank ls).2).trans (suffix_blank ls)
      exact (OpeningTag.suffix_of_readToEnd hread).trans hname
  · exact huntil h
  · exact huntil h
  · cases h
    exact suffix_upTo endsText ls

theorem foundIn_of_read (hls : ∀ l ∈ ls, l.text ≠ []) (h : read arrange l ls = .error f) :
    f.FoundIn ls := by
  have huntil {e : Expectation} {node : Text → Node} (hend : e.kind ≠ .endOfStream)
      (hopening : e ∉ Expectation.openings) (h : readUntil e node ls = .error f) :
      f.FoundIn ls := by
    rcases Failure.bind_eq_error_iff.1 h with h | ⟨mid, -, h⟩
    · exact Failure.foundIn_of_meet_upTo hend hopening h
    · cases h
  rw [read_eq] at h
  split at h
  · split at h
    · rename_i behind
      rcases Failure.bind_eq_error_iff.1 h with h | ⟨mid, -, h⟩
      · have hmeet := Failure.foundIn_of_meet (by decide) (by decide) rfl h
        exact hmeet.trans ((suffix_tagName behind).trans (List.suffix_cons _ _))
      · cases h
    · rw [readOpeningTag_eq_readToEnd] at h
      have hname := (suffix_tagName (blank ls).2).trans (suffix_blank ls)
      rcases Failure.bind_eq_error_iff.1 h with h | ⟨r, -, h⟩
      · exact (OpeningTag.foundIn_of_readToEnd (fun l hl => hls l (hname.subset hl)) h).trans hname
      · cases h
  · exact huntil (by decide) (by decide) h
  · exact huntil (by decide) (by decide) h
  · cases h

/-- **Where a document cannot be read, it is at one of its lexemes, or behind the last one.** -/
theorem foundIn_of_readAll (hls : ∀ l ∈ ls, l.text ≠ []) (h : (readAll arrange ls).2 = some f) :
    f.FoundIn ls := by
  fun_induction readAll arrange ls with
  | case1 => cases h
  | case2 l rest result e hread =>
    cases h
    have htail (k : Lexeme) (hk : k ∈ rest) := hls k (List.mem_cons_of_mem l hk)
    exact (foundIn_of_read htail hread).trans (List.suffix_cons l rest)
  | case3 l rest result n behind hread ns failure? hall ih =>
    have hsuffix := (suffix_of_read hread).trans (List.suffix_cons l rest)
    rw [hread, remainder_ok] at hall ih
    rw [hall] at ih
    exact (ih (fun k hk => hls k (hsuffix.subset hk)) h).trans hsuffix

/-- **The lexemes behind the one at which a document cannot be read do not matter.** -/
theorem readAll_congr_tail {pre p post : List Lexeme} {e : Expectation} (hp : p ≠ [])
    (hls : ∀ l ∈ pre ++ (p ++ post), l.text ≠ [])
    (h : (readAll arrange (pre ++ (p ++ post))).2 = some ⟨e, p ++ post⟩) (post' : List Lexeme) :
    (readAll arrange (pre ++ (p ++ post'))).2 = some ⟨e, p ++ post'⟩ := by
  generalize hks : pre ++ (p ++ post) = ks at hls h
  fun_induction readAll arrange ks generalizing pre with
  | case1 => cases h
  | case2 l rest result f =>
    rename_i hread
    cases h
    have htail (k : Lexeme) (hk : k ∈ rest) := hls k (List.mem_cons_of_mem l hk)
    obtain ⟨pre', rfl⟩ := (foundIn_of_read htail hread).suffix
    obtain rfl : pre = l :: pre' := List.append_cancel_right hks
    have hleft : Reading.left (read arrange l (pre' ++ (p ++ post))) = p ++ post := by
      rw [show read arrange l (pre' ++ (p ++ post)) = .error ⟨e, p ++ post⟩ from hread]
      rfl
    have hread' := (isLocal_read arrange l).congr_tail hp hleft post'
    rw [show read arrange l (pre' ++ (p ++ post)) = .error ⟨e, p ++ post⟩ from hread] at hread'
    rw [List.cons_append, readAll, hread']
    rfl
  | case3 l rest result n behind hread ns failure? hall =>
    rename_i ih
    have hsuffix := suffix_of_read hread
    rw [hread, remainder_ok] at hall ih
    rw [hall] at ih
    have hbehind (k : Lexeme) (hk : k ∈ behind) :=
      hls k (List.mem_cons_of_mem l (hsuffix.subset hk))
    have hfound := foundIn_of_readAll hbehind (show (readAll arrange behind).2 = _ by rw [hall, h])
    obtain ⟨q, rfl⟩ := hfound.suffix
    obtain ⟨r, rfl⟩ := hsuffix
    obtain rfl : pre = l :: (r ++ q) := by
      apply (List.append_left_inj (p ++ post)).1
      rw [hks, List.cons_append, List.append_assoc]
    have hread : read arrange l (r ++ ((q ++ p) ++ post)) = .ok (n, (q ++ p) ++ post) := by
      rw [List.append_assoc]
      exact hread
    have hne : q ++ p ≠ [] := List.append_ne_nil_of_right_ne_nil q hp
    have hread' := (isLocal_read arrange l).congr_tail hne (by rw [hread]; rfl) post'
    rw [hread] at hread'
    rw [List.cons_append, List.append_assoc, ← List.append_assoc q, readAll, hread']
    simp only [Reading.leaving, remainder_ok]
    rw [List.append_assoc]
    exact ih rfl hbehind h

end SourceNode

end MarkupOrder
