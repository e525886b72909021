import Mathlib.Logic.Relation
import MarkupOrder.Proofs.Source.Failures

/-!
# The loops of a reading

The slots of a tag are read in a loop, and so are the nodes of a document. A loop is given by what
one pass makes of a state.

* `Loop`, `Loop.Reaches`, `Loop.Runs`: a loop, the states that its passes lead to, and the number of
  passes that it makes.
* `Loop.exists_runs`: a loop makes at most one pass more than its state is large, if every pass that
  goes on leaves a smaller state.
* `Loop.cutOff`, `Loop.Runs.cutOff_eq`: a loop that is cut off, but not before it is left anyway.
* `OpeningTag.slotLoop`, `SourceNode.nodeLoop`: the two loops, and that they are what
  `OpeningTag.readAttributes` and `SourceNode.readAll` do.
* `OpeningTag.takes_of_goesOn`, `SourceNode.exists_read_of_goesOn`: what a pass that goes on has
  read.
-/

namespace MarkupOrder

/-! ## Loops -/

/-- What a pass comes to: the loop is left with a result, or goes on from another state. -/
inductive Pass (σ ρ : Type) where
  | leave (result : ρ)
  | goOn (state : σ)

/-- A loop, given by what a pass makes of a state. -/
abbrev Loop (σ ρ : Type) := σ → Pass σ ρ

namespace Loop

variable {σ ρ : Type} {loop loop' : Loop σ ρ} {f : σ → ρ} {s t : σ} {r : ρ} {m n : Nat}

/-- Whether a pass goes on from a state to another one. -/
def GoesOn (loop : Loop σ ρ) (s t : σ) : Prop := loop s = .goOn t

/-- Whether passes lead from a state to another one, any number of them. -/
def Reaches (loop : Loop σ ρ) : σ → σ → Prop := Relation.ReflTransGen loop.GoesOn

/-- The loop makes `n` passes, the last of which leaves it with a result. -/
inductive Runs (loop : Loop σ ρ) : σ → Nat → ρ → Prop
  | leave {s : σ} {r : ρ} (h : loop s = .leave r) : Runs loop s 1 r
  | goOn {s t : σ} {n : Nat} {r : ρ} (h : loop s = .goOn t) (hruns : Runs loop t n r) :
    Runs loop s (n + 1) r

/-- The loop, cut off where it has not been left after so many passes. What it comes to there is
made of the state that it has reached. -/
def cutOff (loop : Loop σ ρ) (cut : σ → ρ) : Nat → σ → ρ
  | 0, s => cut s
  | n + 1, s =>
    match loop s with
    | .leave r => r
    | .goOn t => loop.cutOff cut n t

/-- Whether a function gives what the loop is left with. -/
def Solves (loop : Loop σ ρ) (f : σ → ρ) : Prop :=
  ∀ s, f s = match loop s with
    | .leave r => r
    | .goOn t => f t

/-- What holds at the start and is kept by every pass that goes on holds wherever passes lead. -/
theorem Reaches.induction {P : σ → Prop} (h : loop.Reaches s t) (start : P s)
    (keeps : ∀ t u, P t → loop.GoesOn t u → P u) : P t := by
  induction h with
  | refl => exact start
  | tail _ hpass ih => exact keeps _ _ ih hpass

/-- **A loop is left if every pass that goes on leaves a smaller state**, and then after at most one
pass more than the state is large. -/
theorem exists_runs (size : σ → Nat) (hf : loop.Solves f)
    (hlt : ∀ t u, loop.Reaches s t → loop.GoesOn t u → size u < size t) :
    ∃ n ≤ size s + 1, loop.Runs s n (f s) := by
  -- what passes lead to from the next state, they lead to from this one
  induction hk : size s using Nat.strong_induction_on generalizing s with
  | _ k ih =>
    subst hk
    have hs := hf s
    cases hpass : loop s with
    | leave r =>
      rw [hpass] at hs
      exact ⟨1, Nat.le_add_left 1 _, hs ▸ .leave hpass⟩
    | goOn t =>
      rw [hpass] at hs
      have ht := hlt s t .refl hpass
      obtain ⟨n, hn, hruns⟩ := ih (size t) ht (fun u v hu => hlt u v (.head hpass hu)) rfl
      exact ⟨n + 1, by omega, hs ▸ .goOn hpass hruns⟩

/-- A loop that is left in time is not cut off. -/
theorem Runs.cutOff_eq (h : loop.Runs s n r) (hle : n ≤ m) (cut : σ → ρ) :
    loop.cutOff cut m s = r := by
  induction h generalizing m with
  | leave hpass =>
    obtain ⟨m, rfl⟩ := Nat.exists_eq_add_of_le' hle
    rw [cutOff, hpass]
  | goOn hpass _ ih =>
    obtain ⟨m, rfl⟩ := Nat.exists_eq_add_of_le' (Nat.le_of_add_left_le hle)
    rw [cutOff, hpass]
    exact ih (Nat.le_of_add_le_add_right hle)

/-- Loops that do the same in every state that is reached are the same, cut off or not. -/
theorem cutOff_congr (h : ∀ t, loop.Reaches s t → loop' t = loop t) (cut : σ → ρ) (n : Nat) :
    loop'.cutOff cut n s = loop.cutOff cut n s := by
  induction n generalizing s with
  | zero => rfl
  | succ n ih =>
    rw [cutOff, cutOff, h s .refl]
    cases hpass : loop s with
    | leave r => rfl
    | goOn t => exact ih fun u hu => h u (.head hpass hu)

end Loop

namespace Lexeme

/-! ## What is left -/

/-- The number of characters that are left: those of the lexeme in front, those of the one behind
it, and those of the text after them. -/
def charactersLeft (ls : List Lexeme) : Nat := (joined ls).length

variable {ls rest : List Lexeme} {t : Text}

@[simp] theorem charactersLeft_cons (l : Lexeme) (ls : List Lexeme) :
    charactersLeft (l :: ls) = l.text.length + charactersLeft ls :=
  List.length_append

@[simp] theorem charactersLeft_ofText (t : Text) : charactersLeft (ofText t) = t.length := by
  rw [charactersLeft, joined_ofText]

theorem charactersLeft_le (h : rest <:+ ls) : charactersLeft rest ≤ charactersLeft ls := by
  obtain ⟨ks, rfl⟩ := h
  simp [charactersLeft]

/-- What is taken off is no longer left. -/
theorem Takes.charactersLeft_eq (h : Takes ls t rest) :
    charactersLeft ls = t.length + charactersLeft rest := by
  rw [charactersLeft, h.joined_eq, List.length_append]
  rfl

theorem stands_of_suffix (h : ls <:+ ofText t) : Stands ls [] := by
  obtain ⟨ks, hks⟩ := h
  exact (stands_append.1 (hks ▸ stands_ofText t)).2

end Lexeme

namespace OpeningTag

open Lexeme

/-! ## The slots of a tag -/

variable {tag tag' : OpeningTag} {ls rest : List Lexeme}

/-- One pass over the slots of a tag. A slash and the end of the tag leave the loop, and so does an
attribute that cannot be read. -/
def slotLoop : Loop (OpeningTag × List Lexeme) (Except Failure (OpeningTag × List Lexeme)) :=
  fun (tag, ls) =>
    match blank ls with
    | (whitespace, []) => .leave (.ok (tag.finish whitespace false, []))
    | (whitespace, l :: rest) =>
      if l.kind = .slash then .leave (.ok (tag.finish whitespace true, rest))
      else if l.kind = .tagClose then .leave (.ok (tag.finish whitespace false, l :: rest))
      else
        match Attribute.read (l :: rest) with
        | .error f => .leave (.error f)
        | .ok (a, behind) => .goOn (tag.push whitespace a, behind)

/-- What the loop over the slots begins with, behind the `<` of a tag. -/
def slotStart (ls : List Lexeme) : OpeningTag × List Lexeme :=
  (named (tagName (blank ls).2).1, (tagName (blank ls).2).2)

theorem solves_slotLoop : slotLoop.Solves fun s => s.1.readAttributes s.2 := by
  rintro ⟨tag, ls⟩
  change tag.readAttributes ls = _
  rw [readAttributes_eq, slotLoop]
  rcases blank ls with ⟨w, _ | ⟨l, rest⟩⟩
  · rfl
  · simp only [readSlot]
    split_ifs
    · rfl
    · rfl
    · cases Attribute.read (l :: rest) <;> rfl

/-- A pass that goes on has read an attribute. -/
theorem exists_read_of_goesOn (h : slotLoop.GoesOn (tag, ls) (tag', rest)) :
    ∃ a, Attribute.read (blank ls).2 = .ok (a, rest) ∧ tag' = tag.push (blank ls).1 a := by
  rcases hb : blank ls with ⟨whitespace, _ | ⟨l, mid⟩⟩
  · simp only [Loop.GoesOn, slotLoop, hb] at h
    cases h
  · simp only [Loop.GoesOn, slotLoop, hb] at h
    split_ifs at h
    cases hread : Attribute.read (l :: mid) with
    | error f =>
      rw [hread] at h
      cases h
    | ok r =>
      rw [hread] at h
      cases h
      exact ⟨r.1, rfl, rfl⟩

/-- **A pass that goes on takes an attribute and the white space before it**, as they are written.
This is so of the `>` that is made up behind a value, too: the value has taken the hyphens before
it. -/
theorem takes_of_goesOn (hs : Stands ls []) (h : slotLoop.GoesOn (tag, ls) (tag', rest)) :
    ∃ w a, tag' = tag.push w a ∧ a.render ≠ [] ∧ Takes ls (w ++ a.render) rest := by
  obtain ⟨a, hread, htag⟩ := exists_read_of_goesOn h
  obtain ⟨hblank, -⟩ := takes_blank hs
  obtain ⟨hattribute, ha⟩ := Attribute.takes_of_read hblank.stands hread
  obtain ⟨c, u, hrender, -⟩ := Attribute.exists_render_eq ha
  exact ⟨_, a, htag, hrender ▸ List.cons_ne_nil c u, hblank.trans hattribute⟩

theorem charactersLeft_of_goesOn (hs : Stands ls []) (h : slotLoop.GoesOn (tag, ls) (tag', rest)) :
    charactersLeft rest < charactersLeft ls := by
  obtain ⟨w, a, -, hne, htake⟩ := takes_of_goesOn hs h
  have hpos := List.length_pos_iff.2 hne
  rw [htake.charactersLeft_eq, List.length_append]
  omega

theorem suffix_slotStart (ls : List Lexeme) : (slotStart ls).2 <:+ ls :=
  (suffix_tagName _).trans (suffix_blank ls)

end OpeningTag

namespace SourceNode

open Lexeme

/-! ## The nodes of a document -/

variable {readNode : Lexeme → Reading SourceNode} {arrange : List Attribute → List Attribute}
  {l : Lexeme} {n : SourceNode} {ms ns : List SourceNode} {ls rest : List Lexeme}

/-- One pass over the nodes of a document. The end of the lexemes leaves the loop, and so does a
node that cannot be read. -/
def nodeLoop (readNode : Lexeme → Reading SourceNode) :
    Loop (List SourceNode × List Lexeme) (List SourceNode × Option Failure)
  | (ns, []) => .leave (ns, none)
  | (ns, l :: rest) =>
    match readNode l rest with
    | .error f => .leave (ns, some f)
    | .ok (n, behind) => .goOn (ns ++ [n], behind)

theorem solves_nodeLoop (arrange : List Attribute → List Attribute) :
    (nodeLoop (read arrange)).Solves fun s =>
      (s.1 ++ (readAll arrange s.2).1, (readAll arrange s.2).2) := by
  rintro ⟨ns, _ | ⟨l, rest⟩⟩
  · simp [nodeLoop, readAll]
  · simp only [nodeLoop]
    rw [readAll]
    rcases read arrange l rest with f | ⟨n, behind⟩ <;> simp

/-- A pass that goes on has read a node. -/
theorem exists_read_of_goesOn (h : (nodeLoop (read arrange)).GoesOn (ns, ls) (ms, rest)) :
    ∃ l behind, ls = l :: behind ∧ ∃ n, read arrange l behind = .ok (n, rest) := by
  rcases ls with _ | ⟨l, behind⟩
  · cases h
  · simp only [Loop.GoesOn, nodeLoop] at h
    cases hread : read arrange l behind with
    | error f =>
      rw [hread] at h
      cases h
    | ok r =>
      rw [hread] at h
      cases h
      exact ⟨l, behind, rfl, r.1, hread⟩

end SourceNode

end MarkupOrder
