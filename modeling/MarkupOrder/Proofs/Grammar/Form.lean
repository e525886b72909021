import MarkupOrder.Proofs.Source.Lossless

/-!
# Forms of lexemes

A form says which lexemes a part of a text consists of, and what may be behind it.

* `Form`, `Form.Derives`: forms, and the lexemes in front that have a form.
* `Form.kind`, `Form.optional`, `Form.run`, `Form.upTo`, `Form.anyOf`: what the forms of a language
  are written with.
* `Form.derives_seq_iff`, `Form.derives_run_iff`, `Form.derives_upTo_iff` and the like: one lemma
  for each of them.
-/

namespace MarkupOrder

/-- What lexemes can be made of. -/
inductive Form where
  /-- Nothing at all. -/
  | empty
  /-- One lexeme that passes the test. -/
  | one (test : Lexeme → Bool)
  /-- Nothing, at the end or before a lexeme that passes the test. -/
  | before (test : Lexeme → Bool)
  /-- The one behind the other. -/
  | seq (f g : Form)
  /-- Either of the two. -/
  | alt (f g : Form)
  /-- Any number of parts of the form. -/
  | many (f : Form)

namespace Form

/-- `f.Derives ls rest`: the lexemes `ls` begin with a part of the form `f`, and `rest` is behind
it. -/
inductive Derives : Form → List Lexeme → List Lexeme → Prop
  | empty {ls : List Lexeme} : Derives .empty ls ls
  | one {test : Lexeme → Bool} {l : Lexeme} {rest : List Lexeme} (h : test l = true) :
    Derives (.one test) (l :: rest) rest
  | before {test : Lexeme → Bool} {ls : List Lexeme} (h : ls.head?.all test = true) :
    Derives (.before test) ls ls
  | seq {f g : Form} {ls mid rest : List Lexeme} (hf : Derives f ls mid) (hg : Derives g mid rest) :
    Derives (.seq f g) ls rest
  | left {f g : Form} {ls rest : List Lexeme} (hf : Derives f ls rest) : Derives (.alt f g) ls rest
  | right {f g : Form} {ls rest : List Lexeme} (hg : Derives g ls rest) : Derives (.alt f g) ls rest
  | stop {f : Form} {ls : List Lexeme} : Derives (.many f) ls ls
  | more {f : Form} {ls mid rest : List Lexeme} (hf : Derives f ls mid)
    (hmore : Derives (.many f) mid rest) : Derives (.many f) ls rest

/-! ## Forms made of forms -/

/-- One lexeme of the kind. -/
def kind (k : Kind) : Form := one fun l => l.kind == k

/-- The form, or nothing. -/
def optional (f : Form) : Form := alt f empty

/-- All lexemes up to the first one that fails the test. -/
def run (test : Lexeme → Bool) : Form := seq (many (one test)) (before fun l => !test l)

/-- Lexemes of other kinds, and one of the kind. -/
def upTo (k : Kind) : Form := seq (many (one fun l => l.kind != k)) (kind k)

/-- One of the forms. -/
def anyOf : List Form → Form
  | [] => one fun _ => false
  | f :: fs => alt f (anyOf fs)

/-! ## What has the forms -/

variable {f g : Form} {test : Lexeme → Bool} {k : Kind} {l : Lexeme} {ls rest : List Lexeme}

theorem derives_empty_iff : empty.Derives ls rest ↔ rest = ls :=
  ⟨fun h => by cases h; rfl, fun h => h ▸ .empty⟩

theorem derives_one_iff : (one test).Derives ls rest ↔ ∃ l, ls = l :: rest ∧ test l = true := by
  constructor
  · rintro ⟨⟩
    exact ⟨_, rfl, ‹_›⟩
  · rintro ⟨l, rfl, h⟩
    exact .one h

theorem derives_before_iff :
    (before test).Derives ls rest ↔ rest = ls ∧ ls.head?.all test = true := by
  constructor
  · rintro ⟨⟩
    exact ⟨rfl, ‹_›⟩
  · rintro ⟨rfl, h⟩
    exact .before h

theorem derives_seq_iff :
    (seq f g).Derives ls rest ↔ ∃ mid, f.Derives ls mid ∧ g.Derives mid rest := by
  constructor
  · rintro ⟨⟩
    exact ⟨_, ‹_›, ‹_›⟩
  · rintro ⟨mid, hf, hg⟩
    exact .seq hf hg

theorem derives_alt_iff : (alt f g).Derives ls rest ↔ f.Derives ls rest ∨ g.Derives ls rest := by
  constructor
  · rintro ⟨⟩
    · exact .inl ‹_›
    · exact .inr ‹_›
  · rintro (h | h)
    · exact .left h
    · exact .right h

theorem derives_many_iff : (many f).Derives ls rest ↔
    rest = ls ∨ ∃ mid, f.Derives ls mid ∧ (many f).Derives mid rest := by
  constructor
  · rintro ⟨⟩
    · exact .inl rfl
    · exact .inr ⟨_, ‹_›, ‹_›⟩
  · rintro (rfl | ⟨mid, hf, hmore⟩)
    · exact .stop
    · exact .more hf hmore

theorem derives_optional_iff : (optional f).Derives ls rest ↔ f.Derives ls rest ∨ rest = ls := by
  rw [optional, derives_alt_iff, derives_empty_iff]

theorem derives_anyOf_iff {fs : List Form} :
    (anyOf fs).Derives ls rest ↔ ∃ f ∈ fs, f.Derives ls rest := by
  induction fs with
  | nil => simp [anyOf, derives_one_iff]
  | cons f fs ih => simp [anyOf, derives_alt_iff, ih]

/-- A part of the text is behind a part of any form. -/
theorem Derives.suffix (h : f.Derives ls rest) : rest <:+ ls := by
  induction h with
  | empty | before | stop => exact List.suffix_rfl
  | one => exact List.suffix_cons _ _
  | seq _ _ hf hg | more _ _ hf hg => exact hg.trans hf
  | left _ ih | right _ ih => exact ih

@[simp] theorem derives_kind_cons_iff :
    (kind k).Derives (l :: ls) rest ↔ l.kind = k ∧ rest = ls := by
  rw [kind, derives_one_iff]
  constructor
  · rintro ⟨l, h, hk⟩
    cases h
    exact ⟨by simpa using hk, rfl⟩
  · rintro ⟨hk, rfl⟩
    exact ⟨l, rfl, by simpa using hk⟩

@[simp] theorem not_derives_kind_nil : ¬(kind k).Derives [] rest := by
  rw [kind, derives_one_iff]
  simp

@[simp] theorem derives_kind_seq_cons_iff :
    (seq (kind k) f).Derives (l :: ls) rest ↔ l.kind = k ∧ f.Derives ls rest := by
  simp [derives_seq_iff, and_assoc]

@[simp] theorem not_derives_kind_seq_nil : ¬(seq (kind k) f).Derives [] rest := by
  simp [derives_seq_iff]

theorem derives_before_seq_iff :
    (seq (before test) f).Derives ls rest ↔ ls.head?.all test = true ∧ f.Derives ls rest := by
  simp [derives_seq_iff, derives_before_iff, and_assoc]

/-- A lexeme of a kind is what meets an expectation. -/
theorem derives_kind_iff {e : Expectation} :
    (kind e.kind).Derives ls rest ↔ e.meet ls = .ok rest := by
  cases ls with
  | nil => simp [Expectation.meet]
  | cons l ls =>
    rw [derives_kind_cons_iff, Expectation.meet]
    by_cases hk : l.kind = e.kind <;> simp [hk, eq_comm]

theorem derives_many_one_iff : (many (one test)).Derives ls rest ↔
    ∃ ks, (∀ k ∈ ks, test k = true) ∧ ls = ks ++ rest := by
  constructor
  · intro h
    generalize hm : many (one test) = m at h
    induction h with
    | stop => exact ⟨[], by simp, rfl⟩
    | more hf _ _ ih =>
      cases hm
      obtain ⟨l, rfl, hl⟩ := derives_one_iff.1 hf
      obtain ⟨ks, hks, rfl⟩ := ih rfl
      exact ⟨l :: ks, List.forall_mem_cons.2 ⟨hl, hks⟩, rfl⟩
    | _ => cases hm
  · rintro ⟨ks, hks, rfl⟩
    induction ks with
    | nil => exact .stop
    | cons k ks ih =>
      obtain ⟨hk, hks⟩ := List.forall_mem_cons.1 hks
      exact .more (.one hk) (ih hks)

/-- A run ends where the first lexeme fails the test. -/
theorem derives_run_iff :
    (run test).Derives ls rest ↔ rest = (Lexeme.upTo (fun l => !test l) ls).2 := by
  simp only [run, derives_seq_iff, derives_many_one_iff, derives_before_iff]
  constructor
  · rintro ⟨_, ⟨ks, hks, rfl⟩, rfl, hrest⟩
    rw [Lexeme.upTo_append (fun l hl => by rw [hks l hl]; rfl) hrest]
  · rintro rfl
    refine ⟨_, ⟨ls.takeWhile fun l => !!test l, ?_, ?_⟩, rfl, Lexeme.head?_upTo _ ls⟩
    · intro l hl
      simpa using List.mem_takeWhile_imp hl
    · exact List.takeWhile_append_dropWhile.symm

/-- What goes up to a lexeme of the kind ends with the first one. -/
theorem derives_upTo_iff {e : Expectation} : (upTo e.kind).Derives ls rest ↔
    e.meet (Lexeme.upTo (fun l => l.kind == e.kind) ls).2 = .ok rest := by
  simp only [upTo, derives_seq_iff, derives_many_one_iff, derives_kind_iff]
  constructor
  · rintro ⟨mid, ⟨ks, hks, rfl⟩, hmeet⟩
    have hmid : mid.head?.all (fun l => l.kind == e.kind) = true := by
      obtain ⟨l, rfl, hl⟩ := derives_one_iff.1 (derives_kind_iff.2 hmeet)
      exact hl
    rwa [Lexeme.upTo_append (fun l hl => by simpa using hks l hl) hmid]
  · intro hmeet
    refine ⟨_, ⟨ls.takeWhile fun l => !(l.kind == e.kind), ?_, ?_⟩, hmeet⟩
    · intro l hl
      simpa using List.mem_takeWhile_imp hl
    · exact List.takeWhile_append_dropWhile.symm

end Form

end MarkupOrder
