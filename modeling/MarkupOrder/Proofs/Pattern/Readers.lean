import MarkupOrder.Pattern.Reader
import Mathlib.Data.List.Basic
import Mathlib.Data.Option.Basic

/-!
# Readers before a closing parenthesis

A part of a pattern is read the same whatever stands behind it, as long as a closing parenthesis
stands between. Where it is not, the text has come to its end before the part has, and what is read
of the longer text goes on beyond the parenthesis.

* `Agrees`: what is read of a text, and what is read of it before a closing parenthesis.
* `IsSteady`: the readers of which this is true. `IsSteady.bind`, `IsSteady.iteAt`,
  `IsSteady.ofHead` and `IsSteady.ofSkip` are about what they are made of.
* `Mode.isSteady_skip`, `Mode.isSteady_gather`: white space and comments, and what stands between.
* `Atom.agrees_readEscape?`: escapes. The exception is `Atom.readEscape?_of_skip_nil`, a brace
  behind the edge of a word, which may belong to either.
-/

namespace MarkupOrder.Pattern

variable {α β : Type} {m : Mode} {t : Text}

/-- How reading a text by itself compares to reading it before a closing parenthesis. -/
inductive Agrees (own : Option (α × Text)) (behind : Text → Option (α × Text)) : Prop
  /-- Both stop within the text. -/
  | stops {a : α} {x : Text} (hown : own = some (a, x))
    (hbehind : ∀ v, behind v = some (a, x ++ ')' :: v))
  /-- The text comes to its end, and the longer one is read beyond the parenthesis. -/
  | ends (hown : ∀ a x, own = some (a, x) → x = [] ∧ behind [] = some (a, []))
    (hbehind : ∀ v b y, behind v = some (b, y) → y.length ≤ v.length)

/-- Whether what stands behind a closing parenthesis does not matter to a reader that stops before
it, and whether what is left is the rest of the text. -/
structure IsSteady (f : Text → Option (α × Text)) : Prop where
  agrees (t : Text) : Agrees (f t) fun v => f (t ++ ')' :: v)
  suffix {t x : Text} {a : α} : f t = some (a, x) → x <:+ t

theorem IsSteady.length_le {f : Text → Option (α × Text)} (hf : IsSteady f) {x : Text} {a : α}
    (h : f t = some (a, x)) : x.length ≤ t.length :=
  (hf.suffix h).length_le

/-- Where nothing can be read of a text, what is read goes on beyond the parenthesis. -/
theorem Agrees.length_le_of_none {own : Option (α × Text)} {behind : Text → Option (α × Text)}
    (h : Agrees own behind) (hnone : own = none) {v y : Text} {b : α}
    (hy : behind v = some (b, y)) : y.length ≤ v.length := by
  cases h with
  | stops hown => simp [hnone] at hown
  | ends _ hbehind => exact hbehind v b y hy

/-! ## What steady readers are made of -/

theorem Agrees.bindAt {own : Option (α × Text)} {behind : Text → Option (α × Text)}
    (h : Agrees own behind) {g : α → Text → Option (β × Text)}
    (hg : ∀ a x, own = some (a, x) → Agrees (g a x) fun v => g a (x ++ ')' :: v))
    (hlen : ∀ {a t b z}, g a t = some (b, z) → z.length ≤ t.length) :
    Agrees (own.bind fun p => g p.1 p.2) fun v => (behind v).bind fun p => g p.1 p.2 := by
  cases h with
  | @stops a x hown hbehind =>
    simp only [hown, hbehind]
    exact hg a x hown
  | ends hown hbehind =>
    refine .ends (fun b z hz => ?_) (fun v b z hz => ?_)
    · obtain ⟨⟨a, x⟩, ha, hz⟩ := Option.bind_eq_some_iff.1 hz
      obtain ⟨rfl, hnil⟩ := hown a x ha
      obtain rfl : z = [] := List.eq_nil_of_length_eq_zero (Nat.le_zero.1 (hlen hz))
      exact ⟨rfl, by rw [hnil]; exact hz⟩
    · obtain ⟨⟨a, y⟩, ha, hz⟩ := Option.bind_eq_some_iff.1 hz
      exact Nat.le_trans (hlen hz) (hbehind v a y ha)

theorem Agrees.bind {own : Option (α × Text)} {behind : Text → Option (α × Text)}
    (h : Agrees own behind) {g : α → Text → Option (β × Text)} (hg : ∀ a, IsSteady (g a)) :
    Agrees (own.bind fun p => g p.1 p.2) fun v => (behind v).bind fun p => g p.1 p.2 :=
  h.bindAt (fun a x _ => (hg a).agrees x) (hg _).length_le

namespace IsSteady

variable {f : Text → Option (α × Text)} {g : α → Text → Option (β × Text)}

theorem bind (hf : IsSteady f) (hg : ∀ a, IsSteady (g a)) :
    IsSteady fun t => (f t).bind fun p => g p.1 p.2 where
  agrees t := (hf.agrees t).bind hg
  suffix h := by
    obtain ⟨⟨a, y⟩, ha, hz⟩ := Option.bind_eq_some_iff.1 h
    exact ((hg a).suffix hz).trans (hf.suffix ha)

theorem pure (a : α) : IsSteady fun t => some (a, t) where
  agrees _ := .stops rfl fun _ => rfl
  suffix h := by
    cases h
    exact List.suffix_rfl

theorem fail : IsSteady fun _ => (none : Option (α × Text)) where
  agrees _ := .ends (fun _ _ h => by cases h) (fun _ _ _ h => by cases h)
  suffix h := by cases h

theorem congr {f g : Text → Option (α × Text)} (hf : IsSteady f) (h : ∀ t, g t = f t) :
    IsSteady g := by
  rwa [funext h]

theorem ofOption (o : Option α) : IsSteady fun t => o.map (·, t) := by
  cases o with
  | none => exact fail
  | some a => exact pure a

/-- What has been read can be changed, or refused. -/
theorem bindMap (hf : IsSteady f) (k : α → Option β) :
    IsSteady fun t => (f t).bind fun p => (k p.1).map (·, p.2) :=
  hf.bind fun a => ofOption (k a)

theorem ite {f g : Text → Option (α × Text)} (hf : IsSteady f) (hg : IsSteady g) (p : Prop)
    [Decidable p] : IsSteady fun t => if p then f t else g t := by
  by_cases hp : p
  · simpa only [if_pos hp] using hf
  · simpa only [if_neg hp] using hg

/-- A reader may go by the first character that there has to be. -/
theorem uncons {g : Char → Text → Option (β × Text)} (hg : ∀ c, IsSteady (g c)) :
    IsSteady fun t => match t with
      | [] => none
      | c :: rest => g c rest where
  agrees t := by
    cases t with
    | nil => exact .ends (fun _ _ h => by cases h) fun v b y h => (hg ')').length_le h
    | cons c rest => exact (hg c).agrees rest
  suffix {t x a} h := by
    cases t with
    | nil => cases h
    | cons c rest => exact ((hg c).suffix h).trans (List.suffix_cons c rest)

/-- A reader may go by a test that the parenthesis makes no difference to. -/
theorem iteAt {f g : Text → Option (α × Text)} (hf : IsSteady f) (hg : IsSteady g)
    {p : Text → Prop} [DecidablePred p] (hp : ∀ t v, p (t ++ ')' :: v) ↔ p t) :
    IsSteady fun t => if p t then f t else g t where
  agrees t := by
    by_cases ht : p t
    · simp only [hp, if_pos ht]
      exact hf.agrees t
    · simp only [hp, if_neg ht]
      exact hg.agrees t
  suffix {t x a} h := by
    split at h
    · exact hf.suffix h
    · exact hg.suffix h

theorem dropOne (hf : IsSteady f) : IsSteady fun t => f (t.drop 1) where
  agrees t := by
    cases t with
    | nil =>
      refine .ends (fun a x h => ?_) (fun v b y h => hf.length_le h)
      obtain rfl := List.eq_nil_of_length_eq_zero (Nat.le_zero.1 (hf.length_le h))
      exact ⟨rfl, h⟩
    | cons c t => exact hf.agrees t
  suffix h := (hf.suffix h).trans (List.drop_suffix 1 _)

/-- A reader may take a character, if it comes first, and do something else if it does not. -/
theorem ofHead {f g h : Text → Option (α × Text)} {c : Char} (hc : c ≠ ')') (hf : IsSteady f)
    (hg : IsSteady g) (hpos : ∀ rest, h (c :: rest) = f rest)
    (hneg : ∀ t, t.head? ≠ some c → h t = g t) : IsSteady h where
  agrees t := by
    by_cases ht : t.head? = some c
    · obtain ⟨rest, rfl⟩ := List.head?_eq_some_iff.1 ht
      simpa only [List.cons_append, hpos] using hf.agrees rest
    · have hbehind (v : Text) : h (t ++ ')' :: v) = g (t ++ ')' :: v) := by
        refine hneg _ ?_
        cases t with
        | nil => simpa using Ne.symm hc
        | cons d t => exact ht
      simpa only [hneg t ht, hbehind] using hg.agrees t
  suffix {t x a} hx := by
    by_cases ht : t.head? = some c
    · obtain ⟨rest, rfl⟩ := List.head?_eq_some_iff.1 ht
      rw [hpos] at hx
      exact (hf.suffix hx).trans (List.suffix_cons c rest)
    · exact hg.suffix (hneg t ht ▸ hx)

end IsSteady

/-- Where a text is cut at its first character that fails a test, more text behind it does not
matter. -/
theorem cut_append {p : Char → Bool} {c : Char} {rest : Text} (h : t.dropWhile p = c :: rest)
    (u : Text) :
    (t ++ u).takeWhile p = t.takeWhile p ∧ (t ++ u).dropWhile p = c :: (rest ++ u) := by
  have hlen : (t.takeWhile p).length ≠ t.length := by
    intro hlen
    have hsplit := congrArg List.length (List.takeWhile_append_dropWhile (p := p) (l := t))
    simp [h, hlen] at hsplit
  rw [List.takeWhile_append, if_neg hlen, List.dropWhile_append, h]
  exact ⟨rfl, rfl⟩

/-! ## White space and comments -/

theorem dropWhile_append_parenthesis (t v : Text) :
    (t ++ ')' :: v).dropWhile Unicode.isWhitespace =
      t.dropWhile Unicode.isWhitespace ++ ')' :: v := by
  rw [List.dropWhile_append]
  split
  · rename_i h
    rw [List.isEmpty_iff.1 h]
    rfl
  · rfl

theorem isSteady_blank : IsSteady fun t => some ((), t.dropWhile Unicode.isWhitespace) where
  agrees t := .stops rfl fun v => by rw [dropWhile_append_parenthesis]
  suffix h := by
    cases h
    exact List.dropWhile_suffix _

namespace Mode

theorem skipBlank_append (comment : Bool) (t : Text) :
    (∀ v, skipBlank comment (t ++ ')' :: v) = skipBlank comment t ++ ')' :: v) ∨
      (skipBlank comment t = [] ∧ skipBlank comment (t ++ [')']) = [] ∧
        ∀ v, (skipBlank comment (t ++ ')' :: v)).length ≤ v.length) := by
  induction t generalizing comment with
  | nil =>
    cases comment with
    | true => exact .inr ⟨rfl, rfl, fun v => length_skipBlank_le _ v⟩
    | false => exact .inl fun v => rfl
  | cons c t ih =>
    simp only [List.cons_append, skipBlank]
    split
    · exact ih _
    · split
      · exact ih _
      · split
        · exact ih _
        · exact .inl fun v => rfl

theorem skipBlank_suffix (comment : Bool) (t : Text) : skipBlank comment t <:+ t := by
  induction t generalizing comment with
  | nil => exact List.suffix_rfl
  | cons c t ih =>
    have hskip (comment : Bool) : skipBlank comment t <:+ c :: t :=
      (ih comment).trans (List.suffix_cons c t)
    rw [skipBlank]
    split
    · exact hskip _
    · split
      · exact hskip _
      · split
        · exact hskip _
        · exact List.suffix_rfl

theorem skip_suffix (m : Mode) (t : Text) : m.skip t <:+ t := by
  unfold skip
  split
  · exact skipBlank_suffix false t
  · exact List.suffix_rfl

@[simp] theorem skip_nil (m : Mode) : m.skip [] = [] := by
  unfold skip
  split <;> rfl

theorem skip_dropWhile_of_skip_nil {s : Text} (h : m.skip s = []) :
    m.skip (s.dropWhile Unicode.isWhitespace) = [] := by
  induction s with
  | nil => exact h
  | cons c s ih =>
    by_cases hc : Unicode.isWhitespace c = true
    · rw [List.dropWhile_cons_of_pos hc]
      cases hv : m.verbose with
      | false => simp [skip, hv] at h
      | true =>
        refine ih ?_
        simpa [skip, skipBlank, hv, hc] using h
    · rwa [List.dropWhile_cons_of_neg hc]

theorem skip_brace (m : Mode) (t : Text) : m.skip ('\x7b' :: t) = '\x7b' :: t := by
  have hblank : Unicode.isWhitespace '\x7b' = false := by decide
  simp [skip, skipBlank, hblank]

theorem isSteady_skip (m : Mode) : IsSteady fun t => some ((), m.skip t) where
  agrees t := by
    cases hv : m.verbose with
    | false => exact .stops rfl fun v => by simp [skip, hv]
    | true =>
      simp only [skip, hv, if_true]
      rcases skipBlank_append false t with hgo | ⟨hnil, hnil', hle⟩
      · exact .stops rfl fun v => by rw [hgo]
      · refine .ends (fun a x h => ?_) (fun v b y h => ?_)
        · cases h
          exact ⟨hnil, by rw [hnil']⟩
        · cases h
          exact hle v
  suffix h := by
    cases h
    exact m.skip_suffix _

end Mode

/-- What has been read can be changed. -/
theorem Agrees.map {own : Option (α × Text)} {behind : Text → Option (α × Text)}
    (h : Agrees own behind) (k : α → β) :
    Agrees (own.map fun p => (k p.1, p.2)) fun v => (behind v).map fun p => (k p.1, p.2) := by
  simp only [Option.map_eq_bind]
  exact h.bind fun a => IsSteady.pure (k a)

theorem IsSteady.afterSkip {f : Text → Option (α × Text)} (hf : IsSteady f) (m : Mode) :
    IsSteady fun t => f (m.skip t) :=
  (m.isSteady_skip).bind fun _ => hf

/-- A reader may take a character, if it comes first behind white space and comments. -/
theorem IsSteady.ofSkip (m : Mode) {f g h : Text → Option (α × Text)} {c : Char} (hc : c ≠ ')')
    (hf : IsSteady f) (hg : IsSteady g) (hpos : ∀ t rest, m.skip t = c :: rest → h t = f rest)
    (hneg : ∀ t, (m.skip t).head? ≠ some c → h t = g (m.skip t)) : IsSteady h := by
  have hhead : IsSteady fun t => if t.head? = some c then f (t.drop 1) else g t :=
    .ofHead hc hf hg (fun rest => by simp) (fun t ht => if_neg ht)
  refine (hhead.afterSkip m).congr fun t => ?_
  split
  · rename_i ht
    obtain ⟨rest, hrest⟩ := List.head?_eq_some_iff.1 ht
    rw [hpos t rest hrest, hrest]
    rfl
  · rename_i ht
    exact hneg t ht

namespace Mode

/-- What is left of gathered characters is left of what comes behind white space and comments. -/
theorem gather_suffix_skip (m : Mode) (test : Char → Bool) (t : Text) :
    (m.gather test t).2 <:+ m.skip t := by
  fun_induction gather m test t with
  | case1 => exact List.nil_suffix
  | case2 t c rest h hc ih =>
    rw [h]
    exact (ih.trans (m.skip_suffix rest)).trans (List.suffix_cons c rest)
  | case3 t c rest h hc => exact h ▸ List.suffix_rfl

theorem gather_of_skip_nil {test : Char → Bool} (h : m.skip t = []) :
    m.gather test t = ([], []) := by
  rw [gather]
  split
  · rfl
  · simp_all

theorem gather_of_pos {test : Char → Bool} {c : Char} {rest : Text} (h : m.skip t = c :: rest)
    (hc : test c = true) :
    m.gather test t = (c :: (m.gather test rest).1, (m.gather test rest).2) := by
  rw [gather]
  split
  · simp_all
  · simp_all

theorem gather_of_neg {test : Char → Bool} {c : Char} {rest : Text} (h : m.skip t = c :: rest)
    (hc : test c = false) : m.gather test t = ([], c :: rest) := by
  rw [gather]
  split
  · simp_all
  · simp_all

/-- Where white space and comments do not take a text to its end, the parenthesis is left as it
is. -/
theorem skip_append {c : Char} {rest : Text} (h : m.skip t = c :: rest) (v : Text) :
    m.skip (t ++ ')' :: v) = c :: (rest ++ ')' :: v) := by
  cases (m.isSteady_skip).agrees t with
  | stops hown hbehind =>
    cases hown
    have := hbehind v
    simp_all
  | ends hown hbehind =>
    have := (hown _ _ rfl).1
    simp_all

/-- Where they do, the parenthesis comes next, or a comment takes it in. -/
theorem skip_append_of_skip_nil (h : m.skip t = []) :
    (∀ v, m.skip (t ++ ')' :: v) = ')' :: v) ∨
      (m.skip (t ++ [')']) = [] ∧ ∀ v, (m.skip (t ++ ')' :: v)).length ≤ v.length) := by
  cases (m.isSteady_skip).agrees t with
  | stops hown hbehind =>
    cases hown
    exact .inl fun v => by simpa [h] using hbehind v
  | ends hown hbehind =>
    exact .inr ⟨by simpa using (hown _ _ rfl).2, fun v => hbehind v () _ rfl⟩

theorem length_skip_append_le (h : m.skip t = []) (v : Text) :
    (m.skip (t ++ ')' :: v)).length ≤ v.length + 1 := by
  rcases skip_append_of_skip_nil h with hnext | ⟨-, hle⟩
  · exact Nat.le_of_eq (congrArg List.length (hnext v))
  · exact Nat.le_succ_of_le (hle v)

/-- The characters of a part, none of which is the parenthesis. -/
theorem isSteady_gather (m : Mode) {p : Char → Bool} (hp : p ')' = false) :
    IsSteady fun t => some (m.gather p t) where
  agrees t := by
    fun_induction gather m p t with
    | case1 t h =>
      rcases skip_append_of_skip_nil h with hnext | ⟨hnil, hle⟩
      · exact .stops rfl fun v => by rw [gather_of_neg (hnext v) hp]; rfl
      · refine .ends (fun a x hx => ?_) (fun v b y hy => ?_)
        · cases hx
          exact ⟨rfl, by rw [gather_of_skip_nil hnil]⟩
        · obtain rfl : (m.gather p (t ++ ')' :: v)).2 = y := by rw [Option.some.inj hy]
          exact Nat.le_trans (m.gather_suffix_skip p _).length_le (hle v)
    | case2 t c rest h hc ih =>
      have hgather (v : Text) := gather_of_pos (skip_append h v) hc
      simp only [hgather]
      cases ih with
      | stops hown hbehind =>
        refine .stops rfl fun v => ?_
        have hv := hbehind v
        simp_all
      | ends hown hbehind =>
        obtain ⟨hnil, hnil'⟩ := hown _ _ rfl
        refine .ends (fun a x hx => ?_) (fun v b y hy => ?_)
        · cases hx
          exact ⟨hnil, by rw [Option.some.inj hnil']⟩
        · cases hy
          exact hbehind v _ _ rfl
    | case3 t c rest h hc =>
      refine .stops rfl fun v => ?_
      rw [gather_of_neg (skip_append h v) (by simpa using hc)]
      rfl
  suffix {t x a} h := by
    have hsuffix := (m.gather_suffix_skip p t).trans (m.skip_suffix t)
    rwa [Option.some.inj h] at hsuffix

/-- What stands before a character, which there has to be. -/
def gatherBefore? (m : Mode) (c : Char) (t : Text) : Option (Text × Text) :=
  match m.gather (· != c) t with
  | (_, []) => none
  | (cs, _ :: rest) => some (cs, rest)

theorem exists_suffix_of_gatherBefore? {c : Char} {cs rest : Text}
    (h : m.gatherBefore? c t = some (cs, rest)) : ∃ d, d :: rest <:+ m.skip t := by
  have hsuffix := m.gather_suffix_skip (· != c) t
  unfold gatherBefore? at h
  split at h
  · cases h
  · rename_i d _ ht
    rw [ht] at hsuffix
    cases h
    exact ⟨d, hsuffix⟩

theorem gatherBefore?_of_ne {c d : Char} {rest : Text} (h : m.skip t = d :: rest) (hd : d ≠ c) :
    m.gatherBefore? c t = (m.gatherBefore? c rest).map fun p => (d :: p.1, p.2) := by
  rw [gatherBefore?, gather_of_pos h (by simpa using hd), gatherBefore?]
  rcases m.gather (· != c) rest with ⟨cs, _ | ⟨_, rest⟩⟩ <;> rfl

theorem gatherBefore?_of_eq {c : Char} {rest : Text} (h : m.skip t = c :: rest) :
    m.gatherBefore? c t = some ([], rest) := by
  rw [gatherBefore?, gather_of_neg h (by simp)]

/-- The parenthesis may itself stand before the character, but then so does the end of the text. -/
theorem isSteady_gatherBefore? (m : Mode) {c : Char} (hc : c ≠ ')') :
    IsSteady (m.gatherBefore? c) where
  agrees t := by
    have hnil {t : Text} (h : m.skip t = []) : m.gatherBefore? c t = none := by
      rw [gatherBefore?, gather_of_skip_nil h]
    fun_induction gather m (· != c) t with
    | case1 t h =>
      refine .ends (fun a x hx => by simp [hnil h] at hx) (fun v b y hy => ?_)
      obtain ⟨d, hsuffix⟩ := exists_suffix_of_gatherBefore? hy
      exact Nat.le_of_succ_le_succ (Nat.le_trans hsuffix.length_le (length_skip_append_le h v))
    | case2 t d rest h hd ih =>
      have hd : d ≠ c := by simpa using hd
      simp only [gatherBefore?_of_ne h hd, gatherBefore?_of_ne (skip_append h _) hd]
      exact ih.map (d :: ·)
    | case3 t d rest h hd =>
      obtain rfl : d = c := by simpa using hd
      exact .stops (gatherBefore?_of_eq h) fun v => gatherBefore?_of_eq (skip_append h v)
  suffix {t x a} h := by
    obtain ⟨d, hsuffix⟩ := exists_suffix_of_gatherBefore? h
    exact ((List.suffix_cons d x).trans hsuffix).trans (m.skip_suffix t)

end Mode

/-! ## Escapes -/

namespace Atom

theorem isSteady_readHexDigits? (m : Mode) (count n : Nat) :
    IsSteady (readHexDigits? m count n) := by
  induction count generalizing n with
  | zero => exact .pure n
  | succ count ih =>
    have hdigit (c : Char) : IsSteady fun rest =>
        (hexDigit? c).bind fun d => readHexDigits? m count (16 * n + d) rest := by
      cases hexDigit? c with
      | none => exact .fail
      | some d => exact ih _
    exact (IsSteady.uncons hdigit).afterSkip m

/-- What is read behind the hexadecimal digits in braces. -/
theorem isSteady_behindHexDigits (digits : Text) : IsSteady fun rest =>
    match (digits, rest) with
    | ([], _) => none
    | (digits, '\x7d' :: rest) =>
      (charOf? (digits.foldl (fun n c => 16 * n + (hexDigit? c).getD 0) 0)).map (char ·, rest)
    | _ => none := by
  cases digits with
  | nil => exact .fail
  | cons d digits =>
    let c? := charOf? ((d :: digits).foldl (fun n c => 16 * n + (hexDigit? c).getD 0) 0)
    refine .ofHead (c := '\x7d') (f := fun rest => (c?.map char).map (·, rest)) (by decide)
      (.ofOption _) .fail (fun rest => by rw [Option.map_map]; rfl) fun t ht => ?_
    split <;> simp_all

theorem isSteady_readHex? (m : Mode) (count : Nat) : IsSteady (readHex? m count) := by
  have hdigits (n : Nat) : IsSteady fun rest => do
      guard (m.unicode || count != 2 || decide (n < 128))
      return (char (← charOf? n), rest) := by
    cases charOf? n with
    | none => exact IsSteady.fail.congr fun t => by simp
    | some c =>
      by_cases h : (m.unicode || count != 2 || decide (n < 128)) = true
      · exact (IsSteady.pure (char c)).congr fun t => by simp [h]
      · exact IsSteady.fail.congr fun t => by rw [guard, if_neg h]; rfl
  have hbraces := (m.isSteady_gather (p := fun c => (hexDigit? c).isSome) (by decide)).bind
    isSteady_behindHexDigits
  have hplain := (isSteady_readHexDigits? m count 0).bind hdigits
  refine .ofSkip m (c := '\x7b') (by decide) hbraces hplain (fun t rest h => ?_) fun t h => ?_
  · rw [readHex?, h]
    rfl
  · rw [readHex?]
    split
    · simp_all
    · rfl

theorem isSteady_readPropertyName? (m : Mode) : IsSteady (readPropertyName? m) := by
  have hletter (c : Char) : IsSteady fun rest => if c = '\\' then none else some ([c], rest) :=
    .ite .fail (.pure [c]) _
  have hbraces := m.isSteady_gatherBefore? (c := '\x7d') (by decide)
  refine .ofSkip m (c := '\x7b') (by decide) hbraces (.uncons hletter) (fun t rest h => ?_)
    fun t h => ?_
  · rw [readPropertyName?, h]
    rfl
  · rw [readPropertyName?]
    split <;> simp_all

theorem isSteady_readProperty? (m : Mode) (negated : Bool) :
    IsSteady (readProperty? m negated) := by
  cases hm : m.unicode with
  | false =>
    refine IsSteady.fail.congr fun t => ?_
    rw [readProperty?, guard, if_neg (by simp [hm])]
    rfl
  | true =>
    refine ((isSteady_readPropertyName? m).bindMap fun name =>
      (Property.query? name).bind fun query =>
        (m.complement? (negated != query.2) (m.fold query.1)).map set).congr fun t => ?_
    simp only [readProperty?, hm, guard]
    cases readPropertyName? m t with
    | none => rfl
    | some p =>
      cases hq : Property.query? p.1 with
      | none => simp [hq]
      | some q => cases hc : m.complement? (negated != q.2) (m.fold q.1) <;> simp [hq, hc]

/-- The name of an edge of a word. -/
theorem isSteady_edgeName (m : Mode) : IsSteady fun s =>
    match m.gather isEdgeLetter s with
    | (name, '\x7d' :: rest) =>
      (wordEdge? name).map fun edge => (look (.word edge m.unicode), rest)
    | _ => none := by
  have hclose (name : Text) : IsSteady fun rest =>
      match (name, rest) with
      | (name, '\x7d' :: rest) =>
        (wordEdge? name).map fun edge => (look (.word edge m.unicode), rest)
      | _ => none := by
    let a? := (wordEdge? name).map fun edge => look (.word edge m.unicode)
    refine .ofHead (c := '\x7d') (f := fun rest => a?.map (·, rest)) (by decide) (.ofOption _)
      .fail (fun rest => by rw [Option.map_map]; rfl) fun t ht => ?_
    split <;> simp_all
  exact (m.isSteady_gather (p := isEdgeLetter) (by decide)).bind hclose

/-- The edge of a word, where a brace that may name it is not followed by the end of the text. -/
theorem agrees_readWordEdge? (h : ∀ s, t = '\x7b' :: s → m.skip s ≠ []) :
    Agrees (readWordEdge? m t) fun v => readWordEdge? m (t ++ ')' :: v) := by
  have hname := isSteady_edgeName m
  by_cases hbrace : t.head? = some '\x7b'
  · obtain ⟨s, rfl⟩ := List.head?_eq_some_iff.1 hbrace
    obtain ⟨c, rest, hs⟩ := List.exists_cons_of_ne_nil (h s rfl)
    simp only [List.cons_append, readWordEdge?, hs, Mode.skip_append hs]
    by_cases hc : isEdgeLetter c = true
    · simp only [if_pos hc]
      exact hname.agrees s
    · simp only [if_neg hc]
      exact .stops rfl fun v => rfl
  · have hplain {t : Text} (ht : t.head? ≠ some '\x7b') :
        readWordEdge? m t = some (look (.word .boundary m.unicode), t) := by
      unfold readWordEdge?
      split
      · simp at ht
      · rfl
    refine .stops (hplain hbrace) fun v => hplain ?_
    cases t with
    | nil => simp
    | cons c t => exact hbrace

/-- Where the text ends behind a brace, the brace is left to be read as a repetition, or what it
encloses goes on beyond the parenthesis. -/
theorem readWordEdge?_of_skip_nil {s : Text} (h : m.skip s = []) :
    readWordEdge? m ('\x7b' :: s) = none ∧
      ∀ v a y, readWordEdge? m ('\x7b' :: (s ++ ')' :: v)) = some (a, y) →
        y.length ≤ v.length ∨ ((∃ l, a = look l) ∧ y = '\x7b' :: (s ++ ')' :: v)) := by
  refine ⟨by rw [readWordEdge?, h], fun v a y hy => ?_⟩
  simp only [readWordEdge?] at hy
  split at hy
  · cases hy
  · split at hy
    · refine .inl (((isSteady_edgeName m).agrees s).length_le_of_none ?_ hy)
      rw [Mode.gather_of_skip_nil h]
    · cases hy
      exact .inr ⟨⟨_, rfl⟩, rfl⟩

theorem suffix_of_readWordEdge? {a : Atom} {x : Text} (h : readWordEdge? m t = some (a, x)) :
    x <:+ t := by
  unfold readWordEdge? at h
  dsimp only at h
  split at h
  · rename_i s
    split at h
    · cases h
    · split at h
      · exact ((isSteady_edgeName m).suffix h).trans (List.suffix_cons _ s)
      · cases h
        exact List.suffix_rfl
  · cases h
    exact List.suffix_rfl

theorem isSteady_readEscape?_cons {c : Char} (hc : c ≠ 'b') (m : Mode) :
    IsSteady fun rest => readEscape? m (c :: rest) := by
  have hchar (o : Option Atom) : IsSteady fun rest => o.map (·, rest) := .ofOption o
  simp only [readEscape?]
  split
  · exact isSteady_readHex? m 2
  · exact isSteady_readHex? m 4
  · exact isSteady_readHex? m 8
  · exact isSteady_readProperty? m false
  · exact isSteady_readProperty? m true
  · exact absurd rfl hc
  · exact .ite (.pure _) (.ofOption _) _

/-- An escape, where a brace that may name the edge of a word is not followed by the end of the
text. -/
theorem agrees_readEscape? (h : ∀ s, t = 'b' :: '\x7b' :: s → m.skip s ≠ []) :
    Agrees (readEscape? m t) fun v => readEscape? m (t ++ ')' :: v) := by
  cases t with
  | nil =>
    refine .ends (fun a x hx => by cases hx) (fun v b y hy => ?_)
    exact Nat.le_of_lt_succ (length_of_readEscape? hy)
  | cons c t =>
    by_cases hc : c = 'b'
    · subst hc
      exact agrees_readWordEdge? fun s hs => h s (by rw [hs])
    · exact (isSteady_readEscape?_cons hc m).agrees t

theorem suffix_of_readEscape? {a : Atom} {x : Text} (h : readEscape? m t = some (a, x)) :
    x <:+ t := by
  cases t with
  | nil => cases h
  | cons c t =>
    by_cases hc : c = 'b'
    · subst hc
      exact (suffix_of_readWordEdge? h).trans (List.suffix_cons _ t)
    · exact ((isSteady_readEscape?_cons hc m).suffix h).trans (List.suffix_cons c t)

/-- What is read of a text that ends behind such a brace. -/
theorem readEscape?_of_skip_nil {s : Text} (h : m.skip s = []) :
    readEscape? m ('b' :: '\x7b' :: s) = none ∧
      ∀ v a y, readEscape? m ('b' :: '\x7b' :: (s ++ ')' :: v)) = some (a, y) →
        y.length ≤ v.length ∨ ((∃ l, a = look l) ∧ y = '\x7b' :: (s ++ ')' :: v)) :=
  readWordEdge?_of_skip_nil h

end Atom

end MarkupOrder.Pattern
