import MarkupOrder.Pattern.Search
import Mathlib.Data.List.Basic

/-!
# What an expression matches

* `Regex.Spans`: the stretches of a text that an expression matches, by its form.
* `Marks.At`, `Marks.Follows`: the places that are marked, and the functions that take marks to all
  places which a relation leads to. For repetition these are `Marks.follows_saturate`, with a limit,
  and `Marks.follows_saturate_all`, without one.
* `Regex.follows_ends`: searching goes from the marked places along the stretches that are matched.
* `Regex.occursIn_iff`: an expression occurs in a text if it matches some stretch of it, and
  `Regex.occursIn_anchored_iff`: between anchors, if it matches the whole.
-/

namespace MarkupOrder.Pattern

/-! ## Stretches -/

/-- The character before a place of a text, if there is one. -/
def charBefore? (t : Text) : Nat → Option Char
  | 0 => none
  | i + 1 => t[i]?

/-- Whether `n` steps of a relation lead from one place to another. -/
def Leaps (R : Nat → Nat → Prop) : Nat → Nat → Nat → Prop
  | 0, i, j => i = j
  | n + 1, i, j => ∃ k, R i k ∧ Leaps R n k j

/-- Whether an expression matches the stretch of a text between two places. Where the limits of a
repetition are the wrong way round, the lower one counts. -/
def Regex.Spans (t : Text) : Regex → Nat → Nat → Prop
  | empty, i, j => i = j
  | set s, i, j => ∃ c, t[i]? = some c ∧ s c = true ∧ j = i + 1
  | look l, i, j => l.holds (charBefore? t i) t[i]? = true ∧ i = j
  | cat r s, i, j => ∃ k, r.Spans t i k ∧ s.Spans t k j
  | alt r s, i, j => r.Spans t i j ∨ s.Spans t i j
  | rep min max? r, i, j =>
    ∃ n, min ≤ n ∧ (∀ most, max? = some most → n ≤ max min most) ∧ Leaps (r.Spans t) n i j

theorem leaps_add {R : Nat → Nat → Prop} {m n i j : Nat} :
    Leaps R (m + n) i j ↔ ∃ k, Leaps R m i k ∧ Leaps R n k j := by
  induction m generalizing i with
  | zero => simp [Leaps]
  | succ m ih =>
    simp only [Nat.succ_add, Leaps, ih]
    constructor
    · rintro ⟨l, hl, k, hm, hn⟩
      exact ⟨k, ⟨l, hl, hm⟩, hn⟩
    · rintro ⟨k, ⟨l, hl, hm⟩, hn⟩
      exact ⟨l, hl, k, hm, hn⟩

namespace Marks

/-! ## Marked places -/

/-- Whether a place is marked. -/
def At (marks : Marks) (i : Nat) : Prop := marks[i]? = some true

/-- Whether a function takes marks on `n` places to marks on the places that a relation leads to. -/
structure Follows (R : Nat → Nat → Prop) (n : Nat) (f : Marks → Marks) : Prop where
  length_eq {marks : Marks} : marks.length = n → (f marks).length = n
  at_iff {marks : Marks} {j : Nat} : marks.length = n → ((f marks).At j ↔ ∃ i, marks.At i ∧ R i j)

variable {R S : Nat → Nat → Prop} {f g : Marks → Marks} {marks a b : Marks} {t : Text}
  {i j k m n : Nat}

theorem At.lt (h : marks.At i) : i < marks.length := by
  obtain ⟨hi, -⟩ := List.getElem?_eq_some_iff.1 h
  exact hi

theorem join_cons_cons {x y : Bool} : join (x :: a) (y :: b) = (x || y) :: a.join b := rfl

theorem length_join (h : a.length = b.length) : (a.join b).length = a.length := by
  simp [join, h]

theorem at_join (h : a.length = b.length) : (a.join b).At i ↔ a.At i ∨ b.At i := by
  simp only [At, join, List.getElem?_zipWith]
  by_cases hi : i < a.length
  · simp [List.getElem?_eq_getElem hi, List.getElem?_eq_getElem (h ▸ hi)]
  · simp [List.getElem?_eq_none (Nat.le_of_not_lt hi),
      List.getElem?_eq_none (h ▸ Nat.le_of_not_lt hi)]

theorem Follows.id (n : Nat) : Follows Eq n id where
  length_eq h := h
  at_iff _ := by simp

theorem Follows.comp (hf : Follows R n f) (hg : Follows S n g) :
    Follows (fun i j => ∃ k, R i k ∧ S k j) n (g ∘ f) where
  length_eq h := hg.length_eq (hf.length_eq h)
  at_iff h := by
    simp only [Function.comp_apply, hg.at_iff (hf.length_eq h), hf.at_iff h]
    constructor
    · rintro ⟨k, ⟨i, hi, hr⟩, hs⟩
      exact ⟨i, hi, k, hr, hs⟩
    · rintro ⟨i, hi, k, hr, hs⟩
      exact ⟨k, ⟨i, hi, hr⟩, hs⟩

theorem Follows.join (hf : Follows R n f) (hg : Follows S n g) :
    Follows (fun i j => R i j ∨ S i j) n (fun marks => (f marks).join (g marks)) where
  length_eq h := by rw [length_join (by rw [hf.length_eq h, hg.length_eq h]), hf.length_eq h]
  at_iff h := by
    rw [at_join (by rw [hf.length_eq h, hg.length_eq h]), hf.at_iff h, hg.at_iff h, ← exists_or]
    exact exists_congr fun i => and_or_left.symm

theorem Follows.congr (hf : Follows R n f) (h : ∀ i j, R i j ↔ S i j) : Follows S n f where
  length_eq := hf.length_eq
  at_iff hlen := by simp only [hf.at_iff hlen, h]

theorem follows_step (s : CharSet) (t : Text) :
    Follows (fun i j => ∃ c, t[i]? = some c ∧ s c = true ∧ j = i + 1) (t.length + 1)
      (step s t) where
  length_eq h := by simp [step, h]
  at_iff {marks j} h := by
    cases j with
    | zero => simp [step, At]
    | succ j =>
      simp only [step, At, List.getElem?_cons_succ, List.getElem?_zipWith]
      cases hm : marks[j]? with
      | none => simp_all
      | some mark =>
        cases hc : t[j]? with
        | none => simp_all
        | some c => simp_all

theorem at_restrict {l : Look} {before? : Option Char} (h : marks.length = t.length + 1) :
    (restrict l before? t marks).At j ↔
      marks.At j ∧ l.holds (if j = 0 then before? else charBefore? t j) t[j]? = true := by
  induction t generalizing marks before? j with
  | nil =>
    obtain ⟨mark, rfl⟩ := List.length_eq_one_iff.1 h
    cases j <;> simp [restrict, At]
  | cons c t ih =>
    cases marks with
    | nil => simp at h
    | cons mark marks =>
      rw [restrict]
      cases j with
      | zero => simp [At]
      | succ j =>
        have hlater : (restrict l (some c) t marks).At j ↔ At marks j ∧
            l.holds (if j = 0 then some c else charBefore? t j) t[j]? = true :=
          ih (Nat.succ.inj h)
        cases j <;> simpa [At, charBefore?] using hlater

theorem length_restrict {l : Look} {before? : Option Char} (h : marks.length = t.length + 1) :
    (restrict l before? t marks).length = marks.length := by
  induction t generalizing marks before? with
  | nil =>
    obtain ⟨mark, rfl⟩ := List.length_eq_one_iff.1 h
    rfl
  | cons c t ih =>
    cases marks with
    | nil => simp at h
    | cons mark marks => rw [restrict, List.length_cons, ih (Nat.succ.inj h), List.length_cons]

theorem follows_restrict (l : Look) (t : Text) :
    Follows (fun i j => l.holds (charBefore? t i) t[i]? = true ∧ i = j) (t.length + 1)
      (restrict l none t) where
  length_eq h := by rw [length_restrict h, h]
  at_iff {marks j} h := by
    have hbefore : (if j = 0 then none else charBefore? t j) = charBefore? t j := by
      cases j <;> rfl
    rw [at_restrict h, hbefore]
    constructor
    · exact fun ⟨hj, hl⟩ => ⟨j, hj, hl, rfl⟩
    · rintro ⟨_, hj, hl, rfl⟩
      exact ⟨hj, hl⟩

theorem length_everywhere (t : Text) : (everywhere t).length = t.length + 1 := by simp [everywhere]

theorem at_everywhere : (everywhere t).At i ↔ i ≤ t.length := by
  rw [everywhere, At, List.getElem?_replicate, Option.ite_none_right_eq_some, Nat.lt_succ_iff]
  exact and_iff_left rfl

/-! ## Repetition -/

theorem follows_iterate (hf : Follows R n f) (k : Nat) : Follows (Leaps R k) n (iterate f k) := by
  induction k with
  | zero => exact Follows.id n
  | succ k ih => exact hf.comp ih

/-- Marks that a function adds nothing to. -/
def Closed (R : Nat → Nat → Prop) (marks : Marks) : Prop := ∀ i j, marks.At i → R i j → marks.At j

theorem Closed.leaps (h : marks.Closed R) (hi : marks.At i) (hk : Leaps R k i j) : marks.At j := by
  induction k generalizing i with
  | zero => exact hk ▸ hi
  | succ k ih =>
    obtain ⟨l, hl, hk⟩ := hk
    exact ih (h i l hi hl) hk

/-- Where a round adds nothing, the marks are closed. -/
theorem closed_of_join_eq (hf : Follows R n f) (hlen : marks.length = n)
    (h : marks.join (f marks) = marks) : marks.Closed R := by
  intro i j hi hr
  rw [← h, at_join (by rw [hf.length_eq hlen, hlen])]
  exact .inr ((hf.at_iff hlen).2 ⟨i, hi, hr⟩)

/-- One round leads where no step or one step leads. -/
theorem follows_round (hf : Follows R n f) :
    Follows (fun i j => i = j ∨ R i j) n (fun marks => marks.join (f marks)) :=
  (Follows.id n).join hf

/-- **What repetition with a limit reaches.** -/
theorem follows_saturate (hf : Follows R n f) (m : Nat) :
    Follows (fun i j => ∃ k ≤ m, Leaps R k i j) n (saturate f m) := by
  induction m with
  | zero => exact (Follows.id n).congr fun i j => by simp [Leaps]
  | succ m ih =>
    have hlater : Follows (fun i j => ∃ k ≤ m + 1, Leaps R k i j) n
        (saturate f m ∘ fun marks => marks.join (f marks)) := by
      refine ((follows_round hf).comp ih).congr fun i j => ?_
      constructor
      · rintro ⟨l, rfl | hl, k, hk, hleaps⟩
        · exact ⟨k, Nat.le_succ_of_le hk, hleaps⟩
        · exact ⟨k + 1, Nat.succ_le_succ hk, l, hl, hleaps⟩
      · rintro ⟨k, hk, hleaps⟩
        cases k with
        | zero => exact ⟨i, .inl rfl, 0, Nat.zero_le m, hleaps⟩
        | succ k =>
          obtain ⟨l, hl, hleaps⟩ := hleaps
          exact ⟨l, .inr hl, k, Nat.le_of_succ_le_succ hk, hleaps⟩
    refine ⟨fun {marks} hlen => ?_, fun {marks j} hlen => ?_⟩
    · rw [saturate]
      split
      · exact hlen
      · exact hlater.length_eq hlen
    · rw [saturate]
      split
      · rename_i h
        have hclosed := closed_of_join_eq hf hlen h
        exact ⟨fun hj => ⟨j, hj, 0, Nat.zero_le _, rfl⟩,
          fun ⟨i, hi, k, _, hk⟩ => hclosed.leaps hi hk⟩
      · exact hlater.at_iff hlen

theorem count_join_le (h : a.length = b.length) : (a.join b).count false ≤ a.count false := by
  induction a generalizing b with
  | nil => simp [join]
  | cons x a ih =>
    obtain ⟨y, b, rfl⟩ := List.exists_cons_of_length_eq_add_one h.symm
    have hle := ih (Nat.succ.inj h)
    rw [join_cons_cons, List.count_cons, List.count_cons]
    cases x with
    | true => exact hle
    | false =>
      cases y with
      | true => exact Nat.le_succ_of_le hle
      | false => exact Nat.succ_le_succ hle

theorem count_join_lt (h : a.length = b.length) (hne : a.join b ≠ a) :
    (a.join b).count false < a.count false := by
  induction a generalizing b with
  | nil => simp [join] at hne
  | cons x a ih =>
    obtain ⟨y, b, rfl⟩ := List.exists_cons_of_length_eq_add_one h.symm
    have hlen : a.length = b.length := Nat.succ.inj h
    rw [join_cons_cons, List.count_cons, List.count_cons]
    rw [join_cons_cons] at hne
    cases x with
    | true => exact ih hlen fun heq => hne (by rw [heq, Bool.true_or])
    | false =>
      cases y with
      -- the first place is marked, and none of the others loses its mark
      | true => exact Nat.lt_succ_of_le (count_join_le hlen)
      | false => exact Nat.succ_lt_succ (ih hlen fun heq => hne (by rw [heq, Bool.or_false]))

/-- Each round marks a place or is the last one, so as many rounds as there are places left make
marks closed. -/
theorem closed_saturate (hf : Follows R n f) (hlen : marks.length = n)
    (hm : marks.count false ≤ m) : (saturate f m marks).Closed R := by
  induction m generalizing marks with
  | zero =>
    rw [saturate]
    refine closed_of_join_eq hf hlen ?_
    by_contra hne
    have := count_join_lt (by rw [hf.length_eq hlen, hlen]) hne
    omega
  | succ m ih =>
    rw [saturate]
    split
    · rename_i h
      exact closed_of_join_eq hf hlen h
    · rename_i h
      have := count_join_lt (by rw [hf.length_eq hlen, hlen]) h
      exact ih ((follows_round hf).length_eq hlen) (by omega)

/-- **What repetition without a limit reaches**, in as many rounds as there are places. -/
theorem follows_saturate_all (hf : Follows R n f) (hm : n ≤ m) :
    Follows (fun i j => ∃ k, Leaps R k i j) n (saturate f m) where
  length_eq := (follows_saturate hf m).length_eq
  at_iff {marks j} hlen := by
    have hiff {j : Nat} := (follows_saturate hf m).at_iff (j := j) hlen
    constructor
    · intro hj
      obtain ⟨i, hi, k, -, hk⟩ := hiff.1 hj
      exact ⟨i, hi, k, hk⟩
    · rintro ⟨i, hi, k, hk⟩
      have hclosed := closed_saturate hf hlen
        (Nat.le_trans List.count_le_length (hlen ▸ hm))
      exact hclosed.leaps (hiff.2 ⟨i, hi, 0, Nat.zero_le m, rfl⟩) hk

end Marks

/-! ## Searching -/

namespace Regex

open Marks

/-- **Searching follows the stretches that an expression matches.** -/
theorem follows_ends (t : Text) (r : Regex) : Follows (r.Spans t) (t.length + 1) (r.ends t) := by
  induction r with
  | empty => exact Follows.id _
  | set s => exact follows_step s t
  | look l => exact follows_restrict l t
  | cat r s ihr ihs => exact ihr.comp ihs
  | alt r s ihr ihs => exact ihr.join ihs
  | rep min max? r ih =>
    cases max? with
    | none =>
      refine ((follows_iterate ih min).comp (follows_saturate_all ih (Nat.le_refl _))).congr ?_
      intro i j
      constructor
      · rintro ⟨l, hmin, k, hk⟩
        exact ⟨min + k, Nat.le_add_right min k, by simp, leaps_add.2 ⟨l, hmin, hk⟩⟩
      · rintro ⟨k, hk, -, hleaps⟩
        obtain ⟨k, rfl⟩ := Nat.exists_eq_add_of_le hk
        obtain ⟨l, hmin, hk⟩ := leaps_add.1 hleaps
        exact ⟨l, hmin, k, hk⟩
    | some most =>
      refine ((follows_iterate ih min).comp (follows_saturate ih (most - min))).congr ?_
      intro i j
      constructor
      · rintro ⟨l, hmin, k, hk, hleaps⟩
        refine ⟨min + k, Nat.le_add_right min k, ?_, leaps_add.2 ⟨l, hmin, hleaps⟩⟩
        rintro _ ⟨⟩
        omega
      · rintro ⟨k, hk, hmax, hleaps⟩
        obtain ⟨k, rfl⟩ := Nat.exists_eq_add_of_le hk
        obtain ⟨l, hmin, hk⟩ := leaps_add.1 hleaps
        have := hmax most rfl
        exact ⟨l, hmin, k, by omega, hk⟩

/-- **An expression occurs in a text** if it matches some stretch of it. -/
theorem occursIn_iff {r : Regex} {t : Text} :
    r.occursIn t = true ↔ ∃ i ≤ t.length, ∃ j, r.Spans t i j := by
  have hmarked {marks : Marks} : marks.any id = true ↔ ∃ j, marks.At j := by
    simp [At, List.mem_iff_getElem?]
  rw [occursIn, hmarked]
  simp only [(r.follows_ends t).at_iff (length_everywhere t), at_everywhere]
  constructor
  · rintro ⟨j, i, hi, hspans⟩
    exact ⟨i, hi, j, hspans⟩
  · rintro ⟨i, hi, j, hspans⟩
    exact ⟨j, i, hi, hspans⟩

/-- What an expression matches in a text ends in the text. -/
theorem Spans.le_length {r : Regex} {t : Text} {i j : Nat} (h : r.Spans t i j)
    (hi : i ≤ t.length) : j ≤ t.length := by
  have hends := r.follows_ends t
  have hj := ((hends.at_iff (length_everywhere t)).2 ⟨i, at_everywhere.2 hi, h⟩).lt
  rw [hends.length_eq (length_everywhere t)] at hj
  exact Nat.le_of_lt_succ hj

/-- The expression between the anchors of a text. -/
def anchored (r : Regex) : Regex := cat (look .textStart) (cat r (look .textEnd))

/-- **An expression between anchors** occurs in a text if it matches the whole of it. -/
theorem occursIn_anchored_iff {r : Regex} {t : Text} :
    r.anchored.occursIn t = true ↔ r.Spans t 0 t.length := by
  have hstart {i : Nat} (hi : i ≤ t.length) : charBefore? t i = none ↔ i = 0 := by
    cases i with
    | zero => simp [charBefore?]
    | succ i => simpa [charBefore?] using Nat.lt_of_succ_le hi
  simp only [occursIn_iff, anchored, Spans, Look.holds, beq_iff_eq, List.getElem?_eq_none_iff]
  constructor
  · rintro ⟨i, hi, j, k, ⟨hbefore, rfl⟩, l, hspans, hbehind, rfl⟩
    obtain rfl := (hstart hi).1 hbefore
    obtain rfl : l = t.length := Nat.le_antisymm (hspans.le_length hi) hbehind
    exact hspans
  · intro h
    exact ⟨0, Nat.zero_le _, t.length, 0, ⟨rfl, rfl⟩, t.length, h, Nat.le_refl _, rfl⟩

end Regex

end MarkupOrder.Pattern
