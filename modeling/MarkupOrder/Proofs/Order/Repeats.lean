import MarkupOrder.Order.Arrangement
import Mathlib.Data.List.Basic

/-!
# Repeated names

* `Occurrence`, `Arrangement.occurrences`: the names of a list, each with those before it.
* `Arrangement.repeats_eq`: the repetitions are the occurrences of names that stand before.
* `Arrangement.mem_repeats`: the names that are repeated are those that occur at least twice.
* `Arrangement.pairwise_eraseDups`: without repetitions a list keeps the order of first occurrences,
  and `Arrangement.eraseDups_map`: so do the texts that it is mapped to, one for each.
-/

namespace MarkupOrder

/-- A name where it stands in a list, and the names before it. -/
structure Occurrence where
  before : List Text
  name : Text
deriving DecidableEq, Repr

/-- Whether a name stands before an occurrence of it. -/
def Occurrence.Repeats (o : Occurrence) (n : Text) : Prop := o.name = n ∧ n ∈ o.before

namespace Arrangement

/-- The names of a list, each with those before it. -/
def occurrences (ns : List Text) : List Occurrence := ns.mapIdx fun i n => ⟨ns.take i, n⟩

variable {n : Text} {ns seen : List Text}

theorem repeatsAfter_eq {before : List Text} (h : ∀ n, n ∈ seen ↔ n ∈ before) :
    repeatsAfter seen ns =
      ((ns.mapIdx fun i n => (⟨before ++ ns.take i, n⟩ : Occurrence)).filter
        fun o => o.before.contains o.name).map (·.name) := by
  induction ns generalizing seen before with
  | nil => rfl
  | cons n ns ih =>
    have hnext : ∀ m, m ∈ n :: seen ↔ m ∈ before ++ [n] := by
      intro m
      rw [List.mem_cons, List.mem_append, List.mem_singleton, h, or_comm]
    have htail (i : Nat) : before ++ (n :: ns).take (i + 1) = before ++ [n] ++ ns.take i := by simp
    rw [repeatsAfter, List.mapIdx_cons]
    simp only [htail, List.take_zero, List.append_nil]
    by_cases hn : n ∈ seen
    · -- a name that was seen before changes nothing of what has been seen
      have hsame : ∀ m, m ∈ seen ↔ m ∈ before ++ [n] := by
        intro m
        rw [← hnext, List.mem_cons, or_iff_right_of_imp]
        rintro rfl
        exact hn
      rw [if_pos hn, ih hsame, List.filter_cons_of_pos (by simpa using (h n).1 hn), List.map_cons]
    · rw [if_neg hn, ih hnext, List.filter_cons_of_neg (by simpa using fun hm => hn ((h n).2 hm))]

/-- The repetitions in a list are the occurrences of names that stand before. -/
theorem repeats_eq (ns : List Text) :
    repeats ns = ((occurrences ns).filter fun o => o.before.contains o.name).map (·.name) := by
  have hnone : ∀ n : Text, n ∈ ([] : List Text) ↔ n ∈ ([] : List Text) := fun _ => Iff.rfl
  simpa [repeats, occurrences] using repeatsAfter_eq hnone

theorem mem_repeatsAfter :
    n ∈ repeatsAfter seen ns ↔ (if n ∈ seen then 1 else 2) ≤ ns.count n := by
  induction ns generalizing seen with
  | nil => by_cases h : n ∈ seen <;> simp [repeatsAfter, h]
  | cons m ns ih =>
    rw [repeatsAfter]
    by_cases hm : m ∈ seen
    · rw [if_pos hm, List.mem_cons, ih]
      by_cases hmn : m = n
      · subst hmn
        simp [hm]
      · rw [List.count_cons_of_ne hmn]
        simp [Ne.symm hmn]
    · rw [if_neg hm, ih]
      by_cases hmn : m = n
      · subst hmn
        simp [hm]
      · rw [List.count_cons_of_ne hmn]
        simp [Ne.symm hmn]

/-- The names that are repeated are those that occur at least twice. -/
theorem mem_repeats : n ∈ repeats ns ↔ 2 ≤ ns.count n := by
  simp [repeats, mem_repeatsAfter]

/-- Where the elements that pass a test are cut at one of them, so is the whole list. -/
theorem exists_of_map_filter_eq {α β : Type} {p : α → Bool} {f : α → β} {l : List α}
    {before behind : List β} {b : β} (h : (l.filter p).map f = before ++ b :: behind) :
    ∃ pre a post, l = pre ++ a :: post ∧ p a = true ∧ f a = b ∧ (pre.filter p).map f = before := by
  obtain ⟨l₁, l₂, hl, rfl, h₂⟩ := List.map_eq_append_iff.1 h
  obtain ⟨a, l₃, rfl, rfl, -⟩ := List.map_eq_cons_iff.1 h₂
  obtain ⟨pre, rest, rfl, rfl, hrest⟩ := List.filter_eq_append_iff.1 hl
  obtain ⟨skipped, post, rfl, hskipped, ha, -⟩ := List.filter_eq_cons_iff.1 hrest
  refine ⟨pre ++ skipped, a, post, by simp, ha, rfl, ?_⟩
  rw [List.filter_append, List.filter_eq_nil_iff.2 hskipped, List.append_nil]

/-- Without repetitions a list keeps the order of first occurrences. -/
theorem pairwise_eraseDups (l : List Text) :
    l.eraseDups.Pairwise fun a b =>
      a ≠ b ∧ ∃ before behind, l = before ++ a :: behind ∧ b ∉ before := by
  match l with
  | [] => exact .nil
  | a :: l =>
    have hshorter := List.length_filter_le (fun b => !b == a) l
    have ih := pairwise_eraseDups (l.filter fun b => !b == a)
    rw [List.eraseDups_cons, List.pairwise_cons]
    constructor
    · intro b hb
      have hne : b ≠ a := by simpa using (List.mem_filter.1 (List.mem_eraseDups.1 hb)).2
      exact ⟨hne.symm, [], l, rfl, List.not_mem_nil⟩
    · refine ih.imp_of_mem ?_
      rintro b c hb hc ⟨hne, before, behind, hl, hbefore⟩
      obtain ⟨-, hca⟩ := List.mem_filter.1 (List.mem_eraseDups.1 hc)
      rw [← List.map_id (List.filter _ l)] at hl
      obtain ⟨pre, _, post, rfl, -, rfl, hpre⟩ := exists_of_map_filter_eq hl
      refine ⟨hne, a :: pre, post, rfl, ?_⟩
      rw [List.mem_cons, not_or]
      refine ⟨by simpa using hca, fun hmem => hbefore ?_⟩
      rw [← hpre, List.map_id]
      exact List.mem_filter.2 ⟨hmem, hca⟩
termination_by l.length
decreasing_by exact Nat.lt_succ_of_le hshorter

/-- Texts that differ are sent to texts that differ, so the repetitions are the same. -/
theorem eraseDups_map {f : Text → Text} (hf : Function.Injective f) (l : List Text) :
    (l.map f).eraseDups = l.eraseDups.map f := by
  match l with
  | [] => rfl
  | a :: l =>
    have hshorter := List.length_filter_le (fun b => !b == a) l
    have ih := eraseDups_map hf (l.filter fun b => !b == a)
    have htest : ((fun b => !b == f a) ∘ f) = fun b => !b == a := by
      funext b
      simp [hf.eq_iff, Bool.beq_eq_decide_eq]
    rw [List.map_cons, List.eraseDups_cons, List.filter_map, htest, ih, List.eraseDups_cons,
      List.map_cons]
termination_by l.length
decreasing_by exact Nat.lt_succ_of_le hshorter

end Arrangement

end MarkupOrder
