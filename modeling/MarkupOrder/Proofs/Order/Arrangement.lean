import MarkupOrder.Order.Arrangement
import Mathlib.Data.List.Basic

/-!
# Arranged attributes

* `Text.sortsUpTo_trans`, `Text.sortsUpTo_total`: the order of texts.
* `Arrangement.names_perm`, `Arrangement.names_names`: the arranged names are the names, in an order
  that arranging does not change.
* `Arrangement.names_attributes`, `Arrangement.mem_of_mem_attributes`: the arranged attributes have
  the arranged names, and each is one of the attributes.
* `Arrangement.attributes_attributes`: arranging twice is arranging once.
-/

namespace MarkupOrder.Text

theorem sortsUpTo_trans (t u v : Text) (htu : t.sortsUpTo u = true) (huv : u.sortsUpTo v = true) :
    t.sortsUpTo v = true := by
  induction t generalizing u v with
  | nil => rfl
  | cons c t ih =>
    cases u with
    | nil => cases htu
    | cons d u =>
      cases v with
      | nil => cases huv
      | cons e v =>
        simp only [sortsUpTo, Bool.or_eq_true, Bool.and_eq_true, decide_eq_true_eq, beq_iff_eq] at *
        rcases htu with hcd | ⟨rfl, htu⟩
        · rcases huv with hde | ⟨rfl, -⟩
          · exact .inl (Nat.lt_trans hcd hde)
          · exact .inl hcd
        · rcases huv with hde | ⟨rfl, huv⟩
          · exact .inl hde
          · exact .inr ⟨rfl, ih u v htu huv⟩

theorem sortsUpTo_total (t u : Text) : (t.sortsUpTo u || u.sortsUpTo t) = true := by
  induction t generalizing u with
  | nil => rfl
  | cons c t ih =>
    cases u with
    | nil => rfl
    | cons d u =>
      have ih := ih u
      simp only [sortsUpTo, Bool.or_eq_true, Bool.and_eq_true, decide_eq_true_eq, beq_iff_eq] at *
      rcases Nat.lt_trichotomy c.toNat d.toNat with h | h | h
      · exact .inl (.inl h)
      · obtain rfl := Char.toNat_inj.1 h
        rcases ih with ih | ih
        · exact .inl (.inr ⟨rfl, ih⟩)
        · exact .inr (.inr ⟨rfl, ih⟩)
      · exact .inr (.inl h)

end MarkupOrder.Text

namespace MarkupOrder.Arrangement

variable (rank : Text → Option Nat) (ns : List Text) (as : List Attribute)

/-! ## Names -/

theorem names_perm : (names rank ns).Perm ns := by
  have hsplit := List.filter_append_perm (fun n => (rank n).isSome) ns
  have hnone : (ns.filter fun n => !(rank n).isSome) = ns.filter fun n => (rank n).isNone := by
    simp
  rw [hnone] at hsplit
  exact ((List.mergeSort_perm _ _).append (List.mergeSort_perm _ _)).trans hsplit

@[simp] theorem mem_names {n : Text} : n ∈ names rank ns ↔ n ∈ ns := (names_perm rank ns).mem_iff

theorem ranksUpTo_trans (l m n : Text) (hlm : ranksUpTo rank l m = true)
    (hmn : ranksUpTo rank m n = true) : ranksUpTo rank l n = true := by
  simp only [ranksUpTo, decide_eq_true_eq] at *
  omega

theorem ranksUpTo_total (m n : Text) : (ranksUpTo rank m n || ranksUpTo rank n m) = true := by
  simp only [ranksUpTo, Bool.or_eq_true, decide_eq_true_eq]
  omega

theorem pairwise_ranked :
    ((ns.filter fun n => (rank n).isSome).mergeSort (ranksUpTo rank)).Pairwise
      fun m n => ranksUpTo rank m n = true :=
  List.pairwise_mergeSort (ranksUpTo_trans rank) (ranksUpTo_total rank) _

theorem pairwise_unranked :
    ((ns.filter fun n => (rank n).isNone).mergeSort Text.sortsUpTo).Pairwise
      fun m n => m.sortsUpTo n = true :=
  List.pairwise_mergeSort Text.sortsUpTo_trans Text.sortsUpTo_total _

/-- Names that are arranged stay so: the ranked ones are in front, and both parts are in order. -/
theorem names_names : names rank (names rank ns) = names rank ns := by
  have hranked := pairwise_ranked rank ns
  have hunranked := pairwise_unranked rank ns
  have hmem : ∀ n ∈ (ns.filter fun n => (rank n).isSome).mergeSort (ranksUpTo rank),
      (rank n).isSome = true := by
    intro n hn
    exact (List.mem_filter.1 (List.mem_mergeSort.1 hn)).2
  have hmem' : ∀ n ∈ (ns.filter fun n => (rank n).isNone).mergeSort Text.sortsUpTo,
      (rank n).isNone = true := by
    intro n hn
    exact (List.mem_filter.1 (List.mem_mergeSort.1 hn)).2
  unfold names
  generalize (ns.filter fun n => (rank n).isSome).mergeSort (ranksUpTo rank) = ranked at *
  generalize (ns.filter fun n => (rank n).isNone).mergeSort Text.sortsUpTo = unranked at *
  have hnone : ∀ n ∈ ranked, ¬ (rank n).isNone = true := by
    intro n hn
    rw [← Option.not_isSome, hmem n hn]
    decide
  have hsome : ∀ n ∈ unranked, ¬ (rank n).isSome = true := by
    intro n hn
    rw [← Option.not_isNone, hmem' n hn]
    decide
  rw [List.filter_append, List.filter_append, List.filter_eq_self.2 hmem,
    List.filter_eq_nil_iff.2 hsome, List.filter_eq_nil_iff.2 hnone, List.filter_eq_self.2 hmem',
    List.append_nil, List.nil_append, List.mergeSort_of_pairwise hranked,
    List.mergeSort_of_pairwise hunranked]

/-! ## Attributes -/

variable {as} in
theorem lastNamed?_isSome {n : Text} (h : n ∈ as.map (·.name)) :
    (lastNamed? as n).isSome = true := by
  obtain ⟨a, ha, rfl⟩ := List.mem_map.1 h
  exact List.find?_isSome.2 ⟨a, List.mem_reverse.2 ha, by simp⟩

variable {as} in
theorem name_of_lastNamed? {n : Text} {a : Attribute} (h : lastNamed? as n = some a) :
    a ∈ as ∧ a.name = n :=
  ⟨List.mem_reverse.1 (List.mem_of_find?_eq_some h), by simpa using List.find?_some h⟩

theorem names_attributes : (attributes rank as).map (·.name) = names rank (as.map (·.name)) := by
  have hnames : ∀ n ∈ names rank (as.map (·.name)),
      (lastNamed? as n).map (·.name) = some n := by
    intro n hn
    obtain ⟨a, ha⟩ := Option.isSome_iff_exists.1 (lastNamed?_isSome ((mem_names ..).1 hn))
    rw [ha, Option.map_some, (name_of_lastNamed? ha).2]
  rw [attributes, List.map_filterMap, List.filterMap_congr hnames, List.filterMap_some]

@[simp] theorem length_attributes : (attributes rank as).length = as.length := by
  have hlen := congrArg List.length (names_attributes rank as)
  rw [List.length_map, (names_perm rank _).length_eq, List.length_map] at hlen
  exact hlen

variable {as} in
theorem mem_of_mem_attributes {a : Attribute} (h : a ∈ attributes rank as) : a ∈ as := by
  obtain ⟨n, -, hn⟩ := List.mem_filterMap.1 h
  exact (name_of_lastNamed? hn).1

/-- The last attribute of a name is the same before and after arranging. -/
theorem lastNamed?_attributes {n : Text} (h : n ∈ as.map (·.name)) :
    lastNamed? (attributes rank as) n = lastNamed? as n := by
  have hn : n ∈ (attributes rank as).map (·.name) := by rwa [names_attributes, mem_names]
  obtain ⟨a, ha⟩ := Option.isSome_iff_exists.1 (lastNamed?_isSome hn)
  obtain ⟨hmem, hname⟩ := name_of_lastNamed? ha
  obtain ⟨m, -, hm⟩ := List.mem_filterMap.1 hmem
  have hmn : m = n := (name_of_lastNamed? hm).2.symm.trans hname
  rw [ha, ← hm, hmn]

theorem attributes_attributes : attributes rank (attributes rank as) = attributes rank as := by
  rw [attributes, names_attributes, names_names, attributes]
  apply List.filterMap_congr
  intro n hn
  exact lastNamed?_attributes rank as ((mem_names ..).1 hn)

end MarkupOrder.Arrangement
