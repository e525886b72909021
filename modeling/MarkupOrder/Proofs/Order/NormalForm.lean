import MarkupOrder.Proofs.Order.Slots
import Mathlib

/-!
# What arranging forgets

* `Arrangement.names_eq_names_iff`: the arranged names remember which names there are, and in which
  order those of one rank stood.
* `Arrangement.attributes_perm`: where no name occurs twice, no attribute is lost.
* `OrderSettings.arrange_eq_arrange_iff`: the same of attributes with distinct names.
-/

namespace MarkupOrder.Arrangement

variable {rank : Text → Option Nat} {ns ms : List Text} {as bs : List Attribute}

theorem names_eq_names_iff : names rank ns = names rank ms ↔ ms.Perm ns ∧
    ∀ r, (ns.filter fun n => rank n == some r) = ms.filter fun n => rank n == some r := by
  have hns := isArranged_names rank ns
  have hms := isArranged_names rank ms
  constructor
  · intro h
    rw [← h] at hms
    exact ⟨hms.perm.symm.trans hns.perm, fun r => (hns.rank_stays r).symm.trans (hms.rank_stays r)⟩
  · rintro ⟨hperm, hranks⟩
    refine isArranged_iff.1 ?_
    exact { hns with
      perm := hns.perm.trans hperm.symm
      rank_stays := fun r => (hns.rank_stays r).trans (hranks r) }

/-! ## Distinct names -/

/-- An attribute is the last one of its name if it is the only one. -/
theorem lastNamed?_eq_some_iff {a : Attribute} {n : Text} (h : (as.map (·.name)).Nodup) :
    lastNamed? as n = some a ↔ a ∈ as ∧ a.name = n := by
  refine ⟨name_of_lastNamed?, ?_⟩
  rintro ⟨ha, rfl⟩
  obtain ⟨b, hb⟩ := Option.isSome_iff_exists.1 (lastNamed?_isSome (List.mem_map_of_mem ha))
  obtain ⟨hmem, hname⟩ := name_of_lastNamed? hb
  rw [hb, List.inj_on_of_nodup_map h hmem ha hname]

variable (rank) in
theorem attributes_perm (h : (as.map (·.name)).Nodup) : (attributes rank as).Perm as := by
  have hnames : ((attributes rank as).map (·.name)).Nodup := by
    rw [names_attributes]
    exact (names_perm rank _).nodup_iff.2 h
  refine (List.perm_ext_iff_of_nodup (hnames.of_map _) (h.of_map _)).2 fun a => ?_
  refine ⟨mem_of_mem_attributes rank, fun ha => List.mem_filterMap.2 ⟨a.name, ?_, ?_⟩⟩
  · exact (mem_names ..).2 (List.mem_map_of_mem ha)
  · exact (lastNamed?_eq_some_iff h).2 ⟨ha, rfl⟩

theorem lastNamed?_eq_of_perm (ha : (as.map (·.name)).Nodup) (hperm : bs.Perm as) :
    lastNamed? as = lastNamed? bs := by
  have hb : (bs.map (·.name)).Nodup := (hperm.map _).nodup_iff.2 ha
  funext n
  refine Option.ext fun a => ?_
  rw [lastNamed?_eq_some_iff ha, lastNamed?_eq_some_iff hb, hperm.mem_iff]

theorem attributes_eq_attributes_iff (ha : (as.map (·.name)).Nodup)
    (hb : (bs.map (·.name)).Nodup) : attributes rank as = attributes rank bs ↔ bs.Perm as ∧
      ∀ r, ((as.map (·.name)).filter fun n => rank n == some r) =
        (bs.map (·.name)).filter fun n => rank n == some r := by
  constructor
  · intro h
    have hnames := congrArg (List.map (·.name)) h
    rw [names_attributes, names_attributes] at hnames
    refine ⟨?_, (names_eq_names_iff.1 hnames).2⟩
    exact (attributes_perm rank hb).symm.trans (h ▸ attributes_perm rank ha)
  · rintro ⟨hperm, hranks⟩
    rw [attributes, attributes, names_eq_names_iff.2 ⟨hperm.map _, hranks⟩,
      lastNamed?_eq_of_perm ha hperm]

end MarkupOrder.Arrangement

namespace MarkupOrder.OrderSettings

open Arrangement

theorem lt_of_rank_eq_some {s : OrderSettings} {n : Text} {r : Nat} (h : s.rank n = some r) :
    r < s.patterns.length := by
  obtain ⟨hlt, -⟩ := List.findIdx?_eq_some_iff_getElem.1 h
  exact hlt

/-- **Arranging is a normal form.** Where no name occurs twice, the arranged attributes are the same
if and only if the attributes are, and those that are matched by one pattern first come in the same
order. Without patterns the order does not matter. -/
theorem arrange_eq_arrange_iff (s : OrderSettings) {as bs : List Attribute}
    (ha : (as.map (·.name)).Nodup) (hb : (bs.map (·.name)).Nodup) :
    (s.arrange as = s.arrange bs ↔ bs.Perm as ∧ ∀ r < s.patterns.length,
      ((as.map (·.name)).filter fun n => s.rank n == some r) =
        (bs.map (·.name)).filter fun n => s.rank n == some r) ∧
    (s.patterns = [] → (s.arrange as = s.arrange bs ↔ bs.Perm as)) := by
  have hiff : s.arrange as = s.arrange bs ↔ bs.Perm as ∧ ∀ r < s.patterns.length,
      ((as.map (·.name)).filter fun n => s.rank n == some r) =
        (bs.map (·.name)).filter fun n => s.rank n == some r := by
    refine (attributes_eq_attributes_iff ha hb).trans (and_congr_right fun _ => ?_)
    refine ⟨fun h r _ => h r, fun h r => ?_⟩
    by_cases hr : r < s.patterns.length
    · exact h r hr
    · -- No name has this rank.
      have hnone (n : Text) : (s.rank n == some r) = false :=
        beq_eq_false_iff_ne.2 fun hn => hr (lt_of_rank_eq_some hn)
      simp only [hnone, List.filter_false]
  refine ⟨hiff, fun hnil => ?_⟩
  rw [hiff, hnil]
  exact and_iff_left fun r hr => absurd hr (Nat.not_lt_zero r)

/-- By the pattern `x|y`, the tag `y b x a` is arranged like `a y x b`, and `x y a b` is not. -/
theorem arrange_eq_arrange_iff_two :
    let s : OrderSettings := ⟨(OrderPattern.ofSource? "x|y".toList).toList⟩
    let a (n : Char) : Attribute := ⟨[n], .plain, none⟩
    let as := [a 'y', a 'b', a 'x', a 'a']
    let bs := [a 'a', a 'y', a 'x', a 'b']
    let cs := [a 'x', a 'y', a 'a', a 'b']
    s.arrange as = s.arrange bs ∧ s.arrange as ≠ s.arrange cs := by
  intro s a as bs cs
  have ha : (as.map (·.name)).Nodup := by decide
  have hb : (bs.map (·.name)).Nodup := by decide
  have hc : (cs.map (·.name)).Nodup := by decide
  have hlen : s.patterns.length = 1 := by cbv
  constructor
  · refine (arrange_eq_arrange_iff s ha hb).1.2 ⟨by decide, fun r hr => ?_⟩
    obtain rfl : r = 0 := by omega
    cbv
  · intro h
    have hranks := ((arrange_eq_arrange_iff s ha hc).1.1 h).2 0 (by omega)
    have has : ((as.map (·.name)).filter fun n => s.rank n == some 0) = [['y'], ['x']] := by cbv
    have hcs : ((cs.map (·.name)).filter fun n => s.rank n == some 0) = [['x'], ['y']] := by cbv
    rw [has, hcs] at hranks
    exact absurd hranks (by decide)

end MarkupOrder.OrderSettings
