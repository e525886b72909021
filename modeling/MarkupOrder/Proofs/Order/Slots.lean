import MarkupOrder.Order.Settings
import MarkupOrder.Proofs.Order.Arrangement
import Mathlib.Data.List.DropRight

/-!
# What stands in the slots of a tag

* `Text.sortsUpTo_iff`: the order of texts is the lexicographic order of their characters.
* `Arrangement.IsArranged`: what is asked of the order of names. `Arrangement.isArranged_iff` says
  that the names are arranged in one way only.
* `Arrangement.atLastPlace?`: the attribute at the place that is noted for a name, which
  `Arrangement.map_atLastPlace?` says is there.
* `OrderSettings.arrange_fills_slots`: the names in the slots of a tag, and the attributes there.
-/

namespace MarkupOrder.Text

theorem sortsUpTo_iff {t u : Text} :
    t.sortsUpTo u = true ↔ t = u ∨ List.Lex (fun c d : Char => c < d) t u := by
  induction t generalizing u with
  | nil => cases u <;> simp [sortsUpTo]
  | cons c t ih =>
    cases u with
    | nil => simp [sortsUpTo]
    | cons d u =>
      have hlt : c.toNat < d.toNat ↔ c < d := Iff.rfl
      simp only [sortsUpTo, Bool.or_eq_true, Bool.and_eq_true, decide_eq_true_eq, beq_iff_eq, ih,
        List.cons.injEq, List.cons_lex_cons_iff, hlt]
      by_cases hcd : c = d
      · subst hcd
        simp
      · simp [hcd]

theorem sortsUpTo_antisymm {t u : Text} (h : t.sortsUpTo u = true) (h' : u.sortsUpTo t = true) :
    t = u := by
  induction t generalizing u with
  | nil => cases u with
    | nil => rfl
    | cons d u => cases h'
  | cons c t ih =>
    cases u with
    | nil => cases h
    | cons d u =>
      simp only [sortsUpTo, Bool.or_eq_true, Bool.and_eq_true, decide_eq_true_eq,
        beq_iff_eq] at h h'
      rcases h with hlt | ⟨rfl, h⟩
      · rcases h' with hlt' | ⟨rfl, -⟩
        · exact absurd hlt' (Nat.lt_asymm hlt)
        · exact absurd hlt (Nat.lt_irrefl _)
      · rcases h' with hlt' | ⟨-, h'⟩
        · exact absurd hlt' (Nat.lt_irrefl _)
        · rw [ih h h']

end MarkupOrder.Text

namespace MarkupOrder.Arrangement

variable (rank : Text → Option Nat) {ns ms ls : List Text} {as : List Attribute} {n : Text}

/-! ## The order of names -/

/-- What is asked of the order of names: those with a rank are in front and by rank, those of one
rank stay as they stood, and those without one ascend by their characters. -/
structure IsArranged (ns ms : List Text) : Prop where
  perm : ms.Perm ns
  ranked_first : ms.Pairwise fun m n => rank m = none → rank n = none
  ranks_ascend : ms.Pairwise fun m n => ∀ i j, rank m = some i → rank n = some j → i ≤ j
  rank_stays : ∀ i, ms.filter (fun n => rank n == some i) = ns.filter fun n => rank n == some i
  unranked_ascend : ms.Pairwise fun m n => rank m = none → rank n = none →
    m = n ∨ List.Lex (fun c d : Char => c < d) m n

/-- Whether a name may stand before another one. -/
def mayPrecede (m n : Text) : Bool :=
  match rank m, rank n with
  | some i, some j => decide (i ≤ j)
  | some _, none => true
  | none, some _ => false
  | none, none => m.sortsUpTo n

variable {rank}

theorem IsArranged.pairwise (h : IsArranged rank ns ms) :
    ms.Pairwise fun m n => mayPrecede rank m n = true := by
  refine ((h.ranked_first.and h.ranks_ascend).and h.unranked_ascend).imp ?_
  rintro m n ⟨⟨hfirst, hranks⟩, hunranked⟩
  unfold mayPrecede
  cases hm : rank m with
  | some i => cases hn : rank n with
    | some j => exact decide_eq_true (hranks i j hm hn)
    | none => rfl
  | none => cases hn : rank n with
    | some j => rw [hfirst hm] at hn; cases hn
    | none => exact Text.sortsUpTo_iff.2 (hunranked hm hn)

variable (rank) in
/-- The names that may stand on either side of `n` are those of its rank; without a rank, it is
only `n` itself. -/
theorem mayPrecede_and_mayPrecede (n m : Text) : (mayPrecede rank n m && mayPrecede rank m n) =
    if (rank n).isSome then rank m == rank n else m == n := by
  unfold mayPrecede
  cases hn : rank n with
  | some i => cases hm : rank m with
    | some j => rw [Bool.eq_iff_iff]; simp; omega
    | none => simp
  | none => cases hm : rank m with
    | some j =>
      have hne : m ≠ n := by
        rintro rfl
        rw [hm] at hn
        cases hn
      simpa using hne
    | none =>
      rw [Bool.eq_iff_iff]
      simp only [Option.isSome_none, Bool.false_eq_true, if_false, Bool.and_eq_true, beq_iff_eq]
      refine ⟨fun h => Text.sortsUpTo_antisymm h.2 h.1, ?_⟩
      rintro rfl
      simpa using Text.sortsUpTo_total m m

theorem IsArranged.filter_eq (h : IsArranged rank ns ms) (n : Text) :
    (ms.filter fun m => mayPrecede rank n m && mayPrecede rank m n) =
      ns.filter fun m => mayPrecede rank n m && mayPrecede rank m n := by
  simp only [mayPrecede_and_mayPrecede]
  cases hn : rank n with
  | some i => simpa using h.rank_stays i
  | none => simp [List.filter_beq, h.perm.count_eq]

/-- Two lists in order are the same if elements that may stand on either side of one another
come in the same order in both. -/
theorem eq_of_pairwise_of_filter_eq {α : Type} {le : α → α → Bool} {l l' : List α}
    (hrefl : ∀ a, le a a = true) (hl : l.Pairwise fun a b => le a b = true)
    (hl' : l'.Pairwise fun a b => le a b = true)
    (h : ∀ a, (l.filter fun b => le a b && le b a) = l'.filter fun b => le a b && le b a) :
    l = l' := by
  induction l generalizing l' with
  | nil => cases l' with
    | nil => rfl
    | cons b l' => simpa [hrefl] using h b
  | cons a l ih => cases l' with
    | nil => simpa [hrefl] using h a
    | cons b l' =>
      rw [List.pairwise_cons] at hl hl'
      -- each head is found in the other list, so that either may stand before the other one
      have hab : le a b = true := by
        have hb : b ∈ (a :: l).filter fun c => le b c && le c b := by simp [h b, hrefl]
        rcases List.mem_cons.1 (List.mem_of_mem_filter hb) with rfl | hb
        · exact hrefl b
        · exact hl.1 b hb
      have hba : le b a = true := by
        have ha : a ∈ (b :: l').filter fun c => le a c && le c a := by simp [← h a, hrefl]
        rcases List.mem_cons.1 (List.mem_of_mem_filter ha) with rfl | ha
        · exact hrefl a
        · exact hl'.1 a ha
      obtain rfl : a = b := by
        have heads := h a
        rw [List.filter_cons_of_pos (by simp [hrefl]),
          List.filter_cons_of_pos (by simp [hab, hba])] at heads
        exact (List.cons.inj heads).1
      rw [ih hl.2 hl'.2]
      intro c
      have htails := h c
      rw [List.filter_cons, List.filter_cons] at htails
      split at htails
      · exact (List.cons.inj htails).2
      · exact htails

theorem IsArranged.eq (hms : IsArranged rank ns ms) (hls : IsArranged rank ns ls) : ms = ls := by
  have hrefl (n : Text) : mayPrecede rank n n = true := by
    have hself := mayPrecede_and_mayPrecede rank n n
    simp only [Bool.and_self, beq_self_eq_true, ite_self] at hself
    exact hself
  refine eq_of_pairwise_of_filter_eq hrefl hms.pairwise hls.pairwise fun n => ?_
  rw [hms.filter_eq, hls.filter_eq]

variable (rank ns) in
/-- Names of one rank stay as they stood, since they may be left in their order. -/
theorem filter_ranked (i : Nat) :
    ((ns.filter fun n => (rank n).isSome).mergeSort (ranksUpTo rank)).filter
      (fun n => rank n == some i) = ns.filter fun n => rank n == some i := by
  have hinOrder : (ns.filter fun n => rank n == some i).Pairwise
      fun m n => ranksUpTo rank m n = true := by
    refine List.pairwise_of_forall_mem_list fun m hm n hn => ?_
    simp only [List.mem_filter, beq_iff_eq] at hm hn
    simp [ranksUpTo, hm.2, hn.2]
  have hfilter : ((ns.filter fun n => (rank n).isSome).filter fun n => rank n == some i) =
      ns.filter fun n => rank n == some i := by
    rw [List.filter_filter]
    refine List.filter_congr fun n _ => ?_
    cases rank n <;> simp
  have hsub := (List.sublist_mergeSort (ranksUpTo_trans rank) (ranksUpTo_total rank) hinOrder
    (hfilter ▸ List.filter_sublist)).filter fun n => rank n == some i
  rw [List.filter_filter] at hsub
  simp only [Bool.and_self] at hsub
  refine (hsub.eq_of_length ?_).symm
  rw [((List.mergeSort_perm _ _).filter _).length_eq, hfilter]

variable (rank ns) in
theorem isArranged_names : IsArranged rank ns (names rank ns) := by
  have hranked : ∀ n ∈ (ns.filter fun n => (rank n).isSome).mergeSort (ranksUpTo rank),
      rank n ≠ none := by
    intro n hn
    exact Option.isSome_iff_ne_none.1 (List.mem_filter.1 (List.mem_mergeSort.1 hn)).2
  have hunranked : ∀ n ∈ (ns.filter fun n => (rank n).isNone).mergeSort Text.sortsUpTo,
      rank n = none := by
    intro n hn
    exact Option.isNone_iff_eq_none.1 (List.mem_filter.1 (List.mem_mergeSort.1 hn)).2
  have hsorted := pairwise_ranked rank ns
  have hsorted' := pairwise_unranked rank ns
  refine ⟨names_perm rank ns, ?_, ?_, fun i => ?_, ?_⟩
  · refine List.pairwise_append.2 ⟨?_, ?_, ?_⟩
    · exact List.pairwise_of_forall_mem_list fun m hm n _ hnone => absurd hnone (hranked m hm)
    · exact List.pairwise_of_forall_mem_list fun m _ n hn _ => hunranked n hn
    · exact fun m _ n hn _ => hunranked n hn
  · refine List.pairwise_append.2 ⟨hsorted.imp ?_, ?_, ?_⟩
    · intro m n hmn i j hi hj
      simpa [ranksUpTo, hi, hj] using hmn
    · refine List.pairwise_of_forall_mem_list fun m hm n _ i j hi => ?_
      simp [hunranked m hm] at hi
    · intro m _ n hn i j _ hj
      simp [hunranked n hn] at hj
  · have hnone : ∀ n ∈ (ns.filter fun n => (rank n).isNone).mergeSort Text.sortsUpTo,
        ¬ (rank n == some i) = true := by
      intro n hn
      simp [hunranked n hn]
    rw [names, List.filter_append, filter_ranked, List.filter_eq_nil_iff.2 hnone, List.append_nil]
  · refine List.pairwise_append.2 ⟨?_, hsorted'.imp ?_, ?_⟩
    · exact List.pairwise_of_forall_mem_list fun m hm n _ hnone => absurd hnone (hranked m hm)
    · exact fun h _ _ => Text.sortsUpTo_iff.1 h
    · exact fun m hm n _ hnone => absurd hnone (hranked m hm)

/-- There is one way to arrange names. -/
theorem isArranged_iff : IsArranged rank ns ms ↔ ms = names rank ns := by
  refine ⟨fun h => h.eq (isArranged_names rank ns), ?_⟩
  rintro rfl
  exact isArranged_names rank ns

/-! ## The attributes in the slots -/

/-- The place of the last attribute of a name, as it is noted from the front: an attribute takes
over the note of its name. -/
def lastPlaces (as : List Attribute) : Text → Option Nat :=
  as.zipIdx.foldl (fun places x => fun n => if n = x.1.name then some x.2 else places n)
    fun _ => none

/-- The attribute at the place that is noted for a name. There might be no place, or nothing at
it. -/
def atLastPlace? (as : List Attribute) (n : Text) : Option Attribute := do
  as[← lastPlaces as n]?

theorem lastPlaces_concat (as : List Attribute) (a : Attribute) (n : Text) :
    lastPlaces (as ++ [a]) n = if n = a.name then some as.length else lastPlaces as n := by
  simp [lastPlaces, List.zipIdx_append]

theorem lastNamed?_concat (as : List Attribute) (a : Attribute) (n : Text) :
    lastNamed? (as ++ [a]) n = if n = a.name then some a else lastNamed? as n := by
  rw [lastNamed?, List.reverse_append, List.reverse_singleton, List.singleton_append,
    List.find?_cons]
  by_cases hn : n = a.name
  · simp [hn]
  · have hne : (a.name == n) = false := by simpa using Ne.symm hn
    rw [hne, if_neg hn, lastNamed?]

/-- A place that is noted is that of an attribute, the last one of the name. -/
theorem atLastPlace?_eq (as : List Attribute) (n : Text) :
    atLastPlace? as n = lastNamed? as n ∧ ∀ i, lastPlaces as n = some i → i < as.length := by
  induction as using List.reverseRecOn with
  | nil => exact ⟨rfl, fun i h => by cases h⟩
  | append_singleton as a ih =>
    obtain ⟨ih, hlt⟩ := ih
    rw [lastNamed?_concat, List.length_append, List.length_singleton, ← ih]
    unfold atLastPlace?
    rw [lastPlaces_concat]
    by_cases hn : n = a.name
    · simp [hn]
    · rw [if_neg hn, if_neg hn]
      refine ⟨?_, fun i hi => Nat.lt_succ_of_lt (hlt i hi)⟩
      cases hplace : lastPlaces as n with
      | none => rfl
      | some i => exact List.getElem?_append_left (hlt i hplace)

variable (rank) in
/-- No name is without a place, and no place without an attribute. -/
theorem map_atLastPlace? (as : List Attribute) :
    (names rank (as.map (·.name))).map (atLastPlace? as) = (attributes rank as).map some := by
  have hlast : atLastPlace? as = lastNamed? as := funext fun n => (atLastPlace?_eq as n).1
  rw [hlast, attributes, List.map_filterMap_some_eq_filter_map_isSome, List.filter_eq_self.2]
  intro found hfound
  obtain ⟨n, hn, rfl⟩ := List.mem_map.1 hfound
  exact lastNamed?_isSome ((mem_names ..).1 hn)

theorem exists_of_mem_attributes {a : Attribute} (h : a ∈ attributes rank as) :
    ∃ before behind, as = before ++ a :: behind ∧ ∀ b ∈ behind, b.name ≠ a.name := by
  obtain ⟨n, -, hn⟩ := List.mem_filterMap.1 h
  obtain ⟨hname, behind, before, hsplit, hbehind⟩ := List.find?_eq_some_iff_append.1 hn
  obtain rfl : a.name = n := by simpa using hname
  refine ⟨before.reverse, behind.reverse, ?_, ?_⟩
  · rw [← List.reverse_reverse as, hsplit]
    simp
  · intro b hb
    simpa using hbehind b (List.mem_reverse.1 hb)

end MarkupOrder.Arrangement

namespace MarkupOrder.OrderSettings

open Arrangement

/-- **What arranging puts into the slots of a tag.** Every name is found, and there are as many
attributes as before. Their names are the arranged names: those that a pattern matches in front, by
pattern and otherwise as they stood, then the rest in the order of their characters, and there is no
other way to arrange them so. Each slot holds the last attribute of its name, and arranging again
changes nothing. -/
theorem arrange_fills_slots (s : OrderSettings) (as : List Attribute) :
    (s.arrangeNames (as.map (·.name))).map (atLastPlace? as) = (s.arrange as).map some ∧
      (s.arrange as).length = as.length ∧
      (s.arrange as).map (·.name) = s.arrangeNames (as.map (·.name)) ∧
      (∀ ms, IsArranged s.rank (as.map (·.name)) ms ↔ ms = s.arrangeNames (as.map (·.name))) ∧
      (∀ a ∈ s.arrange as,
        ∃ before behind, as = before ++ a :: behind ∧ ∀ b ∈ behind, b.name ≠ a.name) ∧
      s.arrange (s.arrange as) = s.arrange as :=
  ⟨map_atLastPlace? s.rank as, length_attributes s.rank as, names_attributes s.rank as,
    fun _ => isArranged_iff, fun _ => exists_of_mem_attributes, attributes_attributes s.rank as⟩

end MarkupOrder.OrderSettings
