import MarkupOrder.Proofs.Document.Lossless
import MarkupOrder.Proofs.Order.Repeats
import MarkupOrder.Proofs.Report.Registry

/-!
# Warnings of repeated names

* `Document.reorderEach`: documents that are reordered one after another, on one registry.
* `Document.met`: the names of attributes in the order in which they are met.
* `Document.warns_once_of_repeated`: what is printed are the names that are repeated within a tag, each
  once and in the order of their first repetition.
-/

namespace MarkupOrder

/-- The names of a tag's attributes as they stand in the source; none for other nodes. -/
def SourceNode.attributeNames (n : SourceNode) : List Text :=
  match n.node with
  | .openingTag tag => tag.attributes.map (·.name)
  | _ => []

theorem SourceNode.repeats_eq (n : SourceNode) :
    n.repeats = Arrangement.repeats n.attributeNames := by
  obtain ⟨lead, node⟩ := n
  cases node <;> rfl

/-- Arranging attributes changes the order of their names only. -/
theorem SourceNode.attributeNames_perm (rank : Text → Option Nat) (n : SourceNode) :
    (n.mapAttributes (Arrangement.attributes rank)).attributeNames.Perm n.attributeNames := by
  obtain ⟨lead, node⟩ := n
  cases node with
  | openingTag tag =>
    have hperm := Arrangement.names_perm rank (tag.attributes.map (·.name))
    rw [← Arrangement.names_attributes] at hperm
    exact hperm
  | _ => exact .refl _

theorem SourceNode.le_count_attributeNames {n : SourceNode} {name : Text} {k : Nat} :
    k + 1 ≤ n.attributeNames.count name ↔
      ∃ tag, n.node = .openingTag tag ∧ k + 1 ≤ (tag.attributes.map (·.name)).count name := by
  obtain ⟨lead, node⟩ := n
  cases node <;> simp [attributeNames]

namespace Document

/-- Reorder documents one after another, each by its own settings: what comes of each of them, the
registry behind them, and what is warned of. -/
def reorderEach (r : WarningRegistry) : List (OrderSettings × Text) →
    List (Except SyntaxError Text) × WarningRegistry × List Diagnostic
  | [] => ([], r, [])
  | (s, input) :: calls =>
    let (r, ds) := warn input r
    let (results, r, es) := reorderEach r calls
    (reorder s input :: results, r, ds ++ es)

/-- The names of the attributes that are met in the tags of documents which are complete, in the
order in which they are met. -/
def met (calls : List (OrderSettings × Text)) : List Occurrence :=
  calls.flatMap fun call =>
    (read id call.2).1.flatMap fun n => Arrangement.occurrences n.attributeNames

variable {calls : List (OrderSettings × Text)}

theorem reorderEach_eq (r : WarningRegistry) (calls : List (OrderSettings × Text)) :
    reorderEach r calls = (calls.map fun call => reorder call.1 call.2,
      warnOf (calls.flatMap fun call => repeats call.2) r) := by
  induction calls generalizing r with
  | nil => rfl
  | cons call calls ih =>
    obtain ⟨s, input⟩ := call
    simp only [reorderEach, ih, List.map_cons, List.flatMap_cons, warn, warnOf, List.map_append,
      WarningRegistry.warnAll_append]

/-- The names that are repeated are those that are met where they stand before. -/
theorem flatMap_repeats (calls : List (OrderSettings × Text)) :
    (calls.flatMap fun call => repeats call.2) =
      ((met calls).filter fun o => o.before.contains o.name).map (·.name) := by
  rw [met, List.filter_flatMap, List.map_flatMap]
  apply List.flatMap_congr
  intro call _
  rw [repeats, List.filter_flatMap, List.map_flatMap]
  apply List.flatMap_congr
  intro n _
  rw [SourceNode.repeats_eq, Arrangement.repeats_eq]

/-- A name is repeated if some tag that is complete holds it twice, however its attributes are
arranged. -/
theorem mem_repeats_iff {s : OrderSettings} {input name : Text} : name ∈ repeats input ↔
    ∃ n ∈ (read s.arrange input).1, ∃ tag, n.node = .openingTag tag ∧
      2 ≤ (tag.attributes.map (·.name)).count name := by
  have hcount (n : SourceNode) : (n.mapAttributes s.arrange).attributeNames.count name =
      n.attributeNames.count name := (n.attributeNames_perm s.rank).count_eq name
  simp only [read_eq s.arrange, repeats, List.mem_flatMap, List.mem_map, exists_exists_and_eq_and,
    SourceNode.repeats_eq, Arrangement.mem_repeats, ← SourceNode.le_count_attributeNames, hcount]

theorem repeatMessage_injective : Function.Injective repeatMessage := by
  intro m n h
  exact List.append_cancel_left (List.append_cancel_right h)

/-- The line of a warning that a name is repeated. -/
theorem render_repeated (name : Text) :
    Diagnostic.render false ⟨.warning, component, repeatMessage name⟩ =
      "[attorder Reorder] warning: duplicate attribute '".toList ++ name ++
        "' keeps only its last value\n".toList := by
  have hstart : "[attorder ".toList ++ "Reorder".toList ++ "] ".toList ++ "warning".toList ++
      ": ".toList ++ "duplicate attribute '".toList =
        "[attorder Reorder] warning: duplicate attribute '".toList := by cbv
  have hend : "' keeps only its last value".toList ++ ['\n'] =
      "' keeps only its last value\n".toList := by cbv
  -- the texts are variables here, so that no rewriting looks into them
  have hgroup (a b c d e f g h : Text) : a ++ b ++ c ++ d ++ e ++ (f ++ name ++ g) ++ h =
      a ++ b ++ c ++ d ++ e ++ f ++ name ++ (g ++ h) := by
    simp only [List.append_assoc]
  calc Diagnostic.render false ⟨.warning, component, repeatMessage name⟩
    _ = "[attorder ".toList ++ "Reorder".toList ++ "] ".toList ++ "warning".toList ++ ": ".toList ++
          ("duplicate attribute '".toList ++ name ++ "' keeps only its last value".toList) ++
            ['\n'] := rfl
    _ = _ := hgroup ..
    _ = _ := congrArg₂ (fun start behind => start ++ name ++ behind) hstart hend

/-- The lines of warnings that names are repeated. -/
theorem renderAll_repeated (names : List Text) :
    Diagnostic.renderAll false (names.map fun name => ⟨.warning, component, repeatMessage name⟩) =
      names.flatMap fun name => "[attorder Reorder] warning: duplicate attribute '".toList ++ name ++
        "' keeps only its last value\n".toList := by
  rw [Diagnostic.renderAll, List.flatMap_map]
  exact List.flatMap_congr fun name _ => render_repeated name

/-- **Warnings of a whole session.** Where documents are reordered one after another and nothing has
been warned of before, the lines that are printed are those of the names which some tag that is
complete holds twice, each name once and in the order in which they are first met again. Where
warnings are not printed, nothing is, yet the same is remembered. -/
theorem warns_once_of_repeated (r : WarningRegistry) (calls : List (OrderSettings × Text)) :
    let session (enabled : Bool) := reorderEach (r.clear.setEnabled enabled) calls
    (∃ names : List Text, names.Nodup ∧
        (∀ name, name ∈ names ↔ ∃ call ∈ calls, ∃ n ∈ (read call.1.arrange call.2).1,
          ∃ tag, n.node = .openingTag tag ∧ 2 ≤ (tag.attributes.map (·.name)).count name) ∧
        (names.Pairwise fun m n => ∃ before o behind, met calls = before ++ o :: behind ∧
          o.Repeats m ∧ ∀ p ∈ before, ¬ p.Repeats n) ∧
        Diagnostic.renderAll false (session true).2.2 =
          names.flatMap fun name => "[attorder Reorder] warning: duplicate attribute '".toList ++
            name ++ "' keeps only its last value\n".toList) ∧
      (session false).2.2 = [] ∧
      (∀ c m, (session false).2.1.wasWarned c m = (session true).2.1.wasWarned c m) ∧
      ∀ enabled, (session enabled).1 = calls.map fun call => reorder call.1 call.2 := by
  intro session
  have hsession (enabled : Bool) : session enabled = _ := reorderEach_eq _ calls
  refine ⟨⟨(calls.flatMap fun call => repeats call.2).eraseDups, ?_, ?_, ?_, ?_⟩, ?_, ?_, ?_⟩
  · exact (Arrangement.pairwise_eraseDups _).imp And.left
  · intro name
    rw [List.mem_eraseDups, List.mem_flatMap]
    exact exists_congr fun call => and_congr_right fun _ => mem_repeats_iff (s := call.1)
  · refine (Arrangement.pairwise_eraseDups _).imp ?_
    rintro m n ⟨-, before, behind, hsplit, hn⟩
    rw [flatMap_repeats] at hsplit
    obtain ⟨pre, o, post, hmet, hagain, rfl, rfl⟩ := Arrangement.exists_of_map_filter_eq hsplit
    refine ⟨pre, o, post, hmet, ⟨rfl, by simpa using hagain⟩, ?_⟩
    rintro p hp ⟨rfl, hbefore⟩
    exact hn (List.mem_map_of_mem (List.mem_filter.2 ⟨hp, by simpa using hbefore⟩))
  · have hnew (m : Text) : (!(r.clear.setEnabled true).wasWarned component m) = true := rfl
    rw [hsession, ← renderAll_repeated, warnOf, WarningRegistry.warnAll_printed,
      List.filter_eq_self.2 fun m _ => hnew m, Arrangement.eraseDups_map repeatMessage_injective,
      List.map_map]
    rfl
  · rw [hsession, warnOf, WarningRegistry.warnAll_printed]
    rfl
  · intro c m
    simp only [hsession, warnOf, WarningRegistry.warnAll_setEnabled]
    rfl
  · intro enabled
    rw [hsession]

end Document

end MarkupOrder
