import MarkupOrder.Report.Registry
import Mathlib.Data.List.Basic

/-!
# What the registry remembers

* `RegistryCall`, `WarningRegistry.after`: the calls on a registry, and the registry behind a
  sequence of them.
* `WarningRegistry.RaisedIn`: a warning has been raised in a sequence of calls and not been forgotten
  since.
* `WarningRegistry.Alike`: two warnings that are remembered as the same text, which
  `WarningRegistry.key_eq_key_iff` is about.
* `WarningRegistry.mem_recorded_after`: what is remembered behind a sequence of calls.
* `WarningRegistry.remembers_alike`: a warning counts as raised if one alike has been, and then it is
  not printed.
* `WarningRegistry.warnAll_printed`: of several warnings of one component, the new ones are printed,
  each of them once.
-/

namespace MarkupOrder

/-- A call on a registry of warnings. -/
inductive RegistryCall where
  | warn (component message : Text)
  | error (component message : Text)
  | ask (component message : Text)
  | clear
  | setEnabled (enabled : Bool)
deriving DecidableEq, Repr

/-- Whether warnings are printed from a call on, if the call says so. -/
def RegistryCall.switch? : RegistryCall → Option Bool
  | setEnabled enabled => some enabled
  | _ => none

namespace WarningRegistry

/-! ## Sequences of calls -/

/-- What a call makes of the registry, and what it prints. -/
def call (r : WarningRegistry) : RegistryCall → WarningRegistry × List Diagnostic
  | .warn component message => r.warnOnce component message
  | .error component message => (r, [⟨.error, component, message⟩])
  | .ask _ _ => (r, [])
  | .clear => (r.clear, [])
  | .setEnabled enabled => (r.setEnabled enabled, [])

/-- The registry behind a sequence of calls. -/
def after (r : WarningRegistry) (calls : List RegistryCall) : WarningRegistry :=
  calls.foldl (fun r x => (r.call x).1) r

@[simp] theorem after_nil (r : WarningRegistry) : r.after [] = r := rfl

@[simp] theorem after_cons (r : WarningRegistry) (x : RegistryCall) (calls : List RegistryCall) :
    r.after (x :: calls) = (r.call x).1.after calls := rfl

/-- Whether warnings are printed behind a sequence of calls: the last word counts. -/
def printsBehind (enabled : Bool) (calls : List RegistryCall) : Bool :=
  (calls.filterMap RegistryCall.switch?).getLast?.getD enabled

/-- Whether a warning has been raised, and nothing forgotten since. -/
def RaisedIn (calls : List RegistryCall) (component message : Text) : Prop :=
  ∃ before behind, calls = before ++ .warn component message :: behind ∧ .clear ∉ behind

variable {r : WarningRegistry} {x : RegistryCall} {calls : List RegistryCall} {c m c' m' k : Text}

theorem warnOnce_of_warned (h : r.wasWarned c m = true) : r.warnOnce c m = (r, []) := if_pos h

theorem warnOnce_of_new (h : r.wasWarned c m = false) : r.warnOnce c m =
    ({ r with recorded := key c m :: r.recorded },
      if r.enabled then [⟨.warning, c, m⟩] else []) :=
  if_neg (by simp [h])

theorem not_raisedIn_nil : ¬ RaisedIn [] c m := by
  rintro ⟨before, behind, h, -⟩
  simp at h

theorem raisedIn_cons :
    RaisedIn (x :: calls) c m ↔ RaisedIn calls c m ∨ (x = .warn c m ∧ .clear ∉ calls) := by
  constructor
  · rintro ⟨before, behind, h, hclear⟩
    cases before with
    | nil =>
      obtain ⟨rfl, rfl⟩ := List.cons.inj h
      exact .inr ⟨rfl, hclear⟩
    | cons y before =>
      obtain ⟨rfl, rfl⟩ := List.cons.inj h
      exact .inl ⟨before, behind, rfl, hclear⟩
  · rintro (⟨before, behind, rfl, hclear⟩ | ⟨rfl, hclear⟩)
    · exact ⟨x :: before, behind, rfl, hclear⟩
    · exact ⟨[], calls, rfl, hclear⟩

/-- What one call makes of what is remembered. -/
theorem mem_recorded_call : k ∈ (r.call x).1.recorded ↔
    (∃ c m, x = .warn c m ∧ key c m = k) ∨ (x ≠ .clear ∧ k ∈ r.recorded) := by
  cases x with
  | warn c m =>
    cases hw : r.wasWarned c m with
    | true =>
      have hmem : key c m ∈ r.recorded := by simpa [wasWarned] using hw
      simp only [call, warnOnce_of_warned hw]
      constructor
      · exact fun hk => .inr ⟨by simp, hk⟩
      · rintro (⟨_, _, hcall, rfl⟩ | ⟨-, hk⟩)
        · cases hcall
          exact hmem
        · exact hk
    | false => simp [call, warnOnce_of_new hw, eq_comm (a := k)]
  | clear => simp [call, clear]
  | error | ask | setEnabled => simp [call, setEnabled]

/-- **What is remembered behind a sequence of calls**: what was raised since the last clearing, and
what was remembered before if there has been none. -/
theorem mem_recorded_after : k ∈ (r.after calls).recorded ↔
    (∃ c m, RaisedIn calls c m ∧ key c m = k) ∨ (.clear ∉ calls ∧ k ∈ r.recorded) := by
  induction calls generalizing r with
  | nil => simp [not_raisedIn_nil]
  | cons x calls ih =>
    rw [after_cons, ih, mem_recorded_call, List.mem_cons, not_or]
    constructor
    · rintro (⟨c, m, hraised, hk⟩ | ⟨hclear, ⟨c, m, hx, hk⟩ | ⟨hx, hk⟩⟩)
      · exact .inl ⟨c, m, raisedIn_cons.2 (.inl hraised), hk⟩
      · exact .inl ⟨c, m, raisedIn_cons.2 (.inr ⟨hx, hclear⟩), hk⟩
      · exact .inr ⟨⟨hx.symm, hclear⟩, hk⟩
    · rintro (⟨c, m, hraised, hk⟩ | ⟨⟨hx, hclear⟩, hk⟩)
      · rcases raisedIn_cons.1 hraised with hraised | ⟨hx, hclear⟩
        · exact .inl ⟨c, m, hraised, hk⟩
        · exact .inr ⟨hclear, .inl ⟨c, m, hx, hk⟩⟩
      · exact .inr ⟨hclear, .inr ⟨Ne.symm hx, hk⟩⟩

theorem enabled_call : (r.call x).1.enabled = x.switch?.getD r.enabled := by
  cases x with
  | warn c m =>
    cases hw : r.wasWarned c m with
    | true => simp [call, warnOnce_of_warned hw, RegistryCall.switch?]
    | false => simp [call, warnOnce_of_new hw, RegistryCall.switch?]
  | _ => rfl

theorem enabled_after : (r.after calls).enabled = printsBehind r.enabled calls := by
  induction calls generalizing r with
  | nil => rfl
  | cons x calls ih =>
    rw [after_cons, ih, enabled_call, printsBehind, printsBehind]
    cases hx : x.switch? with
    | none => rw [List.filterMap_cons_none hx, Option.getD_none]
    | some enabled => rw [List.filterMap_cons_some hx, List.getLast?_cons, Option.getD_some,
        Option.getD_some]

/-! ## Warnings that are remembered as one -/

/-- Whether two warnings are remembered as the same text. Either they are the same, or the component
of one of them goes on, over a bracket that might be the closing one, with the message of the other. -/
def Alike (c m c' m' : Text) : Prop :=
  (c = c' ∧ m = m') ∨
    (∃ t, c' = c ++ [']', ' '] ++ t ∧ m = t ++ [']', ' '] ++ m') ∨
      ∃ t, c = c' ++ [']', ' '] ++ t ∧ m' = t ++ [']', ' '] ++ m

/-- How a bracket and a space can stand in two ways of cutting one text. -/
theorem exists_of_mark_append_eq {s : Text}
    (h : [']', ' '] ++ m = s ++ ([']', ' '] ++ m')) :
    (s = [] ∧ m = m') ∨ ∃ t, s = [']', ' '] ++ t ∧ m = t ++ [']', ' '] ++ m' := by
  match s, h with
  | [], h => exact .inl ⟨rfl, List.append_cancel_left h⟩
  | [a], h => simp at h
  | a :: b :: t, h =>
    simp only [List.cons_append, List.nil_append, List.cons.injEq] at h
    obtain ⟨rfl, rfl, rfl⟩ := h
    exact .inr ⟨t, rfl, by simp⟩

theorem key_eq_key_iff : key c m = key c' m' ↔ Alike c m c' m' := by
  have hkey (c m : Text) : key c m = '[' :: (c ++ ([']', ' '] ++ m)) := by simp [key]
  rw [hkey, hkey, List.cons.injEq, and_iff_right rfl]
  constructor
  · intro h
    rcases List.append_eq_append_iff.1 h with ⟨s, rfl, hs⟩ | ⟨s, rfl, hs⟩
    · rcases exists_of_mark_append_eq hs with ⟨rfl, rfl⟩ | ⟨t, rfl, rfl⟩
      · exact .inl ⟨(List.append_nil c).symm, rfl⟩
      · exact .inr (.inl ⟨t, (List.append_assoc ..).symm, rfl⟩)
    · rcases exists_of_mark_append_eq hs with ⟨rfl, rfl⟩ | ⟨t, rfl, rfl⟩
      · exact .inl ⟨List.append_nil c', rfl⟩
      · exact .inr (.inr ⟨t, (List.append_assoc ..).symm, rfl⟩)
  · rintro (⟨rfl, rfl⟩ | ⟨t, rfl, rfl⟩ | ⟨t, rfl, rfl⟩) <;> simp

/-- Of components without a bracket before a space, no two warnings are alike. -/
theorem Alike.eq (h : Alike c m c' m') (hc : ¬ [']', ' '] <:+: c) (hc' : ¬ [']', ' '] <:+: c') :
    c = c' ∧ m = m' := by
  rcases h with h | ⟨t, rfl, -⟩ | ⟨t, rfl, -⟩
  · exact h
  · exact absurd ⟨c, t, rfl⟩ hc'
  · exact absurd ⟨c', t, rfl⟩ hc

/-! ## What the registry answers -/

theorem wasWarned_after_iff : (fresh.after calls).wasWarned c m = true ↔
    ∃ c' m', RaisedIn calls c' m' ∧ Alike c' m' c m := by
  rw [wasWarned, List.contains_iff_mem, mem_recorded_after]
  simp [fresh, key_eq_key_iff]

theorem printed_eq : (r.warnOnce c m).2 =
    if r.enabled && !r.wasWarned c m then [⟨.warning, c, m⟩] else [] := by
  cases hw : r.wasWarned c m with
  | true => simp [warnOnce_of_warned hw]
  | false => simp [warnOnce_of_new hw]

/-- **A warning counts as raised if one alike has been.** Behind any sequence of calls, the registry
says of a warning that it was raised if and only if one alike has been raised since the last
clearing, and raising it prints its line if and only if warnings are printed and none alike has been
raised since. So both go by the warning itself just where it has been raised or none alike has. -/
theorem remembers_alike (calls : List RegistryCall) (c m : Text) :
    let r := fresh.after calls
    let raised := ∃ c' m', RaisedIn calls c' m' ∧ Alike c' m' c m
    let printed := (r.warnOnce c m).2
    (r.wasWarned c m = true ↔ raised) ∧
      (printed = [⟨.warning, c, m⟩] ↔ printsBehind true calls = true ∧ ¬ raised) ∧
        (printed = [⟨.warning, c, m⟩] ∨ printed = []) ∧
          (((r.wasWarned c m = true ↔ RaisedIn calls c m) ∧
              (printed = [⟨.warning, c, m⟩] ↔
                printsBehind true calls = true ∧ ¬ RaisedIn calls c m)) ↔
            (raised → RaisedIn calls c m)) := by
  intro r raised printed
  have hasked : r.wasWarned c m = true ↔ raised := wasWarned_after_iff
  have henabled : r.enabled = printsBehind true calls := enabled_after
  have hprinted : printed = [⟨.warning, c, m⟩] ↔ printsBehind true calls = true ∧ ¬ raised := by
    rw [← hasked, ← henabled]
    simp only [printed, printed_eq]
    cases r.enabled <;> cases r.wasWarned c m <;> simp
  have hraised : RaisedIn calls c m → raised := fun h => ⟨c, m, h, .inl ⟨rfl, rfl⟩⟩
  refine ⟨hasked, hprinted, ?_, ?_⟩
  · simp only [printed, printed_eq]
    split
    · exact .inl rfl
    · exact .inr rfl
  · rw [hasked, hprinted]
    constructor
    · exact fun h => h.1.1
    · intro h
      have hiff : raised ↔ RaisedIn calls c m := ⟨h, hraised⟩
      exact ⟨hiff, by rw [hiff]⟩

/-- Behind a warning `c` of the component `a] b`, the warning `b] c` of the component `a` counts as
raised and is not printed. -/
theorem remembers_other_warning :
    let calls : List RegistryCall := [.warn "a] b".toList "c".toList]
    let r := fresh.after calls
    ¬ RaisedIn calls "a".toList "b] c".toList ∧ r.enabled = true ∧
      r.wasWarned "a".toList "b] c".toList = true ∧
        (r.warnOnce "a".toList "b] c".toList).2 = [] := by
  refine ⟨?_, by decide, by decide, by decide⟩
  intro h
  rcases raisedIn_cons.1 h with h | ⟨h, -⟩
  · exact not_raisedIn_nil h
  · exact absurd h (by decide)

/-! ## Several warnings of one component -/

variable {messages : List Text} {b : Bool}

theorem warnAll_append (r : WarningRegistry) (c : Text) (ms ns : List Text) :
    r.warnAll c (ms ++ ns) =
      (((r.warnAll c ms).1.warnAll c ns).1,
        (r.warnAll c ms).2 ++ ((r.warnAll c ms).1.warnAll c ns).2) := by
  induction ms generalizing r with
  | nil => rfl
  | cons m ms ih => simp [warnAll, ih]

theorem warnOnce_setEnabled :
    ((r.setEnabled b).warnOnce c m).1 = (r.warnOnce c m).1.setEnabled b := by
  cases hw : r.wasWarned c m with
  | true => rw [warnOnce_of_warned hw, warnOnce_of_warned (r := r.setEnabled b) hw]
  | false =>
    rw [warnOnce_of_new hw, warnOnce_of_new (r := r.setEnabled b) hw]
    rfl

/-- What is remembered does not depend on whether warnings are printed. -/
theorem warnAll_setEnabled :
    ((r.setEnabled b).warnAll c messages).1 = (r.warnAll c messages).1.setEnabled b := by
  induction messages generalizing r with
  | nil => rfl
  | cons m messages ih => simp only [warnAll, warnOnce_setEnabled, ih]

theorem wasWarned_warnOnce :
    (r.warnOnce c m).1.wasWarned c m' = (m' == m || r.wasWarned c m') := by
  have hkey : key c m' = key c m ↔ m' = m := by simp [key]
  cases hw : r.wasWarned c m with
  | true =>
    rw [warnOnce_of_warned hw]
    by_cases hm : m' = m
    · simp [hm, hw]
    · simp [hm]
  | false =>
    rw [warnOnce_of_new hw]
    simp [wasWarned, hkey, Bool.beq_eq_decide_eq]

/-- **Of several warnings of one component, the new ones are printed**, each of them once and in the
order in which they come. -/
theorem warnAll_printed (r : WarningRegistry) (c : Text) (messages : List Text) :
    (r.warnAll c messages).2 =
      if r.enabled then
        ((messages.filter fun m => !r.wasWarned c m).eraseDups).map fun m => ⟨.warning, c, m⟩
      else [] := by
  induction messages generalizing r with
  | nil => simp [warnAll]
  | cons m messages ih =>
    have henabled : (r.warnOnce c m).1.enabled = r.enabled := enabled_call (x := .warn c m)
    rw [warnAll]
    simp only [ih, henabled, wasWarned_warnOnce]
    cases he : r.enabled with
    | false => simp [printed_eq, he]
    | true =>
      cases hw : r.wasWarned c m with
      | true =>
        -- the message itself is not new, so that leaving it out again changes nothing
        have hnew : ∀ m' ∈ messages, (!(m' == m || r.wasWarned c m')) = !r.wasWarned c m' := by
          intro m' _
          by_cases hm : m' = m
          · simp [hm, hw]
          · simp [hm]
        rw [List.filter_congr hnew]
        simp [printed_eq, he, hw]
      | false =>
        simp [printed_eq, he, hw, List.eraseDups_cons, List.filter_filter]

end WarningRegistry

end MarkupOrder
