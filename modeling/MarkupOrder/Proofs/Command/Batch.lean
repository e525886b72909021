import MarkupOrder.Command.Run
import MarkupOrder.Proofs.Input.Chunks
import MarkupOrder.Proofs.Report.Registry
import Mathlib

/-!
# Many files in one run

* `Action.apply`, `Files.apply`: what an action makes of a document and of a file, or why it refuses
  it.
* `Session.runFile_eq`: what becomes of a session at one file.
* `Session.Covers`: what has come of a session behind some files. `Session.covers_runFile` is about
  one file, and `Session.covers_runFiles` about files one after another.
* `runOptions_isolates_files`: what a run leaves behind, file by file.
-/

namespace MarkupOrder

@[simp] theorem Diagnostic.renderAll_append (terminal : Bool) (ds es : List Diagnostic) :
    renderAll terminal (ds ++ es) = renderAll terminal ds ++ renderAll terminal es :=
  List.flatMap_append

end MarkupOrder

namespace MarkupOrder.Command

/-! ## One file -/

namespace Action

/-- Whether an action writes to the files. -/
def writes : Action → Bool
  | reorder inPlace => inPlace
  | tokens | tree => false

/-- What an action makes of a document, or why it refuses it. -/
def apply (settings : OrderSettings) : Action → Text → Except SyntaxError Text
  | tokens, input => .ok (Session.tokenListing input)
  | tree, input => (Document.parse settings input).map Outline.render
  | reorder _, input => Document.reorder settings input

/-- The names that an action warns of. -/
def warnsOf : Action → Text → List Text
  | tokens, _ => []
  | tree, input | reorder _, input => Document.repeats input

end Action

namespace Files

variable {fs fs' : Files} {settings : OrderSettings} {action : Action} {name t : Text}

theorem readText_eq_ok_iff : fs.readText name = .ok t ↔ fs name = some (.file (encode t)) := by
  unfold readText
  cases h : fs name with
  | none => simp
  | some e => cases e with
    | directory => simp
    | file bytes =>
      rw [Option.some.injEq, Entry.file.injEq, ← decode?_eq_some_iff]
      cases hdecode : decode? bytes <;> simp [hdecode]

/-- What an action makes of a file, or why it refuses it. -/
def apply (settings : OrderSettings) (action : Action) (fs : Files) (name : Text) :
    Except Text Text :=
  match fs.readText name with
  | .error e => .error ("failed to read ".toList ++ name ++ ": ".toList ++ e.reason)
  | .ok input => (action.apply settings input).mapError SyntaxError.message

/-- The names that an action warns of at a file. -/
def warnsOf (action : Action) (fs : Files) (name : Text) : List Text :=
  match fs.readText name with
  | .error _ => []
  | .ok input => action.warnsOf input

/-- A file is read by its own name only. -/
theorem readText_congr (h : fs name = fs' name) : fs.readText name = fs'.readText name := by
  unfold readText
  rw [h]

theorem apply_congr (h : fs name = fs' name) :
    fs.apply settings action name = fs'.apply settings action name := by
  rw [apply, apply, readText_congr h]

theorem warnsOf_congr (h : fs name = fs' name) :
    fs.warnsOf action name = fs'.warnsOf action name := by
  rw [warnsOf, warnsOf, readText_congr h]

theorem apply_of_error (settings : OrderSettings) (action : Action) {e : FileError}
    (h : fs.readText name = .error e) : fs.apply settings action name =
      .error ("failed to read ".toList ++ name ++ ": ".toList ++ e.reason) := by
  rw [apply, h]

theorem apply_of_refused {e : SyntaxError} (h : fs.readText name = .ok t)
    (hrefused : action.apply settings t = .error e) :
    fs.apply settings action name = .error e.message := by
  simp only [apply, h, hrefused]
  rfl

theorem apply_of_accepted {output : Text} (h : fs.readText name = .ok t)
    (haccepted : action.apply settings t = .ok output) :
    fs.apply settings action name = .ok output := by
  simp only [apply, h, haccepted]
  rfl

theorem apply_eq_ok_iff : fs.apply settings action name = .ok t ↔
    ∃ input, fs name = some (.file (encode input)) ∧ action.apply settings input = .ok t := by
  simp only [← readText_eq_ok_iff, apply]
  cases fs.readText name with
  | error e => simp
  | ok input => cases h : action.apply settings input <;> simp [Except.mapError, h]

theorem isOk_apply_eq_false_iff : (fs.apply settings action name).isOk = false ↔
    (∀ input, fs name ≠ some (.file (encode input))) ∨
      ∃ input e, fs name = some (.file (encode input)) ∧
        action.apply settings input = .error e := by
  simp only [ne_eq, ← readText_eq_ok_iff, apply]
  cases fs.readText name with
  | error e => simp [Except.isOk, Except.toBool]
  | ok input =>
    cases h : action.apply settings input <;> simp [Except.mapError, Except.isOk, Except.toBool, h]

/-- What is printed of a file. -/
def printed (settings : OrderSettings) (action : Action) (fs : Files) (name : Text) : Text :=
  if action.writes then [] else (fs.apply settings action name).toOption.getD []

/-- The error that is reported of a file. -/
def complaint? (settings : OrderSettings) (action : Action) (fs : Files) (name : Text) :
    Option Diagnostic :=
  match fs.apply settings action name with
  | .error reason => some ⟨.error, "cli".toList, name ++ ": ".toList ++ reason⟩
  | .ok _ => none

theorem printed_of_error {reason : Text} (h : fs.apply settings action name = .error reason) :
    fs.printed settings action name = [] := by
  rw [printed, h]
  exact ite_self []

theorem printed_of_ok (h : fs.apply settings action name = .ok t) :
    fs.printed settings action name = if action.writes then [] else t := by
  rw [printed, h]
  rfl

theorem complaint?_of_error {reason : Text} (h : fs.apply settings action name = .error reason) :
    fs.complaint? settings action name =
      some ⟨.error, "cli".toList, name ++ ": ".toList ++ reason⟩ := by
  rw [complaint?, h]

theorem complaint?_of_ok (h : fs.apply settings action name = .ok t) :
    fs.complaint? settings action name = none := by
  rw [complaint?, h]

/-- The files behind an action on some of them. -/
def behind (settings : OrderSettings) (action : Action) (fs : Files) (names : List Text) : Files :=
  fun name =>
    if action.writes && names.contains name then
      match fs.apply settings action name with
      | .error _ => fs name
      | .ok output => some (.file (encode output))
    else fs name

theorem behind_of_not_writes (h : action.writes = false) (names : List Text) :
    fs.behind settings action names = fs := by
  funext name
  simp [behind, h]

theorem behind_of_apply {names : List Text} (hwrites : action.writes = true)
    (hname : name ∈ names) (h : fs.apply settings action name = .ok t) :
    fs.behind settings action names name = some (.file (encode t)) := by
  simp [behind, hwrites, hname, h]

theorem behind_eq_self {names : List Text}
    (h : name ∈ names → ∀ t, fs.apply settings action name ≠ .ok t) :
    fs.behind settings action names name = fs name := by
  unfold behind
  split
  case isTrue hname =>
    cases happly : fs.apply settings action name with
    | error reason => rfl
    | ok t =>
      rw [Bool.and_eq_true, List.contains_iff_mem] at hname
      exact absurd happly (h hname.2 t)
  case isFalse => rfl

theorem behind_singleton_of_error {reason : Text}
    (h : fs.apply settings action name = .error reason) :
    fs.behind settings action [name] = fs := by
  funext n
  refine behind_eq_self fun hn t ht => ?_
  rw [List.mem_singleton.1 hn, h] at ht
  cases ht

theorem behind_singleton_of_ok (hwrites : action.writes = true)
    (h : fs.apply settings action name = .ok t) :
    fs.behind settings action [name] = fs.write name t := by
  funext n
  by_cases hn : n = name
  · simp [behind, write, put, hn, hwrites, h]
  · simp [behind, write, put, hn]

theorem printed_congr (h : fs name = fs' name) :
    fs.printed settings action name = fs'.printed settings action name := by
  rw [printed, printed, apply_congr h]

theorem complaint?_congr (h : fs name = fs' name) :
    fs.complaint? settings action name = fs'.complaint? settings action name := by
  rw [complaint?, complaint?, apply_congr h]

theorem behind_nil : fs.behind settings action [] = fs := by
  funext name
  simp [behind]

theorem behind_of_notMem {names : List Text} (h : name ∉ names) :
    fs.behind settings action names name = fs name := by
  simp [behind, h]

/-- An action on one file and then on others is an action on all of them. -/
theorem behind_cons {names : List Text} (h : name ∉ names) :
    (fs.behind settings action [name]).behind settings action names =
      fs.behind settings action (name :: names) := by
  funext n
  by_cases hn : n = name
  · subst hn
    rw [behind_of_notMem h]
    simp [behind]
  · have hsame : fs.behind settings action [name] n = fs n :=
      behind_of_notMem (by simpa using hn)
    rw [behind, apply_congr hsame, hsame, behind]
    simp [hn]

/-- Writing to a file what it holds changes nothing. -/
theorem write_eq_self (h : fs.readText name = .ok t) : fs.write name t = fs := by
  funext n
  by_cases hn : n = name
  · simp [write, put, hn, readText_eq_ok_iff.1 h]
  · simp [write, put, hn]

end Files

namespace Session

variable (terminal : Bool) (settings : OrderSettings) (action : Action)

/-- Warn of names. -/
def warnOf (s : Session) (names : List Text) : Session :=
  let (registry, ds) := Document.warnOf names s.registry
  { s with registry }.report terminal ds

theorem warnOf_nil (s : Session) : s.warnOf terminal [] = s := by
  simp [warnOf, Document.warnOf, WarningRegistry.warnAll, report, Diagnostic.renderAll]

/-- At a document that a file holds, an action warns, and then it reports the error, writes what it
makes of the document or prints it. -/
theorem runDocument_eq {s : Session} {name input : Text}
    (hread : s.files.readText name = .ok input) :
    let warned := s.warnOf terminal (action.warnsOf input)
    s.runDocument terminal settings action name (some name) input =
      match action.apply settings input with
      | .error e => warned.fail terminal name e.message
      | .ok output =>
        if action.writes then { warned with files := s.files.write name output }
        else warned.print output := by
  intro warned
  cases action with
  | tokens =>
    simp only [warned, Action.warnsOf, warnOf_nil]
    rfl
  | tree =>
    simp only [runDocument, Action.apply]
    cases Document.parse settings input <;> rfl
  | reorder inPlace =>
    simp only [runDocument, Action.apply]
    cases Document.reorder settings input with
    | error e => rfl
    | ok output =>
      cases inPlace with
      | false => rfl
      | true =>
        by_cases hsame : output = input
        · -- nothing is written, since the file holds the output already
          subst hsame
          simp only [Action.writes, if_true, Files.write_eq_self hread]
          rfl
        · simp only [Action.writes, if_true, if_neg hsame]
          rfl

/-- **What becomes of a session at one file.** -/
theorem runFile_eq (s : Session) (name : Text) :
    let warned := Document.warnOf (s.files.warnsOf action name) s.registry
    s.runFile terminal settings action name =
      { stdout := s.stdout ++ s.files.printed settings action name
        stderr := s.stderr ++ Diagnostic.renderAll terminal
          (warned.2 ++ (s.files.complaint? settings action name).toList)
        registry := warned.1
        files := s.files.behind settings action [name]
        failed := s.failed || !(s.files.apply settings action name).isOk } := by
  intro warned
  unfold runFile
  cases hread : s.files.readText name with
  | error e =>
    have happly := Files.apply_of_error settings action hread
    have hwarned : warned = (s.registry, []) := by simp only [warned, Files.warnsOf, hread]; rfl
    rw [hwarned, Files.printed_of_error happly, Files.complaint?_of_error happly,
      Files.behind_singleton_of_error happly, happly]
    simp [fail, report, Except.isOk, Except.toBool]
  | ok input =>
    have hwarned : warned = Document.warnOf (action.warnsOf input) s.registry := by
      simp only [warned, Files.warnsOf, hread]
    simp only [runDocument_eq terminal settings action hread]
    cases hresult : action.apply settings input with
    | error e =>
      have happly := Files.apply_of_refused hread hresult
      rw [hwarned, Files.printed_of_error happly, Files.complaint?_of_error happly,
        Files.behind_singleton_of_error happly, happly]
      simp [warnOf, fail, report, Except.isOk, Except.toBool]
    | ok output =>
      have happly := Files.apply_of_accepted hread hresult
      rw [hwarned, Files.printed_of_ok happly, Files.complaint?_of_ok happly, happly]
      cases hwrites : action.writes with
      | true =>
        rw [Files.behind_singleton_of_ok hwrites happly]
        simp [warnOf, report, Except.isOk, Except.toBool]
      | false =>
        rw [Files.behind_of_not_writes hwrites]
        simp [warnOf, print, report, Except.isOk, Except.toBool]

/-! ## Files one after another -/

/-- What has come of a session behind some files: what was printed, what the files are now, whether
one has failed, what was warned of, and what was reported. -/
structure Covers (names : List Text) (s s' : Session) : Prop where
  stdout : s'.stdout = s.stdout ++ names.flatMap (s.files.printed settings action)
  files : s'.files = s.files.behind settings action names
  failed : s'.failed = true ↔
    s.failed = true ∨ ∃ name ∈ names, (s.files.apply settings action name).isOk = false
  registry : s'.registry =
    (Document.warnOf (names.flatMap (s.files.warnsOf action)) s.registry).1
  stderr : ∃ ds, s'.stderr = s.stderr ++ Diagnostic.renderAll terminal ds ∧
    (ds.filter (·.severity == .error)) = names.filterMap (s.files.complaint? settings action) ∧
    (ds.filter (·.severity == .warning)) =
      (Document.warnOf (names.flatMap (s.files.warnsOf action)) s.registry).2

theorem warnOf_append (ms ns : List Text) (r : WarningRegistry) :
    Document.warnOf (ms ++ ns) r =
      ((Document.warnOf ns (Document.warnOf ms r).1).1,
        (Document.warnOf ms r).2 ++ (Document.warnOf ns (Document.warnOf ms r).1).2) := by
  rw [Document.warnOf, List.map_append, WarningRegistry.warnAll_append]
  rfl

theorem severity_of_mem_warnOf {names : List Text} {r : WarningRegistry} :
    ∀ d ∈ (Document.warnOf names r).2, d.severity = .warning := by
  intro d hd
  rw [Document.warnOf, WarningRegistry.warnAll_printed] at hd
  split at hd
  · obtain ⟨m, -, rfl⟩ := List.mem_map.1 hd
    rfl
  · cases hd

theorem severity_of_mem_complaint? {fs : Files} {name : Text} :
    ∀ d ∈ (fs.complaint? settings action name).toList, d.severity = .error := by
  intro d hd
  have hsome := Option.mem_toList.1 hd
  unfold Files.complaint? at hsome
  split at hsome <;> cases hsome
  rfl

/-- Diagnostics of one severity stay all together, or go all together. -/
theorem filter_severity {ds : List Diagnostic} {severity : Severity}
    (h : ∀ d ∈ ds, d.severity = severity) (kept : Severity) :
    ds.filter (·.severity == kept) = if severity = kept then ds else [] := by
  split
  case isTrue heq => exact List.filter_eq_self.2 fun d hd => by simp [h d hd, heq]
  case isFalse hne => exact List.filter_eq_nil_iff.2 fun d hd => by simp [h d hd, hne]

/-- One file does to a session what it says of itself. -/
theorem covers_runFile (s : Session) (name : Text) :
    Covers terminal settings action [name] s (s.runFile terminal settings action name) := by
  rw [runFile_eq]
  have hwarns : [name].flatMap (s.files.warnsOf action) = s.files.warnsOf action name := by simp
  refine ⟨by simp, rfl, by simp, by rw [hwarns], _, rfl, ?_, ?_⟩
  · rw [List.filter_append, filter_severity severity_of_mem_warnOf,
      filter_severity (severity_of_mem_complaint? settings action)]
    cases hcomplaint : s.files.complaint? settings action name <;> simp [hcomplaint]
  · rw [List.filter_append, filter_severity severity_of_mem_warnOf,
      filter_severity (severity_of_mem_complaint? settings action), hwarns]
    simp

variable {terminal settings action} in
/-- What one file does and what others do is what all of them do, since no other file of the list
has changed when its turn comes. -/
theorem Covers.cons {name : Text} {names : List Text} {s s' s'' : Session}
    (h : Covers terminal settings action [name] s s')
    (hs : Covers terminal settings action names s' s'') (hname : name ∉ names) :
    Covers terminal settings action (name :: names) s s'' := by
  have hsame : ∀ n ∈ names, s'.files n = s.files n := by
    intro n hn
    rw [h.files]
    refine Files.behind_of_notMem ?_
    simpa using ne_of_mem_of_not_mem hn hname
  have hwarns : names.flatMap (s'.files.warnsOf action) = names.flatMap (s.files.warnsOf action) :=
    List.flatMap_congr fun n hn => Files.warnsOf_congr (hsame n hn)
  have hall : (name :: names).flatMap (s.files.warnsOf action) =
      [name].flatMap (s.files.warnsOf action) ++ names.flatMap (s.files.warnsOf action) := by simp
  obtain ⟨ds, hds, herrors, hwarnings⟩ := h.stderr
  obtain ⟨es, hes, herrors', hwarnings'⟩ := hs.stderr
  rw [hwarns, h.registry] at hwarnings'
  refine ⟨?_, ?_, ?_, ?_, ds ++ es, ?_, ?_, ?_⟩
  · rw [hs.stdout, h.stdout, List.append_assoc, List.flatMap_congr fun n hn =>
      Files.printed_congr (hsame n hn)]
    simp
  · rw [hs.files, h.files, Files.behind_cons hname]
  · have hfails : (∃ n ∈ names, (s'.files.apply settings action n).isOk = false) ↔
        ∃ n ∈ names, (s.files.apply settings action n).isOk = false :=
      exists_congr fun n => and_congr_right fun hn => by rw [Files.apply_congr (hsame n hn)]
    rw [hs.failed, h.failed, hfails]
    simp [or_assoc]
  · rw [hs.registry, hwarns, h.registry, hall, warnOf_append]
  · rw [hes, hds, List.append_assoc, Diagnostic.renderAll_append]
  · rw [List.filter_append, herrors, herrors', List.filterMap_congr fun n hn =>
      Files.complaint?_congr (hsame n hn), ← List.filterMap_append]
    rfl
  · rw [List.filter_append, hwarnings, hwarnings', hall, warnOf_append]

theorem covers_runFiles {names : List Text} (hnodup : names.Nodup) (s : Session) :
    Covers terminal settings action names s (s.runFiles terminal settings action names) := by
  induction names generalizing s with
  | nil =>
    exact ⟨(List.append_nil _).symm, Files.behind_nil.symm, by simp [runFiles], rfl, [],
      (List.append_nil _).symm, rfl, rfl⟩
  | cons name names ih =>
    rw [List.nodup_cons] at hnodup
    exact (covers_runFile terminal settings action s name).cons (ih hnodup.2 _) hnodup.1

variable {terminal settings action} {names : List Text} {s s' : Session} {name : Text}

/-- A file that is accepted is written back. -/
theorem Covers.files_of_accepted (h : Covers terminal settings action names s s')
    (hwrites : action.writes = true) (hname : name ∈ names) {input output : Text}
    (hinput : s.files name = some (.file (encode input)))
    (houtput : action.apply settings input = .ok output) :
    s'.files name = some (.file (encode output)) := by
  rw [h.files]
  exact Files.behind_of_apply hwrites hname (Files.apply_eq_ok_iff.2 ⟨input, hinput, houtput⟩)

/-- Every other file stays. -/
theorem Covers.files_of_refused (h : Covers terminal settings action names s s')
    (hrefused : name ∈ names → ∀ input output, s.files name = some (.file (encode input)) →
      action.apply settings input ≠ .ok output) : s'.files name = s.files name := by
  rw [h.files]
  refine Files.behind_eq_self fun hname output happly => ?_
  obtain ⟨input, hinput, houtput⟩ := Files.apply_eq_ok_iff.1 happly
  exact hrefused hname input output hinput houtput

theorem Covers.stdout_of_writes (h : Covers terminal settings action names s s')
    (hwrites : action.writes = true) : s'.stdout = s.stdout := by
  have hnone : ∀ name ∈ names, s.files.printed settings action name = [] :=
    fun name _ => if_pos hwrites
  rw [h.stdout, List.flatMap_eq_nil_iff.2 hnone, List.append_nil]

theorem Covers.stdout_of_not_writes (h : Covers terminal settings action names s s')
    (hwrites : action.writes = false) : s'.stdout = s.stdout ++
      names.flatMap fun name => (s.files.apply settings action name).toOption.getD [] := by
  have hprinted : s.files.printed settings action =
      fun name => (s.files.apply settings action name).toOption.getD [] := by
    funext name
    simp [Files.printed, hwrites]
  rw [h.stdout, hprinted]

theorem Covers.failed_iff (h : Covers terminal settings action names s s')
    (hs : s.failed = false) : s'.failed = true ↔ ∃ name ∈ names,
      (∀ input, s.files name ≠ some (.file (encode input))) ∨
        ∃ input e, s.files name = some (.file (encode input)) ∧
          action.apply settings input = .error e := by
  simp only [h.failed, hs, Bool.false_eq_true, false_or, Files.isOk_apply_eq_false_iff]

/-- What is printed for names that nothing was warned of before. -/
theorem warnOf_fresh (names : List Text) (enabled : Bool) :
    (Document.warnOf names ⟨[], enabled⟩).2 =
      if enabled then (names.map Document.repeatMessage).eraseDups.map
        fun m => ⟨.warning, Document.component, m⟩ else [] := by
  have hnew (m : Text) : (!(⟨[], enabled⟩ : WarningRegistry).wasWarned Document.component m) =
      true := rfl
  rw [Document.warnOf, WarningRegistry.warnAll_printed, List.filter_eq_self.2 fun m _ => hnew m]

end Session

/-! ## The whole run -/

theorem runOptions_of_rejected (terminal : Bool) {o : Options} (stdin : ByteArray) (files : Files)
    {e : PatternError}
    (h : OrderSettings.ofSources (o.patterns.filter fun p => !p.isEmpty) = .error e) :
    ∃ message, runOptions terminal o stdin files = .failure files 1 message := by
  unfold runOptions
  rw [h]
  exact ⟨_, rfl⟩

theorem runOptions_of_settings (terminal : Bool) {o : Options} (stdin : ByteArray) (files : Files)
    {settings : OrderSettings} (hfiles : o.files ≠ [])
    (h : OrderSettings.ofSources (o.patterns.filter fun p => !p.isEmpty) = .ok settings) :
    runOptions terminal o stdin files = .ofSession
      (Session.runFiles terminal settings o.action ⟨[], [], ⟨[], !o.has .quiet⟩, files, false⟩
        o.files) := by
  unfold runOptions
  rw [h]
  simp [hfiles]

theorem Outcome.code_ofSession (s : Session) :
    ((ofSession s).code = 0 ∨ (ofSession s).code = 1) ∧
      ((ofSession s).code = 1 ↔ s.failed = true) := by
  unfold ofSession
  cases s.failed <;> simp

theorem Options.apart_of_check {o : Options} (h : o.check = .ok (.run o)) {s t : Switch}
    (hst : (s, t) ∈ Switch.conflicts) : ¬ (o.has s && o.has t) = true := by
  unfold check at h
  split at h
  case h_1 => cases h
  case h_2 hnone => exact List.find?_eq_none.1 hnone (s, t) hst

/-- Options that go together write to files if they say so. -/
theorem Options.writes_action {o : Options} (h : o.check = .ok (.run o)) :
    o.action.writes = o.has .write := by
  have htokens : ¬ (o.has .tokens && o.has .write) = true := apart_of_check h (by decide)
  have htree : ¬ (o.has .tree && o.has .write) = true := apart_of_check h (by decide)
  unfold action
  cases hw : o.has .write <;> cases ht : o.has .tokens <;> cases hr : o.has .tree <;>
    simp_all [Action.writes]

theorem Action.eq_of_writes {action : Action} (h : action.writes = true) :
    action = .reorder true := by
  cases action with
  | reorder inPlace => rw [show inPlace = true from h]
  | tokens | tree => cases h

open OrderSettings in
/-- **A run takes each file by itself.** Take options that go together, with files of different
names. If a pattern is refused, nothing is printed and no file changes. Otherwise a file that holds
a text which the action accepts is written back where files are written to, and every other file
stays; where they are not, what is made of the accepted texts is printed, in the order of the files.
The exit code says whether some file holds no text or one that is refused. What is reported are the
errors of these files, in order, and the warnings of the names that any of them repeats, each once. -/
theorem runOptions_isolates_files (terminal : Bool) (o : Options) (stdin : ByteArray)
    (files : Files) (hcheck : o.check = .ok (.run o)) (hfiles : o.files ≠ [])
    (hnodup : o.files.Nodup) :
    let sources := o.patterns.filter fun p => !p.isEmpty
    let outcome := runOptions terminal o stdin files
    (∀ e, ofSources sources = .error e →
      outcome.files = files ∧ outcome.stdout = [] ∧ outcome.code = 1) ∧
    ∀ settings, ofSources sources = .ok settings →
      (o.has .write = true → outcome.stdout = [] ∧
        (∀ name ∈ o.files, ∀ input output, files name = some (.file (encode input)) →
          Document.reorder settings input = .ok output →
            outcome.files name = some (.file (encode output))) ∧
        ∀ name, (name ∈ o.files → ∀ input output, files name = some (.file (encode input)) →
          Document.reorder settings input ≠ .ok output) → outcome.files name = files name) ∧
      (o.has .write = false → outcome.files = files ∧
        outcome.stdout = o.files.flatMap fun name =>
          (files.apply settings o.action name).toOption.getD []) ∧
      (outcome.code = 0 ∨ outcome.code = 1) ∧
      (outcome.code = 1 ↔ ∃ name ∈ o.files,
        (∀ input, files name ≠ some (.file (encode input))) ∨
          ∃ input e, files name = some (.file (encode input)) ∧
            o.action.apply settings input = .error e) ∧
      ∃ ds, outcome.stderr = Diagnostic.renderAll terminal ds ∧
        (ds.filter (·.severity == .error)) =
          o.files.filterMap (files.complaint? settings o.action) ∧
        (ds.filter (·.severity == .warning)) = if o.has .quiet then [] else
          ((o.files.flatMap (files.warnsOf o.action)).map Document.repeatMessage).eraseDups.map
            fun m => ⟨.warning, Document.component, m⟩ := by
  intro sources outcome
  refine ⟨fun e he => ?_, fun settings hsettings => ?_⟩
  · obtain ⟨message, houtcome⟩ := runOptions_of_rejected terminal stdin files he
    rw [show outcome = .failure files 1 message from houtcome]
    exact ⟨rfl, rfl, rfl⟩
  · have hcovers := Session.covers_runFiles terminal settings o.action hnodup
      ⟨[], [], ⟨[], !o.has .quiet⟩, files, false⟩
    have hwrites := Options.writes_action hcheck
    have houtcome := runOptions_of_settings terminal stdin files hfiles hsettings
    rw [show outcome = .ofSession _ from houtcome]
    refine ⟨fun hwrite => ⟨?_, ?_, ?_⟩, fun hwrite => ⟨?_, ?_⟩, ?_, ?_, ?_⟩
    · exact hcovers.stdout_of_writes (hwrites.trans hwrite)
    · intro name hname input output hinput houtput
      have haction := Action.eq_of_writes (hwrites.trans hwrite)
      exact hcovers.files_of_accepted (hwrites.trans hwrite) hname hinput (haction ▸ houtput)
    · intro name hrefused
      have haction := Action.eq_of_writes (hwrites.trans hwrite)
      exact hcovers.files_of_refused (haction ▸ hrefused)
    · exact hcovers.files.trans (Files.behind_of_not_writes (hwrites.trans hwrite) _)
    · exact hcovers.stdout_of_not_writes (hwrites.trans hwrite)
    · exact (Outcome.code_ofSession _).1
    · exact (Outcome.code_ofSession _).2.trans (hcovers.failed_iff rfl)
    · obtain ⟨ds, hds, herrors, hwarnings⟩ := hcovers.stderr
      refine ⟨ds, hds, herrors, hwarnings.trans ?_⟩
      rw [Session.warnOf_fresh]
      cases o.has .quiet <;> rfl

/-- Of a missing file, a directory, a document that breaks off and a good one, the good one is
written back. -/
theorem runOptions_isolates_files_broken :
    let o : Options :=
      ⟨[.write], [], ["none".toList, "dir".toList, "broken".toList, "good".toList]⟩
    let files : Files := ((Files.fresh.put "dir".toList .directory).put "broken".toList
      (.file (encode "<i b".toList))).put "good".toList (.file (encode "<i b a>".toList))
    let outcome := runOptions false o .empty files
    o.check = .ok (.run o) ∧ o.files.Nodup ∧ outcome.code = 1 ∧ outcome.stdout = [] ∧
      outcome.files "good".toList = some (.file (encode "<i a b>".toList)) ∧
      outcome.files "broken".toList = some (.file (encode "<i b".toList)) := by
  intro o files outcome
  have hcheck : o.check = .ok (.run o) := by decide
  have hnodup : o.files.Nodup := by decide
  have hbroken : files "broken".toList = some (.file (encode "<i b".toList)) := rfl
  have hgood : files "good".toList = some (.file (encode "<i b a>".toList)) := rfl
  have herror : ∃ e, Document.reorder ⟨[]⟩ "<i b".toList = .error e := ⟨_, by cbv⟩
  have hsorted : Document.reorder ⟨[]⟩ "<i b a>".toList = .ok "<i a b>".toList := by cbv
  obtain ⟨-, h⟩ := runOptions_isolates_files false o .empty files hcheck (by decide) hnodup
  obtain ⟨hwrite, -, -, hcode, -⟩ := h ⟨[]⟩ rfl
  obtain ⟨hstdout, haccepted, hrefused⟩ := hwrite rfl
  obtain ⟨e, he⟩ := herror
  refine ⟨hcheck, hnodup, hcode.2 ?_, hstdout, haccepted _ (by decide) _ _ hgood hsorted,
    (hrefused _ fun _ input output hinput houtput => ?_).trans hbroken⟩
  · exact ⟨"broken".toList, by decide, .inr ⟨_, e, hbroken, he⟩⟩
  · have hread := Files.readText_eq_ok_iff.2 hinput
    rw [Files.readText_eq_ok_iff.2 hbroken, Except.ok.injEq] at hread
    rw [← hread, he] at houtput
    cases houtput

end MarkupOrder.Command
