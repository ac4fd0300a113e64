import Stylesheet.Command.Compile
import Stylesheet.Proofs.Visits
import Stylesheet.Proofs.WrittenFiles
/-!
# What the compile command leaves behind

`compileReading_cases` says what the command does: it emits the one text that the reading comes to,
or it gives up before anything is printed or written. Where the output can be written, the exit
code tells the two apart (`compile_delivers_or_gives_up`).
-/

namespace Stylesheet.Command

variable {content : Except Failure (Value × Option Value)} {rules : Value} {text text' : String}
  {out : Option Path} {files : FileTree} {report : Report}

/-! ## The text of a reading -/

/-- The text that a reading comes to: nothing for a value that counts as nothing, the CSS of a
mapping or a list. Rules that hold themselves need the same CSS in both forms. -/
inductive ComesTo : Except Failure (Value × Option Value) → String → Prop
  | nothing {rules : Value} : rules.truthy = false → ComesTo (.ok (rules, none)) ""
  | compiled {rules : Value} {text : String} : holdsRules rules →
      (css rules).result = .ok text → ComesTo (.ok (rules, none)) text
  | bothForms {rules other : Value} {text : String} : (css rules).agrees (css other) →
      ComesTo (.ok (rules, none)) text → ComesTo (.ok (rules, some other)) text

/-- A mapping or a list that counts as nothing has no CSS either. -/
theorem css_of_not_truthy (hr : holdsRules rules) (ht : rules.truthy = false) :
    (css rules).result = .ok "" := by
  have he : ruleEntries rules = .ok [] := by
    cases rules with
    | mapping entries => simpa [Value.truthy, ruleEntries] using ht
    | list items =>
      obtain rfl : items = [] := by simpa [Value.truthy] using ht
      rfl
    | _ => cases hr
  refine Logged.result_bind_eq_ok.2 ⟨[], Logged.result_bind_eq_ok.2 ⟨[], he, ?_⟩, rfl⟩
  rw [compileEntries_nil]
  rfl

theorem ComesTo.unique (h : ComesTo content text) (h' : ComesTo content text') : text = text' := by
  induction h with
  | nothing ht =>
    cases h' with
    | nothing => rfl
    | compiled hr hc => exact Except.ok.inj ((css_of_not_truthy hr ht).symm.trans hc)
  | compiled hr hc =>
    cases h' with
    | nothing ht => exact Except.ok.inj (hc.symm.trans (css_of_not_truthy hr ht))
    | compiled _ hc' => exact Except.ok.inj (hc.symm.trans hc')
  | bothForms _ _ ih =>
    cases h' with
    | bothForms _ h' => exact ih h'

/-! ## Reports -/

/-- The text is printed with a line break after it, as plain text, or it is written to the file,
once, and all other files are as they were. -/
def Delivers (text : String) (files : FileTree) (report : Report) : Option Path → Prop
  | none => report.exitCode = 0 ∧ report.files = files ∧
      report.printed = Text.withoutControl (text ++ "\n") ∧
      (Text.escapeChar ∉ text.toList → report.printed = text ++ "\n")
  | some path => report.exitCode = 0 ∧ report.printed = "" ∧
      (∃ after, Outlets.Written text { files } after (some (.file path)) ∧
        report.files = after.files) ∧
      report.files.fileAt? path.resolved = some text ∧
      ∀ parts, parts ≠ path.resolved → report.files.fileAt? parts = files.fileAt? parts

/-- Nothing is printed or written, and the exit code says so. -/
structure GivesUp (files : FileTree) (report : Report) : Prop where
  exitCode : report.exitCode = 1
  printed : report.printed = ""
  files : report.files = files

theorem Delivers.exitCode (h : Delivers text files report out) : report.exitCode = 0 := by
  cases out with
  | none => exact h.1
  | some path => exact h.1

theorem givesUp_refused (log : List LogRecord) (notes : String) (files : FileTree) :
    GivesUp files (.refused log notes files) := ⟨rfl, rfl, rfl⟩

theorem givesUp_stopped (log : List LogRecord) (e : Failure) (files : FileTree) :
    GivesUp files (.stopped log e files) := ⟨rfl, rfl, rfl⟩

theorem givesUp_failed (log : List LogRecord) (e : Failure) (files : FileTree) :
    GivesUp files (.failed log e files) := by
  unfold Report.failed
  split
  · exact givesUp_refused ..
  · exact givesUp_stopped ..

theorem delivers_emit (log : List LogRecord) (text : String)
    (hw : ∀ path ∈ out, files.Writable path) :
    Delivers text files (.emit log text out files) out := by
  cases out with
  | none =>
    refine ⟨rfl, rfl, rfl, fun h => ?_⟩
    have hn : Text.escapeChar ∉ (text ++ "\n").toList := by
      simpa [Text.escapeChar] using h
    simp only [Report.emit, Text.withoutControl, Text.dropControl_eq_self hn, String.ofList_toList]
  | some path =>
    have hok := Outlets.write_of_writable (hw path rfl) text
    have hwritten := Outlets.written_of_ok hok
    simp only [Report.emit, hok]
    exact ⟨rfl, rfl, ⟨_, hwritten, rfl⟩, hwritten.fileAt?⟩

/-! ## The command -/

/-- The report emits the text that the reading comes to, or there is no such text and the report
gives up. -/
def EmitsOrGivesUp (content : Except Failure (Value × Option Value)) (out : Option Path)
    (files : FileTree) (report : Report) : Prop :=
  (∃ text log, ComesTo content text ∧ report = .emit log text out files) ∨
    (∀ text, ¬ ComesTo content text) ∧ GivesUp files report

theorem compileRules_cases (name : Path) (rules : Value) (out : Option Path) (files : FileTree) :
    EmitsOrGivesUp (.ok (rules, none)) out files (compileRules name (.ok rules) out files) := by
  cases ht : rules.truthy with
  | false => exact .inl ⟨"", [], .nothing ht, by simp [compileRules, ht]⟩
  | true =>
    cases hr : holdsRules rules with
    | false =>
      simp only [compileRules, ht, hr, Bool.not_true, Bool.false_eq_true, if_false]
      refine .inr ⟨fun text h => ?_, givesUp_refused ..⟩
      cases h with
      | nothing ht' => cases ht.symm.trans ht'
      | compiled hr' => cases hr.symm.trans hr'
    | true =>
      simp only [compileRules, ht, hr, Bool.not_true, Bool.false_eq_true, if_false, if_true,
        Report.ofLogged]
      cases hc : (css rules).result with
      | ok text => exact .inl ⟨text, (css rules).log, .compiled hr hc, rfl⟩
      | error e =>
        refine .inr ⟨fun text h => ?_, givesUp_failed ..⟩
        cases h with
        | nothing ht' => cases ht.symm.trans ht'
        | compiled _ hc' => cases hc.symm.trans hc'

theorem givesUp_of_error (name : Path) (e : Failure) (out : Option Path) (files : FileTree) :
    GivesUp files (compileRules name (.error e) out files) := by
  unfold compileRules
  split
  · exact givesUp_refused ..
  · exact givesUp_stopped ..
  · next h => cases h

theorem compileReading_cases (name : Path) (content : Except Failure (Value × Option Value))
    (out : Option Path) (files : FileTree) :
    EmitsOrGivesUp content out files (compileReading name content out files) := by
  unfold compileReading
  match content with
  | .error e => exact .inr ⟨nofun, givesUp_of_error name e out files⟩
  | .ok (rules, none) => exact compileRules_cases name rules out files
  | .ok (rules, some other) =>
    by_cases ha : (css rules).agrees (css other)
    · simp only [if_pos ha]
      rcases compileRules_cases name rules out files with ⟨text, log, h, he⟩ | ⟨hn, hg⟩
      · exact .inl ⟨text, log, .bothForms ha h, he⟩
      · refine .inr ⟨fun text h => ?_, hg⟩
        cases h with
        | bothForms _ h => exact hn text h
    · simp only [if_neg ha]
      refine .inr ⟨fun text h => ?_, givesUp_stopped ..⟩
      cases h with
      | bothForms ha' _ => exact ha ha'

/-- The command is all or nothing. Whatever was read from the file of rules, it exits with 0 if and
only if that comes to a text, and then this text is what it delivers; otherwise it gives up. What it
prints is plain text, so control sequences are left out of it; a file gets the text as it is. -/
theorem compile_delivers_or_gives_up (name : Path) (content : Except Failure (Value × Option Value))
    (out : Option Path) (files : FileTree) (hw : ∀ path ∈ out, files.Writable path) :
    let report := compileReading name content out files
    (report.exitCode = 0 ↔ ∃ text, ComesTo content text) ∧
      (∀ text, ComesTo content text → Delivers text files report out) ∧
      ((∀ text, ¬ ComesTo content text) → GivesUp files report) := by
  intro report
  rcases compileReading_cases name content out files with ⟨text, log, h, he⟩ | ⟨hn, hg⟩
  · have hd : Delivers text files report out := by
      simp only [report, he]
      exact delivers_emit log text hw
    refine ⟨⟨fun _ => ⟨text, h⟩, fun _ => hd.exitCode⟩, fun other ho => ?_, fun hn => ?_⟩
    · exact h.unique ho ▸ hd
    · exact absurd h (hn text)
  · refine ⟨⟨fun h0 => ?_, fun ⟨text, h⟩ => absurd h (hn text)⟩, fun text h => absurd h (hn text),
      fun _ => hg⟩
    exact absurd (hg.exitCode.symm.trans h0) Nat.one_ne_zero

/-- One rule, with a value that a terminal shows in red. -/
def redRules : Value :=
  .mapping [(.text ".a", .mapping [(.text "content", .text "\x1b[31mred\x1b[0m")])]

theorem css_redRules :
    (css redRules).result = .ok ".a \x7b content: \x1b[31mred\x1b[0m; \x7d" := by
  let block := ".a \x7b content: \x1b[31mred\x1b[0m; \x7d"
  have own : ownRule ".a" [("content", .text "\x1b[31mred\x1b[0m")] = .ok [block] := rfl
  have node : compileNode ".a" (.mapping [(.text "content", .text "\x1b[31mred\x1b[0m")]) =
      ⟨[], .ok [block]⟩ :=
    compileNode_eq_ok.2 ⟨⟨_, [], []⟩, [block], [], [], [], [], rfl, own, compileEntries_nil _, rfl,
      rfl, rfl⟩
  have rules : Stylesheet.compileRules redRules = ⟨[], .ok [block]⟩ :=
    Logged.ofExcept_bind_eq_ok.2 ⟨_, rfl, compileEntries_cons_eq_ok.2
      ⟨".a", [], [block], [], [], rfl, node, compileEntries_nil _, rfl, by decide +kernel⟩⟩
  refine Logged.result_bind_eq_ok.2 ⟨[block], by rw [rules], ?_⟩
  exact congrArg Except.ok (by decide +kernel)

/-- The file, in a directory that is new, gets the colours. -/
theorem compile_delivers_or_gives_up_red :
    let path : Path := ⟨["dist", "a.css"]⟩
    let report := compileReading ⟨["rules.yaml"]⟩ (.ok (redRules, none)) (some path) {}
    (∀ p ∈ some path, ({} : FileTree).Writable p) ∧ report.exitCode = 0 ∧ report.printed = "" ∧
      report.files.fileAt? path.resolved =
        some ".a \x7b content: \x1b[31mred\x1b[0m; \x7d" := by
  intro path report
  have hw : ∀ p ∈ some path, ({} : FileTree).Writable p := by
    rintro _ ⟨⟩
    exact ⟨_, rfl, rfl, fun h => by cases h⟩
  obtain ⟨-, hd, -⟩ := compile_delivers_or_gives_up ⟨["rules.yaml"]⟩ (.ok (redRules, none))
    (some path) {} hw
  obtain ⟨hexit, hprinted, -, hfile, -⟩ := hd _ (.compiled rfl css_redRules)
  exact ⟨hw, hexit, hprinted, hfile⟩

/-- The same rules are printed without them. -/
theorem compile_prints_no_control :
    let report := compileReading ⟨["rules.yaml"]⟩ (.ok (redRules, none)) none {}
    (css redRules).result = .ok ".a \x7b content: \x1b[31mred\x1b[0m; \x7d" ∧
      report.exitCode = 0 ∧ report.printed = ".a \x7b content: red; \x7d\n" ∧
      report.printed ≠ ".a \x7b content: \x1b[31mred\x1b[0m; \x7d" ++ "\n" := by
  intro report
  have hcomes : ComesTo (.ok (redRules, none)) _ := .compiled rfl css_redRules
  rcases compileReading_cases ⟨["rules.yaml"]⟩ (.ok (redRules, none)) none {} with
    ⟨text, log, h, he⟩ | ⟨hn, -⟩
  · obtain rfl := hcomes.unique h
    have hprinted : report.printed = ".a \x7b content: red; \x7d\n" := by
      rw [show report = _ from he]
      show Text.withoutControl _ = _
      decide +kernel
    refine ⟨css_redRules, ?_, hprinted, ?_⟩
    · rw [show report = _ from he]
      rfl
    · rw [hprinted]
      decide +kernel
  · exact absurd hcomes (hn _)

end Stylesheet.Command
