import Stylesheet.Proofs.SettingsPrecedence
/-!
# Words for switches

A settings file has six words for a switch that is on, and the environment knows four of them. So
the two agree on every text that a file accepts, except on the letters `t` and `y`, which are on in
a file and off in the environment (`environment_agrees_unless_letter`).
-/

namespace Stylesheet.Settings

variable {w : Switch} {s : String} {b : Bool} {environment : List (String × String)}
  {files : FileTree} {path : Option Path} {fields : List (String × RawSetting)}
  {settings : Settings}

/-! ## Texts -/

theorem readSwitch_text {text : String} : readSwitch (.text text) = .ok b ↔
    (b = true ∧ lowerAscii text ∈ onWords) ∨ (b = false ∧ lowerAscii text ∈ offWords) := by
  have apart : ∀ word ∈ offWords, word ∉ onWords := by decide
  simp only [readSwitch, List.contains_iff_mem]
  split
  · next hon =>
    have hoff : lowerAscii text ∉ offWords := fun h => apart _ h hon
    simp [hon, hoff, eq_comm]
  · next hon =>
    split
    · next hoff => simp [hon, hoff, eq_comm]
    · next hoff => simp [hon, hoff]

/-- The letters that only a file knows. -/
def fileLetters : List String := ["t", "y"]

/-- The environment takes a text that a file accepts as the file does, or for off. -/
theorem environmentSwitch_of_readSwitch (h : readSwitch (.text (Text.strip s)) = .ok b) :
    environmentSwitch s = (b && !fileLetters.contains (lowerAscii (Text.strip s))) := by
  have on : ∀ word ∈ onWords, environmentWords.contains word = !fileLetters.contains word := by
    decide
  have off : ∀ word ∈ offWords, environmentWords.contains word = false := by decide
  rcases readSwitch_text.1 h with ⟨rfl, hw⟩ | ⟨rfl, hw⟩
  · rw [environmentSwitch, on _ hw, Bool.true_and]
  · rw [environmentSwitch, off _ hw, Bool.false_and]

/-! ## Loading -/

/-- What is loaded is read from the environment and from the fields of a file. -/
theorem load_of_readFields (h : readFields files path = .ok fields) :
    load files path environment =
      ofFields (·.among (environmentFields environment ++ fields)) := by
  rw [load_eq, h]
  exact ofRaw_eq _

theorem among_append (f : Field) :
    f.among (environmentFields environment ++ fields) =
      ((f.inEnvironment environment).or (fields.lookup f.name)).getD f.standard := by
  rw [Field.among, List.lookup_append, Field.environmentFields_eq, Field.lookup_listed]

theorem inEnvironment_switch (h : environment.lookup w.environmentName = some s) :
    Field.inEnvironment environment (.switch w) = some (.switch (environmentSwitch s)) := by
  simp only [Field.inEnvironment, h, Option.map_some, environmentSwitch, environmentWords,
    List.contains_eq_mem]

theorem eq_switch_of_name {f : Field} (h : f.name = w.name) : f = .switch w := by
  rcases f with (_ | _) | _ <;> cases w <;> first | rfl | exact absurd h (by decide)

/-- A switch that only the file gives is read from the file. -/
theorem readSwitch_of_load (hf : readFields files path = .ok fields) {v : RawSetting}
    (hg : fields.lookup w.name = some v) (he : environment.lookup w.environmentName = none)
    (hl : load files path environment = .ok settings) : readSwitch v = .ok (w.value settings) := by
  rw [load_of_readFields hf, ofFields_eq_ok] at hl
  have h := hl.switches w
  have hnone : Field.inEnvironment environment (.switch w) = none := by
    simp only [Field.inEnvironment, he, Option.map_none]
  rw [among_append, hnone, show (Field.switch w).name = w.name from rfl, hg] at h
  exact h

/-- A switch that the environment gives is on if its text is one of the words there, whatever the
file says. -/
theorem value_of_environment (he : environment.lookup w.environmentName = some s)
    (hl : load files path environment = .ok settings) :
    w.value settings = environmentSwitch s := by
  cases hf : readFields files path with
  | error e =>
    rw [load_eq, hf] at hl
    cases hl
  | ok fields =>
    rw [load_of_readFields hf, ofFields_eq_ok] at hl
    have h := hl.switches w
    rw [among_append, inEnvironment_switch he] at h
    exact (Except.ok.inj h).symm

/-- A switch that the environment gives is never what a load fails for. -/
theorem load_error_of_environment (he : environment.lookup w.environmentName = some s)
    {e : Failure} (hl : load files path environment = .error e) :
    readFields files path = .error e ∨
      ∃ issues, e = .rejected issues ∧ ∀ issue ∈ issues, issue.path ≠ [.field w.name] := by
  cases hf : readFields files path with
  | error d =>
    rw [load_eq, hf] at hl
    cases hl
    exact .inl rfl
  | ok fields =>
    rw [load_of_readFields hf, ofFields_eq_error] at hl
    obtain ⟨-, rfl⟩ := hl
    refine .inr ⟨_, rfl, fun issue hi hp => ?_⟩
    obtain ⟨f, -, hf⟩ := List.mem_filterMap.1 hi
    obtain ⟨reason, hr, rfl⟩ := Option.map_eq_some_iff.1 hf
    obtain rfl : f = .switch w := eq_switch_of_name (by simpa using hp)
    simp only [among_append, inEnvironment_switch he] at hr
    cases hr

/-- Let a settings file be accepted that gives a switch the text `s` without the white space around
it. Then every load with that switch set to `s` in the environment takes it as the file does,
whatever the other file says, unless `s` is one of the letters `t` and `y`, capital or not: these
are on in the file and off in the environment. Such a load never fails because of the switch. -/
theorem environment_agrees_unless_letter (w : Switch) (s : String)
    (hf : readFields files path = .ok fields)
    (hg : fields.lookup w.name = some (.text (Text.strip s)))
    (he : environment.lookup w.environmentName = none)
    (hl : load files path environment = .ok settings) :
    ∀ files' path' environment', environment'.lookup w.environmentName = some s →
      (∀ settings', load files' path' environment' = .ok settings' →
        (lowerAscii (Text.strip s) ∉ ["t", "y"] → w.value settings' = w.value settings) ∧
        (lowerAscii (Text.strip s) ∈ ["t", "y"] →
          w.value settings = true ∧ w.value settings' = false)) ∧
      ∀ e, load files' path' environment' = .error e → readFields files' path' = .error e ∨
        ∃ issues, e = .rejected issues ∧ ∀ issue ∈ issues, issue.path ≠ [.field w.name] := by
  intro files' path' environment' he'
  have hfile := readSwitch_of_load hf hg he hl
  refine ⟨fun settings' hl' => ?_, fun e => load_error_of_environment he'⟩
  rw [value_of_environment he' hl', environmentSwitch_of_readSwitch hfile]
  constructor
  · intro hn
    rw [fileLetters, List.contains_eq_mem, decide_eq_false hn, Bool.not_false, Bool.and_true]
  · intro hm
    have letter : ∀ word ∈ ["t", "y"], word ∉ offWords := by decide
    rcases readSwitch_text.1 hfile with ⟨hon, -⟩ | ⟨-, hoff⟩
    · rw [fileLetters, List.contains_eq_mem, decide_eq_true hm, Bool.not_true, Bool.and_false]
      exact ⟨hon, rfl⟩
    · exact absurd hoff (letter _ hm)

/-- A file that takes `YES` for on, and an environment that says so over a file that cannot be
read. -/
theorem environment_agrees_unless_letter_yes :
    let accepted : FileTree :=
      ⟨[(["stylemap.toml"], .file "[stylemap]\nidentity_aware = \"YES\"\n")]⟩
    let fields := [("identity_aware", RawSetting.text "YES")]
    let settings : Settings := { identityAware := true }
    let refused : FileTree := ⟨[(["stylemap.toml"], .file "[stylemap]\nidentity_aware = \"?\"\n")]⟩
    let environment := [("STYLEMAP_IDENTITY_AWARE", " YES\n")]
    readFields accepted none = .ok fields ∧
      fields.lookup (Switch.name .identityAware) = some (.text (Text.strip " YES\n")) ∧
      ([] : List (String × String)).lookup (Switch.environmentName .identityAware) = none ∧
      load accepted none [] = .ok settings ∧
      environment.lookup (Switch.environmentName .identityAware) = some " YES\n" ∧
      ∃ settings', load refused none environment = .ok settings' ∧
        settings'.identityAware = true := by
  intro accepted fields settings refused environment
  have hf : readFields accepted none = .ok fields := eq_ok_of_toOption (by decide +kernel)
  have hg : fields.lookup (Switch.name .identityAware) = some (.text (Text.strip " YES\n")) := by
    decide +kernel
  have hl : load accepted none [] = .ok settings := eq_ok_of_toOption (by decide +kernel)
  have hl' : load refused none environment = .ok settings := eq_ok_of_toOption (by decide +kernel)
  have h := environment_agrees_unless_letter .identityAware " YES\n" hf hg rfl hl refused none
    environment rfl
  exact ⟨hf, hg, rfl, hl, rfl, settings, hl', (h.1 settings hl').1 (by decide +kernel)⟩

/-- Letters that are on in the file are off in the environment. -/
theorem environment_overlooks_letters :
    let files : FileTree := ⟨[(["stylemap.toml"], .file
      "[stylemap]\nrequire_stylesheet = \"Y\"\nidentity_aware = \"t\"\n")]⟩
    let environment := [("STYLEMAP_REQUIRE_STYLESHEET", "Y"), ("STYLEMAP_IDENTITY_AWARE", "t")]
    load files none [] = .ok { requireStylesheet := true, identityAware := true } ∧
      load files none environment = .ok { requireStylesheet := false, identityAware := false } :=
  ⟨eq_ok_of_toOption (by decide +kernel), eq_ok_of_toOption (by decide +kernel)⟩

end Stylesheet.Settings
