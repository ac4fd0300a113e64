import Stylesheet.Settings.Load
/-!
# Which source of a setting counts

A setting may be given by the environment, by the section of its own and by the section below
`tool`. The first of these that gives it counts and the others are never looked at. Settings are
read from the values that count: `Field.effective` says which ones they are, `ofFields` what comes
of them, and `load_by_precedence` puts both together.
-/

namespace Stylesheet.Settings

/-! ## Fields -/

/-- The switches among the settings. -/
inductive Switch where
  | requireStylesheet
  | identityAware
  deriving DecidableEq, Repr

namespace Switch

/-- The field of a switch. -/
def name : Switch → String
  | .requireStylesheet => "require_stylesheet"
  | .identityAware => "identity_aware"

/-- The name that a switch has in the environment. -/
def environmentName : Switch → String
  | .requireStylesheet => "STYLEMAP_REQUIRE_STYLESHEET"
  | .identityAware => "STYLEMAP_IDENTITY_AWARE"

/-- How a switch stands that nothing sets. -/
def standard : Switch → Bool
  | .requireStylesheet => true
  | .identityAware => false

/-- How a switch stands. -/
def value (w : Switch) (s : Settings) : Bool :=
  match w with
  | .requireStylesheet => s.requireStylesheet
  | .identityAware => s.identityAware

end Switch

/-- The settings, one by one. -/
inductive Field where
  | switch (w : Switch)
  | sourceUrl
  deriving DecidableEq, Repr

namespace Field

/-- The fields in order. -/
def all : List Field := [.switch .requireStylesheet, .switch .identityAware, .sourceUrl]

/-- The name of a field. -/
def name : Field → String
  | .switch w => w.name
  | .sourceUrl => "source_url"

/-- What a field comes from if nothing gives it. -/
def standard : Field → RawSetting
  | .switch w => .switch w.standard
  | .sourceUrl => .absent

/-- Why the field cannot be read from a value, if it cannot. -/
def rejection? (f : Field) (v : RawSetting) : Option Rejection :=
  match f with
  | .switch _ => match readSwitch v with
    | .ok _ => none
    | .error reason => some reason
  | .sourceUrl => match readText v with
    | .ok _ => none
    | .error reason => some reason

/-- What a field is read from among raw values. -/
def among (raw : List (String × RawSetting)) (f : Field) : RawSetting :=
  (raw.lookup f.name).getD f.standard

end Field

/-! ## Reading -/

/-- The settings that a value for each field says. -/
structure Says (raw : Field → RawSetting) (s : Settings) : Prop where
  switches : ∀ w : Switch, readSwitch (raw (.switch w)) = .ok (w.value s)
  url : readText (raw .sourceUrl) = .ok s.sourceUrl

/-- The fields that cannot be read, in order. -/
def issues (raw : Field → RawSetting) : List Issue :=
  Field.all.filterMap fun f => (f.rejection? (raw f)).map fun reason =>
    { path := [.field f.name], reason }

/-- A field that is not given is read as if its standard value were. -/
theorem readField_eq {α : Type} (raw : List (String × RawSetting)) (f : Field) {default : α}
    (read : RawSetting → Except Rejection α) (hs : read f.standard = .ok default) :
    readField raw f.name default read = match read (f.among raw) with
      | .ok a => (a, [])
      | .error reason => (default, [{ path := [.field f.name], reason }]) := by
  unfold readField Field.among
  cases raw.lookup f.name with
  | none => rw [Option.getD_none, hs]
  | some v => rfl

/-- Reads settings from a value for each field. -/
def ofFields (raw : Field → RawSetting) : Except Failure Settings :=
  match readSwitch (raw (.switch .requireStylesheet)), readSwitch (raw (.switch .identityAware)),
    readText (raw .sourceUrl) with
  | .ok requireStylesheet, .ok identityAware, .ok sourceUrl =>
    .ok { requireStylesheet, identityAware, sourceUrl }
  | _, _, _ => .error (.rejected (issues raw))

/-- Of raw values only those of the fields are looked at, and of these the first ones. -/
theorem ofRaw_eq (raw : List (String × RawSetting)) : ofRaw raw = ofFields (·.among raw) := by
  have required : readField raw requireStylesheetField true readSwitch = _ :=
    readField_eq raw (.switch .requireStylesheet) readSwitch rfl
  have aware : readField raw identityAwareField false readSwitch = _ :=
    readField_eq raw (.switch .identityAware) readSwitch rfl
  have url : readField raw sourceUrlField none readText = _ :=
    readField_eq raw .sourceUrl readText rfl
  simp only [ofRaw, ofFields, required, aware, url, issues, Field.all, Field.rejection?]
  cases hr : readSwitch (Field.among raw (.switch .requireStylesheet)) <;>
    cases ha : readSwitch (Field.among raw (.switch .identityAware)) <;>
      cases hu : readText (Field.among raw .sourceUrl) <;> simp [hr, ha, hu]

theorem rejection?_switch {w : Switch} {v : RawSetting} :
    (Field.switch w).rejection? v = none ↔ ∃ b, readSwitch v = .ok b := by
  simp only [Field.rejection?]
  cases readSwitch v <;> simp

theorem rejection?_sourceUrl {v : RawSetting} :
    Field.sourceUrl.rejection? v = none ↔ ∃ text, readText v = .ok text := by
  simp only [Field.rejection?]
  cases readText v <;> simp

theorem exists_settings_iff {raw : Field → RawSetting} :
    (∃ s, Says raw s) ↔ ∀ f : Field, f.rejection? (raw f) = none := by
  constructor
  · rintro ⟨s, hw, hu⟩ f
    cases f with
    | switch w => exact rejection?_switch.2 ⟨_, hw w⟩
    | sourceUrl => exact rejection?_sourceUrl.2 ⟨_, hu⟩
  · intro h
    obtain ⟨requireStylesheet, hr⟩ := rejection?_switch.1 (h (.switch .requireStylesheet))
    obtain ⟨identityAware, ha⟩ := rejection?_switch.1 (h (.switch .identityAware))
    obtain ⟨sourceUrl, hu⟩ := rejection?_sourceUrl.1 (h .sourceUrl)
    refine ⟨{ requireStylesheet, identityAware, sourceUrl }, fun w => ?_, hu⟩
    cases w with
    | requireStylesheet => exact hr
    | identityAware => exact ha

variable {raw : Field → RawSetting}

theorem ofFields_eq_ok {s : Settings} : ofFields raw = .ok s ↔ Says raw s := by
  unfold ofFields
  constructor
  · intro h
    split at h
    · next hr ha hu =>
      cases h
      refine ⟨fun w => ?_, hu⟩
      cases w with
      | requireStylesheet => exact hr
      | identityAware => exact ha
    · cases h
  · rintro ⟨hw, hu⟩
    rw [hw .requireStylesheet, hw .identityAware, hu]
    rfl

/-- Settings cannot be read if one of the fields cannot be, and then all of these are reported. -/
theorem ofFields_eq_error {e : Failure} :
    ofFields raw = .error e ↔
      (∃ f : Field, f.rejection? (raw f) ≠ none) ∧ e = .rejected (issues raw) := by
  have hissues : ∀ e, ofFields raw = .error e → e = .rejected (issues raw) := by
    intro e h
    unfold ofFields at h
    split at h <;> cases h
    rfl
  constructor
  · intro h
    refine ⟨Classical.not_forall.1 fun hn => ?_, hissues e h⟩
    obtain ⟨s, hs⟩ := exists_settings_iff.2 hn
    cases h.symm.trans (ofFields_eq_ok.2 hs)
  · rintro ⟨⟨f, hf⟩, rfl⟩
    cases h : ofFields raw with
    | ok s => exact absurd (exists_settings_iff.1 ⟨s, ofFields_eq_ok.1 h⟩ f) hf
    | error e => rw [hissues e h]

/-! ## Sources -/

namespace Field

/-- What the environment gives for a field: for a switch, whether its text is one of the words for
on; an empty address does not count. -/
def inEnvironment (environment : List (String × String)) : Field → Option RawSetting
  | .switch w => (environment.lookup w.environmentName).map fun s =>
    .switch (decide (lowerAscii (Text.strip s) ∈ ["1", "true", "yes", "on"]))
  | .sourceUrl => ((environment.lookup "STYLEMAP_SOURCE_URL").filter (· ≠ "")).map .text

/-- What a table gives for a field. -/
def inTable (entries : Toml.Entries) (f : Field) : Option RawSetting :=
  (entries.lookup f.name).map rawOfToml

/-- What counts for a field: what the environment gives, or else the section of its own, or else
the section below `tool`, or else the standard. -/
def effective (environment : List (String × String)) (own tool : Toml.Entries) (f : Field) :
    RawSetting :=
  ((f.inEnvironment environment).or ((f.inTable own).or (f.inTable tool))).getD f.standard

/-- Fields that are listed under their names are found there. -/
theorem lookup_listed (given : Field → Option RawSetting) (f : Field) :
    (all.filterMap fun f => (given f).map (f.name, ·)).lookup f.name = given f := by
  simp only [all, List.filterMap_cons, List.filterMap_nil]
  rcases f with (_ | _) | _ <;> cases given (.switch .requireStylesheet) <;>
    cases given (.switch .identityAware) <;> cases given .sourceUrl <;> rfl

theorem environmentFields_eq (environment : List (String × String)) :
    environmentFields environment =
      all.filterMap fun f => (f.inEnvironment environment).map (f.name, ·) := by
  have hurl : environmentFields environment =
      (switchVariables.filterMap fun v =>
        (environment.lookup v.1).map fun s => (v.2, .switch (environmentSwitch s))) ++
      ((inEnvironment environment .sourceUrl).map (name .sourceUrl, ·)).toList := by
    simp only [environmentFields, inEnvironment]
    cases environment.lookup "STYLEMAP_SOURCE_URL" with
    | none => rfl
    | some s =>
      by_cases hs : s = ""
      · subst hs
        rfl
      · simp [hs, Option.filter_some, name, sourceUrlField]
  have hswitch : ∀ s, environmentSwitch s =
      decide (lowerAscii (Text.strip s) ∈ ["1", "true", "yes", "on"]) := fun s =>
    List.contains_eq_mem ..
  simp only [hurl, switchVariables, hswitch, all, List.filterMap_cons, List.filterMap_nil]
  generalize inEnvironment environment .sourceUrl = url
  simp only [inEnvironment, Switch.environmentName]
  cases environment.lookup "STYLEMAP_REQUIRE_STYLESHEET" <;>
    cases environment.lookup "STYLEMAP_IDENTITY_AWARE" <;> cases url <;> rfl

end Field

/-! ## Documents -/

/-- The document of a settings file, or of the settings file of the current directory if none is
named; a file that is not there holds nothing. -/
def readDocument (files : FileTree) (path : Option Path) : Except Failure Toml.Entries :=
  match path.or (findFile files ⟨[]⟩) with
  | none => .ok []
  | some path => if files.contains path then do Toml.parse (← files.read path) else .ok []

/-- The fields of a settings file, those that win first. -/
def readFields (files : FileTree) (path : Option Path) :
    Except Failure (List (String × RawSetting)) := do
  documentFields (← readDocument files path)

/-- What the environment gives comes before the fields of the file. -/
theorem load_eq (files : FileTree) (path : Option Path) (environment : List (String × String)) :
    load files path environment =
      readFields files path >>= fun fields => ofRaw (environmentFields environment ++ fields) := by
  simp only [load, readFields, readDocument, fileFields]
  cases path.or (findFile files ⟨[]⟩) with
  | none => rfl
  | some path =>
    dsimp only
    split
    · cases files.read path <;> rfl
    · rfl

/-- The table under a key; where there is none it is empty. -/
def tableAt (key : String) (entries : Toml.Entries) : Option Toml.Entries :=
  match entries.lookup key with
  | none => some []
  | some (.table inner) => some inner
  | some _ => none

/-- The two sections of a document: their places hold tables, or nothing. -/
structure Sections (document own tool : Toml.Entries) : Prop where
  atTop : tableAt "stylemap" document = some own
  belowTool : (tableAt "tool" document).bind (tableAt "stylemap") = some tool

theorem lookup_of_tableAt {key : String} {entries inner : Toml.Entries}
    (h : tableAt key entries = some inner) :
    (entries.lookup key = none ∧ inner = []) ∨ entries.lookup key = some (.table inner) := by
  unfold tableAt at h
  split at h <;> cases h
  · exact .inl ⟨‹_›, rfl⟩
  · exact .inr ‹_›

theorem getD_of_tableAt {key : String} {entries inner : Toml.Entries}
    (h : tableAt key entries = some inner) :
    (entries.lookup key).getD (.table []) = .table inner := by
  rcases lookup_of_tableAt h with ⟨hl, rfl⟩ | hl <;> rw [hl] <;> rfl

theorem mapM_namedField (entries : Toml.Entries) :
    (entries.map fun e => ((Toml.Value.text e.1, rawOfToml e.2) : SectionField)).mapM namedField =
      .ok (entries.map fun e => (e.1, rawOfToml e.2)) := by
  induction entries with
  | nil => rfl
  | cons e rest ih =>
    rw [List.map_cons, List.mapM_cons, ih]
    rfl

/-- The fields of the section at the top come before those of the section below `tool`. -/
theorem documentFields_of_sections {document own tool : Toml.Entries}
    (h : Sections document own tool) :
    documentFields document = .ok ((own ++ tool).map fun e => (e.1, rawOfToml e.2)) := by
  have htool : toolSection document = .ok (.table tool) := by
    obtain ⟨entries, hentries, hsection⟩ := Option.bind_eq_some_iff.1 h.belowTool
    have hinner := getD_of_tableAt hsection
    unfold toolSection
    rcases lookup_of_tableAt hentries with ⟨hl, rfl⟩ | hl <;> rw [hl]
    · exact congrArg Except.ok hinner
    · exact congrArg Except.ok hinner
  have hown : (document.lookup sectionName).getD (.table []) = .table own :=
    getD_of_tableAt h.atTop
  simp only [documentFields, htool, hown]
  show (own.map _ ++ tool.map _).mapM namedField = _
  rw [← List.map_append]
  exact mapM_namedField _

theorem lookup_rawOfToml (entries : Toml.Entries) (key : String) :
    (entries.map fun e => (e.1, rawOfToml e.2)).lookup key =
      (entries.lookup key).map rawOfToml := by
  induction entries with
  | nil => rfl
  | cons e rest ih =>
    rw [List.map_cons, List.lookup_cons, List.lookup_cons, ih]
    cases key == e.1 <;> rfl

theorem eq_ok_of_toOption {ε α : Type} {x : Except ε α} {a : α} (h : x.toOption = some a) :
    x = .ok a := by
  cases x with
  | error e => cases h
  | ok b => exact congrArg Except.ok (Option.some.inj h)

/-! ## Precedence -/

section

variable {files files' : FileTree} {path path' : Option Path}
  {environment environment' : List (String × String)}
  {document document' own own' tool tool' : Toml.Entries}

theorem Field.among_sources (environment : List (String × String)) (own tool : Toml.Entries)
    (f : Field) :
    f.among (environmentFields environment ++ (own ++ tool).map fun e => (e.1, rawOfToml e.2)) =
      f.effective environment own tool := by
  rw [among, List.lookup_append, environmentFields_eq, lookup_listed, lookup_rawOfToml,
    List.lookup_append, Option.map_or]
  rfl

/-- Loading settings is reading the values that count. -/
theorem load_of_sections (hd : readDocument files path = .ok document)
    (hs : Sections document own tool) :
    load files path environment = ofFields (Field.effective environment own tool) := by
  rw [load_eq, readFields, hd]
  show documentFields document >>= _ = _
  rw [documentFields_of_sections hs]
  show ofRaw _ = _
  rw [ofRaw_eq]
  exact congrArg ofFields (funext (Field.among_sources environment own tool))

/-- Sources that differ for a field at most where an earlier source gives it. -/
structure Field.Unshadowed (f : Field) (environment environment' : List (String × String))
    (own own' tool tool' : Toml.Entries) : Prop where
  outside : f.inEnvironment environment' = f.inEnvironment environment
  atTop : f.inEnvironment environment = none → f.inTable own' = f.inTable own
  belowTool : f.inEnvironment environment = none → f.inTable own = none →
    f.inTable tool' = f.inTable tool

theorem Field.Unshadowed.effective {f : Field}
    (h : f.Unshadowed environment environment' own own' tool tool') :
    f.effective environment' own' tool' = f.effective environment own tool := by
  unfold Field.effective
  rw [h.outside]
  cases he : f.inEnvironment environment with
  | some v => rfl
  | none =>
    rw [h.atTop he]
    cases ho : f.inTable own with
    | some v => rfl
    | none => rw [h.belowTool he ho]

/-- For each field one value counts: what the environment gives, or else the section at the top of
the document, or else the section below `tool`, or else the standard. Loading gives the settings
that these values say. It fails if one of them at least cannot be read, and then it reports the
fields that cannot be, in order. Values that do not count make no difference, and nor does anything
else in the environment and in the document. -/
theorem load_by_precedence (hd : readDocument files path = .ok document)
    (hs : Sections document own tool) (environment : List (String × String)) :
    let counts := Field.effective environment own tool
    (∀ s, load files path environment = .ok s ↔ Says counts s) ∧
    (∀ e, load files path environment = .error e ↔
      (∃ f : Field, f.rejection? (counts f) ≠ none) ∧ e = .rejected (issues counts)) ∧
    ∀ files' path' environment' document' own' tool',
      readDocument files' path' = .ok document' → Sections document' own' tool' →
      (∀ f : Field, f.Unshadowed environment environment' own own' tool tool') →
      load files' path' environment' = load files path environment := by
  intro counts
  have hload : load files path environment = ofFields counts := load_of_sections hd hs
  rw [hload]
  refine ⟨fun s => ofFields_eq_ok, fun e => ofFields_eq_error, ?_⟩
  intro files' path' environment' document' own' tool' hd' hs' hu
  rw [load_of_sections hd' hs']
  exact congrArg ofFields (funext fun f => (hu f).effective)

/-- The environment hides a value that cannot be read, and the section at the top hides one that
can. -/
theorem load_by_precedence_hidden :
    let files : FileTree := ⟨[(["stylemap.toml"], .file
      ("[stylemap]\nrequire_stylesheet = \"?\"\nidentity_aware = \"?\"\n" ++
        "[tool.stylemap]\nidentity_aware = true\nsource_url = false\n"))]⟩
    let environment := [("STYLEMAP_REQUIRE_STYLESHEET", " No "), ("STYLEMAP_SOURCE_URL", "")]
    let own : Toml.Entries :=
      [("require_stylesheet", .text "?"), ("identity_aware", .text "?")]
    let tool : Toml.Entries := [("identity_aware", .bool true), ("source_url", .bool false)]
    let document : Toml.Entries :=
      [("stylemap", .table own), ("tool", .table [("stylemap", .table tool)])]
    readDocument files none = .ok document ∧ Sections document own tool ∧
      load files none environment = .error (.rejected
        [{ path := [.field "identity_aware"], reason := .unreadableSwitch },
          { path := [.field "source_url"], reason := .notText }]) := by
  intro files environment own tool document
  let text := "[stylemap]\nrequire_stylesheet = \"?\"\nidentity_aware = \"?\"\n" ++
    "[tool.stylemap]\nidentity_aware = true\nsource_url = false\n"
  have hf : findFile files ⟨[]⟩ = some ⟨["stylemap.toml"]⟩ := by decide +kernel
  have hr : files.read ⟨["stylemap.toml"]⟩ = .ok text := eq_ok_of_toOption (by decide +kernel)
  have hc : files.contains ⟨["stylemap.toml"]⟩ = true := by decide +kernel
  have hp : Toml.parse text = .ok document := by
    simp only [text, String.reduceAppend, String.reduceToList, Toml.parse]
    rfl
  have hd : readDocument files none = .ok document := by
    rw [readDocument, Option.none_or, hf]
    simp only [hc, if_true]
    exact Failure.bind_eq_ok.2 ⟨text, hr, hp⟩
  have hs : Sections document own tool := ⟨rfl, rfl⟩
  exact ⟨hd, hs, ((load_by_precedence hd hs environment).2.1 _).2
    ⟨⟨.sourceUrl, by decide⟩, by decide⟩⟩

end

end Stylesheet.Settings
