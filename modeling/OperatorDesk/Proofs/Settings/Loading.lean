/-
This file says that loading a settings file agrees with reading its content. Settings are loaded
exactly if no file was named and there is none at the usual place, or if the file holds a text whose
settings can be used. Otherwise the error is the one that the text alone gives, said of the file
itself, or it tells why the file gives no text. This holds whatever decodes the text, in whatever
words.
-/

import OperatorDesk.Settings.File
import OperatorDesk.Proofs.Settings.Running

namespace OperatorDesk

/-! ### Files that are read -/

namespace Files

variable {files : Files} {name : String}

theorem fromUTF8?_eq_some_iff {content : ByteArray} {text : String} :
    String.fromUTF8? content = some text ↔ content = text.toUTF8 := by
  unfold String.fromUTF8?
  constructor
  · intro decoded
    split at decoded
    · exact congrArg String.toUTF8 (Option.some_inj.mp decoded)
    · cases decoded
  · rintro rfl
    exact dif_pos text.isValidUTF8

theorem readText_of_text {text : String} (found : files.find name = .ok (.file text.toUTF8)) :
    files.readText name = .ok text := by
  simp only [readText, found, fromUTF8?_eq_some_iff.mpr rfl]

theorem readText_eq_ok_iff {text : String} :
    files.readText name = .ok text ↔ files.find name = .ok (.file text.toUTF8) := by
  refine ⟨fun read => ?_, readText_of_text⟩
  unfold readText at read
  split at read
  · cases read
  · cases read
  · cases read
  · next content found =>
    split at read
    · next decoded =>
      obtain rfl := Except.ok.inj read
      rw [found, fromUTF8?_eq_some_iff.mp decoded]
    · cases read

theorem readText_of_missing (gone : files.find name = .error .missing) :
    files.readText name = .error .missing := by
  simp only [readText, gone]

theorem readText_of_notDirectory (blocked : files.find name = .error .notDirectory) :
    files.readText name = .error .notDirectory := by
  simp only [readText, blocked]

theorem readText_of_directory {entries : List (String × FileNode)}
    (found : files.find name = .ok (.directory entries)) :
    files.readText name = .error .isDirectory := by
  simp only [readText, found]

theorem readText_of_bytes {content : ByteArray} (found : files.find name = .ok (.file content))
    (noText : ∀ text : String, content ≠ text.toUTF8) :
    files.readText name = .error .notText := by
  have undecoded : String.fromUTF8? content = none :=
    Option.eq_none_iff_forall_ne_some.mpr fun text decoded =>
      noText text (fromUTF8?_eq_some_iff.mp decoded)
  simp only [readText, found, undecoded]

theorem holds_of_find {node : FileNode} (found : files.find name = .ok node) :
    files.holds name = true := by
  rw [holds, found]

end Files

namespace Settings

variable {decode : Decoder} {settings : Settings} {text : String}

/-! ### Texts -/

/-- What is wrong with a text is that it holds no settings, or that they cannot be used. -/
theorem parse_error {error : StartupError} (fails : parse decode text = .error error) :
    (∃ details, error = .settingsMalformed inlinePath details) ∨
      ∃ details, error = .settingsUnusable details := by
  unfold parse at fails
  split at fails
  · cases fails
  split at fails
  · unfold checked at fails
    split at fails
    · next details _ => exact Or.inr ⟨details, (Except.error.inj fails).symm⟩
    · cases fails
  · next details _ => exact Or.inl ⟨details, (Except.error.inj fails).symm⟩

theorem checked_standard : standard.checked = .ok standard := rfl

/-- The settings that a text gives can be used. -/
theorem checked_of_parse (parsed : parse decode text = .ok settings) :
    settings.checked = .ok settings := by
  unfold parse at parsed
  split at parsed
  · rw [← Except.ok.inj parsed]
    exact checked_standard
  split at parsed
  · obtain ⟨rfl, -⟩ := checked_eq_ok parsed
    exact parsed
  · cases parsed

/-- The reader of YAML settings is the reader with the decoder of YAML. -/
theorem parse_decoder (text : String) : parse Yaml.decoder text = ofText inlinePath text := by
  unfold parse ofText Yaml.decoder
  cases Yaml.ofChars? text.toList <;> rfl

/-! ### The file that is read -/

/-- The path of the settings file: the one that was named, or else the usual one. -/
def pathOf (files : Files) (named : Option String) : String :=
  named.getD (Places.settingsFile files.home)

variable {files : Files} {named : Option String}

/-- There is a file to be read, if only because it was named. -/
def IsPresent (files : Files) (named : Option String) : Prop :=
  named = none → files.holds (pathOf files none) = true

theorem loadWith_of_present (isPresent : IsPresent files named) :
    loadWith decode files named = ofFile decode files (pathOf files named) := by
  unfold loadWith source
  cases named with
  | some path => rfl
  | none =>
    have holds : files.holds (Places.settingsFile files.home) = true := isPresent rfl
    simp only [holds, if_true]
    rfl

theorem loadWith_of_absent (absent : files.holds (pathOf files none) = false) :
    loadWith decode files none = .ok standard := by
  have lacks : files.holds (Places.settingsFile files.home) = false := absent
  simp only [loadWith, source, lacks, Bool.false_eq_true, if_false]

theorem isPresent_of_find {node : FileNode}
    (found : files.find (pathOf files named) = .ok node) : IsPresent files named := by
  rintro rfl
  exact Files.holds_of_find found

theorem isPresent_of_named {path : String} (isNamed : named = some path) :
    IsPresent files named := by
  rintro rfl
  cases isNamed

/-- A file that holds a text gives what the text gives, said of the file. -/
theorem loadWith_of_text (found : files.find (pathOf files named) = .ok (.file text.toUTF8)) :
    loadWith decode files named =
      (parse decode text).mapError (located (pathOf files named)) := by
  rw [loadWith_of_present (isPresent_of_find found), ofFile, Files.readText_of_text found]

/-- A file that holds no text gives an error of the file system. -/
theorem loadWith_of_failure (isPresent : IsPresent files named) {failure : Files.ReadFailure}
    (unread : files.readText (pathOf files named) = .error failure)
    (there : failure ≠ .missing) :
    loadWith decode files named =
      .error (.fileFailure "reading config" (pathOf files named) failure.message) := by
  rw [loadWith_of_present isPresent, ofFile, unread]
  cases failure with
  | missing => exact absurd rfl there
  | _ => rfl

theorem loadWith_of_missing {path : String} (isNamed : named = some path)
    (gone : files.find (pathOf files named) = .error .missing) :
    loadWith decode files named =
      .error (.settingsNotFound (pathOf files named)
        (some Files.ReadFailure.missing.message)) := by
  rw [loadWith_of_present (isPresent_of_named isNamed), ofFile, Files.readText_of_missing gone]

theorem loadWith_eq_ok_iff :
    loadWith decode files named = .ok settings ↔
      (named = none ∧ files.holds (pathOf files named) = false ∧ settings = standard) ∨
      ∃ text : String, files.find (pathOf files named) = .ok (.file text.toUTF8) ∧
        parse decode text = .ok settings := by
  constructor
  · intro loaded
    by_cases absent : named = none ∧ files.holds (pathOf files named) = false
    · obtain ⟨rfl, lacks⟩ := absent
      rw [loadWith_of_absent lacks] at loaded
      exact Or.inl ⟨rfl, lacks, (Except.ok.inj loaded).symm⟩
    · have isPresent : IsPresent files named := by
        rintro rfl
        exact Bool.of_not_eq_false fun lacks => absent ⟨rfl, lacks⟩
      rw [loadWith_of_present isPresent] at loaded
      unfold ofFile at loaded
      split at loaded
      · next text read =>
        have found := Files.readText_eq_ok_iff.mp read
        refine Or.inr ⟨text, found, ?_⟩
        cases parsed : parse decode text with
        | ok other => rw [parsed] at loaded; exact loaded
        | error error => rw [parsed] at loaded; cases loaded
      · cases loaded
      · cases loaded
  · rintro (⟨rfl, lacks, rfl⟩ | ⟨text, found, parsed⟩)
    · exact loadWith_of_absent lacks
    · rw [loadWith_of_text found, parsed]
      rfl

/-! ### Loading and reading -/

/-- What is loaded agrees with what the text of the file gives by itself. -/
structure Agrees (parse : String → Except StartupError Settings) (files : Files)
    (named : Option String) (loaded : Except StartupError Settings) : Prop where
  ok_iff : ∀ settings, loaded = .ok settings ↔
    (named = none ∧ files.holds (pathOf files named) = false ∧ settings = standard) ∨
    ∃ text : String, files.find (pathOf files named) = .ok (.file text.toUTF8) ∧
      parse text = .ok settings
  usable : ∀ settings, loaded = .ok settings → settings.checked = .ok settings
  missing : ∀ path, named = some path → files.find path = .error .missing →
    loaded = .error (.settingsNotFound path (some Files.ReadFailure.missing.message))
  /-- A part of the path that is not the last one names a file. -/
  blocked : ∀ path, named = some path → files.find path = .error .notDirectory →
    loaded = .error (.fileFailure "reading config" path Files.ReadFailure.notDirectory.message)
  directory : ∀ entries, files.find (pathOf files named) = .ok (.directory entries) →
    loaded = .error (.fileFailure "reading config" (pathOf files named)
      Files.ReadFailure.isDirectory.message)
  notText : ∀ content, files.find (pathOf files named) = .ok (.file content) →
    (∀ text : String, content ≠ text.toUTF8) →
      loaded = .error (.fileFailure "reading config" (pathOf files named)
        Files.ReadFailure.notText.message)
  /-- A text has no other errors than these two. -/
  faults : ∀ text error, parse text = .error error →
    (∃ details, error = .settingsMalformed inlinePath details) ∨
      ∃ details, error = .settingsUnusable details
  malformed : ∀ (text : String) details,
    files.find (pathOf files named) = .ok (.file text.toUTF8) →
      parse text = .error (.settingsMalformed inlinePath details) →
        loaded = .error (.settingsMalformed (pathOf files named) details)
  unusable : ∀ (text : String) details,
    files.find (pathOf files named) = .ok (.file text.toUTF8) →
      parse text = .error (.settingsUnusable details) →
        loaded = .error (.settingsUnusable details)

theorem agrees_loadWith (decode : Decoder) (files : Files) (named : Option String) :
    Agrees (parse decode) files named (loadWith decode files named) where
  ok_iff _ := loadWith_eq_ok_iff
  usable settings loaded := by
    rcases loadWith_eq_ok_iff.mp loaded with ⟨-, -, rfl⟩ | ⟨text, -, parsed⟩
    · exact checked_standard
    · exact checked_of_parse parsed
  missing path isNamed gone := by
    subst isNamed
    exact loadWith_of_missing rfl gone
  blocked path isNamed blocked := by
    subst isNamed
    exact loadWith_of_failure (isPresent_of_named rfl) (Files.readText_of_notDirectory blocked)
      Files.ReadFailure.noConfusion
  directory entries found :=
    loadWith_of_failure (isPresent_of_find found) (Files.readText_of_directory found)
      Files.ReadFailure.noConfusion
  notText content found noText :=
    loadWith_of_failure (isPresent_of_find found) (Files.readText_of_bytes found noText)
      Files.ReadFailure.noConfusion
  faults _ _ := parse_error
  malformed text details found fails := by
    rw [loadWith_of_text found, fails]
    rfl
  unusable text details found fails := by
    rw [loadWith_of_text found, fails]
    rfl

/-- Whatever files there are and whichever was named, loading agrees with reading, for every decoder
and so for the decoder of YAML. -/
theorem loading_agrees_with_reading (files : Files) (named : Option String) :
    (∀ decode, Agrees (parse decode) files named (loadWith decode files named)) ∧
      Agrees (ofText inlinePath) files named (load files named) := by
  refine ⟨fun decode => agrees_loadWith decode files named, ?_⟩
  rw [← funext parse_decoder]
  exact agrees_loadWith Yaml.decoder files named

end Settings

end OperatorDesk
