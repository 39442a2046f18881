import Mathlib
import Lapse.Proofs.FileTree.Write
import Lapse.Proofs.Path.Text
import Lapse.Proofs.Toml.Document
import Lapse.Settings.Source

/-!
# Saved settings are loaded again

Settings that are saved to a file are loaded from it as they were. Without the assignments of some
keys, what the document leaves out is as in the default settings, and the rest is as it was.
-/
namespace Lapse.Settings

/-- The settings with the defaults in the place of what stands under the keys `left`. -/
def orDefaults (s : Settings) (left : List String) : Settings :=
  let pick {α : Type} (key : String) (value default : α) : α :=
    if key ∈ left then default else value
  { style :=
      { openers := pick "comment_prefixes" s.style.openers default.style.openers
        tags := pick "tags" s.style.tags default.style.tags
        template := pick "expiry_pattern" s.style.template default.style.template
        dateLayout := pick "date_layout" s.style.dateLayout default.style.dateLayout
        caseSensitive := pick "case_sensitive" s.style.caseSensitive default.style.caseSensitive }
    strict := pick "strict" s.strict default.strict
    recursive := pick "recursive" s.recursive default.recursive
    inputs := pick "files" s.inputs default.inputs
    excludes := pick "exclude_patterns" s.excludes default.excludes
    ignoredDirs := pick "ignored_dirs" s.ignoredDirs default.ignoredDirs
    useIgnoreFiles := pick "respect_gitignore" s.useIgnoreFiles default.useIgnoreFiles
    logLevel := pick "log_level" s.logLevel default.logLevel }

theorem orDefaults_nil (s : Settings) : s.orDefaults [] = s := by
  simp [orDefaults]

/-- The table of some fields without the keys `left`. -/
def entriesWithout (left : List String) (fields : List (String × Toml.Field)) : Toml.Entries :=
  (fields.filter fun f => f.1 ∉ left).map fun f => (f.1, f.2.value)

theorem find?_entriesWithout (left : List String) (fields : List (String × Toml.Field))
    (key : String) :
    Toml.find? (entriesWithout left fields) key =
      if key ∈ left then none else (fields.lookup key).map Toml.Field.value := by
  induction fields with
  | nil => simp [entriesWithout, Toml.find?]
  | cons f fields ih =>
    rw [Toml.find?, entriesWithout] at ih ⊢
    rw [List.filter_cons, List.lookup_cons]
    by_cases hkey : key = f.1
    · by_cases hleft : f.1 ∈ left
      · rw [if_neg (by simpa using hleft), ih]
        simp [hkey, hleft]
      · rw [if_pos (by simpa using hleft), List.map_cons, List.lookup_cons]
        simp [hkey, hleft]
    · split
      · rw [List.map_cons, List.lookup_cons, ih]
        simp [beq_false_of_ne hkey]
      · rw [ih]
        simp [beq_false_of_ne hkey]

section Values

variable {left : List String} {fields : List (String × Toml.Field)} {key : String}

theorem valueOr?_entriesWithout {α : Type} {field : Toml.Field} {read : Toml → Option α}
    {value : α} (hfield : fields.lookup key = some field) (hread : read field.value = some value)
    (default : α) :
    valueOr? (entriesWithout left fields) read key default =
      some (if key ∈ left then default else value) := by
  rw [valueOr?, find?_entriesWithout, hfield]
  by_cases hleft : key ∈ left
  · simp [hleft]
  · simp [hleft, hread]

theorem strings?_texts (items : List String) :
    (Toml.Field.texts items).value.strings? = some items := by
  rw [Toml.Field.value, Toml.strings?]
  induction items with
  | nil => rfl
  | cons item items ih =>
    rw [List.map_cons, List.mapM_cons, ih]
    rfl

theorem valueOr?_texts {items : List String} (h : fields.lookup key = some (.texts items))
    (default : List String) :
    valueOr? (entriesWithout left fields) Toml.strings? key default =
      some (if key ∈ left then default else items) :=
  valueOr?_entriesWithout h (strings?_texts items) default

theorem valueOr?_text {value : String} (h : fields.lookup key = some (.text value))
    (default : String) :
    valueOr? (entriesWithout left fields) Toml.string? key default =
      some (if key ∈ left then default else value) := by
  refine valueOr?_entriesWithout h ?_ default
  rfl

theorem valueOr?_flag {value : Bool} (h : fields.lookup key = some (.flag value)) (default : Bool) :
    valueOr? (entriesWithout left fields) Toml.boolean? key default =
      some (if key ∈ left then default else value) := by
  refine valueOr?_entriesWithout h ?_ default
  rfl

theorem valueOr?_paths {inputs : List String} {paths : List Path}
    (hpaths : paths = inputs.map Path.ofString) (h : fields.lookup key = some (.texts inputs))
    (default : List Path) :
    valueOr? (entriesWithout left fields)
        (fun value => value.strings?.map fun names => names.map Path.ofString) key default =
      some (if key ∈ left then default else paths) := by
  refine valueOr?_entriesWithout h ?_ default
  rw [strings?_texts, hpaths]
  rfl

end Values

/-- The keys of a document, in the order in which they are written. -/
def keys : List String :=
  ["comment_prefixes", "tags", "expiry_pattern", "date_layout", "case_sensitive", "strict",
    "recursive", "files", "exclude_patterns", "ignored_dirs", "respect_gitignore", "log_level"]

/-- Settings whose inputs are texts have a written form, and its fields hold them again. -/
theorem exists_fields {s : Settings} (hinputs : ∀ p ∈ s.inputs, p.IsText) :
    ∃ fields, s.fields? = some fields ∧ fields.map (·.1) = keys ∧
      ∀ left, ofEntries? (entriesWithout left fields) = some (s.orDefaults left) := by
  obtain ⟨inputs, htexts⟩ := Path.exists_map_ofString hinputs
  rw [fields?, htexts, Path.mapM_text?_map_ofString]
  refine ⟨_, rfl, rfl, fun left => ?_⟩
  rw [ofEntries?]
  refine Option.bind_eq_some_iff.2 ⟨_, valueOr?_texts rfl _, ?_⟩
  refine Option.bind_eq_some_iff.2 ⟨_, valueOr?_texts rfl _, ?_⟩
  refine Option.bind_eq_some_iff.2 ⟨_, valueOr?_text rfl _, ?_⟩
  refine Option.bind_eq_some_iff.2 ⟨_, valueOr?_text rfl _, ?_⟩
  refine Option.bind_eq_some_iff.2 ⟨_, valueOr?_flag rfl _, ?_⟩
  refine Option.bind_eq_some_iff.2 ⟨_, valueOr?_flag rfl _, ?_⟩
  refine Option.bind_eq_some_iff.2 ⟨_, valueOr?_flag rfl _, ?_⟩
  refine Option.bind_eq_some_iff.2 ⟨_, valueOr?_paths htexts rfl _, ?_⟩
  refine Option.bind_eq_some_iff.2 ⟨_, valueOr?_texts rfl _, ?_⟩
  refine Option.bind_eq_some_iff.2 ⟨_, valueOr?_texts rfl _, ?_⟩
  refine Option.bind_eq_some_iff.2 ⟨_, valueOr?_flag rfl _, ?_⟩
  refine Option.bind_eq_some_iff.2 ⟨_, valueOr?_text rfl _, ?_⟩
  rfl

/-- A document without the assignments of some keys is the table of the others. -/
theorem ofText?_documentWithout {s : Settings} {fields : List (String × Toml.Field)}
    (hkeys : fields.map (·.1) = keys)
    (hentries : ∀ left, ofEntries? (entriesWithout left fields) = some (s.orDefaults left))
    (left : List String) :
    ofText? (String.ofList (Toml.documentText (fields.filter fun f => f.1 ∉ left))) =
      some (s.orDefaults left) := by
  have hbare : ∀ key ∈ keys, Toml.IsBareKey key := by
    simp [keys, Toml.IsBareKey, Toml.isBareKeyChar]
  have hnodup : keys.Nodup := by decide
  have hmember {f : String × Toml.Field} (hf : f ∈ fields) : f.1 ∈ keys :=
    hkeys ▸ List.mem_map_of_mem hf
  have hsublist : ((fields.filter fun f => f.1 ∉ left).map (·.1)).Sublist keys :=
    hkeys ▸ List.filter_sublist.map _
  have hread := Toml.ofText?_documentText
    (fun f hf => hbare f.1 (hmember (List.mem_of_mem_filter hf))) (hnodup.sublist hsublist)
  rw [ofText?, String.toList_ofList, hread]
  exact hentries left

/-- The written form of settings whose inputs are texts is read as these settings. -/
theorem exists_text {s : Settings} (hinputs : ∀ p ∈ s.inputs, p.IsText) :
    ∃ text, s.text? = some text ∧ ofText? text = some s := by
  obtain ⟨fields, hfields, hkeys, hentries⟩ := exists_fields hinputs
  have hwhole := ofText?_documentWithout hkeys hentries []
  rw [orDefaults_nil] at hwhole
  exact ⟨String.ofList (Toml.documentText fields), by rw [text?, hfields]; rfl,
    by simpa using hwhole⟩

theorem loadFrom_of_readText {t : FileTree} {p : Path} {text : String} {s : Settings}
    (hread : t.readText p = .ok text) (hsettings : ofText? text = some s) :
    loadFrom t (some p) = .ok s := by
  rw [loadFrom, loadFile, hread]
  dsimp only
  rw [hsettings]

/-- Settings whose inputs are texts can be saved wherever a file can be written, and what is loaded
from there are the same settings. The document has one assignment for each key. Without those of
some keys it gives the same settings, but with the defaults for these. -/
theorem save_then_load {s : Settings} (hinputs : ∀ p ∈ s.inputs, p.IsText) {t : FileTree} {p : Path}
    (hp : t.Writable p) :
    ∃ fields, s.fields? = some fields ∧ fields.map (·.1) = keys ∧
      (∃ t', s.save t p = .ok t' ∧
        t'.readText p = .ok (String.ofList (Toml.documentText fields)) ∧
        loadFrom t' (some p) = .ok s) ∧
      ∀ left, ∃ t',
        t.writeText p (String.ofList (Toml.documentText (fields.filter fun f => f.1 ∉ left))) =
          .ok t' ∧
        loadFrom t' (some p) = .ok (s.orDefaults left) := by
  obtain ⟨fields, hfields, hkeys, hentries⟩ := exists_fields hinputs
  have hdocument (left : List String) := ofText?_documentWithout hkeys hentries left
  refine ⟨fields, hfields, hkeys, ?_, fun left => ?_⟩
  · obtain ⟨t', hwrite, hread⟩ := hp.exists_writeText (String.ofList (Toml.documentText fields))
    have hwhole : ofText? (String.ofList (Toml.documentText fields)) = some s := by
      simpa [orDefaults_nil] using hdocument []
    refine ⟨t', ?_, hread, loadFrom_of_readText hread hwhole⟩
    rw [save, text?, hfields]
    dsimp only [Option.map_some]
    rw [hwrite]
    rfl
  · obtain ⟨t', hwrite, hread⟩ := hp.exists_writeText _
    exact ⟨t', hwrite, loadFrom_of_readText hread (hdocument left)⟩

/-- Settings with a tag of more than one line, a template with both quotation marks, and two
inputs. -/
def quotedSettings : Settings :=
  { default with
    style := { default.style with tags := ["TO\nDO", "", "it's"], template := "\"\\'\u0001" }
    inputs := [Path.ofString "a", Path.ofString "é"]
    strict := true }

/-- A directory with a link that leads to a file that is not there yet. -/
def linkedTree : FileTree :=
  { root := [((Path.ofString "link").bytes, .link (Path.ofString "settings/new.toml")),
      ((Path.ofString "settings").bytes, .dir [])]
    here := []
    home := none }

/-- The quoted settings are saved through the link. Without the tags, the default tags are
loaded. -/
theorem save_then_load_quotedSettings :
    ∃ fields, quotedSettings.fields? = some fields ∧
      (∃ t', quotedSettings.save linkedTree (Path.ofString "link") = .ok t' ∧
        loadFrom t' (some (Path.ofString "link")) = .ok quotedSettings) ∧
      ∃ t', linkedTree.writeText (Path.ofString "link")
          (String.ofList (Toml.documentText (fields.filter fun f => f.1 ∉ ["tags"]))) = .ok t' ∧
        loadFrom t' (some (Path.ofString "link")) = .ok (quotedSettings.orDefaults ["tags"]) := by
  have hinputs : ∀ p ∈ quotedSettings.inputs, p.IsText := by decide
  have hplace : linkedTree.place (Path.ofString "link") =
      .ok (.free [(Path.ofString "settings").bytes] (Path.ofString "new.toml").bytes) := by cbv
  have hdirectory : Entries.find? [(Path.ofString "settings").bytes] linkedTree.root =
      some (.dir []) := by cbv
  obtain ⟨fields, hfields, -, ⟨t', hsave, -, hload⟩, hleft⟩ :=
    save_then_load hinputs (.new hplace hdirectory)
  exact ⟨fields, hfields, ⟨t', hsave, hload⟩, hleft ["tags"]⟩

end Lapse.Settings
