import Mathlib
import Lapse.CommandLine.Command
import Lapse.Proofs.CommandLine.Given

/-!
# Precedence

What is given on the command line goes before the environment, and the environment before the
settings of a file. Only a flag that the environment sets to false counts for nothing: it leaves
what the settings have.
-/
namespace Lapse.CommandLine

/-- The variables of a scan that are set have values that fit. -/
def IsValid (environment : Environment) : Prop :=
  ∀ p ∈ Parameter.ofScan, ∀ values ∈ valuesIn? environment p, values.all p.accepts

instance (environment : Environment) : Decidable (IsValid environment) :=
  inferInstanceAs (Decidable (∀ p ∈ Parameter.ofScan, _))

/-- The value of a parameter with one value. -/
def one? (values : Option (List String)) : Option String := values.map fun v => v.headD ""

/-- The value of a flag. -/
def flag? (values : Option (List String)) : Option Bool := values.map fun v => v = ["true"]

/-- Settings where what is chosen goes before what they have. Excluded patterns are added, and a
verbose scan has a log level of its own. -/
def byPrecedence (chosen : Parameter → Option (List String)) (s : Settings) : Settings where
  style :=
    { openers := (chosen .openers).getD s.style.openers
      tags := (chosen .tags).getD s.style.tags
      template := (one? (chosen .template)).getD s.style.template
      dateLayout := (one? (chosen .dateLayout)).getD s.style.dateLayout
      caseSensitive := ((flag? (chosen .caseInsensitive)).map not).getD s.style.caseSensitive }
  strict := (flag? (chosen .strict)).getD s.strict
  recursive := ((flag? (chosen .noRecursive)).map not).getD s.recursive
  inputs := ((chosen .files).map fun names => names.map Path.ofString).getD s.inputs
  excludes := s.excludes ++ (chosen .excludes).getD []
  ignoredDirs := s.ignoredDirs
  useIgnoreFiles := ((flag? (chosen .noIgnoreFiles)).map not).getD s.useIgnoreFiles
  logLevel :=
    if flag? (chosen .verbose) = some true then "debug"
    else (one? (chosen .logLevel)).getD s.logLevel

/-- What is chosen without the flags that are false. -/
def withoutFalse (chosen : Parameter → Option (List String)) (p : Parameter) :
    Option (List String) :=
  if p.arity = .flag ∧ chosen p = some ["false"] then none else chosen p

theorem withoutFalse_of_ne {chosen : Parameter → Option (List String)} {p : Parameter}
    (h : p.arity ≠ .flag) : withoutFalse chosen p = chosen p :=
  if_neg fun h' => h h'.1

section Chosen

variable {environment : Environment} {explicit : Given} {p : Parameter}

theorem chosen?_ne_nil (hexplicit : explicit.IsExplicit) {values : List String}
    (h : chosen? explicit environment p = some values) : values ≠ [] := by
  rw [chosen?] at h
  split at h
  · next hhas =>
    cases h
    exact hexplicit.values_ne_nil hhas
  · obtain ⟨value, -, rfl⟩ := Option.map_eq_some_iff.1 h
    exact p.parts_ne_nil (by simp)

/-- A flag is not given, or it is true or false. -/
inductive IsFlagValue : Option (List String) → Prop
  | missing : IsFlagValue none
  | yes : IsFlagValue (some ["true"])
  | no : IsFlagValue (some ["false"])

theorem accepts_flag (harity : p.arity = .flag) {value : String} (h : p.accepts value) :
    value = "true" ∨ value = "false" := by
  cases p <;> first | exact of_decide_eq_true h | cases harity

theorem isFlagValue_chosen? (hvalid : IsValid environment) (hexplicit : explicit.IsExplicit)
    (hp : p ∈ Parameter.ofScan) (harity : p.arity = .flag) :
    IsFlagValue (chosen? explicit environment p) := by
  rw [chosen?]
  split
  · next hhas =>
    rw [hexplicit.flags harity hhas]
    exact .yes
  · have haccepts := hvalid p hp
    cases hvaluesIn : valuesIn? environment p with
    | none => exact .missing
    | some values =>
      have hvalues := haccepts values hvaluesIn
      obtain ⟨value, -, rfl⟩ := Option.map_eq_some_iff.1 hvaluesIn
      rw [Parameter.parts, if_neg (by rw [harity]; decide)] at hvalues ⊢
      rcases accepts_flag harity (by simpa using hvalues) with rfl | rfl
      · exact .yes
      · exact .no

end Chosen

section Values

variable {chosen : Option (List String)}

theorem ite_isEmpty_getD (h : ∀ values, chosen = some values → values ≠ [])
    (default : List String) :
    (if (chosen.getD []).isEmpty then default else chosen.getD []) = chosen.getD default := by
  cases chosen with
  | none => rfl
  | some values =>
    have hne : ¬ values.isEmpty := by simpa using h values rfl
    rw [Option.getD_some, Option.getD_some, if_neg hne]

theorem ite_isEmpty_map_getD (h : ∀ values, chosen = some values → values ≠ [])
    (default : List Path) :
    (if ((chosen.getD []).map Path.ofString).isEmpty then default
      else (chosen.getD []).map Path.ofString) =
        (chosen.map fun names => names.map Path.ofString).getD default := by
  cases chosen with
  | none => rfl
  | some values =>
    have hne : ¬ (values.map Path.ofString).isEmpty := by simpa using h values rfl
    rw [Option.getD_some, Option.map_some, Option.getD_some, if_neg hne]

theorem head?_getD (h : ∀ values, chosen = some values → values ≠ []) :
    (chosen.getD []).head? = one? chosen := by
  cases chosen with
  | none => rfl
  | some values =>
    obtain ⟨value, more, rfl⟩ := List.exists_cons_of_ne_nil (h values rfl)
    rfl

end Values

section Flags

variable {chosen : Parameter → Option (List String)} {p : Parameter}

theorem or_getD (h : IsFlagValue (chosen p)) (harity : p.arity = .flag) (value : Bool) :
    (value || decide ((chosen p).getD [] = ["true"])) =
      (flag? (withoutFalse chosen p)).getD value := by
  rw [withoutFalse]
  generalize chosen p = values at h
  cases h <;> simp [harity, flag?]

theorem and_not_getD (h : IsFlagValue (chosen p)) (harity : p.arity = .flag) (value : Bool) :
    (value && !decide ((chosen p).getD [] = ["true"])) =
      ((flag? (withoutFalse chosen p)).map not).getD value := by
  rw [withoutFalse]
  generalize chosen p = values at h
  cases h <;> simp [harity, flag?]

end Flags

theorem applyTo_scanArguments {g : Given} {chosen : Parameter → Option (List String)}
    (hvalues : ∀ p ∈ Parameter.ofScan, g.values p = (chosen p).getD [])
    (hne : ∀ p values, chosen p = some values → values ≠ [])
    (hflags : ∀ p ∈ Parameter.ofScan, p.arity = .flag → IsFlagValue (chosen p)) (s : Settings) :
    (scanArguments g).applyTo s = byPrecedence (withoutFalse chosen) s := by
  have hmany (p : Parameter) (hp : p ∈ Parameter.ofScan) (hmany : p.arity ≠ .flag)
      (default : List String) :
      (if (g.values p).isEmpty then default else g.values p) =
        (withoutFalse chosen p).getD default := by
    rw [hvalues p hp, withoutFalse_of_ne hmany, ite_isEmpty_getD (hne p)]
  have hone (p : Parameter) (hp : p ∈ Parameter.ofScan) (hone : p.arity ≠ .flag) :
      g.value? p = one? (withoutFalse chosen p) := by
    rw [Given.value?, hvalues p hp, withoutFalse_of_ne hone, head?_getD (hne p)]
  have hset (p : Parameter) (hp : p ∈ Parameter.ofScan) (harity : p.arity = .flag) (value : Bool) :
      (value || g.flag p) = (flag? (withoutFalse chosen p)).getD value := by
    rw [Given.flag, hvalues p hp, or_getD (hflags p hp harity) harity]
  have hunset (p : Parameter) (hp : p ∈ Parameter.ofScan) (harity : p.arity = .flag)
      (value : Bool) :
      (value && !g.flag p) = ((flag? (withoutFalse chosen p)).map not).getD value := by
    rw [Given.flag, hvalues p hp, and_not_getD (hflags p hp harity) harity]
  have hfiles : (if ((g.values .files).map Path.ofString).isEmpty then s.inputs
      else (g.values .files).map Path.ofString) =
        ((withoutFalse chosen .files).map fun names => names.map Path.ofString).getD s.inputs := by
    rw [hvalues .files (by decide), withoutFalse_of_ne (by decide),
      ite_isEmpty_map_getD (hne .files)]
  have hexcludes : g.values .excludes = (withoutFalse chosen .excludes).getD [] := by
    rw [hvalues .excludes (by decide), withoutFalse_of_ne (by decide)]
  have hverbose : g.flag .verbose ↔ flag? (withoutFalse chosen .verbose) = some true := by
    have h := hset .verbose (by decide) rfl false
    rw [Bool.false_or] at h
    rw [h]
    cases flag? (withoutFalse chosen .verbose) <;> simp
  simp only [ScanArguments.applyTo, scanArguments, byPrecedence, hfiles, hexcludes, hverbose,
    hmany .openers (by decide) (by decide), hmany .tags (by decide) (by decide),
    hone .template (by decide) (by decide), hone .dateLayout (by decide) (by decide),
    hone .logLevel (by decide) (by decide), hset .strict (by decide) rfl,
    hunset .caseInsensitive (by decide) rfl, hunset .noRecursive (by decide) rfl,
    hunset .noIgnoreFiles (by decide) rfl]

/-- The settings already have what the flags that are false stand for. -/
structure Agrees (chosen : Parameter → Option (List String)) (s : Settings) : Prop where
  strict (h : chosen .strict = some ["false"]) : s.strict = false
  caseSensitive (h : chosen .caseInsensitive = some ["false"]) : s.style.caseSensitive = true
  recursive (h : chosen .noRecursive = some ["false"]) : s.recursive = true
  useIgnoreFiles (h : chosen .noIgnoreFiles = some ["false"]) : s.useIgnoreFiles = true

theorem getD_withoutFalse_eq_iff {chosen : Parameter → Option (List String)} {p : Parameter}
    (harity : p.arity = .flag) (value : Bool) :
    (flag? (withoutFalse chosen p)).getD value = (flag? (chosen p)).getD value ↔
      (chosen p = some ["false"] → value = false) := by
  rw [withoutFalse]
  by_cases h : chosen p = some ["false"]
  · simp [harity, h, flag?]
  · simp [h]

theorem not_getD_withoutFalse_eq_iff {chosen : Parameter → Option (List String)} {p : Parameter}
    (harity : p.arity = .flag) (value : Bool) :
    ((flag? (withoutFalse chosen p)).map not).getD value =
        ((flag? (chosen p)).map not).getD value ↔
      (chosen p = some ["false"] → value = true) := by
  rw [withoutFalse]
  by_cases h : chosen p = some ["false"]
  · simp [harity, h, flag?]
  · simp [h]

theorem byPrecedence_withoutFalse_eq_iff {chosen : Parameter → Option (List String)}
    {s : Settings} :
    byPrecedence (withoutFalse chosen) s = byPrecedence chosen s ↔ Agrees chosen s := by
  constructor
  · intro h
    exact {
      strict := (getD_withoutFalse_eq_iff rfl _).1 (congrArg Settings.strict h)
      caseSensitive :=
        (not_getD_withoutFalse_eq_iff rfl _).1 (congrArg (fun s => s.style.caseSensitive) h)
      recursive := (not_getD_withoutFalse_eq_iff rfl _).1 (congrArg Settings.recursive h)
      useIgnoreFiles :=
        (not_getD_withoutFalse_eq_iff rfl _).1 (congrArg Settings.useIgnoreFiles h) }
  · intro h
    have hvalues (p : Parameter) (harity : p.arity ≠ .flag) : withoutFalse chosen p = chosen p :=
      withoutFalse_of_ne harity
    have hverbose : flag? (withoutFalse chosen .verbose) = some true ↔
        flag? (chosen .verbose) = some true := by
      rw [withoutFalse]
      by_cases hfalse : chosen .verbose = some ["false"]
      · simp [Parameter.arity, hfalse, flag?]
      · simp [hfalse]
    simp only [byPrecedence, hverbose, hvalues .openers (by decide), hvalues .tags (by decide),
      hvalues .template (by decide), hvalues .dateLayout (by decide),
      hvalues .files (by decide), hvalues .excludes (by decide), hvalues .logLevel (by decide),
      (getD_withoutFalse_eq_iff rfl s.strict).2 h.strict,
      (not_getD_withoutFalse_eq_iff rfl s.style.caseSensitive).2 h.caseSensitive,
      (not_getD_withoutFalse_eq_iff rfl s.recursive).2 h.recursive,
      (not_getD_withoutFalse_eq_iff rfl s.useIgnoreFiles).2 h.useIgnoreFiles]

theorem command_check (environment : Environment) (rest : List String) :
    command environment ("check" :: rest) =
      (given Parameter.ofScan environment rest).map fun g => .check (scanArguments g) := by
  rw [command]
  dsimp only
  cases given Parameter.ofScan environment rest <;> rfl

theorem command_list (environment : Environment) (rest : List String) :
    command environment ("list" :: rest) =
      (given Parameter.ofScan environment rest).map fun g => .list (scanArguments g) := by
  rw [command]
  dsimp only
  cases given Parameter.ofScan environment rest <;> rfl

/-- When the variables have values that fit, the environment does not change which arguments are
read. A scan has by precedence what the command line, the environment and the settings say, but that
a flag set to false in the environment leaves what the settings have. So the precedence is kept
exactly where the settings agree with these flags. -/
theorem command_by_precedence {environment : Environment} (hvalid : IsValid environment)
    (rest : List String) :
    (∀ e, given Parameter.ofScan [] rest = .error e →
      command environment ("check" :: rest) = .error e ∧
      command environment ("list" :: rest) = .error e) ∧
    ∀ explicit, given Parameter.ofScan [] rest = .ok explicit →
      let chosen := chosen? explicit environment
      ∃ a, command environment ("check" :: rest) = .ok (.check a) ∧
        command environment ("list" :: rest) = .ok (.list a) ∧
        a.config = (one? (chosen .config)).map Path.ofString ∧
        a.format = formatNamed ((one? (chosen .format)).getD "text") ∧
        a.output = (one? (chosen .output)).map Path.ofString ∧
        ∀ s, a.applyTo s = byPrecedence (withoutFalse chosen) s ∧
          (a.applyTo s = byPrecedence chosen s ↔ Agrees chosen s) := by
  rw [command_check, command_list, given_eq Parameter.ofScan environment rest]
  refine ⟨fun e he => ?_, fun explicit hgiven => ?_⟩
  · rw [he]
    exact ⟨rfl, rfl⟩
  have hexplicit := isExplicit_of_given hgiven
  obtain ⟨g, hadded, hvalues⟩ := exists_addVariables hvalid explicit
  have hne (p : Parameter) (values : List String)
      (h : chosen? explicit environment p = some values) : values ≠ [] :=
    chosen?_ne_nil hexplicit h
  have hone (p : Parameter) (hp : p ∈ Parameter.ofScan) :
      g.value? p = one? (chosen? explicit environment p) := by
    rw [Given.value?, hvalues p hp, head?_getD (hne p)]
  have hflags (p : Parameter) (hp : p ∈ Parameter.ofScan) (harity : p.arity = .flag) :=
    isFlagValue_chosen? hvalid hexplicit hp harity
  have happly (s : Settings) := applyTo_scanArguments hvalues hne hflags s
  rw [hgiven]
  refine ⟨scanArguments g, ?_, ?_, ?_, ?_, ?_, fun s => ⟨happly s, ?_⟩⟩
  · simp only [bind, Except.bind, hadded, Except.map]
  · simp only [bind, Except.bind, hadded, Except.map]
  · rw [scanArguments, hone .config (by decide)]
  · rw [scanArguments, hone .format (by decide)]
  · rw [scanArguments, hone .output (by decide)]
  · rw [happly s]
    exact byPrecedence_withoutFalse_eq_iff

/-- A tag on the command line goes before the tags of the environment. -/
theorem command_by_precedence_of_tag :
    let environment := [("OVERDUE_TAGS", "HACK,FIXME"), ("OVERDUE_STRICT", "true"),
      ("OVERDUE_NO_RECURSIVE", "false")]
    IsValid environment ∧
      ∃ a, command environment ["check", "--tag=XXX"] = .ok (.check a) ∧
        (a.applyTo Settings.default).style.tags = ["XXX"] ∧
        (a.applyTo Settings.default).strict = true ∧
        a.applyTo Settings.default =
          byPrecedence (chosen? [(.tags, ["XXX"])] environment) Settings.default := by
  intro environment
  have hvalid : IsValid environment := by decide
  have hgiven : given Parameter.ofScan [] ["--tag=XXX"] = .ok [(.tags, ["XXX"])] := by cbv
  obtain ⟨-, hscan⟩ := command_by_precedence hvalid ["--tag=XXX"]
  obtain ⟨a, hcheck, -, -, -, -, hsettings⟩ := hscan _ hgiven
  obtain ⟨-, hagrees⟩ := hsettings Settings.default
  have happly := hagrees.2 ⟨fun _ => rfl, fun _ => rfl, fun _ => rfl, fun _ => rfl⟩
  have htags : chosen? [(.tags, ["XXX"])] environment .tags = some ["XXX"] := by decide
  have hstrict : chosen? [(.tags, ["XXX"])] environment .strict = some ["true"] := by decide
  refine ⟨hvalid, a, hcheck, ?_, ?_, happly⟩
  · rw [happly, byPrecedence, htags]
    rfl
  · rw [happly, byPrecedence, hstrict]
    rfl

/-- Strictness that is set to false in the environment does not go before that of the settings. -/
theorem not_forall_applyTo_eq_byPrecedence :
    ¬ ∀ environment, IsValid environment → ∀ rest explicit a,
      given Parameter.ofScan [] rest = .ok explicit →
      command environment ("check" :: rest) = .ok (.check a) →
      ∀ s, a.applyTo s = byPrecedence (chosen? explicit environment) s := by
  intro h
  have heq := h [("OVERDUE_STRICT", "false")] (by decide) [] [] _ rfl rfl
    { Settings.default with strict := true }
  have hstrict := congrArg Settings.strict heq
  cases hstrict

end Lapse.CommandLine
