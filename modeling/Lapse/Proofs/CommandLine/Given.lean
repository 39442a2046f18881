import Lapse.CommandLine.Reader
import Lapse.Proofs.Path.Absolute

/-!
# What is given

Whatever the arguments are, a parameter that is given has a value, and a flag is given as true. The
environment adds what is not given, and nothing else.
-/
namespace Lapse.CommandLine

variable {g g' : Given} {p q : Parameter} {values : List String} {s s' : State}

theorem exists_of_bind_eq_ok {ε α β : Type} {x : Except ε α} {f : α → Except ε β} {b : β}
    (h : x >>= f = .ok b) : ∃ a, x = .ok a ∧ f a = .ok b := by
  cases x with
  | error e => cases h
  | ok a => exact ⟨a, rfl, h⟩

theorem Given.values_append (g : Given) (p : Parameter) (values : List String) (q : Parameter) :
    Given.values (g ++ [(p, values)]) q = g.values q ++ if p = q then values else [] := by
  rw [Given.values, Given.values, List.filter_append, List.flatMap_append]
  by_cases h : p = q <;> simp [h]

theorem Given.has_append (g : Given) (p : Parameter) (values : List String) (q : Parameter) :
    Given.has (g ++ [(p, values)]) q ↔ g.has q ∨ p = q := by
  simp [Given.has]

theorem Given.values_eq_nil (h : ¬ g.has q) : g.values q = [] := by
  have hnone : g.filter (fun entry => entry.1 = q) = [] := by
    rw [List.filter_eq_nil_iff]
    intro entry hentry heq
    exact h (List.any_eq_true.2 ⟨entry, hentry, heq⟩)
  rw [Given.values, hnone]
  rfl

/-- The values that a parameter gets from those that are given for it. -/
def Parameter.parts (p : Parameter) (values : List String) : List String :=
  if p.arity = .many then values.flatMap splitValue else values

theorem splitValue_ne_nil (value : String) : splitValue value ≠ [] := by
  rw [splitValue, ne_eq, List.map_eq_nil_iff]
  exact Text.splitAll_ne_nil ',' value.toList

theorem Parameter.parts_ne_nil (p : Parameter) (h : values ≠ []) : p.parts values ≠ [] := by
  rw [parts]
  split
  · obtain ⟨value, more, rfl⟩ := List.exists_cons_of_ne_nil h
    rw [List.flatMap_cons]
    exact List.append_ne_nil_of_left_ne_nil (splitValue_ne_nil value) _
  · exact h

theorem add_eq (g : Given) (p : Parameter) (values : List String) :
    add g p values = if p.arity ≠ .many ∧ g.has p then .error .repeatedArgument
      else if (p.parts values).all p.accepts then .ok (g ++ [(p, p.parts values)])
      else .error .invalidValue := rfl

theorem add_eq_ok_iff : add g p values = .ok g' ↔
    ¬ (p.arity ≠ .many ∧ g.has p) ∧ (p.parts values).all p.accepts ∧
      g' = g ++ [(p, p.parts values)] := by
  rw [add_eq]
  constructor
  · intro h
    split at h
    · cases h
    · next honce =>
      split at h
      · next haccepts =>
        cases h
        exact ⟨honce, haccepts, rfl⟩
      · cases h
  · rintro ⟨honce, haccepts, rfl⟩
    rw [if_neg honce, if_pos haccepts]

/-- Every parameter that is given has a value, and a flag is given once and as true. -/
structure Given.IsExplicit (g : Given) : Prop where
  nonempty : ∀ entry ∈ g, entry.2 ≠ []
  flags {p : Parameter} (harity : p.arity = .flag) (hhas : g.has p) : g.values p = ["true"]

theorem Given.isExplicit_nil : Given.IsExplicit [] :=
  ⟨by simp, fun _ h => by simp [Given.has] at h⟩

theorem Given.IsExplicit.values_ne_nil (h : g.IsExplicit) (hhas : g.has p) : g.values p ≠ [] := by
  obtain ⟨entry, hentry, heq⟩ := List.any_eq_true.1 hhas
  obtain ⟨value, hvalue⟩ := List.exists_mem_of_ne_nil _ (h.nonempty entry hentry)
  refine List.ne_nil_of_mem (a := value) (List.mem_flatMap.2 ⟨entry, ?_, hvalue⟩)
  exact List.mem_filter.2 ⟨hentry, heq⟩

theorem Given.IsExplicit.add (h : g.IsExplicit) (hvalues : values ≠ [])
    (hflag : p.arity = .flag → values = ["true"]) (hadd : add g p values = .ok g') :
    g'.IsExplicit := by
  obtain ⟨honce, -, rfl⟩ := add_eq_ok_iff.1 hadd
  refine ⟨fun entry hentry => ?_, fun {q} harity hhas => ?_⟩
  · rcases List.mem_append.1 hentry with hentry | hentry
    · exact h.nonempty entry hentry
    · rw [List.mem_singleton.1 hentry]
      exact p.parts_ne_nil hvalues
  · rw [Given.values_append]
    by_cases hq : p = q
    · subst hq
      have hnot : ¬ g.has p := fun hhas => honce ⟨by rw [harity]; decide, hhas⟩
      rw [if_pos rfl, Given.values_eq_nil hnot, List.nil_append, Parameter.parts,
        if_neg (by rw [harity]; decide), hflag harity]
    · rw [if_neg hq, List.append_nil]
      exact h.flags harity (((Given.has_append g p _ q).1 hhas).resolve_right hq)

theorem Given.IsExplicit.addArgument (h : g.IsExplicit)
    (hadd : addArgument g p values = .ok g') : g'.IsExplicit := by
  rw [CommandLine.addArgument] at hadd
  split at hadd
  · cases hadd
  split at hadd
  · exact h.add (by simp) (fun _ => rfl) hadd
  · next hflag =>
    split at hadd
    · cases hadd
    · next hvalues => exact h.add hvalues (fun h => absurd h hflag) hadd

/-- A step of the reader that keeps what is given explicit. -/
def State.Keeps (f : State → Except UsageError State) : Prop :=
  ∀ s s', s.given.IsExplicit → f s = .ok s' → s'.given.IsExplicit

namespace State

theorem keeps_settle : Keeps settle := by
  intro s s' h hsettle
  rw [settle] at hsettle
  split at hsettle
  · cases hsettle
    exact h
  · next p values _ =>
    cases hadd : addArgument s.given p values with
    | error e =>
      rw [hadd] at hsettle
      cases hsettle
    | ok g =>
      rw [hadd] at hsettle
      cases hsettle
      exact h.addArgument hadd

theorem keeps_attach (p : Parameter) (values : List String) : Keeps fun s => s.attach p values := by
  intro s s' h hattach
  obtain ⟨settled, hsettle, hrest⟩ := exists_of_bind_eq_ok hattach
  obtain ⟨g, hadd, hgiven⟩ := exists_of_bind_eq_ok hrest
  cases hgiven
  exact (keeps_settle s settled h hsettle).addArgument hadd

theorem keeps_await (p : Parameter) : Keeps fun s => s.await p := by
  intro s s' h hawait
  obtain ⟨settled, hsettle, hrest⟩ := exists_of_bind_eq_ok hawait
  cases hrest
  exact keeps_settle s settled h hsettle

theorem keeps_readLong (parameters : List Parameter) (text : List Char) :
    Keeps fun s => s.readLong parameters text := by
  intro s s' h hread
  dsimp only [readLong] at hread
  split at hread
  · cases hread
  split at hread
  · exact keeps_attach _ _ s s' h hread
  · cases hread
  · exact keeps_await _ s s' h hread
  · exact keeps_attach _ _ s s' h hread

theorem keeps_readShort (parameters : List Parameter) (text : List Char) :
    Keeps fun s => s.readShort parameters text := by
  induction text with
  | nil =>
    intro s s' h hread
    cases hread
    exact h
  | cons c rest ih =>
    intro s s' h hread
    dsimp only at hread
    rw [readShort] at hread
    split at hread
    · cases hread
    split at hread
    · obtain ⟨attached, hattach, hrest⟩ := exists_of_bind_eq_ok hread
      exact ih attached s' (keeps_attach _ _ s attached h hattach) hrest
    · exact keeps_await _ s s' h hread
    · exact keeps_attach _ _ s s' h hread
    · exact keeps_attach _ _ s s' h hread

theorem keeps_readPositional (parameters : List Parameter) (text : String) :
    Keeps fun s => s.readPositional parameters text := by
  intro s s' h hread
  dsimp only [readPositional] at hread
  split at hread
  · cases hread
  split at hread
  · split at hread
    · cases hread
      exact h
    · obtain ⟨settled, hsettle, hrest⟩ := exists_of_bind_eq_ok hread
      cases hrest
      exact keeps_settle s settled h hsettle
  · cases hread
    exact h

theorem keeps_read (parameters : List Parameter) (text : String) :
    Keeps fun s => s.read parameters text := by
  intro s s' h hread
  dsimp only [read] at hread
  split at hread
  · exact keeps_readPositional parameters text s s' h hread
  split at hread
  · cases hread
    exact h
  · exact keeps_readLong parameters _ s s' h hread
  · exact keeps_readShort parameters _ s s' h hread
  · cases hread
    exact h
  · exact keeps_readPositional parameters text s s' h hread

theorem keeps_readAll (parameters : List Parameter) (arguments : List String) :
    Keeps fun s => arguments.foldlM (read parameters) s := by
  induction arguments with
  | nil =>
    intro s s' h hread
    cases hread
    exact h
  | cons text arguments ih =>
    intro s s' h hread
    dsimp only at hread
    rw [List.foldlM_cons] at hread
    obtain ⟨next, hnext, hrest⟩ := exists_of_bind_eq_ok hread
    exact ih next s' (keeps_read parameters text s next h hnext) hrest

end State

variable {environment : Environment} {parameters : List Parameter} {explicit : Given}
  {arguments : List String}

/-- The values that an environment has for a parameter. -/
def valuesIn? (environment : Environment) (p : Parameter) : Option (List String) :=
  (p.environmentName.bind fun name => environment.lookup name).map fun value => p.parts [value]

/-- What holds for a parameter: what is given explicitly, or else what the environment has. -/
def chosen? (explicit : Given) (environment : Environment) (p : Parameter) :
    Option (List String) :=
  if explicit.has p then some (explicit.values p) else valuesIn? environment p

/-- One parameter has been looked up in the environment. -/
theorem exists_addVariable (hvalid : ∀ values ∈ valuesIn? environment p, values.all p.accepts)
    (g : Given) : ∃ g', addVariable environment g p = .ok g' ∧
      (∀ q, chosen? g' environment q = chosen? g environment q) ∧ (∀ q, g.has q → g'.has q) ∧
      (¬ g'.has p → valuesIn? environment p = none) := by
  rw [addVariable]
  by_cases hhas : g.has p
  · rw [if_pos hhas]
    exact ⟨g, rfl, fun _ => rfl, fun _ h => h, fun h => absurd hhas h⟩
  rw [if_neg hhas]
  cases hlookup : p.environmentName.bind fun name => environment.lookup name with
  | none =>
    have hnone : valuesIn? environment p = none := by rw [valuesIn?, hlookup, Option.map_none]
    exact ⟨g, rfl, fun _ => rfl, fun _ h => h, fun _ => hnone⟩
  | some value =>
    have hvaluesIn : valuesIn? environment p = some (p.parts [value]) := by
      rw [valuesIn?, hlookup, Option.map_some]
    have hadd : add g p [value] = .ok (g ++ [(p, p.parts [value])]) :=
      add_eq_ok_iff.2 ⟨fun h => hhas h.2, hvalid _ hvaluesIn, rfl⟩
    refine ⟨_, hadd, fun q => ?_, fun q h => (Given.has_append g p _ q).2 (.inl h),
      fun h => absurd ((Given.has_append g p _ p).2 (.inr rfl)) h⟩
    rw [chosen?, chosen?, Given.values_append]
    by_cases hq : p = q
    · subst hq
      rw [if_pos ((Given.has_append g p _ p).2 (.inr rfl)), if_pos rfl, if_neg hhas, hvaluesIn,
        Given.values_eq_nil hhas, List.nil_append]
    · have hiff : Given.has (g ++ [(p, p.parts [value])]) q = g.has q :=
        Bool.eq_iff_iff.2 ((Given.has_append g p _ q).trans (or_iff_left hq))
      rw [hiff, if_neg hq, List.append_nil]

/-- After all parameters have been looked up, each has the values that are chosen for it. -/
theorem exists_addVariables
    (hvalid : ∀ p ∈ parameters, ∀ values ∈ valuesIn? environment p, values.all p.accepts)
    (g : Given) : ∃ g', parameters.foldlM (addVariable environment) g = .ok g' ∧
      ∀ p ∈ parameters, g'.values p = (chosen? g environment p).getD [] := by
  have hfold : ∃ g', parameters.foldlM (addVariable environment) g = .ok g' ∧
      (∀ q, chosen? g' environment q = chosen? g environment q) ∧ (∀ q, g.has q → g'.has q) ∧
      ∀ p ∈ parameters, ¬ g'.has p → valuesIn? environment p = none := by
    induction parameters generalizing g with
    | nil => exact ⟨g, rfl, fun _ => rfl, fun _ h => h, by simp⟩
    | cons p parameters ih =>
      obtain ⟨hp, hparameters⟩ := List.forall_mem_cons.1 hvalid
      obtain ⟨next, hadd, hchosen, hkept, hnone⟩ := exists_addVariable hp g
      obtain ⟨g', hrest, hchosen', hkept', hnone'⟩ := ih hparameters next
      refine ⟨g', ?_, fun q => (hchosen' q).trans (hchosen q), fun q h => hkept' q (hkept q h),
        List.forall_mem_cons.2 ⟨fun h => hnone fun hhas => h (hkept' p hhas), hnone'⟩⟩
      rw [List.foldlM_cons, hadd]
      exact hrest
  obtain ⟨g', hadded, hchosen, -, hnone⟩ := hfold
  refine ⟨g', hadded, fun p hp => ?_⟩
  rw [← hchosen p, chosen?]
  by_cases hhas : g'.has p
  · rw [if_pos hhas, Option.getD_some]
  · rw [if_neg hhas, hnone p hp hhas, Given.values_eq_nil hhas, Option.getD_none]

theorem addVariables_nil (g : Given) : parameters.foldlM (addVariable []) g = .ok g := by
  have hstep (p : Parameter) : addVariable [] g p = .ok g := by
    rw [addVariable]
    split
    · rfl
    · cases p.environmentName <;> rfl
  induction parameters with
  | nil => rfl
  | cons p parameters ih =>
    rw [List.foldlM_cons, hstep]
    exact ih

/-- The environment comes after what is given explicitly. -/
theorem given_eq (parameters : List Parameter) (environment : Environment)
    (arguments : List String) :
    given parameters environment arguments =
      given parameters [] arguments >>= parameters.foldlM (addVariable environment) := by
  rw [given, given]
  cases arguments.foldlM (State.read parameters) State.initial with
  | error e => rfl
  | ok s =>
    simp only [bind, Except.bind]
    cases s.settle with
    | error e => rfl
    | ok settled => simp only [addVariables_nil]

theorem isExplicit_of_given (h : given parameters [] arguments = .ok explicit) :
    explicit.IsExplicit := by
  obtain ⟨s, hread, h⟩ := exists_of_bind_eq_ok h
  obtain ⟨settled, hsettle, h⟩ := exists_of_bind_eq_ok h
  rw [addVariables_nil] at h
  cases h
  exact State.keeps_settle s settled
    (State.keeps_readAll parameters arguments _ s Given.isExplicit_nil hread) hsettle

end Lapse.CommandLine
