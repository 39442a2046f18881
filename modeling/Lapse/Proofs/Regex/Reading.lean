import Lapse.Regex.Reader

/-!
# Reading the parts of a pattern

What the reader makes of the parts that patterns are put together from, whatever follows them:
escaped characters, named classes, the beginnings and ends of groups, and repetitions.
-/
namespace Lapse.Regex.Reader

/-- A character that does not begin a gap, since gaps are off or it is neither a blank nor a `#`. -/
def IsSolid (flags : Flags) (c : Char) : Prop :=
  flags.ignoreBlank = false ∨ (Text.isBlank c = false ∧ c ≠ '#')

theorem skip_cons {flags : Flags} {c : Char} (h : IsSolid flags c) (text : List Char) :
    skip flags (c :: text) = c :: text := by
  rw [skip]
  split
  · rcases h with h | ⟨hblank, hsign⟩
    · simp_all
    · rw [dropGap, if_neg (by simp [hblank]), if_neg hsign]
  · rfl

theorem read?_nil (s : State) : read? s [] = some s := by
  have h : skip s.flags [] = [] := by
    rw [skip]
    split <;> rfl
  rw [read?, h]

theorem read?_of_step {s next : State} {c : Char} {text rest : List Char}
    (hsolid : IsSolid s.flags c) (hstep : step? s (c :: text) = some (next, rest))
    (hshort : rest.length ≤ text.length) : read? s (c :: text) = read? next rest := by
  rw [read?, skip_cons hsolid]
  simp only [hstep]
  exact if_pos (Nat.lt_succ_of_le hshort)

theorem read?_of_step_eq_none {s : State} {c : Char} {text : List Char}
    (hsolid : IsSolid s.flags c) (hstep : step? s (c :: text) = none) :
    read? s (c :: text) = none := by
  rw [read?, skip_cons hsolid]
  simp only [hstep]

theorem State.finish?_eq_some_iff {s : State} {regex : Regex} :
    s.finish? = some regex ↔
      s.outer = [] ∧ s.level.close.height ≤ heightLimit ∧ s.level.close.regex = regex := by
  rw [State.finish?]
  cases houter : s.outer with
  | nil =>
    by_cases hheight : s.level.close.height ≤ heightLimit
    · simp [hheight]
    · simp [hheight]
  | cons => simp

/-- A text is a pattern when it is read to the end, no group is left open, and nothing is too
deep. -/
theorem ofAnySize?_eq_some_iff {text : List Char} {regex : Regex} :
    ofAnySize? text = some regex ↔ ∃ s, read? .start text = some s ∧ s.outer = [] ∧
      s.level.close.height ≤ heightLimit ∧ s.level.close.regex = regex := by
  simp only [ofAnySize?, Option.bind_eq_some_iff, State.finish?_eq_some_iff]

theorem exists_read?_of_ofText? [SizeLimit] {text : List Char} {regex : Regex}
    (h : ofText? text = some regex) : ∃ s, read? .start text = some s ∧ s.outer = [] ∧
      s.level.close.height ≤ heightLimit ∧ s.level.close.regex = regex :=
  ofAnySize?_eq_some_iff.1 (ofText?_eq_some_iff.1 h).1

end Reader

/-- No pattern is too large. -/
@[reducible]
def SizeLimit.unlimited : SizeLimit := ⟨fun _ => true⟩

theorem ofText?_unlimited (text : List Char) :
    @ofText? .unlimited text = ofAnySize? text := by
  unfold ofText?
  cases ofAnySize? text <;> rfl

namespace Reader

/-- The item of a character that stands for itself. -/
def literal (flags : Flags) (c : Char) : Item := ⟨.set (foldFor flags (.singleton c)), 0, true⟩

/-- Adds items from left to right. -/
def Level.pushAll (level : Level) (items : List Item) : Level :=
  { level with items := items.reverse ++ level.items }

def State.pushAll (s : State) (items : List Item) : State :=
  { s with level := s.level.pushAll items }

theorem State.pushAll_cons (s : State) (item : Item) (items : List Item) :
    s.pushAll (item :: items) = (s.push item).pushAll items := by
  simp [pushAll, push, Level.pushAll, Level.push]

theorem State.pushAll_append (s : State) (items others : List Item) :
    s.pushAll (items ++ others) = (s.pushAll items).pushAll others := by
  simp [pushAll, Level.pushAll]

@[simp] theorem State.flags_push (s : State) (item : Item) : (s.push item).flags = s.flags := rfl

@[simp] theorem State.flags_pushAll (s : State) (items : List Item) :
    (s.pushAll items).flags = s.flags := rfl

theorem readEscape?_meta {c : Char} (h : isMeta c) (flags : Flags) (text : List Char) :
    readEscape? flags (c :: text) = some (.literal c false, text) := by
  simp only [isMeta, decide_eq_true_eq] at h
  rcases h with rfl | rfl | rfl | rfl | rfl | rfl | rfl | rfl | rfl | rfl | rfl | rfl | rfl | rfl |
    rfl | rfl | rfl | rfl <;> rfl

theorem primitiveRegex?_literal (flags : Flags) (c : Char) :
    primitiveRegex? flags (.literal c false) = some (.set (foldFor flags (.singleton c))) := by
  simp [primitiveRegex?]

theorem step?_meta {c : Char} (h : isMeta c) (s : State) (text : List Char) :
    step? s ('\\' :: c :: text) = some (s.push (literal s.flags c), text) := by
  simp [step?, readEscape?_meta h, primitiveRegex?_literal, literal]

theorem step?_ordinary {c : Char} (h : ¬ isMeta c) (s : State) (text : List Char) :
    step? s (c :: text) = some (s.push (literal s.flags c), text) := by
  simp only [isMeta, decide_eq_true_eq, not_or] at h
  obtain ⟨h₁, h₂, h₃, h₄, h₅, h₆, h₇, h₈, h₉, -, h₁₁, -, h₁₃, h₁₄, -⟩ := h
  simp [step?, h₁, h₂, h₃, h₄, h₅, h₆, h₇, h₈, h₉, h₁₁, h₁₃, h₁₄, primitiveRegex?_literal, literal]

theorem read?_escapeChar {s : State} (h : s.flags.ignoreBlank = false) (c : Char)
    (text : List Char) :
    read? s (escapeChar c ++ text) = read? (s.push (literal s.flags c)) text := by
  rw [escapeChar]
  by_cases hc : isMeta c
  · rw [if_pos hc]
    exact read?_of_step (.inl h) (step?_meta hc s text) (Nat.le_succ _)
  · rw [if_neg hc]
    exact read?_of_step (.inl h) (step?_ordinary hc s text) (Nat.le_refl _)

/-- An escaped text stands for its characters one after the other. -/
theorem read?_escape {s : State} (h : s.flags.ignoreBlank = false) (word text : List Char) :
    read? s (escape word ++ text) = read? (s.pushAll (word.map (literal s.flags))) text := by
  induction word generalizing s with
  | nil => rfl
  | cons c word ih =>
    have hsplit : escape (c :: word) ++ text = escapeChar c ++ (escape word ++ text) := by
      simp [escape]
    rw [hsplit, read?_escapeChar h, ih (s := s.push (literal s.flags c)) h, List.map_cons,
      State.pushAll_cons]
    rfl

theorem groups_sequence (rs : List Regex) : (sequence rs).groups = rs.flatMap Regex.groups := by
  induction rs with
  | nil => rfl
  | cons r rs ih =>
    cases rs with
    | nil => simp [sequence]
    | cons s rs =>
      rw [List.flatMap_cons, ← ih]
      rfl

theorem groups_choice (rs : List Regex) : (choice rs).groups = rs.flatMap Regex.groups := by
  induction rs with
  | nil => rfl
  | cons r rs ih =>
    cases rs with
    | nil => simp [choice]
    | cons s rs =>
      rw [List.flatMap_cons, ← ih]
      rfl

namespace Level

theorem regex_current (level : Level) :
    level.current.regex = sequence (level.items.reverse.map (·.regex)) := by
  rcases level with ⟨done, _ | ⟨a, _ | ⟨b, items⟩⟩⟩ <;> rfl

theorem regex_close (level : Level) :
    level.close.regex = choice ((level.current :: level.done).reverse.map (·.regex)) := by
  rcases level with ⟨_ | ⟨a, done⟩, items⟩ <;> rfl

/-- A group without alternatives is the sequence of its items. -/
theorem regex_close_pushAll (items : List Item) :
    (Level.new.pushAll items).close.regex = sequence (items.map (·.regex)) := by
  rw [regex_close]
  simp [regex_current, new, pushAll, choice]

theorem foldl_max_le {heights : List Nat} {first n : Nat} (hfirst : first ≤ n)
    (h : ∀ x ∈ heights, x ≤ n) : heights.foldl max first ≤ n := by
  induction heights generalizing first with
  | nil => exact hfirst
  | cons x heights ih =>
    exact ih (Nat.max_le.2 ⟨hfirst, h x List.mem_cons_self⟩)
      fun y hy => h y (List.mem_cons_of_mem _ hy)

theorem height_current_le {level : Level} {n : Nat} (h : ∀ item ∈ level.items, item.height ≤ n) :
    level.current.height ≤ n + 1 := by
  rcases level with ⟨done, _ | ⟨a, _ | ⟨b, items⟩⟩⟩
  · exact Nat.zero_le _
  · exact Nat.le_succ_of_le (h a List.mem_cons_self)
  · refine Nat.succ_le_succ (foldl_max_le (Nat.zero_le _) fun x hx => ?_)
    obtain ⟨item, hitem, rfl⟩ := List.mem_map.1 hx
    exact h item hitem

theorem height_close_le {level : Level} {n : Nat} (hcurrent : level.current.height ≤ n)
    (h : ∀ item ∈ level.done, item.height ≤ n) : level.close.height ≤ n + 1 := by
  rcases level with ⟨_ | ⟨a, done⟩, items⟩
  · exact Nat.le_succ_of_le hcurrent
  · refine Nat.succ_le_succ (foldl_max_le (Nat.zero_le _) fun x hx => ?_)
    obtain ⟨item, hitem, rfl⟩ := List.mem_map.1 hx
    rcases List.mem_cons.1 (List.mem_reverse.1 hitem) with rfl | hitem
    · exact hcurrent
    · exact h item hitem

theorem height_close_pushAll_le {items : List Item} {n : Nat}
    (h : ∀ item ∈ items, item.height ≤ n) : (Level.new.pushAll items).close.height ≤ n + 1 := by
  have hcurrent : (Level.new.pushAll items).current.height ≤ n + 1 :=
    height_current_le (by simpa [new, pushAll] using h)
  exact hcurrent

end Level

theorem step?_bar (s : State) (text : List Char) :
    step? s ('|' :: text) = some ({ s with level := s.level.split }, text) := by
  simp [step?]

/-- The innermost group after the alternatives of `words` are read in it. -/
def wordsLevel (flags : Flags) : Level → List (List Char) → Level
  | level, [] => level
  | level, [word] => level.pushAll (word.map (literal flags))
  | level, word :: words => wordsLevel flags (level.pushAll (word.map (literal flags))).split words

/-- The pattern of a text: its characters one after the other. -/
def wordRegex (flags : Flags) (word : List Char) : Regex :=
  sequence (word.map fun c => .set (foldFor flags (.singleton c)))

theorem read?_words {s : State} (h : s.flags.ignoreBlank = false) (words : List (List Char))
    (text : List Char) :
    read? s (['|'].intercalate (words.map escape) ++ text) =
      read? { s with level := wordsLevel s.flags s.level words } text := by
  induction words generalizing s with
  | nil => rfl
  | cons word words ih =>
    cases words with
    | nil =>
      rw [List.map_cons, List.map_nil, List.intercalate_singleton]
      exact read?_escape h word text
    | cons next words =>
      have hsplit : ['|'].intercalate ((word :: next :: words).map escape) ++ text =
          escape word ++ '|' :: (['|'].intercalate ((next :: words).map escape) ++ text) := by
        simp [List.intercalate]
      rw [hsplit, read?_escape h,
        read?_of_step (s := s.pushAll (word.map (literal s.flags))) (.inl h) (step?_bar _ _)
          (Nat.le_refl _)]
      exact ih (s := { s with level := (s.level.pushAll (word.map (literal s.flags))).split }) h

theorem regex_current_pushAll (flags : Flags) (done : List Item) (word : List Char) :
    (Level.pushAll ⟨done, []⟩ (word.map (literal flags))).current.regex = wordRegex flags word := by
  simp [Level.regex_current, Level.pushAll, wordRegex, literal, Function.comp_def]

theorem regex_close_wordsLevel (flags : Flags) (done : List Item) {words : List (List Char)}
    (h : words ≠ []) :
    (wordsLevel flags ⟨done, []⟩ words).close.regex =
      choice (done.reverse.map (·.regex) ++ words.map (wordRegex flags)) := by
  induction words generalizing done with
  | nil => exact (h rfl).elim
  | cons word words ih =>
    cases words with
    | nil =>
      rw [wordsLevel, Level.regex_close, List.reverse_cons, List.map_append, List.map_singleton,
        regex_current_pushAll]
      rfl
    | cons next words =>
      rw [wordsLevel, Level.split, ih _ (List.cons_ne_nil _ _), List.reverse_cons,
        List.map_append, List.map_singleton, regex_current_pushAll, List.append_assoc]
      · rfl
      · simp

theorem groups_choice_words (flags : Flags) (words : List (List Char)) :
    (choice (words.map (wordRegex flags))).groups = [] := by
  simp [groups_choice, wordRegex, groups_sequence, Regex.groups]

theorem height_close_wordsLevel_le (flags : Flags) {done : List Item}
    (hdone : ∀ item ∈ done, item.height ≤ 1) (words : List (List Char)) :
    (wordsLevel flags ⟨done, []⟩ words).close.height ≤ 2 := by
  have hcurrent (done : List Item) (word : List Char) :
      (Level.pushAll ⟨done, []⟩ (word.map (literal flags))).current.height ≤ 1 := by
    refine Level.height_current_le fun item hitem => ?_
    simp only [Level.pushAll, List.append_nil, List.mem_reverse, List.mem_map] at hitem
    obtain ⟨c, -, rfl⟩ := hitem
    exact Nat.le_refl _
  induction words generalizing done with
  | nil => exact Level.height_close_le (Nat.zero_le _) hdone
  | cons word words ih =>
    cases words with
    | nil => exact Level.height_close_le (hcurrent done word) hdone
    | cons next words =>
      refine ih fun item hitem => ?_
      rcases List.mem_cons.1 hitem with rfl | hitem
      · exact hcurrent done word
      · exact hdone item hitem

/-- What can stand between the angle brackets of a group. -/
def IsName (name : List Char) : Prop :=
  name.head?.any isNameStart ∧ name.tail.all isNameChar ∧ '>' ∉ name

instance (name : List Char) : Decidable (IsName name) := by
  unfold IsName
  infer_instance

theorem takeWhile_ne_append {stop : Char} {word : List Char} (h : stop ∉ word)
    (text : List Char) : (word ++ stop :: text).takeWhile (· ≠ stop) = word := by
  rw [List.takeWhile_append_of_pos, List.takeWhile_cons_of_neg (by simp), List.append_nil]
  intro c hc
  simpa using fun e : c = stop => h (e ▸ hc)

theorem readName?_append {name : List Char} (h : IsName name) (text : List Char) :
    readName? (name ++ '>' :: text) = some (String.ofList name, text) := by
  obtain ⟨hfirst, hothers, hstop⟩ := h
  rw [readName?, takeWhile_ne_append hstop, List.drop_left]
  cases name with
  | nil => cases hfirst
  | cons first others =>
    rw [List.head?_cons, Option.any_some] at hfirst
    rw [List.tail_cons] at hothers
    simp [hfirst, hothers]

theorem step?_namedGroup {name : String} (h : IsName name.toList) (s : State)
    (text : List Char) :
    step? s ('(' :: '?' :: 'P' :: '<' :: (name.toList ++ '>' :: text)) =
      if name ∈ s.names then none else some (s.enterCapture (some name), text) := by
  have hskip (text : List Char) : skip s.flags ('?' :: text) = '?' :: text :=
    skip_cons (.inr (by decide)) text
  simp [step?, readGroup?, readMarked?, hskip, readNamedGroup?, readName?_append h]

theorem read?_namedGroup {s : State} {name : String} (h : IsName name.toList)
    (hnew : name ∉ s.names) (text : List Char) :
    read? s ('(' :: '?' :: 'P' :: '<' :: (name.toList ++ '>' :: text)) =
      read? (s.enterCapture (some name)) text := by
  refine read?_of_step (.inr (by decide)) ((step?_namedGroup h s text).trans (if_neg hnew)) ?_
  simp only [List.length_cons, List.length_append]
  omega

theorem read?_takenName {s : State} {name : String} (h : IsName name.toList)
    (hold : name ∈ s.names) (text : List Char) :
    read? s ('(' :: '?' :: 'P' :: '<' :: (name.toList ++ '>' :: text)) = none :=
  read?_of_step_eq_none (.inr (by decide)) ((step?_namedGroup h s text).trans (if_pos hold))

/-- The beginning of a group without a number. -/
theorem step?_plainGroup (s : State) (text : List Char) :
    step? s ('(' :: '?' :: ':' :: text) = some (s.enter none s.flags, text) := by
  have hskip (text : List Char) : skip s.flags ('?' :: text) = '?' :: text :=
    skip_cons (.inr (by decide)) text
  simp [step?, readGroup?, readMarked?, hskip, readFlagGroup?, readSigns?, signsAllowed, Flags.apply]

theorem read?_plainGroup (s : State) (text : List Char) :
    read? s ('(' :: '?' :: ':' :: text) = read? (s.enter none s.flags) text :=
  read?_of_step (.inr (by decide)) (step?_plainGroup s text) (Nat.le_add_right _ 2)

/-- The item of a group with this beginning. -/
def Opening.wrap (opening : Opening) (inner : Item) : Item :=
  ⟨match opening.capture with
    | some (index, name) => .group index name inner.regex
    | none => inner.regex, inner.height + 1, true⟩

theorem State.leave?_of_outer {s : State} {level : Level} {opening : Opening}
    {outer : List (Level × Opening)} (h : s.outer = (level, opening) :: outer) :
    s.leave? = some { s with
      flags := opening.flags, level := level.push (opening.wrap s.level.close),
      outer := outer } := by
  rw [State.leave?, h]
  rfl

/-- Adds a finished capturing group. -/
def State.pushGroup (s : State) (name : String) (inner : Level) : State :=
  State.push { s with captures := s.captures + 1, names := name :: s.names }
    ⟨.group (s.captures + 1) (some name) inner.close.regex, inner.close.height + 1, true⟩

theorem read?_close {s next : State} (h : s.leave? = some next) (text : List Char) :
    read? s (')' :: text) = read? next text := by
  have hstep : step? s (')' :: text) = some (next, text) := by simp [step?, h]
  exact read?_of_step (.inr (by decide)) hstep (Nat.le_refl _)

/-- The end of a group without a number. -/
theorem read?_closePlain {s : State} {level : Level} {flags : Flags}
    {outer : List (Level × Opening)} (h : s.outer = (level, ⟨none, flags⟩) :: outer)
    (text : List Char) :
    read? s (')' :: text) =
      read? (State.push { s with flags := flags, level := level, outer := outer }
        ⟨s.level.close.regex, s.level.close.height + 1, true⟩) text := by
  refine read?_close ?_ text
  rw [State.leave?, h]
  rfl

/-- The end of a capturing group. -/
theorem read?_closeCapture {s : State} {level : Level} {index : Nat} {name : Option String}
    {flags : Flags} {outer : List (Level × Opening)}
    (h : s.outer = (level, ⟨some (index, name), flags⟩) :: outer) (text : List Char) :
    read? s (')' :: text) =
      read? (State.push { s with flags := flags, level := level, outer := outer }
        ⟨.group index name s.level.close.regex, s.level.close.height + 1, true⟩) text := by
  refine read?_close ?_ text
  rw [State.leave?, h]
  rfl

theorem read?_closeGroup (s : State) (name : String) (inner : Level) (text : List Char) :
    read? { s.enterCapture (some name) with level := inner } (')' :: text) =
      read? (s.pushGroup name inner) text :=
  read?_closeCapture rfl text

/-- A group of alternatives, each an escaped text. -/
theorem read?_wordsGroup {s : State} (h : s.flags.ignoreBlank = false) {name : String}
    (hname : IsName name.toList) (hnew : name ∉ s.names) (words : List (List Char))
    (text : List Char) :
    read? s ('(' :: '?' :: 'P' :: '<' ::
        (name.toList ++ '>' :: (['|'].intercalate (words.map escape) ++ ')' :: text))) =
      read? (s.pushGroup name (wordsLevel s.flags .new words)) text := by
  rw [read?_namedGroup hname hnew, read?_words (s := s.enterCapture (some name)) h]
  exact read?_closeGroup s name _ text

/-- The item of a class in brackets that holds only a named class. -/
def namedClass (flags : Flags) (s : CharSet) : Item :=
  ⟨.set (foldFor flags (.union .empty (foldFor flags s))), 1, true⟩

theorem circumflex_of_ne {c : Char} (h : c ≠ '^') (flags : Flags) (text : List Char) :
    circumflex flags (c :: text) = (false, c :: text) := by
  rw [circumflex]
  exact fun rest e => h (List.cons.inj e).1

theorem readNamed?_colon {text : List Char} (h : text.head? ≠ some '^') :
    readNamed? (':' :: text) = readClassName? false text := by
  rw [readNamed?]
  exact fun rest e => h (e ▸ rfl)

theorem readBracket?_named {name : String} {set : CharSet}
    (hname : ':' ∉ name.toList) (hfirst : name.toList.head? ≠ some '^')
    (hset : CharSet.posix.lookup name = some set) (flags : Flags)
    (text : List Char) :
    readBracket? flags ('[' :: ':' :: (name.toList ++ ':' :: ']' :: ']' :: text)) =
      some (foldFor flags (.union .empty (foldFor flags set)), 1, text) := by
  have hskip {c : Char} (hblank : Text.isBlank c = false) (hsign : c ≠ '#') (text : List Char) :
      skip flags (c :: text) = c :: text := skip_cons (.inr ⟨hblank, hsign⟩) text
  have hopen (text : List Char) :
      readOpening? flags ('[' :: text) = some (.new false, '[' :: text) := by
    have hparts : takeParts flags (· = '-') false ('[' :: text) = ([], '[' :: text) := by
      simp [takeParts, show Text.isBlank '[' = false by decide]
    rw [readOpening?, hskip (by decide) (by decide), circumflex_of_ne (by decide)]
    simp [openedClass?, hparts]
  have hnamed : readNamed? (':' :: (name.toList ++ ':' :: ']' :: ']' :: text)) =
      some (false, set, ']' :: text) := by
    have hcircumflex : (name.toList ++ ':' :: ']' :: ']' :: text).head? ≠ some '^' := by
      cases h : name.toList with
      | nil => simp
      | cons first others => simpa [h] using hfirst
    rw [readNamed?_colon hcircumflex, readClassName?, takeWhile_ne_append hname, List.drop_left,
      String.ofList_toList, hset]
    rfl
  have hfirst : bracketStep? flags [.new false]
      ('[' :: ':' :: (name.toList ++ ':' :: ']' :: ']' :: text)) =
      some (.more [(OpenClass.new false).add (foldFor flags set)] (']' :: text)) := by
    have hbracket := hskip (c := '[') (by decide) (by decide)
    simp [bracketStep?, hbracket, hnamed, negate?]
  have hlast : bracketStep? flags [(OpenClass.new false).add (foldFor flags set)] (']' :: text) =
      some (.closed (foldFor flags (.union .empty (foldFor flags set))) 1 text) := by
    have hbracket := hskip (c := ']') (by decide) (by decide)
    simp [bracketStep?, hbracket, OpenClass.new, OpenClass.add, OpenClass.depth, OpenClass.close?,
      OpenClass.value, negate?]
  rw [readBracket?, hopen]
  simp only [Option.bind_eq_bind, Option.bind_some]
  rw [readLevels?, hfirst]
  simp only
  rw [if_pos, readLevels?, hlast]
  simp only [List.length_cons, List.length_append]
  omega

theorem step?_namedClass {name : String} {set : CharSet}
    (hname : ':' ∉ name.toList) (hfirst : name.toList.head? ≠ some '^')
    (hset : CharSet.posix.lookup name = some set) (s : State) (text : List Char) :
    step? s ('[' :: '[' :: ':' :: (name.toList ++ ':' :: ']' :: ']' :: text)) =
      some (s.push (namedClass s.flags set), text) := by
  simp [step?, readBracket?_named hname hfirst hset, namedClass]

theorem read?_namedClass {name : String} {set : CharSet}
    (hname : ':' ∉ name.toList) (hfirst : name.toList.head? ≠ some '^')
    (hset : CharSet.posix.lookup name = some set) (s : State) (text : List Char) :
    read? s ('[' :: '[' :: ':' :: (name.toList ++ ':' :: ']' :: ']' :: text)) =
      read? (s.push (namedClass s.flags set)) text := by
  refine read?_of_step (.inr (by decide))
    (step?_namedClass hname hfirst hset s text) ?_
  simp only [List.length_cons, List.length_append]
  omega

theorem readGreed_of_head {text : List Char} (h : text.head? ≠ some '?') :
    readGreed text = (true, text) := by
  rw [readGreed]
  rintro rest rfl
  exact h rfl

/-- The item of a repetition. -/
def Item.repeatedBy (item : Item) (least : Nat) (most : Option Nat) (greedy : Bool) : Item :=
  ⟨repetition item.regex least most greedy, item.height + 1, true⟩

theorem State.repeatLast?_of_items {s : State} {item : Item} {items : List Item}
    (h : s.level.items = item :: items) (hitem : item.repeatable) (least : Nat)
    (most : Option Nat) (greedy : Bool) :
    s.repeatLast? least most greedy = some { s with
      level := ⟨s.level.done, item.repeatedBy least most (greedy != s.flags.swapGreed) :: items⟩ }
    := by
  rw [State.repeatLast?, State.popRepeatable?, h]
  simp only [hitem, if_true]
  rfl

theorem State.exists_of_repeatLast? {s s' : State} {least : Nat} {most : Option Nat}
    {greedy : Bool} (h : s.repeatLast? least most greedy = some s') :
    ∃ item items, s.level.items = item :: items ∧ item.repeatable = true ∧ s' = { s with
      level := ⟨s.level.done, item.repeatedBy least most (greedy != s.flags.swapGreed) :: items⟩ }
    := by
  cases hitems : s.level.items with
  | nil =>
    rw [State.repeatLast?, State.popRepeatable?, hitems] at h
    cases h
  | cons item items =>
    cases hitem : item.repeatable with
    | false =>
      rw [State.repeatLast?, State.popRepeatable?, hitems] at h
      simp [hitem] at h
    | true =>
      rw [State.repeatLast?_of_items hitems hitem] at h
      cases h
      exact ⟨item, items, rfl, hitem, rfl⟩

/-- A repetition without a question mark behind it. -/
def Item.repeated (flags : Flags) (item : Item) (least : Nat) (most : Option Nat) : Item :=
  item.repeatedBy least most (true != flags.swapGreed)

theorem repeatLast?_push (s : State) {item : Item} (h : item.repeatable) (least : Nat)
    (most : Option Nat) :
    (s.push item).repeatLast? least most true =
      some (s.push (item.repeated s.flags least most)) :=
  State.repeatLast?_of_items rfl h least most true

theorem read?_star {s : State} {item : Item} (h : item.repeatable) {text : List Char}
    (htext : text.head? ≠ some '?') :
    read? (s.push item) ('*' :: text) = read? (s.push (item.repeated s.flags 0 none)) text := by
  have hstep : step? (s.push item) ('*' :: text) =
      some (s.push (item.repeated s.flags 0 none), text) := by
    simp [step?, readGreed_of_head htext, repeatLast?_push s h]
  exact read?_of_step (.inr (by decide)) hstep (Nat.le_refl _)

theorem read?_plus {s : State} {item : Item} (h : item.repeatable) {text : List Char}
    (htext : text.head? ≠ some '?') :
    read? (s.push item) ('+' :: text) = read? (s.push (item.repeated s.flags 1 none)) text := by
  have hstep : step? (s.push item) ('+' :: text) =
      some (s.push (item.repeated s.flags 1 none), text) := by
    simp [step?, readGreed_of_head htext, repeatLast?_push s h]
  exact read?_of_step (.inr (by decide)) hstep (Nat.le_refl _)

theorem read?_optional {s : State} {item : Item} (h : item.repeatable) {text : List Char}
    (htext : text.head? ≠ some '?') :
    read? (s.push item) ('?' :: text) =
      read? (s.push (item.repeated s.flags 0 (some 1))) text := by
  have hstep : step? (s.push item) ('?' :: text) =
      some (s.push (item.repeated s.flags 0 (some 1)), text) := by
    simp [step?, readGreed_of_head htext, repeatLast?_push s h]
  exact read?_of_step (.inr (by decide)) hstep (Nat.le_refl _)

theorem readGroup?_of_mark {s : State} {text rest : List Char}
    (h : skip s.flags text = '?' :: rest) : readGroup? s text = readMarked? s rest := by
  unfold readGroup? readMarked?
  rw [h]
  split <;> simp_all

theorem readGroup?_of_ne {s : State} {text rest : List Char} {c : Char}
    (h : skip s.flags text = c :: rest) (hc : c ≠ '?') :
    readGroup? s text = some (s.enterCapture none, c :: rest) := by
  unfold readGroup?
  rw [h]
  split <;> simp_all

theorem readGroup?_of_nil {s : State} {text : List Char} (h : skip s.flags text = []) :
    readGroup? s text = some (s.enterCapture none, []) := by
  rw [readGroup?, h]

theorem readMarked?_of_ne {c : Char} (hp : c ≠ 'P') (hangle : c ≠ '<') (s : State)
    (text : List Char) : readMarked? s (c :: text) = readFlagGroup? s (c :: text) := by
  unfold readMarked?
  split <;> simp_all

theorem readFlagGroup?_p (s : State) (text : List Char) :
    readFlagGroup? s ('P' :: text) = none := by
  simp [readFlagGroup?, readSigns?, isFlag]

theorem readMarked?_p {c : Char} (hangle : c ≠ '<') (s : State) (text : List Char) :
    readMarked? s ('P' :: c :: text) = none := by
  unfold readMarked?
  split <;> simp_all [readFlagGroup?_p]

theorem readMarked?_angle {c : Char} (hequals : c ≠ '=') (hbang : c ≠ '!') (s : State)
    (text : List Char) : readMarked? s ('<' :: c :: text) = readNamedGroup? s (c :: text) := by
  unfold readMarked?
  split <;> simp_all

end Lapse.Regex.Reader
