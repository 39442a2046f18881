import Lapse.Settings
import Lapse.Proofs.CommentStyle.Placeholders

/-!
# The pattern of the default template

The default template is `{tag}` with `{date}` in optional brackets behind it. What the frame around
it becomes is known in full: `defaultRegex` is the pattern, for all openers, tags and layouts.
-/
namespace Lapse.CommentStyle

open Regex (CharSet choice)
open Regex.Reader (State Item Level Flags read? literal wordRegex wordsLevel groups_sequence)

/-- The default template around its placeholders. -/
def defaultParts : TemplateParts :=
  ⟨[], ['(', '?', ':', '\\', '['], ['\\', ']', ')', '?'], true⟩

theorem cut_defaultParts : defaultParts.Cut Settings.default.style.template.toList :=
  ⟨by decide, by decide, by decide⟩

/-- The default template with the groups in the places of the tag and the date. -/
theorem substitute_default (tags : List String) (layout : DateLayout) :
    substitute Settings.default.style.template.toList (alternation tags) layout =
      namedGroup "tag" (alternation tags) ++ ('(' :: '?' :: ':' :: '\\' :: '[' ::
        (expiryGroup layout ++ ['\\', ']', ')', '?'])) :=
  cut_defaultParts.substitute tags layout

/-- The levels that are read inside the brackets around the date and inside the outermost group. -/
def bracketLevel (layoutText : List Char) : Level :=
  let expiry := expiryLevel {} layoutText
  ((Level.new.push (literal {} '[')).push
    ⟨.group 4 (some "expiry") expiry.close.regex, expiry.close.height + 1, true⟩).push
    (literal {} ']')

def wordsItem (index : Nat) (name : String) (words : List String) : Item :=
  let level := wordsLevel {} .new (words.map String.toList)
  ⟨.group index (some name) level.close.regex, level.close.height + 1, true⟩

def noteLevel (openers tags : List String) (layoutText : List Char) : Level :=
  let bracket := (bracketLevel layoutText).close
  let content := contentLevel {} (.compl (.singleton '\n'))
  Level.new.pushAll [wordsItem 2 "comment" openers, blankItem {}, wordsItem 3 "tag" tags,
    (⟨bracket.regex, bracket.height + 1, true⟩ : Item).repeated {} 0 (some 1), blankItem {},
    (⟨.group 5 (some "content") content.close.regex, content.close.height + 1, true⟩ :
      Item).repeated {} 0 (some 1)]

def wholeLevel (openers tags : List String) (layoutText : List Char) : Level :=
  let note := noteLevel openers tags layoutText
  Level.new.pushAll [⟨.group 1 (some "annotation") note.close.regex, note.close.height + 1, true⟩,
    ⟨.look .stop, 0, true⟩]

theorem frame_default (openers tags : List String) (layout : DateLayout) :
    frame true (alternation openers)
      (substitute Settings.default.style.template.toList (alternation tags) layout) =
      '(' :: '?' :: 'P' :: '<' :: ("annotation".toList ++ '>' ::
        (namedGroup "comment" (alternation openers) ++ (blanks ++
          (namedGroup "tag" (alternation tags) ++ ('(' :: '?' :: ':' :: '\\' :: '[' ::
            (expiryGroup layout ++ ('\\' :: ']' :: ')' :: '?' :: (blanks ++
              (namedGroup "content" ".+".toList ++ ['?', ')', '$']))))))))) := by
  rw [frame, if_pos rfl, List.nil_append, namedGroup_append, substitute_default]
  simp only [List.append_assoc, List.cons_append, List.nil_append]

theorem read?_default (openers tags : List String) {layoutText : List Char} {layout : DateLayout}
    (hlayout : DateLayout.ofText layoutText = .ok layout) :
    read? .start (frame true (alternation openers)
      (substitute Settings.default.style.template.toList (alternation tags) layout)) =
      some ⟨{}, 5, ["content", "expiry", "tag", "comment", "annotation"],
        wholeLevel openers tags layoutText, []⟩ := by
  rw [frame_default]
  refine (Regex.Reader.read?_namedGroup (by decide +kernel) (by simp [State.start]) _).trans ?_
  refine (read?_alternationGroup rfl (by decide +kernel)
    (show "comment" ∉ ["annotation"] by decide) openers _).trans ?_
  refine (read?_blanks _ ?_).trans ?_
  · rw [namedGroup_append]
    simp
  refine (read?_alternationGroup rfl (by decide +kernel)
    (show "tag" ∉ ["comment", "annotation"] by decide) tags _).trans ?_
  refine (Regex.Reader.read?_plainGroup _ _).trans ?_
  refine (Regex.Reader.read?_of_step (.inl rfl) (Regex.Reader.step?_meta rfl _ _)
    (Nat.le_succ _)).trans ?_
  refine (read?_expiryGroup rfl (show "expiry" ∉ ["tag", "comment", "annotation"] by decide)
    hlayout _).trans ?_
  refine (Regex.Reader.read?_of_step (.inl rfl) (Regex.Reader.step?_meta rfl _ _)
    (Nat.le_succ _)).trans ?_
  refine (Regex.Reader.read?_closePlain rfl _).trans ?_
  refine (Regex.Reader.read?_optional rfl ?_).trans ?_
  · unfold blanks
    simp
  refine (read?_blanks _ ?_).trans ?_
  · rw [namedGroup_append]
    simp
  refine (read?_content rfl (show "content" ∉ ["expiry", "tag", "comment", "annotation"] by decide)
    _).trans ?_
  refine (Regex.Reader.read?_optional rfl (by simp)).trans ?_
  refine (Regex.Reader.read?_closeCapture rfl _).trans ?_
  have hstop (s : State) : Regex.Reader.step? s ['$'] =
      some (s.push ⟨.look (Regex.Reader.lineStopLook s.flags), 0, true⟩, []) := rfl
  refine (Regex.Reader.read?_of_step (.inl rfl) (hstop _) (Nat.le_refl _)).trans ?_
  exact Regex.Reader.read?_nil _

/-- The choice between the texts in a list. -/
def wordsRegex (words : List String) : Regex :=
  choice ((words.map String.toList).map (wordRegex {}))

def blankSet : CharSet := .union .empty .asciiBlank

def lineSet : CharSet := .compl (.singleton '\n')

/-- What may stand in one place of a date. -/
def shapeSet : Option Char → CharSet
  | none => .union .empty .asciiDigit
  | some c => .singleton c

def shapeRegex (layoutText : List Char) : Regex :=
  Regex.sequence (((layoutText.map DateLayout.shapeOf).map shapeSet).map .set)

/-- A date in brackets, or empty brackets. -/
def bracketRegex (layoutText : List Char) : Regex :=
  Regex.sequence [.set (.singleton '['),
    .group 4 (some "expiry") (.repeated (shapeRegex layoutText) 0 (some 1) true),
    .set (.singleton ']')]

def noteRegex (openers tags : List String) (layoutText : List Char) : Regex :=
  Regex.sequence [.group 2 (some "comment") (wordsRegex openers),
    .repeated (.set blankSet) 0 none true, .group 3 (some "tag") (wordsRegex tags),
    .repeated (bracketRegex layoutText) 0 (some 1) true, .repeated (.set blankSet) 0 none true,
    .repeated (.group 5 (some "content") (.repeated (.set lineSet) 1 none true)) 0 (some 1) true]

def defaultRegex (openers tags : List String) (layoutText : List Char) : Regex :=
  Regex.sequence [.group 1 (some "annotation") (noteRegex openers tags layoutText), .look .stop]

theorem repetition_optional (a : Regex) (greedy : Bool) :
    Regex.repetition a 0 (some 1) greedy = .repeated a 0 (some 1) greedy := by
  cases h : a.takesNothing <;> simp [Regex.repetition, h]

theorem regex_wordsItem (index : Nat) (name : String) {words : List String} (h : words ≠ []) :
    (wordsItem index name words).regex = .group index (some name) (wordsRegex words) := by
  have hne : words.map String.toList ≠ [] := mt List.map_eq_nil_iff.1 h
  exact congrArg (Regex.group index (some name))
    (Regex.Reader.regex_close_wordsLevel {} [] hne)

theorem regex_shapeItem (place : Option Char) :
    (DateLayout.shapeItem {} place).regex = .set (shapeSet place) := by
  cases place <;> rfl

theorem regex_close_expiryLevel (layoutText : List Char) :
    (expiryLevel {} layoutText).close.regex =
      .repeated (shapeRegex layoutText) 0 (some 1) true := by
  have hshape : (Level.new.pushAll ((layoutText.map DateLayout.shapeOf).map
      (DateLayout.shapeItem {}))).close.regex = shapeRegex layoutText := by
    rw [Level.regex_close_pushAll, shapeRegex]
    generalize layoutText.map DateLayout.shapeOf = places
    rw [List.map_map, List.map_map]
    exact congrArg Regex.sequence (List.map_congr_left fun place _ => regex_shapeItem place)
  exact (congrArg (Regex.repetition · 0 (some 1) true) hshape).trans (repetition_optional _ _)

theorem regex_close_bracketLevel (layoutText : List Char) :
    (bracketLevel layoutText).close.regex = bracketRegex layoutText := by
  have hlevel : bracketLevel layoutText = Level.new.pushAll [literal {} '[',
      ⟨.group 4 (some "expiry") (expiryLevel {} layoutText).close.regex,
        (expiryLevel {} layoutText).close.height + 1, true⟩, literal {} ']'] := rfl
  rw [hlevel, Level.regex_close_pushAll, bracketRegex, List.map_cons, List.map_cons,
    regex_close_expiryLevel]
  rfl

theorem regex_close_noteLevel {openers tags : List String} (hopeners : openers ≠ [])
    (htags : tags ≠ []) (layoutText : List Char) :
    (noteLevel openers tags layoutText).close.regex = noteRegex openers tags layoutText := by
  rw [noteLevel, Level.regex_close_pushAll, noteRegex]
  simp only [List.map_cons, List.map_nil, regex_wordsItem _ _ hopeners, regex_wordsItem _ _ htags,
    regex_close_bracketLevel, Item.repeated, Item.repeatedBy]
  rw [show (true != (({} : Flags).swapGreed)) = true from rfl, repetition_optional,
    repetition_optional]
  rfl

theorem regex_close_wholeLevel {openers tags : List String} (hopeners : openers ≠ [])
    (htags : tags ≠ []) (layoutText : List Char) :
    (wholeLevel openers tags layoutText).close.regex = defaultRegex openers tags layoutText := by
  rw [wholeLevel, Level.regex_close_pushAll, defaultRegex, List.map_cons,
    regex_close_noteLevel hopeners htags]
  rfl

theorem height_wholeLevel_le (openers tags : List String) (layoutText : List Char) :
    (wholeLevel openers tags layoutText).close.height ≤ 12 := by
  have hwords (index : Nat) (name : String) (words : List String) :
      (wordsItem index name words).height ≤ 3 :=
    Nat.succ_le_succ (Regex.Reader.height_close_wordsLevel_le {} (by simp) _)
  have hshape : (Level.new.pushAll ((layoutText.map DateLayout.shapeOf).map
      (DateLayout.shapeItem {}))).close.height ≤ 2 := by
    refine Level.height_close_pushAll_le fun item hitem => ?_
    obtain ⟨place, -, rfl⟩ := List.mem_map.1 hitem
    cases place
    · exact Nat.le_refl 1
    · exact Nat.zero_le 1
  have hexpiry : (expiryLevel {} layoutText).close.height ≤ 4 := Nat.add_le_add_right hshape 2
  have hbracket : (bracketLevel layoutText).close.height ≤ 6 := by
    refine @Level.height_close_pushAll_le [literal {} '[',
      ⟨.group 4 (some "expiry") (expiryLevel {} layoutText).close.regex,
        (expiryLevel {} layoutText).close.height + 1, true⟩, literal {} ']'] 5 ?_
    simp [literal]
    omega
  have hnote : (noteLevel openers tags layoutText).close.height ≤ 9 := by
    refine Level.height_close_pushAll_le ?_
    have hopeners := hwords 2 "comment" openers
    have htags := hwords 3 "tag" tags
    simp only [List.forall_mem_cons, List.not_mem_nil, false_implies, implies_true, and_true,
      Item.repeated, Item.repeatedBy]
    refine ⟨by omega, by decide, by omega, by omega, by decide, by decide⟩
  refine Level.height_close_pushAll_le ?_
  simp
  omega

theorem groups_wordsRegex (words : List String) : (wordsRegex words).groups = [] :=
  Regex.Reader.groups_choice_words {} _

theorem groups_defaultRegex (openers tags : List String) (layoutText : List Char) :
    (defaultRegex openers tags layoutText).groups =
      [(1, some "annotation"), (2, some "comment"), (3, some "tag"), (4, some "expiry"),
        (5, some "content")] := by
  have hshape : (shapeRegex layoutText).groups = [] := by
    simp [shapeRegex, groups_sequence, Regex.groups]
  simp [defaultRegex, noteRegex, bracketRegex, groups_sequence, Regex.groups, groups_wordsRegex,
    hshape]

theorem rolesOf?_defaultRegex (openers tags : List String) (layoutText : List Char) :
    rolesOf? (defaultRegex openers tags layoutText) true = some ⟨1, 2, 3, 4, 5, true⟩ := by
  simp [rolesOf?, Regex.groupIndex?, groups_defaultRegex]

/-- The default template compiles, whatever the openers, the tags and the layout. -/
theorem compile_default [Regex.SizeLimit] {openers tags : List String} {layoutText : String}
    {layout : DateLayout} (hopeners : openers ≠ []) (htags : tags ≠ [])
    (hlayout : DateLayout.ofText layoutText.toList = .ok layout)
    (hsize : Regex.SizeLimit.admits (defaultRegex openers tags layoutText.toList) = true) :
    ∃ m, compile ⟨openers, tags, Settings.default.style.template, layoutText, true⟩ = .ok m ∧
      m.regex = defaultRegex openers tags layoutText.toList ∧ m.roles = ⟨1, 2, 3, 4, 5, true⟩ ∧
      m.layout = layout := by
  have htag : findPlaceholder Settings.default.style.template.toList .tag = .ok 0 := by decide
  have hdate : findPlaceholder Settings.default.style.template.toList .date = .ok 10 := by decide
  have hregex : Regex.ofText? (frame true (alternation openers)
      (substitute Settings.default.style.template.toList (alternation tags) layout)) =
      some (defaultRegex openers tags layoutText.toList) := by
    have hheight := Nat.le_trans (height_wholeLevel_le openers tags layoutText.toList)
      (show 12 ≤ Regex.Reader.heightLimit by decide)
    have hread := Regex.Reader.ofAnySize?_eq_some_iff.2 ⟨_, read?_default openers tags hlayout, rfl,
      hheight, regex_close_wholeLevel hopeners htags _⟩
    exact Regex.ofText?_eq_some_iff.2 ⟨hread, hsize⟩
  have hpattern := @patternOf_eq_ok
    ⟨openers, tags, Settings.default.style.template, layoutText, true⟩ 0 10 layout
    htag hdate hopeners htags hlayout
  refine ⟨⟨frame true (alternation openers) (substitute Settings.default.style.template.toList
    (alternation tags) layout), defaultRegex openers tags layoutText.toList,
    ⟨1, 2, 3, 4, 5, true⟩, layout, layoutText⟩, ?_, rfl, rfl, rfl⟩
  rw [compile_of_patternOf hpattern, filled, hregex]
  simp only [show decide (0 < 10) = true from rfl, rolesOf?_defaultRegex]

/-- What is compiled from the default template is nothing else. -/
theorem exists_of_compile_default [Regex.SizeLimit] {openers tags : List String}
    {layoutText : String} {m : Matcher}
    (h : compile ⟨openers, tags, Settings.default.style.template, layoutText, true⟩ = .ok m) :
    m.regex = defaultRegex openers tags layoutText.toList ∧ m.roles = ⟨1, 2, 3, 4, 5, true⟩ := by
  obtain ⟨hlayout, hregex, -⟩ := exists_of_compile h
  obtain ⟨hopeners, htags, hlayout⟩ := layout?_eq_ok_iff.1 hlayout
  obtain ⟨hregex, hsize⟩ := Regex.ofText?_eq_some_iff.1 hregex
  obtain ⟨t, hread, -, -, hclose⟩ := Regex.Reader.ofAnySize?_eq_some_iff.1 hregex
  obtain rfl := Option.some.inj ((read?_default openers tags hlayout).symm.trans hread)
  rw [regex_close_wholeLevel hopeners htags] at hclose
  obtain ⟨found, hcompile, hfound, hroles, -⟩ := compile_default hopeners htags hlayout
    (hclose ▸ hsize)
  obtain rfl : m = found := Except.ok.inj (h.symm.trans hcompile)
  exact ⟨hfound, hroles⟩

end Lapse.CommentStyle
