import Lapse.CommentStyle
import Lapse.Proofs.DateLayout

/-!
# Parts of a note pattern

What the reader makes of the parts that the pattern of a comment style is put together from: the
groups of openers and tags, runs of blanks, the group of the date and the content.
-/
namespace Lapse.CommentStyle

open Regex (CharSet repetition)
open Regex.Reader (State Item Level Flags read? namedClass wordsLevel dotSet? IsName)

theorem compile_eq_error [Regex.SizeLimit] {style : CommentStyle} {e : StyleError}
    (h : style.patternOf = .error e) : style.compile = .error e := by
  rw [compile, h]
  rfl

theorem compile_of_patternOf [Regex.SizeLimit] {style : CommentStyle} {source : List Char}
    {layout : DateLayout} {tagFirst : Bool} (h : style.patternOf = .ok (source, layout, tagFirst)) :
    style.compile =
      match Regex.ofText? source with
      | none => .error .invalidPattern
      | some regex =>
        match rolesOf? regex tagFirst with
        | none => .error .invalidPattern
        | some roles => .ok ⟨source, regex, roles, layout, style.dateLayout⟩ := by
  rw [compile, h]
  rfl

theorem alternationOf_eq_ok {items : List String} (h : items ≠ []) (l : WordList) :
    alternationOf items l = .ok (alternation items) := by
  rw [alternationOf, if_neg (by simpa using h)]

/-- The template with the groups for tag and date in their places. -/
def filled (style : CommentStyle) (layout : DateLayout) : List Char :=
  substitute style.template.toList (alternation style.tags) layout

/-- The text of the whole pattern. -/
def source (style : CommentStyle) (layout : DateLayout) : List Char :=
  frame style.caseSensitive (alternation style.openers) (style.filled layout)

/-- Whether the tag's place comes first, if there is one place for the tag and one for the date. -/
def tagFirst? (template : List Char) : Except StyleError Bool := do
  let tagAt ← findPlaceholder template .tag
  let dateAt ← findPlaceholder template .date
  return tagAt < dateAt

/-- The layout of dates, if no list is empty. -/
def layout? (style : CommentStyle) : Except StyleError DateLayout := do
  let _ ← alternationOf style.openers .openers
  let _ ← alternationOf style.tags .tags
  (DateLayout.ofText style.dateLayout.toList).mapError .unsupportedLayoutCharacter

/-- The template decides first whether there is a pattern. -/
theorem patternOf_eq (style : CommentStyle) :
    style.patternOf =
      (tagFirst? style.template.toList).bind fun tagFirst =>
        style.layout?.bind fun layout =>
          .ok (frame style.caseSensitive (alternation style.openers) (style.filled layout), layout,
            tagFirst) := by
  rw [patternOf, tagFirst?, layout?]
  cases findPlaceholder style.template.toList .tag with
  | error e => rfl
  | ok tagAt =>
    cases findPlaceholder style.template.toList .date with
    | error e => rfl
    | ok dateAt =>
      rw [alternationOf, alternationOf]
      split
      · rfl
      · split
        · rfl
        · cases DateLayout.ofText style.dateLayout.toList <;> rfl

/-- The lists and the layout decide next, and the reader of patterns last. -/
theorem compile_eq [Regex.SizeLimit] (style : CommentStyle) :
    style.compile =
      (tagFirst? style.template.toList).bind fun tagFirst =>
        style.layout?.bind fun layout =>
          match Regex.ofText? (style.source layout) with
          | none => .error .invalidPattern
          | some regex =>
            match rolesOf? regex tagFirst with
            | none => .error .invalidPattern
            | some roles =>
              .ok ⟨style.source layout, regex, roles, layout, style.dateLayout⟩ := by
  rw [compile, patternOf_eq]
  cases tagFirst? style.template.toList with
  | error e => rfl
  | ok tagFirst =>
    cases style.layout? with
    | error e => rfl
    | ok layout => rfl

theorem layout?_eq_ok_iff {style : CommentStyle} {layout : DateLayout} :
    style.layout? = .ok layout ↔ style.openers ≠ [] ∧ style.tags ≠ [] ∧
      DateLayout.ofText style.dateLayout.toList = .ok layout := by
  rw [layout?, alternationOf, alternationOf]
  by_cases hopeners : style.openers = []
  · simp [hopeners, bind, Except.bind]
  by_cases htags : style.tags = []
  · simp [hopeners, htags, bind, Except.bind]
  cases hlayout : DateLayout.ofText style.dateLayout.toList <;>
    simp [hopeners, htags, bind, Except.bind, Except.mapError]

/-- The usual layout, cut into pieces. -/
def dashedLayout : DateLayout :=
  ⟨[.field .year 4, .literal '-', .field .month 2, .literal '-', .field .day 2]⟩

theorem ofText_dashedLayout : DateLayout.ofText "YYYY-MM-DD".toList = .ok dashedLayout := by
  decide +kernel

theorem patternOf_eq_ok {style : CommentStyle} {tagAt dateAt : Nat} {layout : DateLayout}
    (htag : findPlaceholder style.template.toList .tag = .ok tagAt)
    (hdate : findPlaceholder style.template.toList .date = .ok dateAt)
    (hopeners : style.openers ≠ []) (htags : style.tags ≠ [])
    (hlayout : DateLayout.ofText style.dateLayout.toList = .ok layout) :
    style.patternOf = .ok (frame style.caseSensitive (alternation style.openers)
      (style.filled layout), layout, tagAt < dateAt) := by
  simp only [patternOf, htag, hdate, alternationOf_eq_ok hopeners, alternationOf_eq_ok htags,
    hlayout]
  rfl

theorem exists_ok_of_bind {ε α β : Type} {x : Except ε α} {f : α → Except ε β} {b : β}
    (h : x.bind f = .ok b) : ∃ a, x = .ok a ∧ f a = .ok b := by
  cases x with
  | error e => cases h
  | ok a => exact ⟨a, rfl, h⟩

theorem exists_ok_of_isSome {ε α : Type} {x : Except ε α} (h : x.toOption.isSome) :
    ∃ a, x = .ok a := by
  cases x with
  | error e => cases h
  | ok a => exact ⟨a, rfl⟩

theorem eq_frame_of_patternOf {style : CommentStyle} {source : List Char} {layout : DateLayout}
    {tagFirst : Bool} (h : style.patternOf = .ok (source, layout, tagFirst)) :
    style.layout? = .ok layout ∧ tagFirst? style.template.toList = .ok tagFirst ∧
      source = frame style.caseSensitive (alternation style.openers) (style.filled layout) := by
  rw [patternOf_eq] at h
  obtain ⟨first, hfirst, h⟩ := exists_ok_of_bind h
  obtain ⟨found, hlayout, h⟩ := exists_ok_of_bind h
  cases h
  exact ⟨hlayout, hfirst, rfl⟩

theorem exists_of_compile [Regex.SizeLimit] {style : CommentStyle} {m : Matcher}
    (h : style.compile = .ok m) : style.layout? = .ok m.layout ∧
      Regex.ofText?
        (frame style.caseSensitive (alternation style.openers) (style.filled m.layout)) =
        some m.regex ∧
      ∃ tagFirst, tagFirst? style.template.toList = .ok tagFirst ∧
        rolesOf? m.regex tagFirst = some m.roles := by
  cases hpattern : style.patternOf with
  | error e =>
    rw [compile, hpattern] at h
    cases h
  | ok x =>
    obtain ⟨source, layout, tagFirst⟩ := x
    rw [compile_of_patternOf hpattern] at h
    split at h
    · cases h
    · next regex hregex =>
      split at h
      · cases h
      · next roles hroles =>
        cases h
        obtain ⟨hlayout, hfirst, rfl⟩ := eq_frame_of_patternOf hpattern
        exact ⟨hlayout, hregex, tagFirst, hfirst, hroles⟩

/-- Every role is that of the first group with its name. -/
theorem groupIndex?_of_rolesOf? {regex : Regex} {tagFirst : Bool} {roles : Roles}
    (h : rolesOf? regex tagFirst = some roles) :
    regex.groupIndex? "annotation" = some roles.whole ∧
      regex.groupIndex? "comment" = some roles.opener ∧
      regex.groupIndex? "tag" = some roles.tag ∧
      regex.groupIndex? "expiry" = some roles.expiry ∧
      regex.groupIndex? "content" = some roles.content := by
  obtain ⟨whole, hwhole, h⟩ := Option.bind_eq_some_iff.1 h
  obtain ⟨opener, hopener, h⟩ := Option.bind_eq_some_iff.1 h
  obtain ⟨tag, htag, h⟩ := Option.bind_eq_some_iff.1 h
  obtain ⟨expiry, hexpiry, h⟩ := Option.bind_eq_some_iff.1 h
  obtain ⟨content, hcontent, h⟩ := Option.bind_eq_some_iff.1 h
  cases h
  exact ⟨hwhole, hopener, htag, hexpiry, hcontent⟩

theorem namedGroup_append (name : String) (inner text : List Char) :
    namedGroup name inner ++ text =
      '(' :: '?' :: 'P' :: '<' :: (name.toList ++ '>' :: (inner ++ ')' :: text)) := by
  simp [namedGroup]

theorem alternation_eq (items : List String) :
    alternation items = ['|'].intercalate ((items.map String.toList).map Regex.escape) := by
  rw [alternation, List.map_map]
  rfl

/-- The group of the texts in a list. -/
def State.pushWords (s : State) (name : String) (items : List String) : State :=
  s.pushGroup name (wordsLevel s.flags .new (items.map String.toList))

theorem read?_alternationGroup {s : State} (h : s.flags.ignoreBlank = false) {name : String}
    (hname : IsName name.toList) (hnew : name ∉ s.names) (items : List String)
    (text : List Char) :
    read? s (namedGroup name (alternation items) ++ text) =
      read? (State.pushWords s name items) text := by
  rw [namedGroup_append, alternation_eq]
  exact Regex.Reader.read?_wordsGroup h hname hnew _ text

/-- A run of ASCII blanks. -/
def blankItem (flags : Flags) : Item := (namedClass flags .asciiBlank).repeated flags 0 none

theorem read?_blanks (s : State) {text : List Char} (h : text.head? ≠ some '?') :
    read? s (blanks ++ text) = read? (s.push (blankItem s.flags)) text := by
  have hsplit : blanks ++ text =
      '[' :: '[' :: ':' :: ("space".toList ++ ':' :: ']' :: ']' :: '*' :: text) := by
    unfold blanks
    simp
  have hset : CharSet.posix.lookup "space" = some .asciiBlank := rfl
  have hclass := Regex.Reader.read?_namedClass (by decide) (by decide) hset s ('*' :: text)
  have hrepeatable : (namedClass s.flags .asciiBlank).repeatable := rfl
  rw [hsplit, hclass, Regex.Reader.read?_star hrepeatable h]
  rfl

/-- The group of the content when a dot matches the characters of `set`. -/
def contentLevel (flags : Flags) (set : CharSet) : Level :=
  Level.new.push ((⟨.set set, 0, true⟩ : Item).repeated flags 1 none)

theorem read?_dot {s : State} {set : CharSet} (h : dotSet? s.flags = some set)
    (text : List Char) : read? s ('.' :: text) = read? (s.push ⟨.set set, 0, true⟩) text := by
  have hstep : Regex.Reader.step? s ('.' :: text) = some (s.push ⟨.set set, 0, true⟩, text) := by
    simp [Regex.Reader.step?, h]
  exact Regex.Reader.read?_of_step (.inr (by decide))
    hstep (Nat.le_refl _)

theorem read?_content {s : State} {set : CharSet} (h : dotSet? s.flags = some set)
    (hnew : "content" ∉ s.names) (text : List Char) :
    read? s (namedGroup "content" ".+".toList ++ text) =
      read? (s.pushGroup "content" (contentLevel s.flags set)) text := by
  have hdot : ".+".toList ++ ')' :: text = '.' :: '+' :: ')' :: text := by simp
  rw [namedGroup_append, Regex.Reader.read?_namedGroup (by decide +kernel) hnew, hdot,
    read?_dot (s := s.enterCapture (some "content")) h, Regex.Reader.read?_plus rfl (by simp)]
  exact Regex.Reader.read?_closeGroup s "content" (contentLevel s.flags set) text

/-- The group of the date: a text of the layout's shape or nothing. -/
def expiryLevel (flags : Flags) (layoutText : List Char) : Level :=
  let shape := Level.new.pushAll
    ((layoutText.map DateLayout.shapeOf).map (DateLayout.shapeItem flags))
  Level.new.push
    ((⟨shape.close.regex, shape.close.height + 1, true⟩ : Item).repeated flags 0 (some 1))

theorem read?_expiryGroup {s : State} (h : s.flags.ignoreBlank = false)
    (hnew : "expiry" ∉ s.names) {layoutText : List Char} {layout : DateLayout}
    (hlayout : DateLayout.ofText layoutText = .ok layout) (text : List Char) :
    read? s (expiryGroup layout ++ text) =
      read? (s.pushGroup "expiry" (expiryLevel s.flags layoutText)) text := by
  have hsplit : expiryGroup layout ++ text = '(' :: '?' :: 'P' :: '<' :: ("expiry".toList ++ '>' ::
      ('(' :: '?' :: ':' :: (layout.pattern ++ ')' :: '?' :: ')' :: text))) := by
    rw [expiryGroup, namedGroup_append]
    simp
  have hpattern := DateLayout.read?_pattern
    (s := (s.enterCapture (some "expiry")).enter none (s.enterCapture (some "expiry")).flags)
    h layout (')' :: '?' :: ')' :: text)
  rw [hsplit, Regex.Reader.read?_namedGroup (by decide +kernel) hnew,
    Regex.Reader.read?_plainGroup, hpattern, DateLayout.pieces_of_ofText hlayout]
  refine (Regex.Reader.read?_closePlain rfl _).trans ?_
  refine (Regex.Reader.read?_optional rfl (by simp)).trans ?_
  exact Regex.Reader.read?_closeGroup s "expiry" (expiryLevel s.flags layoutText) text

end Lapse.CommentStyle
