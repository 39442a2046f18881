import Mathlib.Data.List.Infix
import Lapse.Proofs.CommentStyle.GroupOrder
import Lapse.Proofs.CommentStyle.Recased

/-!
# The case of letters in openers and tags

Where case is ignored, it does not matter in which letters the openers and tags of a style are
written, unless the template turns flags on or off itself: the patterns of both spellings are alike, and so
neither is too large when the other is not.
What a note holds is taken from its line, so it is in the line's own letters.
-/
namespace Lapse

open Regex (ofText?)
open Regex.Reader (State Flags KeepsFlags read? trace rel_bind)

namespace CommentStyle

/-- A text in small letters, as far as its letters are ASCII. -/
def lowered (word : String) : List Char := word.toList.map Char.toLower

/-- Two lists of words that differ at most in the case of ASCII letters. -/
def Recased (words words' : List String) : Prop := words.map lowered = words'.map lowered

instance (words words' : List String) : Decidable (Recased words words') :=
  inferInstanceAs (Decidable (_ = _))

theorem forall₂_of_map_eq {α β : Type} {f : α → β} {xs ys : List α} (h : xs.map f = ys.map f) :
    List.Forall₂ (fun x y => f x = f y) xs ys := by
  rw [← List.forall₂_eq_eq_eq, List.forall₂_map_left_iff, List.forall₂_map_right_iff] at h
  exact h

theorem Recased.forall₂ {words words' : List String} (h : Recased words words') :
    List.Forall₂ (List.Forall₂ fun c d : Char => c.toLower = d.toLower)
      (words.map String.toList) (words'.map String.toList) := by
  rw [List.forall₂_map_left_iff, List.forall₂_map_right_iff]
  exact (forall₂_of_map_eq h).imp fun _ _ => forall₂_of_map_eq

theorem Recased.eq_nil_iff {words words' : List String} (h : Recased words words') :
    words = [] ↔ words' = [] := by
  rw [← List.map_eq_nil_iff, h, List.map_eq_nil_iff]

theorem inside_escape {word word' : List Char}
    (h : List.Forall₂ (fun c d : Char => c.toLower = d.toLower) word word') {x y : List Char}
    (hxy : Inside x y) : Inside (Regex.escape word ++ x) (Regex.escape word' ++ y) := by
  induction h with
  | nil => exact hxy
  | cons hcd _ ih =>
    rw [Regex.escape, Regex.escape, List.flatMap_cons, List.flatMap_cons, List.append_assoc,
      List.append_assoc]
    exact .char hcd ih

theorem inside_alternation {tags tags' : List String} (h : Recased tags tags')
    (rest : List Char) :
    Inside (alternation tags ++ ')' :: rest) (alternation tags' ++ ')' :: rest) := by
  rw [alternation_eq, alternation_eq]
  have hwords := h.forall₂
  generalize tags.map String.toList = words, tags'.map String.toList = words' at hwords
  induction hwords with
  | nil => exact .stop rest
  | @cons word word' words words' hword hwords ih =>
    cases hwords with
    | nil => simpa using inside_escape hword (.stop rest)
    | cons =>
      simp only [List.map_cons, List.intercalate_cons_cons, List.append_assoc,
        List.singleton_append] at ih ⊢
      exact inside_escape hword (.bar ih)

theorem tagGroup_append (tags rest : List Char) :
    tagGroup tags ++ rest = '(' :: (tagFront ++ (tags ++ ')' :: rest)) := by
  rw [tagGroup, namedGroup_append, tagFront_eq]
  rfl

theorem textAlike_fill {tags tags' : List String} (h : Recased tags tags') (parts : TemplateParts)
    (date rest : List Char) :
    TextAlike (blanks ++ (parts.fill (tagGroup (alternation tags)) date ++ rest))
      (blanks ++ (parts.fill (tagGroup (alternation tags')) date ++ rest)) := by
  have hsplit : ∃ front back, ∀ tags : List Char,
      blanks ++ (parts.fill (tagGroup tags) date ++ rest) =
        front ++ '(' :: (tagFront ++ (tags ++ ')' :: back)) := by
    obtain ⟨front, between, back, tagFirst⟩ := parts
    cases tagFirst with
    | true =>
      refine ⟨blanks ++ front, between ++ (date ++ (back ++ rest)), fun tags => ?_⟩
      rw [← tagGroup_append]
      simp [TemplateParts.fill]
    | false =>
      refine ⟨blanks ++ (front ++ (date ++ between)), back ++ rest, fun tags => ?_⟩
      rw [← tagGroup_append]
      simp [TemplateParts.fill]
  obtain ⟨front, back, hsplit⟩ := hsplit
  rw [hsplit, hsplit]
  exact .ahead (.before front (inside_alternation h back))

/-- The template holds no flags: no step that is taken in its own text changes them. -/
def NoInlineFlags (style : CommentStyle) : Prop :=
  ∀ parts : TemplateParts, parts.Cut style.template.toList →
    ∀ layout, style.layout? = .ok layout → ∀ x ∈ style.ownSteps parts layout, KeepsFlags x

/-- What is put into the template and around it changes no flags. -/
theorem keepsFlags_of_place {style : CommentStyle} {parts : TemplateParts} {layout : DateLayout}
    (hcut : parts.Cut style.template.toList) {s : State} {after : List Char}
    (h : '(' :: after <:+ blanks ++ (style.filled layout ++ noteEnd))
    (hown : '(' :: after ∈ parts.ownPlaces (tagGroup (alternation style.tags)) (expiryGroup layout)
      noteEnd → KeepsFlags (s, '(' :: after)) : KeepsFlags (s, '(' :: after) := by
  rw [filled, hcut.substitute] at h
  rcases place_cases (isFront_tagGroup _) (isFront_expiryGroup _) h with
    hplace | ⟨p, hp⟩ | hcontent | hplain
  · exact hown hplace
  · obtain ⟨inner, rest, hgroup⟩ := namedGroup_of_placeOf style parts layout p
    rw [hp, ← placeOf, hgroup]
    exact keepsFlags_namedGroup s (by cases p <;> decide +kernel) inner rest
  · rw [hcontent]
    exact keepsFlags_namedGroup s (by decide +kernel) _ _
  · exact keepsFlags_of_plainFront s hplain

/-- What may stand behind `(?` where a group begins without flags. -/
def groupMarks : List (Option Char) := [some ':', some 'P', some '<']

/-- Wherever `(?` stands in the template, it begins a group and turns no flag on or off. -/
def MarksGroups (template : List Char) : Prop :=
  ∀ text ∈ template.tails, text.take 2 = ['(', '?'] → text[2]? ∈ groupMarks

instance : DecidablePred MarksGroups := fun template =>
  inferInstanceAs (Decidable (∀ text ∈ template.tails, _))

theorem keepsFlags_of_groupMark {s : State} (hblank : s.flags.ignoreBlank = false)
    {after : List Char} (h : after[0]? = some '?' → after[1]? ∈ groupMarks) :
    KeepsFlags (s, '(' :: after) := by
  intro next rest hstep
  have hgroup := hstep
  rw [Regex.Reader.step?_group] at hgroup
  obtain ⟨rfl, -⟩ | ⟨name, -, -, -, -, rfl⟩ | ⟨behind, hskip, hflags⟩ :=
    Regex.Reader.readGroup?_cases hgroup
  · rfl
  · rfl
  · obtain rfl : after = '?' :: behind := (Regex.Reader.skip_eq hblank after).symm.trans hskip
    have hmark : behind[0]? ∈ groupMarks := h rfl
    cases behind with
    | nil => simp [groupMarks] at hmark
    | cons c behind =>
      simp only [groupMarks, List.getElem?_cons_zero, List.mem_cons, Option.some.injEq,
        List.not_mem_nil, or_false] at hmark
      rcases hmark with rfl | rfl | rfl
      · exact keepsFlags_of_plainFront s (.inr ⟨behind, rfl⟩) next rest hstep
      · cases hflags
      · cases hflags

/-- In front of what is put in, a part of the template is read as it is written. -/
theorem groupMark_of_mem_placesIn {template text rest rest' after : List Char}
    (hmarks : MarksGroups template) (htext : text ++ rest' <:+ template)
    (hrest : rest[0]? ≠ some '?') (hrest' : rest'[0]? ∉ groupMarks)
    (h : '(' :: after ∈ placesIn text rest) (hmark : after[0]? = some '?') :
    after[1]? ∈ groupMarks := by
  obtain ⟨c, part, hpart, e⟩ := exists_of_mem_placesIn h
  obtain ⟨rfl, rfl⟩ := List.cons.inj e
  cases part with
  | nil => exact absurd hmark hrest
  | cons c part =>
    obtain rfl : c = '?' := by simpa using hmark
    have hplace : '(' :: '?' :: (part ++ rest') <:+ template := by
      obtain ⟨front, rfl⟩ := hpart
      exact .trans ⟨front, by simp⟩ htext
    have hbehind := hmarks _ ((List.mem_tails _ _).2 hplace) rfl
    cases part with
    | nil => exact absurd hbehind hrest'
    | cons d part => exact hbehind

theorem uniform_openersState (caseSensitive : Bool) (openers : List String) :
    (openersState caseSensitive openers).Uniform (frameFlags caseSensitive) :=
  ⟨rfl, List.forall_mem_singleton.2 rfl⟩

section Marks

variable {style : CommentStyle} {parts : TemplateParts} {layout : DateLayout}
  (hcut : parts.Cut style.template.toList) (hmarks : MarksGroups style.template.toList)
include hcut hmarks

theorem groupMark_of_mem_ownPlaces {after : List Char}
    (h : '(' :: after ∈ parts.ownPlaces (tagGroup (alternation style.tags)) (expiryGroup layout)
      noteEnd) (hmark : after[0]? = some '?') : after[1]? ∈ groupMarks := by
  obtain ⟨hfirst, hsecond⟩ := parts.getElem?_zero_from (c := '(')
    (by simp [tagGroup, namedGroup] : (tagGroup (alternation style.tags))[0]? = some '(')
    (by simp [expiryGroup, namedGroup] : (expiryGroup layout)[0]? = some '(') noteEnd
  obtain ⟨hfirst', hsecond'⟩ := parts.getElem?_zero_from (c := '\x7b')
    (by decide : Placeholder.tag.text.toList[0]? = some '\x7b')
    (by decide : Placeholder.date.text.toList[0]? = some '\x7b') []
  have htemplate := hcut.eq
  rw [← List.append_nil (parts.fill _ _), parts.fill_append] at htemplate
  have hbehindFront := List.suffix_append parts.front
    (parts.fromFirst Placeholder.tag.text.toList Placeholder.date.text.toList [])
  rw [← htemplate, TemplateParts.fromFirst] at hbehindFront
  have hbetween := (List.suffix_append _ _).trans hbehindFront
  have hback := (List.suffix_append _ _).trans ((List.suffix_append _ _).trans hbetween)
  rcases List.mem_append.1 h with h | h
  · exact groupMark_of_mem_placesIn hmarks ⟨[], htemplate.symm⟩ (by simp [hfirst])
      (by simp [hfirst', groupMarks]) h hmark
  rcases List.mem_append.1 h with h | h
  · exact groupMark_of_mem_placesIn hmarks hbetween (by simp [hsecond])
      (by simp [hsecond', groupMarks]) h hmark
  · exact groupMark_of_mem_placesIn hmarks hback (by simp [noteEnd_eq]) (by simp [groupMarks]) h
      hmark

omit hcut in
/-- A template in which every `(?` begins a group holds no flags. -/
theorem MarksGroups.noInlineFlags : style.NoInlineFlags := by
  intro parts hcut layout _ x hx
  have htrace := (List.mem_filter.1 hx).1
  have hplace (t : State) (ht : t.flags = frameFlags style.caseSensitive) (after : List Char)
      (hafter : '(' :: after <:+ blanks ++ (style.filled layout ++ noteEnd)) :
      KeepsFlags (t, '(' :: after) := by
    refine keepsFlags_of_place hcut hafter fun hown => keepsFlags_of_groupMark ?_ ?_
    · rw [ht]
      rfl
    · exact groupMark_of_mem_ownPlaces hcut hmarks hown
  have huniform := (uniform_openersState _ _).of_mem_trace hplace htrace
  obtain ⟨s, place⟩ := x
  intro next rest hstep
  cases place with
  | nil => cases hstep
  | cons c after =>
    refine (huniform.step? (fun hc => ?_) hstep).flags_eq.trans huniform.flags_eq.symm
    subst hc
    exact hplace s huniform.flags_eq after (Regex.Reader.suffix_of_mem_trace htrace)

end Marks

theorem foldCase_frameFlags : (frameFlags false).FoldCase := ⟨rfl, rfl, rfl⟩

theorem openersState_alike {openers openers' : List String} (h : Recased openers openers') :
    (openersState false openers).Alike (openersState false openers') := by
  have hwords := Regex.Reader.wordsLevel_alike foldCase_frameFlags h.forall₂
    (.refl Regex.Reader.Level.new)
  have hitem : (openersItem false openers).Alike (openersItem false openers') :=
    ⟨.group 2 (some "comment") hwords.close.regex, congrArg (· + 1) hwords.close.height, rfl⟩
  exact ⟨rfl, rfl, rfl, (Regex.Reader.Level.Alike.refl .new).push hitem,
    .cons ⟨.refl _, rfl⟩ .nil⟩

/-- The style with these openers and tags in place of its own. -/
def withWords (style : CommentStyle) (openers tags : List String) : CommentStyle :=
  { style with openers, tags }

section Recased

variable {style : CommentStyle} {openers tags : List String} {layout : DateLayout}
  (hopeners : Recased style.openers openers) (htags : Recased style.tags tags)

include hopeners htags in
theorem layout?_withWords : (style.withWords openers tags).layout? = style.layout? := by
  have hempty {words words' : List String} (h : Recased words words') :
      words'.isEmpty = words.isEmpty := by
    rw [Bool.eq_iff_iff, List.isEmpty_iff, List.isEmpty_iff, h.eq_nil_iff]
  simp only [layout?, alternationOf, withWords, hempty hopeners, hempty htags]
  split
  · rfl
  · split
    · rfl
    · rfl

variable {parts : TemplateParts} (hcut : parts.Cut style.template.toList)
  (hflags : ∀ x ∈ style.ownSteps parts layout, KeepsFlags x) (hcase : style.caseSensitive = false)

include hopeners htags hcut hcase hflags in
/-- The reader comes to alike ends with both spellings. -/
theorem read?_withWords :
    Option.Rel State.Alike (read? .start (style.source layout))
      (read? .start ((style.withWords openers tags).source layout)) := by
  have htrace : style.steps layout = trace (openersState false style.openers)
      (blanks ++ (style.filled layout ++ noteEnd)) := by
    rw [steps, hcase]
  have hcase' : (style.withWords openers tags).caseSensitive = false := hcase
  rw [source, source, read?_frame, read?_frame, hcase, hcase']
  refine TextAlike.read? foldCase_frameFlags (uniform_openersState false _)
    (openersState_alike hopeners) ?_ fun x hx after hplace => ?_
  · rw [filled, filled, withWords, hcut.substitute, hcut.substitute]
    exact textAlike_fill htags parts _ _
  · -- Only in the template's own text could a group change the flags.
    obtain ⟨s, place⟩ := x
    obtain rfl : place = '(' :: after := hplace
    refine keepsFlags_of_place hcut (Regex.Reader.suffix_of_mem_trace hx) fun hown => ?_
    exact hflags _ (List.mem_filter.2 ⟨htrace ▸ hx, by simpa using hown⟩)

include hopeners htags hcut hcase hflags in
theorem ofText?_withWords [Regex.SizeLimit] (hlimit : Regex.SizeLimit.IgnoresSpelling) :
    Option.Rel Regex.Alike (ofText? (style.source layout))
      (ofText? ((style.withWords openers tags).source layout)) :=
  Regex.rel_ofText? hlimit
    (rel_bind (read?_withWords hopeners htags hcut hflags hcase) fun _ _ hst => hst.finish?)

end Recased

theorem rolesOf?_of_alike {a b : Regex} (h : a.Alike b) (tagFirst : Bool) :
    rolesOf? a tagFirst = rolesOf? b tagFirst := by
  rw [rolesOf?, rolesOf?, h.groupIndex?_eq]

/-- How a line is read depends on what is found in it, on the roles and on the layout. -/
theorem reading_congr {m m' : Matcher} (hsearch : m.regex.search? = m'.regex.search?)
    (hroles : m.roles = m'.roles) (hlayout : m.layout = m'.layout) (number : Nat)
    (line : List Char) :
    m.readLine number line = m'.readLine number line ∧
      m.matchLine? number line = m'.matchLine? number line := by
  have hreading : m.readLine number line = m'.readLine number line := by
    rw [Matcher.readLine, Matcher.readLine, hsearch, hroles, hlayout]
  exact ⟨hreading, congrArg LineReading.note? hreading⟩

/-- With openers and tags in other letters a style is refused for the same reason, or it is accepted
and finds the same on every line. What is reported then is spelled as the line spells it. -/
theorem compile_withWords [Regex.SizeLimit] (hlimit : Regex.SizeLimit.IgnoresSpelling)
    {style : CommentStyle} {openers tags : List String} (hcase : style.caseSensitive = false)
    (hflags : style.NoInlineFlags)
    (hopeners : Recased style.openers openers) (htags : Recased style.tags tags) :
    (∃ e, style.compile = .error e ∧ (style.withWords openers tags).compile = .error e) ∨
      ∃ m m', style.compile = .ok m ∧ (style.withWords openers tags).compile = .ok m' ∧
        ∀ number line, (m'.readLine number line = m.readLine number line ∧
          m'.matchLine? number line = m.matchLine? number line) ∧
          ∀ note, m.matchLine? number line = some note → note.IsFrom line := by
  have htemplate : (style.withWords openers tags).template = style.template := rfl
  rw [compile_eq style, compile_eq (style.withWords openers tags),
    layout?_withWords hopeners htags, htemplate]
  cases hfirst : tagFirst? style.template.toList with
  | error e => exact .inl ⟨e, rfl, rfl⟩
  | ok tagFirst =>
    cases hlayout : style.layout? with
    | error e => exact .inl ⟨e, rfl, rfl⟩
    | ok layout =>
      obtain ⟨parts, hcut⟩ := exists_cut_of_tagFirst? hfirst
      have hregex := ofText?_withWords hopeners htags hcut (hflags parts hcut layout hlayout) hcase
        hlimit
      simp only [Except.bind]
      -- The sources differ, so only what is read from them can be compared.
      generalize ofText? (style.source layout) = regex at hregex ⊢
      generalize ofText? ((style.withWords openers tags).source layout) = regex' at hregex ⊢
      cases hregex with
      | none => exact .inl ⟨.invalidPattern, rfl, rfl⟩
      | some hregex =>
        simp only [rolesOf?_of_alike hregex]
        split
        · exact .inl ⟨.invalidPattern, rfl, rfl⟩
        · refine .inr ⟨_, _, rfl, rfl, fun number line =>
            ⟨?_, fun note => Matcher.isFrom_of_matchLine?⟩⟩
          apply reading_congr
          · exact hregex.search?_eq.symm
          · rfl
          · rfl

/-- A style whose words have the letters `k` and `s`, each of which folds to three characters. -/
def keywordStyle : CommentStyle :=
  ⟨["rem ", "sk"], ["task", "Fix"], "(?:!)?\x7btag\x7d\\[\x7bdate\x7d\\]", "YYYY-MM-DD", false⟩

theorem compile_keywordStyle :
    @Regex.SizeLimit.IgnoresSpelling .unlimited ∧ keywordStyle.caseSensitive = false ∧
      keywordStyle.NoInlineFlags ∧ Recased keywordStyle.openers ["REM ", "Sk"] ∧
      Recased keywordStyle.tags ["TASK", "fIX"] ∧
      ∃ m m', @compile .unlimited keywordStyle = .ok m ∧
        @compile .unlimited (keywordStyle.withWords ["REM ", "Sk"] ["TASK", "fIX"]) = .ok m' ∧
        ∀ number line, m'.matchLine? number line = m.matchLine? number line := by
  have hlimit : @Regex.SizeLimit.IgnoresSpelling .unlimited := fun _ _ _ => rfl
  have hflags : keywordStyle.NoInlineFlags := MarksGroups.noInlineFlags (by decide)
  have hopeners : Recased keywordStyle.openers ["REM ", "Sk"] := by decide
  have htags : Recased keywordStyle.tags ["TASK", "fIX"] := by decide
  refine ⟨hlimit, rfl, hflags, hopeners, htags, ?_⟩
  obtain ⟨found, hfound⟩ : ∃ found, @compile .unlimited keywordStyle = .ok found :=
    exists_ok_of_isSome (by decide +kernel)
  obtain ⟨e, herror, -⟩ | ⟨m, m', hm, hm', hlines⟩ :=
    @compile_withWords .unlimited hlimit _ _ _ rfl hflags hopeners htags
  · rw [hfound] at herror
    cases herror
  · exact ⟨m, m', hm, hm', fun number line => (hlines number line).1.2⟩

end CommentStyle

end Lapse
