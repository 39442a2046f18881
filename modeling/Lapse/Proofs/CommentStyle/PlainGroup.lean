import Lapse.Proofs.CommentStyle.Frame
import Lapse.Proofs.Matcher
import Lapse.Proofs.Regex.PlainGroup
import Lapse.Proofs.Text.Find
import Lapse.Regex.Size

/-!
# Groups of a template

A template may have groups of its own. They shift the numbers of the groups behind them, but what is
found is looked up by names, so that nothing changes when such a group no longer captures, unless
one of the two patterns is too large.
-/
namespace Lapse

open Regex (dissolve renumber without ofText? ofAnySize?)

def Roles.renumber (k : Nat) (roles : Roles) : Roles where
  whole := Regex.renumber k roles.whole
  opener := Regex.renumber k roles.opener
  tag := Regex.renumber k roles.tag
  expiry := Regex.renumber k roles.expiry
  content := Regex.renumber k roles.content
  tagFirst := roles.tagFirst

/-- The group `k` has no role. -/
structure Roles.Avoids (k : Nat) (roles : Roles) : Prop where
  whole : roles.whole ≠ k
  opener : roles.opener ≠ k
  tag : roles.tag ≠ k
  expiry : roles.expiry ≠ k
  content : roles.content ≠ k

namespace Matcher

theorem captured_without {k index : Nat} (h : index ≠ k) (caps : Regex.Captures) :
    captured (without k caps) (renumber k index) = captured caps index := by
  rw [captured, captured, Regex.lookup_without h]

/-- Without a group that has no role a line is read as before. -/
theorem readLine_dissolve {m m' : Matcher} {k : Nat} (hk : k ≠ 0)
    (hregex : m'.regex = m.regex.dissolve k) (hroles : m'.roles = m.roles.renumber k)
    (hlayout : m'.layout = m.layout) (havoids : m.roles.Avoids k) (number : Nat)
    (line : List Char) : m'.readLine number line = m.readLine number line := by
  have hsearch' : m'.regex.search? line = (m.regex.search? line).map (without k) := by
    rw [hregex, Regex.search?_dissolve hk]
  cases hsearch : m.regex.search? line with
  | none =>
    rw [hsearch] at hsearch'
    rw [readLine_of_search?_eq_none number hsearch, readLine_of_search?_eq_none number hsearch']
  | some caps =>
    rw [hsearch] at hsearch'
    have hwhole := captured_without havoids.whole caps
    have hopener := captured_without havoids.opener caps
    have htag := captured_without havoids.tag caps
    have hexpiry := captured_without havoids.expiry caps
    have hcontent := captured_without havoids.content caps
    have hnote (expiry : Option Calendar.Date) :
        m'.noteOf number line (without k caps) expiry = m.noteOf number line caps expiry := by
      simp only [noteOf, hroles, Roles.renumber, hopener, htag, hcontent]
    rw [readLine_of_search?_eq_some number hsearch, readLine_of_search?_eq_some number hsearch']
    simp only [hroles, Roles.renumber, hwhole, hexpiry, hlayout, hnote]

end Matcher

namespace CommentStyle

open Regex.Reader (BeginsGroup)

section Roles

variable {k : Nat} {regex : Regex} (h : ∀ g ∈ regex.groups, g.1 = k → g.2 = none)
include h

theorem rolesOf?_dissolve (tagFirst : Bool) :
    rolesOf? (regex.dissolve k) tagFirst = (rolesOf? regex tagFirst).map (Roles.renumber k) := by
  simp only [rolesOf?, Regex.groupIndex?_dissolve h]
  cases regex.groupIndex? "annotation" with
  | none => rfl
  | some whole =>
    cases regex.groupIndex? "comment" with
    | none => rfl
    | some opener =>
      cases regex.groupIndex? "tag" with
      | none => rfl
      | some tag =>
        cases regex.groupIndex? "expiry" with
        | none => rfl
        | some expiry => cases regex.groupIndex? "content" <;> rfl

theorem avoids_of_rolesOf? {tagFirst : Bool} {roles : Roles}
    (hroles : rolesOf? regex tagFirst = some roles) : roles.Avoids k := by
  obtain ⟨hwhole, hopener, htag, hexpiry, hcontent⟩ := groupIndex?_of_rolesOf? hroles
  exact {
    whole := Regex.ne_of_groupIndex? h hwhole
    opener := Regex.ne_of_groupIndex? h hopener
    tag := Regex.ne_of_groupIndex? h htag
    expiry := Regex.ne_of_groupIndex? h hexpiry
    content := Regex.ne_of_groupIndex? h hcontent }

end Roles

theorem not_mem_placeholder (p : Placeholder) : ∀ c ∈ ['(', '?', ':'], c ∉ p.text.toList := by
  cases p <;> simp [Placeholder.text]

theorem placeholder_ne_nil (p : Placeholder) : p.text.toList ≠ [] := by
  cases p <;> decide

section Separated

variable {separator : List Char} (hne : separator ≠ [])
  (hseparator : separator ⊆ ['(', '?', ':'])
include hne hseparator

/-- A placeholder stands in front of the beginning of a group or behind it. -/
theorem findPlaceholder_separated (p : Placeholder) (front back : List Char) :
    findPlaceholder (front ++ (separator ++ back)) p =
      match Text.splitAt? p.text.toList front with
      | some (before, after) =>
        if (Text.splitAt? p.text.toList after).isSome ∨ (Text.splitAt? p.text.toList back).isSome
        then .error (.duplicatePlaceholder p)
        else .ok before.length
      | none => (findPlaceholder back p).map (front.length + separator.length + ·) := by
  have hmark := placeholder_ne_nil p
  have hdisjoint (c : Char) (hc : c ∈ separator) : c ∉ p.text.toList :=
    not_mem_placeholder p c (hseparator hc)
  rw [findPlaceholder, Text.splitAt?_separated hmark hne hdisjoint]
  cases Text.splitAt? p.text.toList front with
  | some parts =>
    obtain ⟨before, after⟩ := parts
    simp only [Text.splitAt?_separated hmark hne hdisjoint]
    cases Text.splitAt? p.text.toList after with
    | some parts => simp
    | none => cases Text.splitAt? p.text.toList back <;> simp
  | none =>
    rw [findPlaceholder]
    cases Text.splitAt? p.text.toList back with
    | none => rfl
    | some parts =>
      obtain ⟨before, after⟩ := parts
      simp only [Option.map_some]
      cases Text.splitAt? p.text.toList after with
      | none => simp [Except.map, Nat.add_assoc]
      | some parts => rfl

/-- What is filled in behind the beginning of a group when `front` stands in front of it. -/
def substituteBehind (front back tags : List Char) (layout : DateLayout) : List Char :=
  Text.replaceBehind Placeholder.date.text.toList (expiryGroup layout)
    (Text.replaceFirst Placeholder.tag.text.toList (tagGroup tags) front)
    (Text.replaceBehind Placeholder.tag.text.toList (tagGroup tags) front back)

theorem substitute_separated (front back tags : List Char) (layout : DateLayout) :
    substitute (front ++ (separator ++ back)) tags layout =
      substitute front tags layout ++ (separator ++ substituteBehind front back tags layout) := by
  have hdisjoint (p : Placeholder) (c : Char) (hc : c ∈ separator) : c ∉ p.text.toList :=
    not_mem_placeholder p c (hseparator hc)
  rw [substitute, Text.replaceFirst_separated (placeholder_ne_nil _) hne (hdisjoint .tag),
    Text.replaceFirst_separated (placeholder_ne_nil _) hne (hdisjoint .date)]
  rfl

end Separated

/-- The style with a group in its template, between the two texts, that begins with `opening`. -/
def withGroup (style : CommentStyle) (front opening back : String) : CommentStyle :=
  { style with template := front ++ opening ++ back }

section WithGroup

variable (style : CommentStyle) (front back : String)

/-- The pattern up to the group. -/
def textBefore (layout : DateLayout) : List Char :=
  noteStart style.caseSensitive (alternation style.openers) ++
    substitute front.toList (alternation style.tags) layout

/-- The pattern behind the group's beginning. -/
def textBehind (layout : DateLayout) : List Char :=
  substituteBehind front.toList back.toList (alternation style.tags) layout ++ noteEnd

theorem frame_separated {separator : List Char} (hne : separator ≠ [])
    (hseparator : separator ⊆ ['(', '?', ':']) (layout : DateLayout) :
    frame style.caseSensitive (alternation style.openers)
        (substitute (front.toList ++ (separator ++ back.toList)) (alternation style.tags) layout) =
      style.textBefore front layout ++ (separator ++ style.textBehind front back layout) := by
  rw [frame_eq_append, substitute_separated hne hseparator, textBefore, textBehind]
  simp only [List.append_assoc]

end WithGroup

/-- When the group does not capture, what stands behind its beginning is two places further on. -/
theorem findPlaceholder_plainGroup (p : Placeholder) (front back : List Char) :
    findPlaceholder (front ++ (['(', '?', ':'] ++ back)) p =
      (findPlaceholder (front ++ (['('] ++ back)) p).map fun n =>
        if n < front.length then n else n + 2 := by
  have hcapturing : (['('] : List Char) ⊆ ['(', '?', ':'] := by simp
  rw [findPlaceholder_separated (List.cons_ne_nil _ _) (List.Subset.refl _),
    findPlaceholder_separated (List.cons_ne_nil _ _) hcapturing]
  cases hfront : Text.splitAt? p.text.toList front with
  | some parts =>
    obtain ⟨before, after⟩ := parts
    have hless : before.length < front.length :=
      Text.length_lt_of_splitAt? (placeholder_ne_nil p) hfront
    simp only
    split
    · rfl
    · simp [Except.map, hless]
  | none =>
    cases findPlaceholder back p with
    | error e => rfl
    | ok n =>
      have hbehind : ¬ front.length + 1 + n < front.length := by omega
      simp only [Except.map, List.length_cons, List.length_nil, hbehind, if_false]
      congr 1
      omega

theorem tagFirst?_plainGroup (front back : List Char) :
    tagFirst? (front ++ (['(', '?', ':'] ++ back)) = tagFirst? (front ++ (['('] ++ back)) := by
  have hshift (tagAt dateAt : Nat) :
      (if tagAt < front.length then tagAt else tagAt + 2) <
        (if dateAt < front.length then dateAt else dateAt + 2) ↔ tagAt < dateAt := by
    split <;> split <;> omega
  rw [tagFirst?, tagFirst?, findPlaceholder_plainGroup, findPlaceholder_plainGroup]
  cases findPlaceholder (front ++ (['('] ++ back)) .tag with
  | error e => rfl
  | ok tagAt =>
    cases findPlaceholder (front ++ (['('] ++ back)) .date with
    | error e => rfl
    | ok dateAt => exact congrArg Except.ok (decide_eq_decide.2 (hshift tagAt dateAt))

/-- Whichever way the group begins, there is a pattern for the same styles, and it is the same apart
from that beginning. -/
theorem patternOf_withGroup (style : CommentStyle) (front back : String) {opening : String}
    (h : opening ∈ ["(", "(?:"]) :
    (style.withGroup front opening back).patternOf =
      (tagFirst? (front.toList ++ (['('] ++ back.toList))).bind fun tagFirst =>
        style.layout?.bind fun layout =>
          .ok (style.textBefore front layout ++
            (opening.toList ++ style.textBehind front back layout), layout, tagFirst) := by
  have htemplate : (style.withGroup front opening back).template.toList =
      front.toList ++ (opening.toList ++ back.toList) := by
    simp [withGroup]
  have hopening : opening.toList ≠ [] ∧ opening.toList ⊆ ['(', '?', ':'] ∧
      tagFirst? (front.toList ++ (opening.toList ++ back.toList)) =
        tagFirst? (front.toList ++ (['('] ++ back.toList)) := by
    rcases List.mem_pair.1 h with rfl | rfl
    · exact ⟨by simp, by simp, by simp⟩
    · have hplain : "(?:".toList = ['(', '?', ':'] := by simp
      rw [hplain]
      exact ⟨by simp, by simp, tagFirst?_plainGroup _ _⟩
  obtain ⟨hne, hsubset, hfirst⟩ := hopening
  rw [patternOf_eq, htemplate, hfirst]
  simp only [filled, htemplate]
  simp only [← style.frame_separated front back hne hsubset]
  rfl

/-- The style is refused in both forms, or the patterns differ in the beginning of the group. -/
theorem patternOf_withGroup_cases (style : CommentStyle) (front back : String) :
    (∃ e, (style.withGroup front "(" back).patternOf = .error e ∧
      (style.withGroup front "(?:" back).patternOf = .error e) ∨
    ∃ layout tagFirst,
      (style.withGroup front "(" back).patternOf =
        .ok (style.textBefore front layout ++ '(' :: style.textBehind front back layout,
          layout, tagFirst) ∧
      (style.withGroup front "(?:" back).patternOf =
        .ok (style.textBefore front layout ++
          '(' :: '?' :: ':' :: style.textBehind front back layout, layout, tagFirst) := by
  rw [style.patternOf_withGroup front back (by simp),
    style.patternOf_withGroup front back (by simp)]
  cases tagFirst? (front.toList ++ (['('] ++ back.toList)) with
  | error e => exact .inl ⟨e, rfl, rfl⟩
  | ok tagFirst =>
    cases style.layout? with
    | error e => exact .inl ⟨e, rfl, rfl⟩
    | ok layout => exact .inr ⟨layout, tagFirst, by simp [Except.bind], by simp [Except.bind]⟩

/-- What the style compiles to when no pattern is too large. -/
def compileAnySize (style : CommentStyle) : Except StyleError Matcher := @compile .unlimited style

theorem compileAnySize_eq_error {style : CommentStyle} {e : StyleError}
    (h : style.patternOf = .error e) : style.compileAnySize = .error e :=
  @compile_eq_error .unlimited style e h

theorem compileAnySize_of_patternOf {style : CommentStyle} {source : List Char}
    {layout : DateLayout} {tagFirst : Bool} (h : style.patternOf = .ok (source, layout, tagFirst)) :
    style.compileAnySize =
      match ofAnySize? source with
      | none => .error .invalidPattern
      | some regex =>
        match rolesOf? regex tagFirst with
        | none => .error .invalidPattern
        | some roles => .ok ⟨source, regex, roles, layout, style.dateLayout⟩ := by
  rw [← Regex.ofText?_unlimited]
  exact @compile_of_patternOf .unlimited style source layout tagFirst h

/-- The pattern of the style can be read, but it is too large. -/
def IsTooLarge [Regex.SizeLimit] (style : CommentStyle) : Prop :=
  ∃ source layout tagFirst regex, style.patternOf = .ok (source, layout, tagFirst) ∧
    ofAnySize? source = some regex ∧ Regex.SizeLimit.admits regex = false

/-- All that a size limit does is to refuse styles whose patterns are too large. -/
theorem compile_cases [Regex.SizeLimit] (style : CommentStyle) :
    style.compile = style.compileAnySize ∨
      style.compile = .error .invalidPattern ∧ style.IsTooLarge := by
  cases hpattern : style.patternOf with
  | error e =>
    exact .inl ((compile_eq_error hpattern).trans (compileAnySize_eq_error hpattern).symm)
  | ok x =>
    obtain ⟨source, layout, tagFirst⟩ := x
    rw [compile_of_patternOf hpattern, compileAnySize_of_patternOf hpattern, ofText?]
    cases hregex : ofAnySize? source with
    | none => exact .inl rfl
    | some regex =>
      cases hsize : Regex.SizeLimit.admits regex with
      | true =>
        rw [Option.filter_some_pos hsize]
        exact .inl rfl
      | false =>
        rw [Option.filter_some_neg (by simp [hsize])]
        exact .inr ⟨rfl, source, layout, tagFirst, regex, hpattern, hregex, hsize⟩

theorem compileAnySize_of_compile [Regex.SizeLimit] {style : CommentStyle} {m : Matcher}
    (h : style.compile = .ok m) : style.compileAnySize = .ok m := by
  rcases style.compile_cases with heq | ⟨heq, -⟩
  · rw [← heq, h]
  · rw [heq] at h
    cases h

/-- What has a pattern can only be refused for that pattern. -/
theorem eq_invalidPattern_of_isTooLarge [Regex.SizeLimit] {style : CommentStyle} {e : StyleError}
    (h : style.IsTooLarge) (he : style.compileAnySize = .error e) : e = .invalidPattern := by
  obtain ⟨source, layout, tagFirst, regex, hpattern, -, -⟩ := h
  rw [compileAnySize_of_patternOf hpattern] at he
  split at he
  · exact (Except.error.inj he).symm
  · split at he
    · exact (Except.error.inj he).symm
    · cases he

/-- When one style is refused for a reason that holds of the other too, then the other is refused
for the same reason, unless it is the size of the one's pattern that is the reason. -/
theorem error_of_error [Regex.SizeLimit] {style other : CommentStyle} {e : StyleError}
    (h : style.compileAnySize = .error e → other.compileAnySize = .error e)
    (he : style.compile = .error e) :
    other.compile = .error e ∨ e = .invalidPattern ∧ style.IsTooLarge := by
  rcases style.compile_cases with heq | ⟨heq, hlarge⟩
  · have hother := h (heq.symm.trans he)
    rcases other.compile_cases with heq' | ⟨heq', hlarge'⟩
    · exact .inl (heq'.trans hother)
    · rw [eq_invalidPattern_of_isTooLarge hlarge' hother]
      exact .inl heq'
  · exact .inr ⟨Except.error.inj (he.symm.trans heq), hlarge⟩

/-- In the pattern of the style the parenthesis between the two parts of the template begins a group
that captures and has no name, unless something in front of it cannot be read. -/
def HasGroup (style : CommentStyle) (front back : String) : Prop :=
  ∀ source layout tagFirst,
    (style.withGroup front "(" back).patternOf = .ok (source, layout, tagFirst) →
      BeginsGroup (style.textBefore front layout) (style.textBehind front back layout)

/-- However large the patterns are, both forms of the style are refused for one reason, or both are
accepted and find the same notes. -/
theorem compileAnySize_withGroup_cases {style : CommentStyle} {front back : String}
    (hgroup : style.HasGroup front back) :
    (∃ e, (style.withGroup front "(" back).compileAnySize = .error e ∧
      (style.withGroup front "(?:" back).compileAnySize = .error e) ∨
    ∃ m m', (style.withGroup front "(" back).compileAnySize = .ok m ∧
      (style.withGroup front "(?:" back).compileAnySize = .ok m' ∧
      ∀ number line, m'.matchLine? number line = m.matchLine? number line := by
  rcases style.patternOf_withGroup_cases front back with
    ⟨cause, hcapturing, hplain⟩ | ⟨layout, tagFirst, hcapturing, hplain⟩
  · exact .inl ⟨cause, compileAnySize_eq_error hcapturing, compileAnySize_eq_error hplain⟩
  · obtain ⟨k, hk, hdissolve, hunnamed⟩ :=
      Regex.Reader.exists_dissolve (hgroup _ _ _ hcapturing)
    rw [compileAnySize_of_patternOf hcapturing, compileAnySize_of_patternOf hplain, hdissolve]
    cases hregex : ofAnySize? (style.textBefore front layout ++
        '(' :: style.textBehind front back layout) with
    | none => exact .inl ⟨.invalidPattern, rfl, rfl⟩
    | some regex =>
      have hunnamed := hunnamed regex hregex
      simp only [Option.map_some, rolesOf?_dissolve hunnamed]
      cases hroles : rolesOf? regex tagFirst with
      | none => exact .inl ⟨.invalidPattern, rfl, rfl⟩
      | some roles =>
        have havoids := avoids_of_rolesOf? hunnamed hroles
        refine .inr ⟨_, _, rfl, rfl, fun number line => congrArg LineReading.note? ?_⟩
        exact @Matcher.readLine_dissolve ⟨_, regex, roles, layout, _⟩
          ⟨_, regex.dissolve k, roles.renumber k, layout, _⟩ k hk rfl rfl rfl havoids number line

/-- A style whose template is put together from the parts around a group. -/
def arrowStyle : CommentStyle := ⟨["//"], ["TODO"], "", "YYYY-MM-DD", true⟩

/-- It can be evaluated whether a group begins between the two parts. -/
theorem hasGroup_of_beginsGroup? {style : CommentStyle} {front back : String}
    (h : (style.withGroup front "(" back).patternOf.toOption.all (fun (_, layout, _) =>
      Regex.Reader.beginsGroup? (style.textBefore front layout)
        (style.textBehind front back layout)) = true) : style.HasGroup front back := by
  intro source layout tagFirst hpattern
  rw [hpattern] at h
  exact Regex.Reader.beginsGroup_of_beginsGroup? h

end CommentStyle

end Lapse
