import Mathlib.Data.List.Chain
import Lapse.Proofs.CommentStyle.Parts
import Lapse.Proofs.Text.Find
import Lapse.Regex.Size

/-!
# Placeholders of a template

The tag's group is put in its place first, and then the date's group in its own. What stands in the
first group cannot be taken for the second placeholder, since a closing brace in it has a backslash
before it, so both places are those of the template.
-/
namespace Lapse.CommentStyle

open Regex (escape escapeChar isMeta)
open Text (timesIn)

/-- Every `mark` in the text has a backslash before it. -/
def Escaped (mark : Char) (text : List Char) : Prop := text.IsChain fun a b => b = mark → a = '\\'

section Escaped

variable {mark : Char}

theorem escaped_append {xs ys : List Char} (hxs : Escaped mark xs) (hys : Escaped mark ys)
    (h : ys.head? ≠ some mark) : Escaped mark (xs ++ ys) := by
  refine List.isChain_append.2 ⟨hxs, hys, fun a _ b hb e => ?_⟩
  rw [e] at hb
  exact (h hb).elim

theorem escaped_cons {c : Char} {text : List Char} (h : Escaped mark text)
    (hhead : text.head? ≠ some mark) : Escaped mark (c :: text) :=
  @escaped_append _ [c] text (List.IsChain.singleton c) h hhead

theorem escaped_of_not_mem {text : List Char} (h : mark ∉ text) : Escaped mark text := by
  induction text with
  | nil => exact List.IsChain.nil
  | cons c text ih =>
    refine escaped_cons (ih fun hmem => h (List.mem_cons_of_mem _ hmem)) fun hhead => h ?_
    exact List.mem_cons_of_mem _ (List.mem_of_mem_head? hhead)

theorem escaped_flatMap {α : Type} {f : α → List Char}
    (h : ∀ a, Escaped mark (f a) ∧ (f a).head? ≠ some mark) (l : List α) :
    Escaped mark (l.flatMap f) ∧ (l.flatMap f).head? ≠ some mark := by
  induction l with
  | nil => exact ⟨List.IsChain.nil, by simp⟩
  | cons a l ih =>
    rw [List.flatMap_cons]
    refine ⟨escaped_append (h a).1 ih.1 ih.2, ?_⟩
    cases hfirst : f a with
    | nil => exact ih.2
    | cons c part =>
      have hhead := (h a).2
      rwa [hfirst] at hhead

variable (hmeta : isMeta mark) (hmark : mark ≠ '\\')
include hmeta hmark

theorem escaped_escapeChar (c : Char) :
    Escaped mark (escapeChar c) ∧ (escapeChar c).head? ≠ some mark := by
  rw [escapeChar]
  split
  · exact ⟨by simp [Escaped], by simpa using Ne.symm hmark⟩
  · next h =>
    refine ⟨by simp [Escaped], ?_⟩
    simp only [List.head?_cons, ne_eq, Option.some.injEq]
    rintro rfl
    exact h hmeta

theorem escaped_escape (word : List Char) :
    Escaped mark (escape word) ∧ (escape word).head? ≠ some mark :=
  escaped_flatMap (escaped_escapeChar hmeta hmark) word

theorem escaped_alternation (hbar : mark ≠ '|') (items : List String) :
    Escaped mark (alternation items) ∧ (alternation items).head? ≠ some mark := by
  rw [alternation]
  induction items with
  | nil => exact ⟨List.IsChain.nil, by simp⟩
  | cons item items ih =>
    obtain ⟨hescaped, hhead⟩ := escaped_escape hmeta hmark item.toList
    cases items with
    | nil => simpa using ⟨hescaped, hhead⟩
    | cons next items =>
      simp only [List.map_cons, List.intercalate_cons_cons, List.append_assoc,
        List.singleton_append] at ih ⊢
      have hbarHead : some '|' ≠ some mark := fun e => hbar (Option.some.inj e).symm
      refine ⟨escaped_append hescaped (escaped_cons ih.1 ih.2) hbarHead, ?_⟩
      cases h : escape item.toList with
      | nil => exact hbarHead
      | cons c rest =>
        rw [h] at hhead
        exact hhead

end Escaped

theorem exists_text_eq (p : Placeholder) :
    ∃ mark, p.text.toList = '\x7b' :: mark ∧ '\x7b' ∉ mark := by
  cases p
  · exact ⟨['t', 'a', 'g', '\x7d'], by decide, by decide⟩
  · exact ⟨['d', 'a', 't', 'e', '\x7d'], by decide, by decide⟩

section Mark

variable (p : Placeholder) {front back template : List Char}

theorem splitAt?_placeholder (h : timesIn p.text.toList front = 0) (back : List Char) :
    Text.splitAt? p.text.toList (front ++ (p.text.toList ++ back)) = some (front, back) := by
  obtain ⟨mark, e, hmark⟩ := exists_text_eq p
  rw [e] at h ⊢
  exact Text.splitAt?_first hmark h back

theorem splitAt?_placeholder_eq_none (h : timesIn p.text.toList template = 0) :
    Text.splitAt? p.text.toList template = none := by
  refine Text.splitAt?_eq_none h ?_
  cases p <;> decide

theorem timesIn_append_placeholder (front back : List Char) :
    timesIn p.text.toList (front ++ (p.text.toList ++ back)) =
      timesIn p.text.toList front + timesIn p.text.toList back + 1 := by
  obtain ⟨mark, e, hmark⟩ := exists_text_eq p
  rw [e]
  exact Text.timesIn_append_mark hmark front back

theorem replaceFirst_placeholder (h : timesIn p.text.toList front = 0) (group back : List Char) :
    Text.replaceFirst p.text.toList group (front ++ (p.text.toList ++ back)) =
      front ++ (group ++ back) := by
  simp only [Text.replaceFirst, splitAt?_placeholder p h, List.append_assoc]

theorem findPlaceholder_append (hfront : timesIn p.text.toList front = 0)
    (hback : timesIn p.text.toList back = 0) :
    findPlaceholder (front ++ (p.text.toList ++ back)) p = .ok front.length := by
  simp only [findPlaceholder, splitAt?_placeholder p hfront, splitAt?_placeholder_eq_none p hback]

/-- A placeholder is found when it stands in the template exactly once. -/
theorem timesIn_eq_one_of_findPlaceholder {n : Nat} (h : findPlaceholder template p = .ok n) :
    timesIn p.text.toList template = 1 := by
  by_cases hnone : timesIn p.text.toList template = 0
  · rw [findPlaceholder, splitAt?_placeholder_eq_none p hnone] at h
    cases h
  obtain ⟨front, back, rfl, hfront⟩ := Text.exists_of_timesIn_ne_zero hnone
  by_cases hback : timesIn p.text.toList back = 0
  · rw [timesIn_append_placeholder, hfront, hback]
  · obtain ⟨before, behind, rfl, hbefore⟩ := Text.exists_of_timesIn_ne_zero hback
    simp only [findPlaceholder, splitAt?_placeholder p hfront, splitAt?_placeholder p hbefore] at h
    cases h

end Mark

theorem toList_text_tag : Placeholder.tag.text.toList = ['\x7b', 't', 'a', 'g', '\x7d'] := by
  decide

theorem toList_text_date :
    Placeholder.date.text.toList = ['\x7b', 'd', 'a', 't', 'e', '\x7d'] := by
  decide

/-- The date's placeholder does not overlap with the tag's. -/
theorem timesIn_date_around_tag (front back : List Char) :
    timesIn Placeholder.date.text.toList (front ++ (Placeholder.tag.text.toList ++ back)) =
      timesIn Placeholder.date.text.toList front + timesIn Placeholder.date.text.toList back := by
  have hsplit : front ++ (Placeholder.tag.text.toList ++ back) =
      (front ++ ['\x7b', 't', 'a']) ++ 'g' :: (['\x7d'] ++ back) := by
    simp [toList_text_tag]
  rw [hsplit, toList_text_date, Text.timesIn_append_cons (by simp) (by simp),
    Text.timesIn_append_of_getLast? (c := '\x7d') rfl (by simp),
    Text.timesIn_append_of_not_mem (by simp)]

/-- The date's placeholder stands in no text whose braces are escaped. -/
theorem timesIn_date_of_escaped {text : List Char} (h : Escaped '\x7d' text) :
    timesIn Placeholder.date.text.toList text = 0 := by
  by_contra hne
  obtain ⟨front, back, rfl, -⟩ := Text.exists_of_timesIn_ne_zero hne
  have hpart : ['e', '\x7d'] <:+: front ++ (Placeholder.date.text.toList ++ back) :=
    ⟨front ++ ['\x7b', 'd', 'a', 't'], back, by simp [toList_text_date]⟩
  have hpair := List.IsChain.infix h hpart
  simp at hpair

/-- Nor does it stand in the group of the tags or overlap with it. -/
theorem timesIn_date_around_tagGroup (front back : List Char) (tags : List String) :
    timesIn Placeholder.date.text.toList (front ++ (tagGroup (alternation tags) ++ back)) =
      timesIn Placeholder.date.text.toList front + timesIn Placeholder.date.text.toList back := by
  have hsplit : front ++ (tagGroup (alternation tags) ++ back) =
      front ++ '(' :: ((['?', 'P', '<', 't', 'a', 'g', '>'] ++ alternation tags) ++ ')' :: back) := by
    rw [tagGroup, namedGroup_append]
    simp
  have halternation := @escaped_alternation '\x7d' rfl (by decide) (by decide) tags
  have hescaped : Escaped '\x7d' (['?', 'P', '<', 't', 'a', 'g', '>'] ++ alternation tags) :=
    escaped_append (escaped_of_not_mem (by decide)) halternation.1 halternation.2
  have hnone := timesIn_date_of_escaped hescaped
  have hmark : ∀ c ∈ ['(', ')'], c ∉ Placeholder.date.text.toList := by
    simp [toList_text_date]
  have hne : Placeholder.date.text.toList ≠ [] := by simp [toList_text_date]
  rw [hsplit, Text.timesIn_append_cons hne (hmark '(' (by simp)),
    Text.timesIn_append_cons hne (hmark ')' (by simp)), hnone, Nat.zero_add]

/-- A template cut at the places of its two placeholders. -/
structure TemplateParts where
  front : List Char
  between : List Char
  back : List Char
  /-- The tag's place comes first. -/
  tagFirst : Bool
  deriving Repr

/-- The parts with `tag` in the tag's place and `date` in the date's. -/
def TemplateParts.fill (parts : TemplateParts) (tag date : List Char) : List Char :=
  if parts.tagFirst then parts.front ++ (tag ++ (parts.between ++ (date ++ parts.back)))
  else parts.front ++ (date ++ (parts.between ++ (tag ++ parts.back)))

/-- The parts are those of the template, and each placeholder stands in it once. -/
structure TemplateParts.Cut (parts : TemplateParts) (template : List Char) : Prop where
  eq : template = parts.fill Placeholder.tag.text.toList Placeholder.date.text.toList
  tag : timesIn Placeholder.tag.text.toList template = 1
  date : timesIn Placeholder.date.text.toList template = 1

/-- A template that has each placeholder once has such parts: the date's place is in front of the
tag's or behind it. -/
theorem exists_cut {template : List Char} (htag : timesIn Placeholder.tag.text.toList template = 1)
    (hdate : timesIn Placeholder.date.text.toList template = 1) :
    ∃ parts : TemplateParts, parts.Cut template := by
  obtain ⟨front, back, rfl, -⟩ := Text.exists_of_timesIn_ne_zero (htag.trans_ne Nat.one_ne_zero)
  have hsum := hdate
  rw [timesIn_date_around_tag] at hsum
  by_cases hbefore : timesIn Placeholder.date.text.toList front = 0
  · have hbehind : timesIn Placeholder.date.text.toList back ≠ 0 := by omega
    obtain ⟨between, back, rfl, -⟩ := Text.exists_of_timesIn_ne_zero hbehind
    exact ⟨⟨front, between, back, true⟩, rfl, htag, hdate⟩
  · obtain ⟨front, between, rfl, -⟩ := Text.exists_of_timesIn_ne_zero hbefore
    exact ⟨⟨front, between, back, false⟩, by simp [TemplateParts.fill], htag, hdate⟩

namespace TemplateParts.Cut

variable {parts : TemplateParts} {template : List Char} (h : parts.Cut template)
include h

/-- What stands in front of a placeholder and behind it is without that placeholder. -/
theorem around (p : Placeholder) (front back : List Char)
    (e : template = front ++ (p.text.toList ++ back)) :
    timesIn p.text.toList front = 0 ∧ timesIn p.text.toList back = 0 := by
  have htimes : timesIn p.text.toList template = 1 := by
    cases p
    · exact h.tag
    · exact h.date
  rw [e, timesIn_append_placeholder] at htimes
  omega

/-- The tag's place is found first when it comes first. -/
theorem tagFirst? : CommentStyle.tagFirst? template = .ok parts.tagFirst := by
  obtain ⟨front, between, back, tagFirst⟩ := parts
  have hplaces (p : Placeholder) (front back : List Char)
      (e : template = front ++ (p.text.toList ++ back)) :
      findPlaceholder template p = .ok front.length := by
    obtain ⟨hfront, hback⟩ := h.around p front back e
    rw [e, findPlaceholder_append p hfront hback]
  cases tagFirst with
  | true =>
    have htag := hplaces .tag _ _ h.eq
    have hdate := hplaces .date (front ++ (Placeholder.tag.text.toList ++ between)) back
      (by rw [h.eq]; simp [fill])
    rw [CommentStyle.tagFirst?, htag, hdate]
    simp [toList_text_tag, bind, Except.bind, pure, Except.pure]
  | false =>
    have hdate := hplaces .date _ _ h.eq
    have htag := hplaces .tag (front ++ (Placeholder.date.text.toList ++ between)) back
      (by rw [h.eq]; simp [fill])
    rw [CommentStyle.tagFirst?, htag, hdate]
    simp [bind, Except.bind, pure, Except.pure]

/-- Both groups are put in the places that the placeholders have in the template. -/
theorem substitute (tags : List String) (layout : DateLayout) :
    CommentStyle.substitute template (alternation tags) layout =
      parts.fill (tagGroup (alternation tags)) (expiryGroup layout) := by
  obtain ⟨front, between, back, tagFirst⟩ := parts
  cases tagFirst with
  | true =>
    have htag := h.around .tag _ _ h.eq
    have hdate := h.around .date (front ++ (Placeholder.tag.text.toList ++ between)) back
      (by rw [h.eq]; simp [fill])
    rw [timesIn_date_around_tag, ← timesIn_date_around_tagGroup _ _ tags] at hdate
    have hsecond := replaceFirst_placeholder .date hdate.1 (expiryGroup layout) back
    simp only [List.append_assoc] at hsecond
    rw [CommentStyle.substitute, h.eq, fill, if_pos rfl, replaceFirst_placeholder .tag htag.1,
      hsecond]
    rfl
  | false =>
    have hdate := h.around .date _ _ h.eq
    have htag := h.around .tag (front ++ (Placeholder.date.text.toList ++ between)) back
      (by rw [h.eq]; simp [fill])
    have hfirst := replaceFirst_placeholder .tag htag.1 (tagGroup (alternation tags)) back
    simp only [List.append_assoc] at hfirst
    rw [CommentStyle.substitute, h.eq, fill, if_neg (by simp), hfirst,
      replaceFirst_placeholder .date hdate.1]
    rfl

end TemplateParts.Cut

theorem frame_eq_text (caseSensitive : Bool) (openers filled : List Char) :
    frame caseSensitive openers filled =
      (if caseSensitive then [] else "(?i)".toList) ++ "(?P<annotation>(?P<comment>".toList ++
        openers ++ ")[[:space:]]*".toList ++ filled ++ "[[:space:]]*(?P<content>.+)?)$".toList := by
  have hfront : "(?P<annotation>(?P<comment>".toList =
      "(?P<".toList ++ ("annotation".toList ++ '>' :: ("(?P<".toList ++ ("comment".toList ++ ['>']))) := by
    decide
  have hopeners : ")[[:space:]]*".toList = ')' :: blanks := by decide
  have hback : "[[:space:]]*(?P<content>.+)?)$".toList =
      blanks ++ ("(?P<".toList ++ ("content".toList ++ '>' :: (".+".toList ++ [')', '?', ')', '$']))) := by
    decide
  simp only [frame, namedGroup, hfront, hopeners, hback, List.append_assoc, List.cons_append,
    List.nil_append]

theorem tagGroup_eq_text (tags : List Char) :
    tagGroup tags = "(?P<tag>".toList ++ tags ++ ")".toList := by
  simp [tagGroup, namedGroup]

theorem expiryGroup_eq_text (layout : DateLayout) :
    expiryGroup layout = "(?P<expiry>(?:".toList ++ layout.pattern ++ ")?)".toList := by
  simp [expiryGroup, namedGroup]

/-- The pattern of a style is the frame around the template, with the tags in the template's own
place for the tag and the layout in its own place for the date. Nothing else of it changes, whatever
the openers, the tags and the other parts of the template are. -/
theorem patternOf_fill [Regex.SizeLimit] {style : CommentStyle} {layout : DateLayout}
    (htag : timesIn Placeholder.tag.text.toList style.template.toList = 1)
    (hdate : timesIn Placeholder.date.text.toList style.template.toList = 1)
    (hopeners : style.openers ≠ []) (htags : style.tags ≠ [])
    (hlayout : DateLayout.ofText style.dateLayout.toList = .ok layout) :
    (∃ parts : TemplateParts, style.template.toList =
      parts.fill Placeholder.tag.text.toList Placeholder.date.text.toList) ∧
    ∀ parts : TemplateParts, style.template.toList =
        parts.fill Placeholder.tag.text.toList Placeholder.date.text.toList →
      ∃ source, source = (if style.caseSensitive then [] else "(?i)".toList) ++
          "(?P<annotation>(?P<comment>".toList ++ alternation style.openers ++
          ")[[:space:]]*".toList ++
          parts.fill ("(?P<tag>".toList ++ alternation style.tags ++ ")".toList)
            ("(?P<expiry>(?:".toList ++ layout.pattern ++ ")?)".toList) ++
          "[[:space:]]*(?P<content>.+)?)$".toList ∧
        style.patternOf = .ok (source, layout, parts.tagFirst) ∧
        ∀ m, style.compile = .ok m → m.source = source := by
  refine ⟨(exists_cut htag hdate).imp fun parts hcut => hcut.eq, fun parts hparts => ?_⟩
  have hcut : parts.Cut style.template.toList := ⟨hparts, htag, hdate⟩
  have hpattern : style.patternOf = .ok (frame style.caseSensitive (alternation style.openers)
      (style.filled layout), layout, parts.tagFirst) := by
    rw [patternOf_eq, hcut.tagFirst?, layout?_eq_ok_iff.2 ⟨hopeners, htags, hlayout⟩]
    rfl
  rw [filled, hcut.substitute, frame_eq_text, tagGroup_eq_text, expiryGroup_eq_text] at hpattern
  refine ⟨_, rfl, hpattern, fun m hm => ?_⟩
  rw [compile_of_patternOf hpattern] at hm
  split at hm
  · cases hm
  · split at hm
    · cases hm
    · cases hm
      rfl

/-- A style with placeholders in its openers and tags. -/
def bracedStyle : CommentStyle :=
  ⟨["\x7btag\x7d", "//"], ["\x7bdate\x7d", "a\\(\n"], "\x7bdate\x7d.\x7btag\x7d", "2", false⟩

theorem patternOf_bracedStyle :
    timesIn Placeholder.tag.text.toList bracedStyle.template.toList = 1 ∧
      timesIn Placeholder.date.text.toList bracedStyle.template.toList = 1 ∧
      bracedStyle.openers ≠ [] ∧ bracedStyle.tags ≠ [] ∧
      ∃ layout, DateLayout.ofText bracedStyle.dateLayout.toList = .ok layout ∧
        bracedStyle.patternOf = .ok (("(?i)(?P<annotation>(?P<comment>\\\x7btag\\\x7d|//)[[:space:]]*" ++
          "(?P<expiry>(?:[[:digit:]])?).(?P<tag>\\\x7bdate\\\x7d|a\\\\\\(\n)" ++
          "[[:space:]]*(?P<content>.+)?)$").toList, layout, false) := by
  have hlayout : DateLayout.ofText bracedStyle.dateLayout.toList = .ok ⟨[.field .day 1]⟩ := by
    decide +kernel
  have htag : timesIn Placeholder.tag.text.toList bracedStyle.template.toList = 1 := by decide
  have hdate : timesIn Placeholder.date.text.toList bracedStyle.template.toList = 1 := by decide
  refine ⟨htag, hdate, by decide, by decide, _, hlayout, ?_⟩
  obtain ⟨source, hsource, hpattern, -⟩ := (patternOf_fill htag hdate (by decide) (by decide)
    hlayout).2 ⟨[], ['.'], [], false⟩ (by decide)
  rw [hpattern, hsource]
  decide +kernel

end Lapse.CommentStyle
