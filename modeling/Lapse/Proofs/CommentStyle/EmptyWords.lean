import Lapse.Proofs.CommentStyle.ByHand
import Lapse.Regex.Size

/-!
# Notes without an opener or a tag

A style is refused when one of its lists of words is empty, but not when a word is. With the default
template and case kept, every note stands behind an opener, blanks and a tag of the style, in this
order; either of the two words is missing from a note only where the list holds the empty word.
-/
namespace Lapse.ByHand

open CommentStyle (defaultRegex)

theorem behind?_eq_some_iff {word text rest : List Char} :
    behind? word text = some rest ↔ text = word ++ rest := by
  rw [behind?, Option.ite_none_right_eq_some, List.isPrefixOf_iff_prefix, Option.some.injEq]
  constructor
  · rintro ⟨⟨rest, rfl⟩, rfl⟩
    rw [List.drop_left]
  · rintro rfl
    exact ⟨List.prefix_append _ _, List.drop_left⟩

theorem isAsciiBlank_of_mem_take {text : List Char} {n : Nat} (h : n ≤ blankCount text) {c : Char}
    (hc : c ∈ text.take n) : Text.isAsciiBlank c := by
  have htake : text.take n <+: text.takeWhile Text.isAsciiBlank :=
    List.prefix_of_prefix_length_le (List.take_prefix _ _) (List.takeWhile_prefix _)
      (Nat.le_trans (List.length_take_le _ _) h)
  exact List.mem_takeWhile_imp (htake.subset hc)

/-- A fit is an opener, blanks and a tag at the beginning of the text. -/
theorem exists_of_partsAt {openers tags : List (List Char)} {layoutText text : List Char}
    {parts : Parts} (h : partsAt openers tags layoutText text = some parts) :
    ∃ opener ∈ openers, ∃ tag ∈ tags, ∃ blanks rest, (∀ c ∈ blanks, Text.isAsciiBlank c) ∧
      text = opener ++ (blanks ++ (tag ++ rest)) ∧
      parts = partsBehind layoutText opener tag rest := by
  obtain ⟨opener, hopener, h⟩ := List.exists_of_findSome?_eq_some h
  obtain ⟨text', hbehind, h⟩ := Option.bind_eq_some_iff.1 h
  obtain ⟨n, hn, h⟩ := List.exists_of_findSome?_eq_some h
  obtain ⟨tag, htag, h⟩ := List.exists_of_findSome?_eq_some h
  obtain ⟨rest, hrest, rfl⟩ := Option.map_eq_some_iff.1 h
  refine ⟨opener, hopener, tag, htag, text'.take n, rest, fun c hc => ?_, ?_, rfl⟩
  · exact isAsciiBlank_of_mem_take (Regex.mem_downFrom.1 hn) hc
  · rw [behind?_eq_some_iff.1 hbehind, ← behind?_eq_some_iff.1 hrest, List.take_append_drop]

theorem isSome_partsAt {openers tags : List (List Char)} {opener tag : List Char}
    (hopener : opener ∈ openers) (htag : tag ∈ tags) (layoutText : List Char) :
    (partsAt openers tags layoutText (opener ++ tag)).isSome := by
  rw [partsAt, List.findSome?_isSome_iff]
  refine ⟨opener, hopener, ?_⟩
  rw [behind?_eq_some_iff.2 rfl, Option.bind_some, List.findSome?_isSome_iff]
  refine ⟨0, Regex.mem_downFrom.2 (Nat.zero_le _), ?_⟩
  rw [List.findSome?_isSome_iff]
  refine ⟨tag, htag, ?_⟩
  rw [List.drop_zero, behind?_eq_some_iff.2 (List.append_nil tag).symm]
  rfl

theorem exists_of_parts? {openers tags : List (List Char)} {layoutText line : List Char}
    {parts : Parts} (h : parts? openers tags layoutText line = some parts) :
    ∃ text, text <:+ line ∧ partsAt openers tags layoutText text = some parts := by
  induction line with
  | nil => exact ⟨[], List.suffix_refl _, h⟩
  | cons c line ih =>
    rw [parts?, Option.or_eq_some_iff] at h
    rcases h with h | ⟨-, h⟩
    · exact ⟨c :: line, List.suffix_refl _, h⟩
    · obtain ⟨text, htext, h⟩ := ih h
      exact ⟨text, htext.trans (List.suffix_cons _ _), h⟩

theorem parts?_of_partsAt {openers tags : List (List Char)} {layoutText line : List Char}
    {parts : Parts} (h : partsAt openers tags layoutText line = some parts) :
    parts? openers tags layoutText line = some parts := by
  cases line with
  | nil => exact h
  | cons c line => rw [parts?, h, Option.some_or]

/-- What is left of a fit when nothing stands behind the tag. -/
def bareParts (opener tag : List Char) : Parts := ⟨opener, tag, [], []⟩

/-- Going on to shorter words ends at one that stands for itself. -/
theorem exists_of_shorter {words : List (List Char)} {Stands : List Char → Prop}
    (h : ∀ word ∈ words, Stands word ∨
      ∃ shorter ∈ words, shorter.length < word.length ∧ shorter ⊆ word)
    {word : List Char} (hword : word ∈ words) : ∃ found, found ⊆ word ∧ Stands found := by
  induction hn : word.length using Nat.strong_induction_on generalizing word with
  | _ n ih =>
    obtain hstands | ⟨shorter, hshorter, hlength, hsubset⟩ := h word hword
    · exact ⟨word, List.Subset.refl _, hstands⟩
    · obtain ⟨found, hfound, hstands⟩ := ih _ (hn ▸ hlength) hshorter rfl
      exact ⟨found, List.Subset.trans hfound hsubset, hstands⟩

/-- Where an opener stands alone, another opener may be preferred, but only a shorter one. -/
theorem exists_parts_of_opener {openers tags : List (List Char)} (layoutText : List Char)
    (htags : [] ∈ tags) {opener : List Char} (hopener : opener ∈ openers) :
    ∃ found, found ⊆ opener ∧ parts? openers tags layoutText found = some (bareParts found []) := by
  refine exists_of_shorter (fun opener hopener => ?_) hopener
  obtain ⟨parts, hparts⟩ := Option.isSome_iff_exists.1 (isSome_partsAt hopener htags layoutText)
  rw [List.append_nil] at hparts
  obtain ⟨first, hfirst, tag, -, blanks, rest, -, htext, rfl⟩ := exists_of_partsAt hparts
  rcases Nat.lt_or_ge first.length opener.length with hshort | hlong
  · exact .inr ⟨first, hfirst, hshort, htext ▸ List.subset_append_left _ _⟩
  · have hlength := congrArg List.length htext
    simp only [List.length_append] at hlength
    obtain rfl : blanks = [] := List.length_eq_zero_iff.1 (by omega)
    obtain rfl : tag = [] := List.length_eq_zero_iff.1 (by omega)
    obtain rfl : rest = [] := List.length_eq_zero_iff.1 (by omega)
    obtain rfl : opener = first := by simpa using htext
    exact .inl (parts?_of_partsAt hparts)

theorem exists_parts_of_tag {openers tags : List (List Char)} (layoutText : List Char)
    (hopeners : [] ∈ openers) {tag : List Char} (htag : tag ∈ tags) :
    ∃ found, found ⊆ tag ∧ parts? openers tags layoutText found = some (bareParts [] found) := by
  refine exists_of_shorter (fun tag htag => ?_) htag
  obtain ⟨parts, hparts⟩ := Option.isSome_iff_exists.1 (isSome_partsAt hopeners htag layoutText)
  rw [List.nil_append] at hparts
  obtain ⟨opener, -, last, hlast, blanks, rest, -, htext, rfl⟩ := exists_of_partsAt hparts
  rcases Nat.lt_or_ge last.length tag.length with hshort | hlong
  · refine .inr ⟨last, hlast, hshort, fun c hc => htext ▸ ?_⟩
    exact List.mem_append_right _ (List.mem_append_right _ (List.mem_append_left _ hc))
  · have hlength := congrArg List.length htext
    simp only [List.length_append] at hlength
    obtain rfl : opener = [] := List.length_eq_zero_iff.1 (by omega)
    obtain rfl : blanks = [] := List.length_eq_zero_iff.1 (by omega)
    obtain rfl : rest = [] := List.length_eq_zero_iff.1 (by omega)
    obtain rfl : tag = last := by simpa using htext
    exact .inl (parts?_of_partsAt hparts)

theorem words_of_note? {layout : DateLayout} {number : Nat} {line : List Char} {parts : Parts}
    {note : Note} (h : note? layout number line parts = some note) :
    note.opener = String.ofList parts.opener ∧ note.tag = String.ofList parts.tag := by
  rw [note?] at h
  split at h
  · cases h
    exact ⟨rfl, rfl⟩
  · obtain ⟨expiry, -, rfl⟩ := Option.map_eq_some_iff.1 h
    exact ⟨rfl, rfl⟩

theorem mem_of_toList_eq {words : List String} {word : List Char}
    (h : word ∈ words.map String.toList) : String.ofList word ∈ words := by
  obtain ⟨w, hw, rfl⟩ := List.mem_map.1 h
  rwa [String.ofList_toList]

theorem nil_mem_map_toList {words : List String} : [] ∈ words.map String.toList ↔ "" ∈ words := by
  constructor
  · exact fun h => mem_of_toList_eq h
  · exact fun h => List.mem_map.2 ⟨"", h, rfl⟩

section Compiled

variable [Regex.SizeLimit] {openers tags : List String} {layoutText : String} {m : Matcher}
  (hcompile : CommentStyle.compile
    ⟨openers, tags, Settings.default.style.template, layoutText, true⟩ = .ok m)
include hcompile

theorem matchLine?_eq_bind {line : List Char} (hline : '\n' ∉ line) (number : Nat) :
    m.matchLine? number line =
      (parts? (openers.map String.toList) (tags.map String.toList) layoutText.toList line).bind
        (note? m.layout number line) := by
  obtain ⟨hregex, hroles⟩ := CommentStyle.exists_of_compile_default hcompile
  refine matchLine?_of_rel hroles ?_ number
  rw [hregex]
  exact rel_search? (isPlain_defaultRegex openers tags layoutText.toList) hline

/-- A note begins in its line with an opener, blanks and a tag of the style. -/
theorem words_of_matchLine? {number : Nat} {line : List Char} {note : Note}
    (hline : '\n' ∉ line) (h : m.matchLine? number line = some note) :
    note.opener ∈ openers ∧ note.tag ∈ tags ∧ ∃ blanks, (∀ c ∈ blanks, Text.isAsciiBlank c) ∧
      note.opener.toList ++ (blanks ++ note.tag.toList) <:+: line := by
  rw [matchLine?_eq_bind hcompile hline] at h
  obtain ⟨parts, hparts, hnote⟩ := Option.bind_eq_some_iff.1 h
  obtain ⟨text, hsuffix, hparts⟩ := exists_of_parts? hparts
  obtain ⟨opener, hopener, tag, htag, blanks, rest, hblanks, rfl, rfl⟩ := exists_of_partsAt hparts
  obtain ⟨hnoteOpener, hnoteTag⟩ := words_of_note? hnote
  rw [hnoteOpener, hnoteTag, String.toList_ofList, String.toList_ofList]
  refine ⟨mem_of_toList_eq hopener, mem_of_toList_eq htag, blanks, hblanks, ?_⟩
  refine List.IsInfix.trans ⟨[], rest, ?_⟩ hsuffix.isInfix
  simp [partsBehind]

theorem matchLine?_of_bareParts {opener tag line : List Char} (hline : '\n' ∉ line)
    (h : parts? (openers.map String.toList) (tags.map String.toList) layoutText.toList line =
      some (bareParts opener tag)) (number : Nat) :
    ∃ note, m.matchLine? number line = some note ∧ note.opener = String.ofList opener ∧
      note.tag = String.ofList tag := by
  rw [matchLine?_eq_bind hcompile hline, h]
  exact ⟨_, rfl, rfl, rfl⟩

end Compiled

/-- With the default template and case kept, a note stands in its line as an opener, blanks and a
tag of the style. It is without an opener or without a tag exactly for styles that have the empty
word there, and the empty line is a note exactly when both lists have it. -/
theorem words_of_compile_default [Regex.SizeLimit] {openers tags : List String}
    {layoutText : String} {m : Matcher} (hcompile : CommentStyle.compile
      ⟨openers, tags, Settings.default.style.template, layoutText, true⟩ = .ok m) :
    (∀ number line note, '\n' ∉ line → m.matchLine? number line = some note →
      note.opener ∈ openers ∧ note.tag ∈ tags ∧ ∃ blanks, (∀ c ∈ blanks, Text.isAsciiBlank c) ∧
        note.opener.toList ++ (blanks ++ note.tag.toList) <:+: line) ∧
    ((∃ number line note, '\n' ∉ line ∧ m.matchLine? number line = some note ∧
        (note.opener = "" ∨ note.tag = "")) ↔
      ("" ∈ openers ∧ ∃ tag ∈ tags, '\n' ∉ tag.toList) ∨
        ("" ∈ tags ∧ ∃ opener ∈ openers, '\n' ∉ opener.toList)) ∧
    ∀ number, (m.matchLine? number []).isSome ↔ "" ∈ openers ∧ "" ∈ tags := by
  refine ⟨fun _ _ _ hline h => words_of_matchLine? hcompile hline h, ⟨?_, ?_⟩, fun number => ⟨?_, ?_⟩⟩
  · rintro ⟨number, line, note, hline, h, hempty⟩
    obtain ⟨hopener, htag, blanks, -, hpart⟩ := words_of_matchLine? hcompile hline h
    rcases hempty with hempty | hempty
    · refine .inl ⟨hempty ▸ hopener, note.tag, htag, fun hmem => hline (hpart.subset ?_)⟩
      exact List.mem_append_right _ (List.mem_append_right _ hmem)
    · refine .inr ⟨hempty ▸ htag, note.opener, hopener, fun hmem => hline (hpart.subset ?_)⟩
      exact List.mem_append_left _ hmem
  · rintro (⟨hempty, tag, htag, hline⟩ | ⟨hempty, opener, hopener, hline⟩)
    · obtain ⟨found, hsubset, hparts⟩ := exists_parts_of_tag layoutText.toList
        (nil_mem_map_toList.2 hempty) (List.mem_map_of_mem htag)
      have hfound : '\n' ∉ found := fun hmem => hline (hsubset hmem)
      obtain ⟨note, hnote, hopener, -⟩ := matchLine?_of_bareParts hcompile hfound hparts 1
      exact ⟨1, found, note, hfound, hnote, .inl hopener⟩
    · obtain ⟨found, hsubset, hparts⟩ := exists_parts_of_opener layoutText.toList
        (nil_mem_map_toList.2 hempty) (List.mem_map_of_mem hopener)
      have hfound : '\n' ∉ found := fun hmem => hline (hsubset hmem)
      obtain ⟨note, hnote, -, htag⟩ := matchLine?_of_bareParts hcompile hfound hparts 1
      exact ⟨1, found, note, hfound, hnote, .inr htag⟩
  · intro h
    obtain ⟨note, hnote⟩ := Option.isSome_iff_exists.1 h
    obtain ⟨hopener, htag, blanks, -, hpart⟩ :=
      words_of_matchLine? hcompile List.not_mem_nil hnote
    have hnil := List.infix_nil.1 hpart
    simp only [List.append_eq_nil_iff, String.toList_eq_nil_iff] at hnil
    exact ⟨hnil.1 ▸ hopener, hnil.2.2 ▸ htag⟩
  · rintro ⟨hopener, htag⟩
    obtain ⟨found, hsubset, hparts⟩ := exists_parts_of_opener layoutText.toList
      (nil_mem_map_toList.2 htag) (nil_mem_map_toList.2 hopener)
    obtain rfl := List.subset_nil.1 hsubset
    obtain ⟨note, hnote, -⟩ := matchLine?_of_bareParts hcompile List.not_mem_nil hparts number
    rw [hnote]
    rfl

/-- In a style without empty words every note has an opener and a tag. -/
theorem words_of_default_style :
    ∃ m, CommentStyle.compile ⟨["//", "#"], ["TODO", "FIXME"], Settings.default.style.template,
        "YYYY-MM-DD", true⟩ = .ok m ∧
      (∀ number line note, '\n' ∉ line → m.matchLine? number line = some note →
        note.opener ≠ "" ∧ note.tag ≠ "") ∧
      ∀ number, m.matchLine? number [] = none := by
  have hsize : Regex.SizeLimit.admits
      (defaultRegex ["//", "#"] ["TODO", "FIXME"] "YYYY-MM-DD".toList) = true := by
    decide +kernel
  obtain ⟨m, hcompile, -⟩ := CommentStyle.compile_default (by decide) (by decide)
    CommentStyle.ofText_dashedLayout hsize
  obtain ⟨-, hempty, hnone⟩ := words_of_compile_default hcompile
  refine ⟨m, hcompile, fun number line note hline h => ?_, fun number => ?_⟩
  · exact not_or.1 fun hor => absurd (hempty.1 ⟨number, line, note, hline, h, hor⟩) (by decide)
  · exact Option.not_isSome_iff_eq_none.1 fun h => absurd ((hnone number).1 h) (by decide)

/-- A style whose only tag is the empty word is not refused, and an opener alone is its note. -/
theorem not_forall_words :
    ¬ ∀ (openers tags : List String) (m : Matcher), CommentStyle.compile
        ⟨openers, tags, Settings.default.style.template, "YYYY-MM-DD", true⟩ = .ok m →
      ∀ number line note, '\n' ∉ line → m.matchLine? number line = some note →
        note.opener ≠ "" ∧ note.tag ≠ "" := by
  intro h
  have hsize : Regex.SizeLimit.admits (defaultRegex ["//"] [""] "YYYY-MM-DD".toList) = true := by
    decide +kernel
  obtain ⟨m, hcompile, -⟩ := CommentStyle.compile_default (by decide) (by decide)
    CommentStyle.ofText_dashedLayout hsize
  have hline : '\n' ∉ ['/', '/'] := by decide
  have hparts : parts? (["//"].map String.toList) ([""].map String.toList) "YYYY-MM-DD".toList
      ['/', '/'] = some (bareParts ['/', '/'] []) := by decide +kernel
  obtain ⟨note, hnote, -, htag⟩ := matchLine?_of_bareParts hcompile hline hparts 1
  exact (h ["//"] [""] m hcompile 1 _ note hline hnote).2 htag

end Lapse.ByHand
