import Lapse.Proofs.CommentStyle.ByHand
import Lapse.Proofs.DateLayout.Pattern
import Lapse.Proofs.Regex.Memory
import Lapse.Proofs.Regex.PlainGroup

/-!
# Alternatives that are texts

The alternation of a list of texts, as it is written with each text escaped, is a pattern without
groups that matches these texts and no others. Where more than one of them fits, the first in the
list is taken with which the rest of the pattern can be found.
-/
namespace Lapse

namespace Regex

variable {α : Type}

theorem run_sequence_cons (a : Regex) (rest : List Regex) (id : Nat) (k : Rest α) :
    (sequence (a :: rest)).run id k = a.run id ((sequence rest).run (id + a.choices) k) := by
  cases rest <;> rfl

theorem run_sets (sets : List CharSet) (id : Nat) (k : Rest α) (p : Cursor) (caps : Captures)
    (v : Visited) :
    (sequence (sets.map set)).run id k p caps v =
      if takes sets p.after then k (p.advance sets.length) caps v else .error v := by
  induction sets generalizing p with
  | nil => rfl
  | cons s sets ih =>
    rw [List.map_cons, run_sequence_cons, run]
    dsimp only
    cases hafter : p.after with
    | nil => rfl
    | cons c after =>
      simp only [takes, List.length_cons, Cursor.advance_succ hafter]
      by_cases hc : s.mem c
      · simp only [hc, if_true, Bool.true_and]
        exact ih _
      · simp [hc]

theorem Cursor.reaches_advance (p : Cursor) (n : Nat) : p.Reaches (p.advance n) := by
  induction n generalizing p with
  | zero => exact .here
  | succ n ih =>
    rw [advance]
    split
    · exact .here
    · next c rest hafter => exact (Reaches.here.past hafter).trans (ih _)

theorem met_insert_of_lt {d id : Nat} (h : id < d) (position : Nat) (v : Visited) :
    met d (v.insert (id, position)) = met d v := by
  ext ⟨i, j⟩
  simp only [met, Set.mem_ofPred_eq, Std.HashSet.mem_insert, beq_iff_eq, Prod.mk.injEq]
  exact or_iff_right fun hsame => absurd hsame.1 (by omega)

theorem matchAt?_start (r : Regex) (p : Cursor) :
    (seq (look .start) r).matchAt? p = if p.previous.isNone then r.matchAt? p else none := by
  rw [matchAt?_eq_toOption, matchAt?_eq_toOption, run, run]
  dsimp only
  rw [Look.holds]
  split <;> rfl

/-- What begins with the text is found at its beginning only. -/
theorem isMatch_start (r : Regex) (text : List Char) :
    (seq (look .start) r).isMatch text = (r.matchAt? (.atStart text)).isSome := by
  have hlater (position : Nat) (previous : Char) (text : List Char) :
      (seq (look .start) r).searchFrom position (some previous) text = none := by
    induction text generalizing position previous with
    | nil => exact matchAt?_start r _
    | cons c text ih => rw [searchFrom_cons, matchAt?_start, ih]; rfl
  rw [isMatch, search?]
  cases text with
  | nil => exact congrArg Option.isSome (matchAt?_start r _)
  | cons c text =>
    rw [searchFrom_cons, hlater, Option.or_none, matchAt?_start]
    rfl

theorem isSome_matchAt?_stop (p : Cursor) : ((look .stop).matchAt? p).isSome ↔ p.after = [] := by
  rw [matchAt?_eq_toOption, run]
  cases h : p.after <;> simp [Look.holds, h, matched, Except.toOption]

theorem captureTo_of_prefix {p r : Cursor} {word : List Char} (h : word <+: p.after)
    (hr : (p.advance word.length).Reaches r) :
    p.captureTo r = ⟨p.position, word ++ ((p.advance word.length).captureTo r).text⟩ := by
  have hposition := Cursor.position_advance h.length_le
  have hle := hr.position_le
  obtain ⟨back, hback⟩ := h
  have hafter : (p.advance word.length).after = back := by
    rw [Cursor.after_advance, ← hback, List.drop_left]
  rw [Cursor.captureTo, Cursor.captureTo, hafter, ← hback, List.take_append,
    List.take_of_length_le (by omega), hposition, Nat.sub_sub]

end Regex

namespace CommentStyle

open Regex (Cursor Capture Captures Rest Visited Walk Closed Finds met choice matched)
open Regex.Reader (State Level Item Flags read? wordRegex wordsLevel)

/-- The captures of a match that begins at `position` with the text `front`, from those of a match
behind that text. -/
def withFront (position : Nat) (front : List Char) : Captures → Captures
  | (index, whole) :: caps => (index, (⟨position, front ++ whole.text⟩ : Capture)) :: caps
  | [] => []

section Choice

variable {α : Type} {word : List Char} {p : Cursor}

theorem run_wordRegex (word : List Char) (id : Nat) (k : Rest α) (p : Cursor) (caps : Captures)
    (v : Visited) :
    (wordRegex {} word).run id k p caps v =
      if word <+: p.after then k (p.advance word.length) caps v else .error v := by
  have hsets : wordRegex {} word = Regex.sequence ((word.map Regex.CharSet.singleton).map .set) := by
    rw [wordRegex, List.map_map]
    rfl
  rw [hsets, Regex.run_sets, ByHand.takes_singletons, List.length_map]
  simp only [List.isPrefixOf_iff_prefix]

/-- What is found with the first of the words that fit behind which something is found. -/
def firstFitting (words : List (List Char)) (p : Cursor) (behind : List Char → Option α) :
    Option α :=
  words.findSome? fun word => if word <+: p.after then behind word else none

theorem firstFitting_cons (words : List (List Char)) (p : Cursor)
    (behind : List Char → Option α) :
    firstFitting (word :: words) p behind =
      (if word <+: p.after then behind word else none).or (firstFitting words p behind) :=
  Regex.findSome?_cons_eq_or _ _ _

theorem choices_wordRegex (word : List Char) : (wordRegex {} word).choices = 0 := by
  have hsets (sets : List Regex.CharSet) : (Regex.sequence (sets.map .set)).choices = 0 := by
    induction sets with
    | nil => rfl
    | cons s sets ih =>
      cases sets with
      | nil => rfl
      | cons next sets =>
        have hadd : (Regex.sequence ((s :: next :: sets).map .set)).choices =
            0 + (Regex.sequence ((next :: sets).map .set)).choices := rfl
        rw [hadd, ih]
  have h := hsets (word.map fun c => Regex.Reader.foldFor {} (.singleton c))
  rwa [List.map_map] at h

theorem isSome_firstFitting_iff {words : List (List Char)} {behind : List Char → Option α} :
    (firstFitting words p behind).isSome ↔
      ∃ word ∈ words, word <+: p.after ∧ (behind word).isSome := by
  rw [firstFitting, List.findSome?_isSome_iff]
  refine exists_congr fun word => and_congr_right fun _ => ?_
  by_cases hfits : word <+: p.after <;> simp [hfits]

theorem choices_words (words : List (List Char)) :
    (choice (words.map (wordRegex {}))).choices = words.length - 1 := by
  induction words with
  | nil => rfl
  | cons word words ih =>
    cases words with
    | nil => exact choices_wordRegex word
    | cons next words =>
      have hadd : (choice ((word :: next :: words).map (wordRegex {}))).choices =
          1 + (wordRegex {} word).choices +
            (choice ((next :: words).map (wordRegex {}))).choices := rfl
      rw [hadd, ih, choices_wordRegex]
      simp only [List.length_cons]
      omega

section Finds

variable {k : Rest α} {caps : Captures} {behind : List Char → Option α} {good : Visited → Prop}
  {d : Nat}

theorem finds_word (hbehind : ∀ word, word <+: p.after →
      Finds good d (k (p.advance word.length) caps) (behind word)) (word : List Char) (id : Nat) :
    Finds good d ((wordRegex {} word).run id k p caps)
      (if word <+: p.after then behind word else none) := by
  intro v hv
  rw [run_wordRegex]
  by_cases hfits : word <+: p.after
  · rw [if_pos hfits, if_pos hfits]
    exact hbehind word hfits v hv
  · rw [if_neg hfits, if_neg hfits]
    refine ⟨rfl, fun w hw => ?_⟩
    cases hw
    exact ⟨hv, fun x hx => .inl hx⟩

/-- A choice between words. The induction is on the words that are left; the failures of those in
front of them leave the choices alone that are still to come. -/
theorem toOption_run_words (hbehind : ∀ word, word <+: p.after →
      Finds good d (k (p.advance word.length) caps) (behind word))
    (hgood : ∀ v id position, id < d → good v → good (v.insert (id, position)))
    {words : List (List Char)} (hne : words ≠ []) {id : Nat} (hid : id + words.length ≤ d + 1)
    {v : Visited} (hv : good v) (hfresh : ∀ i, id ≤ i → i < d → (i, p.position) ∉ v) :
    ((choice (words.map (wordRegex {}))).run id k p caps v).toOption =
      firstFitting words p behind := by
  induction words generalizing id v with
  | nil => exact absurd rfl hne
  | cons word words ih =>
    cases words with
    | nil =>
      rw [firstFitting_cons, List.map_singleton, choice, (finds_word hbehind word id v hv).1]
      exact Option.or_none.symm
    | cons next words =>
      simp only [List.length_cons] at hid
      have hlast : id < d := by omega
      have hnew : (id, p.position) ∉ v := hfresh id (Nat.le_refl _) hlast
      obtain ⟨hfound, hfailed⟩ := finds_word hbehind word (id + 1) _ (hgood v id p.position hlast hv)
      have hrun : (choice ((word :: next :: words).map (wordRegex {}))).run id k p caps v =
          Regex.meet id p ((wordRegex {} word).run (id + 1) k p caps)
            ((choice ((next :: words).map (wordRegex {}))).run
              (id + 1 + (wordRegex {} word).choices) k p caps) v := rfl
      rw [hrun, firstFitting_cons, ← hfound, choices_wordRegex]
      cases hfirst : (wordRegex {} word).run (id + 1) k p caps (v.insert (id, p.position)) with
      | ok a =>
        rw [Regex.meet_of_ok hnew hfirst]
        rfl
      | error w =>
        rw [Regex.meet_of_error hnew hfirst]
        obtain ⟨hw, hmet⟩ := hfailed w hfirst
        refine ih (List.cons_ne_nil _ _) (by simp only [List.length_cons]; omega) hw ?_
        intro i hi hless hmem
        rcases hmet _ hmem with hmem | hbig
        · rcases Std.HashSet.mem_insert.1 hmem with hsame | hold
          · have hid : id = i := congrArg Prod.fst (eq_of_beq hsame)
            omega
          · exact hfresh i (Nat.le_of_succ_le hi) hless hold
        · exact absurd hbig (Nat.not_le.2 hless)

end Finds

end Choice

/-- What a match of a choice between words takes: the first word that fits and behind which the rest
is found, with the captures that the rest has there by itself. -/
theorem matchAt?_words {words : List (List Char)} (hne : words ≠ []) (rest : Regex) (p : Cursor) :
    (Regex.seq (choice (words.map (wordRegex {}))) rest).matchAt? p =
      firstFitting words p fun word =>
        (rest.matchAt? (p.advance word.length)).map (withFront p.position word) := by
  obtain ⟨S, entry, hwalk⟩ := Regex.exists_walk (α := Captures) rest p
  have hchoices := choices_words words
  generalize hd : (choice (words.map (wordRegex {}))).choices = d at hchoices
  have hbehind : ∀ word, word <+: p.after → Finds (fun v => Closed p S (met d v)) d
      (rest.run d (matched p) (p.advance word.length) [])
      ((rest.matchAt? (p.advance word.length)).map (withFront p.position word)) := by
    intro word hfits
    have hsearch : Walk p S (fun a b => a = withFront p.position word b) d 0 ∅
        (entry (p.advance word.length)) (rest.run d (matched p) (p.advance word.length) [])
        (rest.run 0 (matched (p.advance word.length)) (p.advance word.length) []) := by
      refine hwalk (Cursor.reaches_advance p word.length) (fun q caps hq => ?_) []
      refine ⟨_, _, ?_, rfl, rfl⟩
      rw [withFront, Regex.captureTo_of_prefix hfits hq]
    rw [Regex.matchAt?_eq_toOption]
    exact hsearch.finds
  rw [Regex.matchAt?_eq_toOption, Regex.run, hd, Nat.zero_add]
  refine toOption_run_words hbehind ?_ hne (by omega) ?_ ?_
  · intro v id position hid hv
    rwa [Regex.met_insert_of_lt hid]
  · intro id q _ hmem
    simp [met] at hmem
  · simp

variable {items : List String}

/-- A group without a number. -/
def plainGroup (inner : List Char) : List Char := '(' :: '?' :: ':' :: (inner ++ [')'])

theorem wordRegex_of_regarded {flags : Flags} (h : flags.ignoreCase = false) :
    wordRegex flags = wordRegex {} := by
  funext word
  simp [wordRegex, Regex.Reader.foldFor, h]

theorem regex_wordsLevel (hne : items ≠ []) {flags : Flags} (h : flags.ignoreCase = false) :
    (wordsLevel flags .new (items.map String.toList)).close.regex = wordsRegex items := by
  have hwords : items.map String.toList ≠ [] := by simpa using hne
  have hclose := Regex.Reader.regex_close_wordsLevel flags [] hwords
  rwa [wordRegex_of_regarded h] at hclose

theorem height_wordsLevel_le (flags : Flags) (items : List String) :
    (wordsLevel flags .new (items.map String.toList)).close.height ≤ 2 :=
  Regex.Reader.height_close_wordsLevel_le flags (List.forall_mem_nil _) _

theorem ofAnySize?_alternation (hne : items ≠ []) :
    Regex.ofAnySize? (alternation items) = some (wordsRegex items) := by
  have hread := Regex.Reader.read?_words (s := .start) rfl (items.map String.toList) []
  rw [List.append_nil, Regex.Reader.read?_nil] at hread
  rw [Regex.ofAnySize?, alternation_eq, hread, Option.bind_some,
    Regex.Reader.State.finish?_eq_some_iff]
  exact ⟨rfl, (height_wordsLevel_le _ items).trans (by decide), regex_wordsLevel hne rfl⟩

theorem read?_plainGroup_alternation (hne : items ≠ []) {s : State}
    (hblank : s.flags.ignoreBlank = false) (hcase : s.flags.ignoreCase = false) :
    ∃ height ≤ 3, ∀ text, read? s (plainGroup (alternation items) ++ text) =
      read? (s.push ⟨wordsRegex items, height, true⟩) text := by
  refine ⟨_, Nat.succ_le_succ (height_wordsLevel_le s.flags items), fun text => ?_⟩
  have htext : plainGroup (alternation items) ++ text =
      '(' :: '?' :: ':' :: (['|'].intercalate ((items.map String.toList).map Regex.escape) ++
        ')' :: text) := by
    simp [plainGroup, alternation_eq]
  rw [htext, Regex.Reader.read?_plainGroup,
    Regex.Reader.read?_words (s := s.enter none s.flags) hblank, ← regex_wordsLevel hne hcase]
  exact Regex.Reader.read?_closePlain rfl text

/-- The alternation between the marks for the beginning and the end of the text. -/
def wholeWords (items : List String) : Regex :=
  Regex.sequence [.look .start, wordsRegex items, .look .stop]

theorem ofAnySize?_wholePattern (hne : items ≠ []) :
    Regex.ofAnySize? (DateLayout.wholePattern true (plainGroup (alternation items))) =
      some (wholeWords items) := by
  obtain ⟨height, hheight, hread⟩ := read?_plainGroup_alternation hne
    (s := State.start.push ⟨.look .start, 0, true⟩) rfl rfl
  let parts : List Item :=
    [⟨.look .start, 0, true⟩, ⟨wordsRegex items, height, true⟩, ⟨.look .stop, 0, true⟩]
  have hparts : ∀ item ∈ parts, item.height ≤ 3 := by
    simp [parts, hheight]
  rw [Regex.ofAnySize?, DateLayout.wholePattern, if_pos rfl, List.nil_append,
    DateLayout.read?_start rfl, hread, DateLayout.read?_stop rfl, Regex.Reader.read?_nil,
    Option.bind_some, Regex.Reader.State.finish?_eq_some_iff]
  exact ⟨rfl, (Regex.Reader.Level.height_close_pushAll_le hparts).trans (by decide),
    Regex.Reader.Level.regex_close_pushAll parts⟩

theorem isMatch_wholeWords (hne : items ≠ []) (text : List Char) :
    (wholeWords items).isMatch text ↔ ∃ item ∈ items, item.toList = text := by
  have hwhole : wholeWords items =
      .seq (.look .start) (.seq (wordsRegex items) (.look .stop)) := rfl
  have hne' : items.map String.toList ≠ [] := by simpa using hne
  have hwords := matchAt?_words hne' (.look .stop) (.atStart text)
  rw [hwhole, Regex.isMatch_start, wordsRegex, hwords, isSome_firstFitting_iff]
  simp only [Option.isSome_map, Regex.isSome_matchAt?_stop, Cursor.after_advance]
  constructor
  · rintro ⟨word, hword, ⟨back, rfl⟩, hend⟩
    obtain ⟨item, hitem, rfl⟩ := List.mem_map.1 hword
    refine ⟨item, hitem, ?_⟩
    rw [Cursor.atStart, List.drop_left] at hend
    rw [hend, List.append_nil]
  · rintro ⟨item, hitem, rfl⟩
    exact ⟨_, List.mem_map_of_mem hitem, List.prefix_rfl, List.drop_length⟩

/-- The alternation of a list of texts, whatever these are, is a pattern without groups, and the same
pattern inside another one that does not ignore blanks and case. It matches the listed texts and no
others. With a pattern behind it, it takes the first text of the list that fits and behind which that
pattern is found. -/
theorem alternation_prefers_first [Regex.SizeLimit] (hne : items ≠ []) :
    (∀ l, alternationOf items l = .ok (alternation items)) ∧
    ∃ regex, Regex.ofAnySize? (alternation items) = some regex ∧
      Regex.ofText? (alternation items) =
        (if Regex.SizeLimit.admits regex = true then some regex else none) ∧
      regex.groups = [] ∧
      (∀ s : State, s.flags.ignoreBlank = false → s.flags.ignoreCase = false →
        ∃ height ≤ 3, ∀ text, read? s (plainGroup (alternation items) ++ text) =
          read? (s.push ⟨regex, height, true⟩) text) ∧
      (∃ whole, Regex.ofAnySize? (DateLayout.wholePattern true (plainGroup (alternation items))) =
          some whole ∧
        ∀ text, whole.isMatch text ↔ ∃ item ∈ items, item.toList = text) ∧
      ∀ rest p, (Regex.seq regex rest).matchAt? p =
        firstFitting (items.map String.toList) p fun item =>
          (rest.matchAt? (p.advance item.length)).map (withFront p.position item) := by
  refine ⟨alternationOf_eq_ok hne, wordsRegex items, ofAnySize?_alternation hne, ?_, ?_, ?_, ?_, ?_⟩
  · rw [Regex.ofText?, ofAnySize?_alternation hne, Option.filter_some]
  · exact Regex.Reader.groups_choice_words {} _
  · exact fun s hblank hcase => read?_plainGroup_alternation hne hblank hcase
  · exact ⟨wholeWords items, ofAnySize?_wholePattern hne, isMatch_wholeWords hne⟩
  · exact matchAt?_words (by simpa using hne)

/-- A text with a bar of its own behind the one that it begins with, and the empty text. -/
theorem alternation_prefers_first_of_bar :
    ["a", "a|b", ""] ≠ [] ∧
    ∃ regex, Regex.ofAnySize? (alternation ["a", "a|b", ""]) = some regex ∧
      (Regex.seq regex .empty).matchAt? (.atStart "a|b".toList) =
        some [(0, ⟨0, "a".toList⟩)] ∧
      (Regex.seq regex (.look .stop)).matchAt? (.atStart "a|b".toList) =
        some [(0, ⟨0, "a|b".toList⟩)] ∧
      (Regex.seq regex (.set (.singleton 'b'))).matchAt? (.atStart "b".toList) =
        some [(0, ⟨0, "b".toList⟩)] := by
  have hne : ["a", "a|b", ""] ≠ [] := List.cons_ne_nil _ _
  obtain ⟨-, regex, hread, -, -, -, -, hprefers⟩ := alternation_prefers_first hne
  exact ⟨hne, regex, hread, (hprefers _ _).trans (by decide +kernel),
    (hprefers _ _).trans (by decide +kernel), (hprefers _ _).trans (by decide +kernel)⟩

end CommentStyle

end Lapse
