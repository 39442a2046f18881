import Lapse.Proofs.CommentStyle.Frame
import Lapse.Proofs.Matcher
import Lapse.Proofs.Regex.Captures
import Lapse.Regex.Size

/-!
# Openers of notes

Whatever the template, what the group of openers matches is one of the openers. A note's text
begins with it when the template is a sequence, since the template then stands behind the openers
as a whole.
-/
namespace Lapse.CommentStyle

open Regex (Capture Captures Cursor EveryGroup Way ofText?)
open Regex.Reader (State Item Level Opening read? wordRegex wordsLevel)

/-- A text is the opener or, when case is ignored, agrees with it character by character. -/
def Spells (caseSensitive : Bool) (opener text : List Char) : Prop :=
  if caseSensitive then text = opener
  else List.Forall₂ (fun c x => c ∈ Text.CaseFold.classOf x) opener text

/-- A note has one of the openers, and what is matched begins with it. -/
structure Opens (style : CommentStyle) (matched : Capture) (note : Note) : Prop where
  spells : ∃ opener ∈ style.openers, Spells style.caseSensitive opener.toList note.opener.toList
  begins : note.opener.toList <+: matched.text

/-- A pattern on its own, without alternatives outside its groups. -/
def IsSequence (text : List Char) : Prop :=
  ∃ s, read? .start text = some s ∧ s.outer = [] ∧ s.level.done = []

instance (text : List Char) : Decidable (IsSequence text) :=
  decidable_of_iff ((read? .start text).any fun s => s.outer.isEmpty && s.level.done.isEmpty) <| by
    simp [IsSequence, Option.any_eq_true]

/-- What the group of the openers holds. -/
def openersRegex (caseSensitive : Bool) (openers : List String) : Regex :=
  (openersLevel caseSensitive openers).close.regex

theorem openersRegex_eq (caseSensitive : Bool) {openers : List String} (h : openers ≠ []) :
    openersRegex caseSensitive openers =
      Regex.choice ((openers.map String.toList).map (wordRegex (frameFlags caseSensitive))) :=
  Regex.Reader.regex_close_wordsLevel _ [] (mt List.map_eq_nil_iff.1 h)

theorem mem_foldFor_singleton (caseSensitive : Bool) (c x : Char) :
    (Regex.Reader.foldFor (frameFlags caseSensitive) (.singleton c)).mem x = true ↔
      if caseSensitive then x = c else c ∈ Text.CaseFold.classOf x := by
  cases caseSensitive with
  | true => simp [Regex.Reader.foldFor, frameFlags]
  | false => simp [Regex.Reader.foldFor, frameFlags, Regex.CharSet.mem]

theorem spells_of_mem_ways {caseSensitive : Bool} {openers : List String} (h : openers ≠ [])
    {p : Cursor} {w : Way} (hw : w ∈ (openersRegex caseSensitive openers).ways p) :
    ∃ opener ∈ openers, Spells caseSensitive opener.toList (p.captureTo w.1).text := by
  rw [openersRegex_eq caseSensitive h] at hw
  obtain ⟨r, hr, hw⟩ := Regex.mem_ways_choice hw
  rw [List.map_map, List.mem_map] at hr
  obtain ⟨opener, hopener, rfl⟩ := hr
  refine ⟨opener, hopener, ?_⟩
  have hsets : wordRegex (frameFlags caseSensitive) opener.toList = Regex.sequence
      ((opener.toList.map fun c =>
        Regex.Reader.foldFor (frameFlags caseSensitive) (.singleton c)).map .set) := by
    rw [wordRegex, List.map_map]
    rfl
  rw [Function.comp_apply, hsets] at hw
  have hmatch := List.forall₂_map_left_iff.1 (Regex.forall₂_mem_of_mem_ways hw)
  have hmatch := hmatch.imp fun c x => (mem_foldFor_singleton caseSensitive c x).1
  rw [Spells]
  cases caseSensitive with
  | false => exact hmatch
  | true =>
    have heq : List.Forall₂ Eq opener.toList (p.captureTo w.1).text :=
      hmatch.imp fun c x e => e.symm
    rw [List.forall₂_eq_eq_eq] at heq
    exact heq.symm

/-- The openers' group is the only one with its number or its name. -/
def IsOpeners (openers : Regex) (index : Nat) (name : Option String) (a : Regex) : Prop :=
  index = 2 ∨ name = some "comment" → index = 2 ∧ a = openers

theorem everyGroup_openersState (caseSensitive : Bool) {openers : List String}
    (h : openers ≠ []) :
    (openersState caseSensitive openers).EveryGroup
      (IsOpeners (openersRegex caseSensitive openers)) 2 ["comment"] := by
  have hgroups : (openersRegex caseSensitive openers).groups = [] := by
    rw [openersRegex_eq caseSensitive h]
    exact Regex.Reader.groups_choice_words _ _
  refine ⟨⟨List.forall_mem_nil _, fun item hitem => ?_⟩, fun parent hparent => ?_,
    Nat.le_refl _, by simp [openersState]⟩
  · rw [List.mem_singleton.1 hitem]
    exact ⟨fun _ => ⟨rfl, rfl⟩, Regex.everyGroup_of_groups_eq_nil hgroups⟩
  · rw [List.mem_singleton.1 hparent]
    refine ⟨⟨?_, ?_⟩, ?_⟩
    · cases caseSensitive <;> simp [frameParent, frameLevel, Level.new, Level.push]
    · cases caseSensitive <;>
        simp [frameParent, frameLevel, Level.new, Level.push, EveryGroup]
    · rintro capture e a h
      cases e
      simp at h

theorem everyGroup_of_frame [Regex.SizeLimit] {caseSensitive : Bool} {openers : List String}
    (h : openers ≠ []) {filled : List Char} {regex : Regex}
    (hframe : ofText? (frame caseSensitive (alternation openers) filled) = some regex) :
    regex.EveryGroup (IsOpeners (openersRegex caseSensitive openers)) := by
  obtain ⟨t, hread, -, -, rfl⟩ := Regex.Reader.exists_read?_of_ofText? hframe
  rw [read?_frame] at hread
  have hpreserved := @Regex.Reader.preserved_everyGroup
    (IsOpeners (openersRegex caseSensitive openers)) 2 ["comment"] <| by
      rintro index name a hindex hname (rfl | rfl)
      · exact (Nat.lt_irrefl _ hindex).elim
      · exact (hname _ rfl List.mem_cons_self).elim
  exact (hpreserved.read? (everyGroup_openersState caseSensitive h) hread).level.close

theorem eq_two_of_groupIndex? {regex openers : Regex} (h : regex.EveryGroup (IsOpeners openers))
    {index : Nat} (hindex : regex.groupIndex? "comment" = some index) : index = 2 := by
  obtain ⟨g, hfind, rfl⟩ := Option.map_eq_some_iff.1 hindex
  have hname : g.2 = some "comment" := by simpa using List.find?_some hfind
  obtain ⟨a, ha⟩ := Regex.exists_of_mem_groups h (List.mem_of_find?_eq_some hfind)
  exact (ha (.inr hname)).1

theorem spells_of_mem_captures {caseSensitive : Bool} {openers : List String} (h : openers ≠ [])
    {regex : Regex} (hregex : regex.EveryGroup (IsOpeners (openersRegex caseSensitive openers)))
    {line : List Char} {caps : Captures} (hsearch : regex.search? line = some caps)
    {capture : Capture} (hlookup : caps.lookup 2 = some capture) :
    ∃ opener ∈ openers, Spells caseSensitive opener.toList capture.text := by
  obtain ⟨p, -, hmatch⟩ := Regex.exists_matchAt?_of_search? hsearch
  obtain ⟨w, hw, rfl⟩ := Regex.exists_way_of_matchAt? hmatch
  have hmem : (2, capture) ∈ w.2 := by
    obtain ⟨front, back, hsplit, -⟩ := List.lookup_eq_some_iff.1 hlookup
    have hmem : (2, capture) ∈ (0, p.captureTo w.1) :: w.2 := by
      rw [hsplit]
      exact List.mem_append_right _ List.mem_cons_self
    rcases List.mem_cons.1 hmem with e | hmem
    · cases e
    · exact hmem
  obtain ⟨name, a, q, ha, -, v, hv, hcapture⟩ := Regex.capturesAll_ways hregex p w hw _ hmem
  obtain ⟨-, rfl⟩ := ha (.inl rfl)
  obtain rfl : capture = q.captureTo v.1 := hcapture
  exact spells_of_mem_ways h hv

theorem spells_nil_iff (caseSensitive : Bool) (opener : String) :
    Spells caseSensitive opener.toList [] ↔ opener = "" := by
  have hempty : Spells caseSensitive opener.toList [] ↔ opener.toList = [] := by
    cases caseSensitive with
    | true => exact eq_comm
    | false => exact List.forall₂_nil_right_iff
  rw [hempty, ← String.toList_inj]
  rfl

/-- The opener of a note is one of the style's unless the openers' group took no part in the
match. -/
theorem opens_iff [Regex.SizeLimit] {style : CommentStyle} {m : Matcher}
    (hcompile : style.compile = .ok m) {number : Nat} {line : List Char} {matched : Capture}
    {note : Note} (hread : m.readLine number line = .found matched note) :
    ∃ caps, m.regex.search? line = some caps ∧
      (style.Opens matched note ↔
        match caps.lookup m.roles.opener with
        | some opener => opener.text <+: matched.text
        | none => "" ∈ style.openers) := by
  obtain ⟨hlayout, hframe, tagFirst, -, hroles⟩ := exists_of_compile hcompile
  have hopeners := (layout?_eq_ok_iff.1 hlayout).1
  have hregex := everyGroup_of_frame hopeners hframe
  have hindex := eq_two_of_groupIndex? hregex (groupIndex?_of_rolesOf? hroles).2.1
  obtain ⟨caps, expiry, hsearch, rfl, rfl⟩ := Matcher.exists_captures_of_readLine hread
  have hopener : (m.noteOf number line caps expiry).opener.toList =
      (Matcher.captured caps 2).text := by
    rw [Matcher.noteOf, String.toList_ofList, hindex]
  refine ⟨caps, hsearch, ?_⟩
  rw [hindex]
  cases hlookup : caps.lookup 2 with
  | some capture =>
    have hspells := spells_of_mem_captures hopeners hregex hsearch hlookup
    have hcaptured : (Matcher.captured caps 2).text = capture.text := by
      rw [Matcher.captured, hlookup]
      rfl
    rw [hcaptured] at hopener
    simp only
    constructor
    · intro h
      rw [← hopener]
      exact h.begins
    · intro h
      exact ⟨by rwa [hopener], by rwa [hopener]⟩
  | none =>
    have hcaptured : (Matcher.captured caps 2).text = [] := by
      rw [Matcher.captured, hlookup]
      rfl
    rw [hcaptured] at hopener
    constructor
    · intro h
      obtain ⟨opener, hmem, hspells⟩ := h.spells
      rw [hopener, spells_nil_iff] at hspells
      exact hspells ▸ hmem
    · intro hmem
      refine ⟨⟨"", hmem, ?_⟩, ?_⟩
      · rw [hopener, spells_nil_iff]
      · rw [hopener]
        exact List.nil_prefix

/-- What the whole pattern is when the outermost group is ended by the frame and holds `inner`. -/
def framedRegex (caseSensitive : Bool) (inner : Regex) : Regex :=
  Regex.sequence ((if caseSensitive then [] else [.empty]) ++
    [.group 1 (some "annotation") inner, .look .stop])

theorem regex_close_closedLevel (caseSensitive : Bool) (inner : Level) :
    (closedLevel (frameLevel caseSensitive) (frameParent caseSensitive).2 inner).close.regex =
      framedRegex caseSensitive inner.close.regex := by
  cases caseSensitive <;> rfl

theorem head?_ne_of_isSequence {text : List Char} (h : IsSequence text) :
    text.head? ≠ some '?' := by
  intro hhead
  obtain ⟨rest, rfl⟩ := List.head?_eq_some_iff.1 hhead
  obtain ⟨s, hread, -⟩ := h
  have hstuck : Regex.Reader.stuck? .start ('?' :: rest) = none :=
    (Regex.Reader.stuck?_eq_none_iff _ _).2 (by rw [hread]; rfl)
  rw [Regex.Reader.stuck?_of_step_eq_none rfl rfl] at hstuck
  cases hstuck

/-- The group that the frame ends begins with the items in front of the template. -/
theorem exists_regex_close_closingLevel {caseSensitive : Bool} {openers : List String}
    {level : Level} {u : State}
    (h : level.Within Item.Le (frontItems caseSensitive openers) u.level) (hdone : level.done = [])
    (set : Regex.CharSet) :
    ∃ rest, (closingLevel u set).close.regex =
      Regex.sequence (.group 2 (some "comment") (openersRegex caseSensitive openers) :: rest) := by
  obtain ⟨items, -, hitems⟩ := h.items
  rw [if_pos hdone] at hitems
  have hnone : u.level.done = [] := by
    have hforall := h.done
    rw [hdone] at hforall
    exact List.forall₂_nil_left_iff.1 hforall
  have hlevel : closingLevel u set =
      ⟨[], contentItem u set :: blankItem u.flags ::
        (items ++ frontItems caseSensitive openers)⟩ := by
    simp [closingLevel, Level.pushAll, hnone, hitems]
  refine ⟨(blankItem (frameFlags caseSensitive)).regex ::
    (contentItem u set :: blankItem u.flags :: items).reverse.map (·.regex), ?_⟩
  rw [hlevel, Level.regex_close, List.reverse_singleton, List.map_singleton, Level.regex_current,
    Regex.choice]
  simp only [frontItems, List.reverse_cons, List.reverse_append, List.reverse_nil, List.nil_append,
    List.cons_append, List.map_cons]
  rfl

/-- In front of a template that is a sequence stand the openers and blanks, and nothing else. -/
theorem exists_eq_framedRegex [Regex.SizeLimit] {caseSensitive : Bool} {openers : List String}
    {filled : List Char} {regex : Regex} (hsequence : IsSequence filled)
    (hframe : ofText? (frame caseSensitive (alternation openers) filled) = some regex) :
    ∃ rest, regex = framedRegex caseSensitive
      (Regex.sequence
        (.group 2 (some "comment") (openersRegex caseSensitive openers) :: rest)) := by
  have hhead := head?_ne_of_isSequence hsequence
  obtain ⟨s, hs, houter, hdone⟩ := hsequence
  obtain ⟨t, hread, hclosed, -, rfl⟩ := Regex.Reader.exists_read?_of_ofText? hframe
  rw [read?_frame_of_head hhead] at hread
  rcases Regex.Reader.exists_of_read?_append isTail_noteEnd
    (within_templateState caseSensitive openers) hread hclosed with
    ⟨s', u, hs', hu, hend⟩ | ⟨s', rest, hstuck, -⟩
  · rw [hs] at hs'
    cases hs'
    obtain ⟨set, level, opening, outer, hparent, rfl⟩ := exists_of_read?_noteEnd hend
    have hnested := hu.nested
    rw [houter] at hnested
    obtain ⟨e, hlevel⟩ := hnested.of_nil
    rw [hparent] at e
    cases e
    obtain ⟨rest, hinner⟩ := exists_regex_close_closingLevel hlevel hdone set
    exact ⟨rest, (regex_close_closedLevel caseSensitive (closingLevel u set)).trans
      (congrArg _ hinner)⟩
  · rw [(Regex.Reader.stuck?_eq_none_iff _ _).2 (by rw [hs]; rfl)] at hstuck
    cases hstuck

theorem exists_of_mem_ways_framedRegex {caseSensitive : Bool} {inner : Regex} {p : Cursor}
    {w : Way} (h : w ∈ (framedRegex caseSensitive inner).ways p) :
    ∃ v ∈ inner.ways p, w = (v.1, (1, p.captureTo v.1) :: v.2) := by
  have hgroup {w : Way} (h : w ∈ (Regex.sequence
      [.group 1 (some "annotation") inner, .look .stop]).ways p) :
      ∃ v ∈ inner.ways p, w = (v.1, (1, p.captureTo v.1) :: v.2) := by
    obtain ⟨v, hv, x, hx, rfl⟩ := Regex.exists_of_mem_ways_group h
    refine ⟨v, hv, ?_⟩
    rw [Regex.sequence, Regex.ways] at hx
    split at hx
    · rw [List.mem_singleton.1 hx]
      rfl
    · cases hx
  cases caseSensitive with
  | true => exact hgroup h
  | false =>
    have h : w ∈ (Regex.sequence
        (.empty :: [.group 1 (some "annotation") inner, .look .stop])).ways p := h
    rw [Regex.ways_sequence_cons] at h
    obtain ⟨u, hu, x, hx, rfl⟩ := Regex.mem_andThen.1 h
    obtain rfl := List.mem_singleton.1 hu
    obtain ⟨v, hv, rfl⟩ := hgroup hx
    exact ⟨v, hv, by simp⟩

/-- The numbers of the groups of a pattern ascend from left to right. -/
theorem sorted_groups_of_ofText? [Regex.SizeLimit] {text : List Char} {regex : Regex}
    (h : ofText? text = some regex) : regex.groups.Pairwise fun g g' => g.1 < g'.1 := by
  obtain ⟨t, hread, hclosed, -, rfl⟩ := Regex.Reader.exists_read?_of_ofText? h
  have horder : t.InOrder :=
    Regex.Reader.preserved_inOrder.read? Regex.Reader.State.inOrder_start hread
  have horder := horder.sorted
  rw [State.groups, hclosed] at horder
  rwa [Level.groups_close]

theorem groups_framedRegex (caseSensitive : Bool) (inner : Regex) :
    (framedRegex caseSensitive inner).groups = (1, some "annotation") :: inner.groups := by
  cases caseSensitive <;> simp [framedRegex, Regex.Reader.groups_sequence, Regex.groups]

theorem opens_of_isSequence [Regex.SizeLimit] {style : CommentStyle} {m : Matcher}
    (hcompile : style.compile = .ok m) (hsequence : IsSequence (style.filled m.layout))
    {number : Nat} {line : List Char} {matched : Capture} {note : Note}
    (hread : m.readLine number line = .found matched note) : style.Opens matched note := by
  obtain ⟨hlayout, hframe, tagFirst, -, hroles⟩ := exists_of_compile hcompile
  have hopeners := (layout?_eq_ok_iff.1 hlayout).1
  have hsorted := sorted_groups_of_ofText? hframe
  obtain ⟨rest, hregex⟩ := exists_eq_framedRegex hsequence hframe
  have hindex := eq_two_of_groupIndex? (everyGroup_of_frame hopeners hframe)
    (groupIndex?_of_rolesOf? hroles).2.1
  have hwhole : m.roles.whole = 1 := by
    have hwhole := (groupIndex?_of_rolesOf? hroles).1
    rw [hregex, Regex.groupIndex?, groups_framedRegex] at hwhole
    exact (Option.some.inj hwhole).symm
  obtain ⟨caps, hsearch, hopens⟩ := opens_iff hcompile hread
  obtain ⟨caps', expiry, hsearch', rfl, -⟩ := Matcher.exists_captures_of_readLine hread
  rw [hsearch] at hsearch'
  cases hsearch'
  obtain ⟨p, -, hmatch⟩ := Regex.exists_matchAt?_of_search? hsearch
  obtain ⟨w, hw, rfl⟩ := Regex.exists_way_of_matchAt? hmatch
  rw [hregex] at hw
  obtain ⟨v, hv, rfl⟩ := exists_of_mem_ways_framedRegex hw
  obtain ⟨u, hu, x, hx, rfl⟩ := Regex.exists_of_mem_ways_group hv
  -- Groups are numbered from left to right, so no capture behind the openers has their number.
  rw [hregex, groups_framedRegex] at hsorted
  have hlookup := Regex.lookup_of_sorted (List.pairwise_cons.1 hsorted).2 hx (p.captureTo u.1) u.2
  have hskip : List.lookup 2 ((0, p.captureTo x.1) :: (1, p.captureTo x.1) ::
      (x.2 ++ (2, p.captureTo u.1) :: u.2)) = some (p.captureTo u.1) := by
    rw [List.lookup_cons, List.lookup_cons]
    exact hlookup
  rw [hopens, hindex, hskip, hwhole]
  exact Regex.text_captureTo_prefix p (Regex.forward_ways _ _ x hx)

/-- A note's opener is one of the style's and begins what is matched exactly when the openers' group
took part in the match in front of the rest. So it is when the template is a sequence. -/
theorem opens_of_compile [Regex.SizeLimit] {style : CommentStyle} {m : Matcher}
    (hcompile : style.compile = .ok m) : (∀ number line note, m.matchLine? number line = some note →
      ∃ matched caps, m.readLine number line = .found matched note ∧
        m.regex.search? line = some caps ∧
        (style.Opens matched note ↔
          match caps.lookup m.roles.opener with
          | some opener => opener.text <+: matched.text
          | none => "" ∈ style.openers)) ∧
    (IsSequence (style.filled m.layout) → ∀ number line note,
      m.matchLine? number line = some note →
        ∃ matched, m.readLine number line = .found matched note ∧ style.Opens matched note) := by
  refine ⟨fun number line note hnote => ?_, fun hsequence number line note hnote => ?_⟩
  · obtain ⟨matched, hread⟩ := Matcher.exists_found_of_matchLine? hnote
    obtain ⟨caps, hsearch, hopens⟩ := opens_iff hcompile hread
    exact ⟨matched, caps, hread, hsearch, hopens⟩
  · obtain ⟨matched, hread⟩ := Matcher.exists_found_of_matchLine? hnote
    exact ⟨matched, hread, opens_of_isSequence hcompile hsequence hread⟩

/-- A style whose template has alternatives inside a group. -/
def groupedStyle : CommentStyle :=
  ⟨["//", "#"], ["TODO"], "(?:@|\\[\x7bdate\x7d\\])?\x7btag\x7d", "YYYY-MM-DD", true⟩

/-- What a plain pattern finds at the start of a line is the first way from there. -/
theorem exists_found_of_ways {m : Matcher} {line : List Char} {f : Captures → Bool} (number : Nat)
    (hplain : m.regex.isPlain = true)
    (hways : (((m.regex.ways (Cursor.atStart line)).head?.map fun w =>
      (0, (Cursor.atStart line).captureTo w.1) :: w.2).any fun caps =>
        (Matcher.captured caps m.roles.expiry).text.isEmpty && f caps) = true) :
    ∃ caps, f caps = true ∧ m.readLine number line =
      .found (Matcher.captured caps m.roles.whole) (m.noteOf number line caps none) := by
  rw [← Regex.matchAt?_eq_head? hplain] at hways
  obtain ⟨caps, hcaps, hempty⟩ := (Option.any_eq_true _ _).1 hways
  obtain ⟨hexpiry, hf⟩ := Bool.and_eq_true_iff.1 hempty
  have hread := Matcher.readLine_of_search?_eq_some number (Regex.search?_of_matchAt? hcaps)
  rw [List.isEmpty_iff.1 hexpiry] at hread
  exact ⟨caps, hf, hread⟩

theorem opens_of_groupedStyle :
    ∃ m note matched, groupedStyle.compile = .ok m ∧
      m.matchLine? 1 "//TODO x".toList = some note ∧
      m.readLine 1 "//TODO x".toList = .found matched note ∧ groupedStyle.Opens matched note := by
  have hchecks : groupedStyle.compile.toOption.any fun m =>
      decide (IsSequence (groupedStyle.filled m.layout)) && (m.regex.isPlain &&
        ((m.regex.ways (Cursor.atStart "//TODO x".toList)).head?.map fun w =>
          (0, (Cursor.atStart "//TODO x".toList).captureTo w.1) :: w.2).any fun caps =>
            (Matcher.captured caps m.roles.expiry).text.isEmpty && true) := by
    decide +kernel
  cases hcompile : groupedStyle.compile with
  | error e =>
    rw [hcompile] at hchecks
    cases hchecks
  | ok m =>
    rw [hcompile] at hchecks
    obtain ⟨hsequence, hchecks⟩ := Bool.and_eq_true_iff.1 hchecks
    obtain ⟨hplain, hways⟩ := Bool.and_eq_true_iff.1 hchecks
    obtain ⟨caps, -, hread⟩ := exists_found_of_ways 1 hplain hways
    have hnote : m.matchLine? 1 "//TODO x".toList =
        some (m.noteOf 1 "//TODO x".toList caps none) := by
      rw [Matcher.matchLine?, hread]
      rfl
    obtain ⟨matched, hfound, hopens⟩ := (opens_of_compile hcompile).2
      (of_decide_eq_true hsequence) 1 _ _ hnote
    exact ⟨m, _, matched, rfl, hnote, hfound, hopens⟩

/-- A style whose template has alternatives outside its groups. -/
def alternativeStyle : CommentStyle :=
  ⟨["//"], ["TODO"], "\x7btag\x7d\x7bdate\x7d|foo", "YYYY-MM-DD", true⟩

/-- What the second alternative of a template matches stands behind no opener. -/
theorem not_forall_opens :
    ¬ ∀ (style : CommentStyle) (m : Matcher) (number : Nat) (line : List Char)
        (matched : Capture) (note : Note), style.compile = .ok m →
      m.readLine number line = .found matched note → style.Opens matched note := by
  intro h
  have hchecks : alternativeStyle.compile.toOption.any fun m => m.regex.isPlain &&
      ((m.regex.ways (Cursor.atStart "foo bar".toList)).head?.map fun w =>
        (0, (Cursor.atStart "foo bar".toList).captureTo w.1) :: w.2).any fun caps =>
          (Matcher.captured caps m.roles.expiry).text.isEmpty &&
            (Matcher.captured caps m.roles.opener).text.isEmpty := by
    decide +kernel
  cases hcompile : alternativeStyle.compile with
  | error e =>
    rw [hcompile] at hchecks
    cases hchecks
  | ok m =>
    rw [hcompile] at hchecks
    obtain ⟨hplain, hways⟩ := Bool.and_eq_true_iff.1 hchecks
    obtain ⟨caps, hopener, hread⟩ := exists_found_of_ways 1 hplain hways
    obtain ⟨opener, hmem, hspells⟩ := (h alternativeStyle m 1 _ _ _ hcompile hread).spells
    rw [Matcher.noteOf, String.toList_ofList, List.isEmpty_iff.1 hopener, spells_nil_iff] at hspells
    rw [hspells] at hmem
    exact absurd hmem (by decide)

end Lapse.CommentStyle
