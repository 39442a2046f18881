import Lapse.Proofs.CommentStyle.Frame
import Lapse.Proofs.CommentStyle.Placeholders
import Lapse.Proofs.Regex.Trace

/-!
# Places of a note pattern

Where the parentheses of a note pattern stand: in the template's own text, at the place of a
placeholder, or in what the style puts in. The text that is put in is escaped, so whatever the reader
makes of it, no named group begins there and no flag changes.
-/
namespace Lapse.CommentStyle

open Regex (isMeta)
open Regex.Reader (State Flags IsSolid Begins KeepsFlags NameFront step? skip skip_cons trace IsName)

/-- What follows a parenthesis that begins no named group and changes no flags. -/
def PlainFront (text : List Char) : Prop :=
  (∀ flags, (skip flags text).head? ≠ some '?') ∨ ∃ rest, text = '?' :: ':' :: rest

/-- All parentheses of `text` are like that when `rest` follows it. -/
def Plain (text rest : List Char) : Prop :=
  ∀ after, '(' :: after <:+ text → PlainFront (after ++ rest)

theorem suffix_append_cases {α : Type} {a : α} {after xs ys : List α}
    (h : a :: after <:+ xs ++ ys) :
    a :: after <:+ ys ∨ ∃ part, a :: part <:+ xs ∧ after = part ++ ys := by
  induction xs with
  | nil => exact .inl h
  | cons x xs ih =>
    rcases List.suffix_cons_iff.1 h with e | h
    · obtain ⟨rfl, rfl⟩ := List.cons.inj e
      exact .inr ⟨xs, List.suffix_refl _, rfl⟩
    · rcases ih h with h | ⟨part, hpart, rfl⟩
      · exact .inl h
      · exact .inr ⟨part, hpart.trans (List.suffix_cons _ _), rfl⟩

theorem plain_of_not_mem {text : List Char} (h : '(' ∉ text) (rest : List Char) :
    Plain text rest := fun _ hafter => (h (hafter.subset List.mem_cons_self)).elim

theorem plain_append {xs ys rest : List Char} (hxs : Plain xs (ys ++ rest)) (hys : Plain ys rest) :
    Plain (xs ++ ys) rest := by
  intro after hafter
  rcases suffix_append_cases hafter with hafter | ⟨part, hpart, rfl⟩
  · exact hys after hafter
  · rw [List.append_assoc]
    exact hxs part hpart

/-- Behind a character of an escaped text no gap leads to a question mark. -/
theorem head?_skip_of_escaped {c : Char} {text : List Char} (hc : c ≠ '\\')
    (hmark : Escaped '?' (c :: text)) (hsign : Escaped '#' (c :: text)) (flags : Flags)
    (rest : List Char) : (skip flags (text ++ ')' :: rest)).head? ≠ some '?' := by
  induction text generalizing c with
  | nil =>
    rw [List.nil_append, skip_cons (.inr (by decide))]
    simp
  | cons x text ih =>
    obtain ⟨hfirst, hmark⟩ := List.isChain_cons_cons.1 hmark
    obtain ⟨hfirst', hsign⟩ := List.isChain_cons_cons.1 hsign
    have hx : x ≠ '?' := fun e => hc (hfirst e)
    have hx' : x ≠ '#' := fun e => hc (hfirst' e)
    rw [List.cons_append]
    by_cases hgap : flags.ignoreBlank = true ∧ Text.isBlank x = true
    · have hslash : x ≠ '\\' := by
        rintro rfl
        exact absurd hgap.2 (by decide)
      have hdrop : skip flags (x :: (text ++ ')' :: rest)) = skip flags (text ++ ')' :: rest) := by
        rw [skip, skip, if_pos hgap.1, if_pos hgap.1, Regex.Reader.dropGap, if_pos hgap.2]
      rw [hdrop]
      exact ih hslash hmark hsign
    · have hsolid : IsSolid flags x := by
        by_cases hblank : flags.ignoreBlank = true
        · exact .inr ⟨by simpa using fun h => hgap ⟨hblank, h⟩, hx'⟩
        · exact .inl (by simpa using hblank)
      rw [skip_cons hsolid]
      simpa using hx

theorem plain_of_escaped {text : List Char} (hmark : Escaped '?' text) (hsign : Escaped '#' text)
    (rest : List Char) : Plain text (')' :: rest) := fun _ hafter =>
  .inl fun flags => head?_skip_of_escaped (by decide) (List.IsChain.suffix hmark hafter)
    (List.IsChain.suffix hsign hafter) flags rest

/-- A text that begins a group with its first parenthesis and no other one. -/
def IsFront (group : List Char) : Prop :=
  ∃ inner, group = '(' :: inner ∧ ∀ rest, Plain inner rest

theorem isFront_tagGroup (tags : List String) : IsFront (tagGroup (alternation tags)) := by
  have hinner : tagGroup (alternation tags) =
      '(' :: ("?P<tag>".toList ++ (alternation tags ++ [')'])) := by
    simp [tagGroup, namedGroup]
  refine ⟨_, hinner, fun rest => ?_⟩
  refine plain_append (plain_of_not_mem (by decide) _) (plain_append ?_ ?_)
  · exact plain_of_escaped (escaped_alternation rfl (by decide) (by decide) tags).1
      (escaped_alternation rfl (by decide) (by decide) tags).1 _
  · exact plain_of_not_mem (by decide) _

theorem escaped_pattern {mark : Char} (hmeta : isMeta mark) (hmark : mark ≠ '\\')
    (hdigit : mark ∉ DateLayout.digitPattern) (layout : DateLayout) :
    Escaped mark layout.pattern := by
  have hdigits {width : Nat} :
      mark ∉ (List.replicate width DateLayout.digitPattern).flatten := fun hmem => by
    obtain ⟨part, hpart, hmem⟩ := List.mem_flatten.1 hmem
    exact hdigit (List.eq_of_mem_replicate hpart ▸ hmem)
  refine (escaped_flatMap (fun piece => ?_) layout.pieces).1
  cases piece with
  | field kind width =>
    exact ⟨escaped_of_not_mem hdigits, fun h => hdigits (List.mem_of_mem_head? h)⟩
  | literal c =>
    rw [DateLayout.piecePattern]
    split
    · exact ⟨escaped_of_not_mem hdigit, fun h => hdigit (List.mem_of_mem_head? h)⟩
    · exact escaped_escapeChar hmeta hmark c

theorem isFront_expiryGroup (layout : DateLayout) : IsFront (expiryGroup layout) := by
  have hinner : expiryGroup layout =
      '(' :: ("?P<expiry>".toList ++ ('(' :: ("?:".toList ++ (layout.pattern ++ ")?)".toList)))) := by
    simp [expiryGroup, namedGroup]
  refine ⟨_, hinner, fun rest => plain_append (plain_of_not_mem (by decide) _) ?_⟩
  have hlast : Plain ("?:".toList ++ (layout.pattern ++ ")?)".toList)) rest := by
    refine plain_append (plain_of_not_mem (by decide) _) (plain_append ?_ ?_)
    · exact plain_of_escaped (escaped_pattern rfl (by decide) (by decide) layout)
        (escaped_pattern rfl (by decide) (by decide) layout) _
    · exact plain_of_not_mem (by decide) _
  intro after hafter
  rcases List.suffix_cons_iff.1 hafter with e | hafter
  · obtain rfl := (List.cons.inj e).2
    exact .inr ⟨layout.pattern ++ (")?)".toList ++ rest), by simp⟩
  · exact hlast after hafter

/-- What is left of a text from each of its characters on, when `rest` follows it. -/
def placesIn : (text rest : List Char) → List (List Char)
  | [], _ => []
  | c :: text, rest => (c :: text ++ rest) :: placesIn text rest

theorem mem_placesIn {c : Char} {part text : List Char} (h : c :: part <:+ text)
    (rest : List Char) : c :: (part ++ rest) ∈ placesIn text rest := by
  induction text with
  | nil => exact absurd (List.suffix_nil.1 h) (List.cons_ne_nil _ _)
  | cons x text ih =>
    rcases List.suffix_cons_iff.1 h with e | h
    · obtain ⟨rfl, rfl⟩ := List.cons.inj e
      exact List.mem_cons_self
    · exact List.mem_cons_of_mem _ (ih h)

theorem exists_of_mem_placesIn {text rest place : List Char} (h : place ∈ placesIn text rest) :
    ∃ c part, c :: part <:+ text ∧ place = c :: (part ++ rest) := by
  induction text with
  | nil => cases h
  | cons x text ih =>
    rcases List.mem_cons.1 h with rfl | h
    · exact ⟨x, text, List.suffix_refl _, rfl⟩
    · obtain ⟨c, part, hpart, e⟩ := ih h
      exact ⟨c, part, hpart.trans (List.suffix_cons _ _), e⟩

namespace TemplateParts

variable (parts : TemplateParts) (tag date rest : List Char)

/-- The filled template and `rest` behind it, from its second group on. -/
def fromSecond : List Char := (if parts.tagFirst then date else tag) ++ (parts.back ++ rest)

/-- The same from its first group on. -/
def fromFirst : List Char :=
  (if parts.tagFirst then tag else date) ++ (parts.between ++ parts.fromSecond tag date rest)

/-- The same from the group on that stands in the place of a placeholder. -/
def fromPlace : Placeholder → List Char
  | .tag => if parts.tagFirst then parts.fromFirst tag date rest else parts.fromSecond tag date rest
  | .date => if parts.tagFirst then parts.fromSecond tag date rest else parts.fromFirst tag date rest

/-- The same from each character on that is the template's own. -/
def ownPlaces : List (List Char) :=
  placesIn parts.front (parts.fromFirst tag date rest) ++
    (placesIn parts.between (parts.fromSecond tag date rest) ++ placesIn parts.back rest)

theorem fill_append :
    parts.fill tag date ++ rest = parts.front ++ parts.fromFirst tag date rest := by
  obtain ⟨front, between, back, tagFirst⟩ := parts
  cases tagFirst <;> simp [fill, fromFirst, fromSecond]

variable {tag date} in
/-- The rest of a filled template begins as the groups do. -/
theorem getElem?_zero_from {c : Char} (htag : tag[0]? = some c) (hdate : date[0]? = some c)
    (rest : List Char) :
    (parts.fromFirst tag date rest)[0]? = some c ∧
      (parts.fromSecond tag date rest)[0]? = some c := by
  have hgroup {group : List Char} (hgroup : group[0]? = some c) (more : List Char) :
      (group ++ more)[0]? = some c := by
    cases group with
    | nil => cases hgroup
    | cons => exact hgroup
  constructor
  · refine hgroup ?_ _
    split <;> assumption
  · refine hgroup ?_ _
    split <;> assumption

theorem exists_fromPlace_eq_fromFirst :
    ∃ p, parts.fromPlace tag date rest p = parts.fromFirst tag date rest := by
  by_cases h : parts.tagFirst
  · exact ⟨.tag, if_pos h⟩
  · exact ⟨.date, if_neg h⟩

theorem exists_fromPlace_eq_fromSecond :
    ∃ p, parts.fromPlace tag date rest p = parts.fromSecond tag date rest := by
  by_cases h : parts.tagFirst
  · exact ⟨.date, if_pos h⟩
  · exact ⟨.tag, if_neg h⟩

end TemplateParts

/-- A parenthesis in a group that is put in or behind it. -/
theorem suffix_front_cases {group rest after : List Char} (hgroup : IsFront group)
    (h : '(' :: after <:+ group ++ rest) :
    '(' :: after <:+ rest ∨ '(' :: after = group ++ rest ∨ PlainFront after := by
  obtain ⟨inner, rfl, hinner⟩ := hgroup
  rw [List.cons_append] at h ⊢
  rcases List.suffix_cons_iff.1 h with e | h
  · exact .inr (.inl e)
  · rcases suffix_append_cases h with h | ⟨part, hpart, rfl⟩
    · exact .inl h
    · exact .inr (.inr (hinner rest part hpart))

/-- From the group of the content on. -/
def contentPlace : List Char := namedGroup "content" ".+".toList ++ ['?', ')', '$']

theorem contentPlace_eq : contentPlace = '(' :: "?P<content>.+)?)$".toList := by
  simp [contentPlace, namedGroup]

theorem suffix_noteEnd {after : List Char} (h : '(' :: after <:+ noteEnd) :
    '(' :: after = contentPlace := by
  rw [noteEnd, ← contentPlace] at h
  rcases suffix_append_cases h with h | ⟨part, hpart, -⟩
  · rw [contentPlace_eq] at h ⊢
    rcases List.suffix_cons_iff.1 h with e | h
    · exact e
    · exact absurd (h.subset List.mem_cons_self) (by decide)
  · exact absurd (hpart.subset List.mem_cons_self) (by decide)

/-- Every parenthesis is the template's own, begins the group of a placeholder or of the content, or
is plain. -/
theorem place_cases {parts : TemplateParts} {tag date after : List Char} (htag : IsFront tag)
    (hdate : IsFront date) (h : '(' :: after <:+ blanks ++ (parts.fill tag date ++ noteEnd)) :
    '(' :: after ∈ parts.ownPlaces tag date noteEnd ∨
      (∃ p, '(' :: after = parts.fromPlace tag date noteEnd p) ∨
      '(' :: after = contentPlace ∨ PlainFront after := by
  have hfirst : IsFront (if parts.tagFirst then tag else date) := by split <;> assumption
  have hsecond : IsFront (if parts.tagFirst then date else tag) := by split <;> assumption
  rw [parts.fill_append] at h
  rcases suffix_append_cases h with h | ⟨part, hpart, -⟩
  case inr => exact absurd (hpart.subset List.mem_cons_self) (by decide)
  rcases suffix_append_cases h with h | ⟨part, hpart, rfl⟩
  case inr => exact .inl (List.mem_append_left _ (mem_placesIn hpart _))
  rcases suffix_front_cases hfirst h with h | e | hplain
  case inr.inl =>
    obtain ⟨p, hp⟩ := parts.exists_fromPlace_eq_fromFirst tag date noteEnd
    exact .inr (.inl ⟨p, hp ▸ e⟩)
  case inr.inr => exact .inr (.inr (.inr hplain))
  rcases suffix_append_cases h with h | ⟨part, hpart, rfl⟩
  case inr =>
    exact .inl (List.mem_append_right _ (List.mem_append_left _ (mem_placesIn hpart _)))
  rcases suffix_front_cases hsecond h with h | e | hplain
  case inr.inl =>
    obtain ⟨p, hp⟩ := parts.exists_fromPlace_eq_fromSecond tag date noteEnd
    exact .inr (.inl ⟨p, hp ▸ e⟩)
  case inr.inr => exact .inr (.inr (.inr hplain))
  rcases suffix_append_cases h with h | ⟨part, hpart, rfl⟩
  · exact .inr (.inr (.inl (suffix_noteEnd h)))
  · exact .inl (List.mem_append_right _ (List.mem_append_right _ (mem_placesIn hpart _)))

/-- At a plain parenthesis begins a group without a name, or none that captures. -/
theorem not_begins_of_plainFront {s : State} {after : List Char} {number : Nat} {name : String}
    (hplain : PlainFront after) : ¬ Begins s ('(' :: after) (number, some name) := by
  rintro ⟨-, rest, hstep⟩
  rw [Regex.Reader.step?_group] at hstep
  obtain ⟨e, -⟩ | ⟨-, written, hfront, -⟩ | ⟨behind, -, hflags⟩ :=
    Regex.Reader.readGroup?_cases hstep
  · cases Regex.Reader.enterCapture_inj e
  · rcases hplain with hplain | ⟨others, rfl⟩
    · refine hplain s.flags ?_
      rcases hfront with e | e <;> rw [e] <;> rfl
    · rw [skip_cons (.inr (by decide))] at hfront
      rcases hfront with e | e <;> simp at e
  · have hcaptures := (Regex.Reader.readFlagGroup?_beginsNone s behind _ _ hflags).captures
    simp [State.enterCapture, State.enter] at hcaptures

/-- A named group has the name that is written. -/
theorem name_of_begins {s : State} {name : String} (hname : IsName name.toList)
    {inner rest : List Char} {g : Nat × Option String}
    (h : Begins s (namedGroup name inner ++ rest) g) : g.2 = some name := by
  obtain ⟨-, after, hstep⟩ := h
  rw [namedGroup_append, Regex.Reader.step?_namedGroup hname] at hstep
  split at hstep
  · cases hstep
  · obtain ⟨e, -⟩ := Prod.mk.inj (Option.some.inj hstep)
    exact (Regex.Reader.enterCapture_inj e).symm

/-- A named group leaves the flags as they are. -/
theorem keepsFlags_namedGroup (s : State) {name : String} (hname : IsName name.toList)
    (inner rest : List Char) : KeepsFlags (s, namedGroup name inner ++ rest) := by
  intro next after hstep
  rw [namedGroup_append, Regex.Reader.step?_namedGroup hname] at hstep
  split at hstep
  · cases hstep
  · cases hstep
    rfl

/-- So does what begins at a plain parenthesis. -/
theorem keepsFlags_of_plainFront (s : State) {after : List Char} (hplain : PlainFront after) :
    KeepsFlags (s, '(' :: after) := by
  intro next rest hstep
  rcases hplain with hplain | ⟨others, rfl⟩
  · rw [Regex.Reader.step?_group] at hstep
    obtain ⟨rfl, -⟩ | ⟨name, -, -, -, -, rfl⟩ | ⟨behind, hfront, -⟩ :=
      Regex.Reader.readGroup?_cases hstep
    · rfl
    · rfl
    · exact absurd (by rw [hfront]; rfl) (hplain s.flags)
  · have hgroup := Regex.Reader.step?_plainGroup s others
    rw [hgroup] at hstep
    cases hstep
    rfl

end Lapse.CommentStyle
