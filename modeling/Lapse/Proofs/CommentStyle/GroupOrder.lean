import Lapse.Proofs.CommentStyle.Opener
import Lapse.Proofs.CommentStyle.Places
import Lapse.Regex.Size

/-!
# The groups of a note pattern

The groups with a role stand in the pattern in a fixed order, whatever else the template holds,
unless it begins named groups of its own. A template in which the reader does not come to the place
of a placeholder is refused.
-/
namespace Lapse

open Regex (ofText?)
open Regex.Reader (State Level Begins read? trace)

/-- The numbers of the groups that have a role: the whole note is the first and its opener the
second, the content is the last, and tag and date stand between them in the order of the template. -/
structure Matcher.RolesInOrder (m : Matcher) : Prop where
  whole : m.roles.whole = 1
  opener : m.roles.opener = 2
  tag : 2 < m.roles.tag ∧ m.roles.tag < m.roles.content
  expiry : 2 < m.roles.expiry ∧ m.roles.expiry < m.roles.content
  distinct : m.roles.tag ≠ m.roles.expiry
  order : m.roles.tag < m.roles.expiry ↔ m.roles.tagFirst = true
  content : m.regex.groupCount = m.roles.content + 1

/-- The name of the group that is put in the place of a placeholder. -/
def Placeholder.groupName : Placeholder → String
  | .tag => "tag"
  | .date => "expiry"

namespace CommentStyle

/-- The steps of the reader behind the openers. -/
def steps (style : CommentStyle) (layout : DateLayout) : List (State × List Char) :=
  trace (openersState style.caseSensitive style.openers)
    (blanks ++ (style.filled layout ++ noteEnd))

/-- The steps that are taken in the template's own text. -/
def ownSteps (style : CommentStyle) (parts : TemplateParts) (layout : DateLayout) :
    List (State × List Char) :=
  (style.steps layout).filter fun x =>
    x.2 ∈ parts.ownPlaces (tagGroup (alternation style.tags)) (expiryGroup layout) noteEnd

/-- What is left of the pattern from the group on that stands in the place of a placeholder. -/
def placeOf (style : CommentStyle) (parts : TemplateParts) (layout : DateLayout) (p : Placeholder) :
    List Char :=
  parts.fromPlace (tagGroup (alternation style.tags)) (expiryGroup layout) noteEnd p

/-- A step begins a group with this name. -/
def BeginsNamed (x : State × List Char) (name : String) : Prop :=
  ∃ number, Begins x.1 x.2 (number, some name)

theorem namedGroup_of_placeOf (style : CommentStyle) (parts : TemplateParts) (layout : DateLayout)
    (p : Placeholder) :
    ∃ inner rest, style.placeOf parts layout p = namedGroup p.groupName inner ++ rest := by
  cases p with
  | tag =>
    rw [placeOf, TemplateParts.fromPlace]
    split
    · next h => exact ⟨alternation style.tags, _, by rw [TemplateParts.fromFirst, if_pos h]; rfl⟩
    · next h => exact ⟨alternation style.tags, _, by rw [TemplateParts.fromSecond, if_neg h]; rfl⟩
  | date =>
    rw [placeOf, TemplateParts.fromPlace]
    split
    · next h => exact ⟨_, _, by rw [TemplateParts.fromSecond, if_pos h]; rfl⟩
    · next h => exact ⟨_, _, by rw [TemplateParts.fromFirst, if_neg h]; rfl⟩

section Steps

variable {style : CommentStyle} {parts : TemplateParts} {layout : DateLayout}
  (hcut : parts.Cut style.template.toList) {x : State × List Char} (hx : x ∈ style.steps layout)

include hcut hx

/-- A named group begins in the template's own text, in the place of a placeholder, or as the group
of the content. -/
theorem beginsNamed_cases {name : String} (h : BeginsNamed x name) :
    x ∈ style.ownSteps parts layout ∨
      (∃ p, x.2 = style.placeOf parts layout p ∧ name = p.groupName) ∨
      x.2 = contentPlace ∧ name = "content" := by
  obtain ⟨number, h⟩ := h
  obtain ⟨after, hplace, -⟩ := h.head
  have hsuffix := Regex.Reader.suffix_of_mem_trace hx
  rw [filled, hcut.substitute, hplace] at hsuffix
  rcases place_cases (isFront_tagGroup _) (isFront_expiryGroup _) hsuffix with
    hown | ⟨p, hp⟩ | hcontent | hplain
  · exact .inl (List.mem_filter.2 ⟨hx, by simpa [hplace] using hown⟩)
  · obtain ⟨inner, rest, hgroup⟩ := namedGroup_of_placeOf style parts layout p
    have hname : Regex.Reader.IsName p.groupName.toList := by cases p <;> decide +kernel
    rw [hplace, hp, ← placeOf, hgroup] at h
    exact .inr (.inl ⟨p, hplace.trans hp, Option.some.inj (name_of_begins hname h)⟩)
  · rw [hplace, hcontent, contentPlace] at h
    exact .inr (.inr ⟨hplace.trans hcontent,
      Option.some.inj (name_of_begins (by decide +kernel) h)⟩)
  · rw [hplace] at h
    exact absurd h (not_begins_of_plainFront hplain)

end Steps

theorem length_contentPlace_lt (style : CommentStyle) (parts : TemplateParts) (layout : DateLayout)
    (p : Placeholder) : contentPlace.length < (style.placeOf parts layout p).length := by
  have hblanks : 0 < blanks.length := by decide
  have hend : noteEnd = blanks ++ contentPlace := rfl
  have hsecond (tag date : List Char) :
      contentPlace.length < (parts.fromSecond tag date noteEnd).length := by
    simp only [TemplateParts.fromSecond, hend, List.length_append]
    omega
  have hfirst (tag date : List Char) :
      contentPlace.length < (parts.fromFirst tag date noteEnd).length := by
    have h := hsecond tag date
    simp only [TemplateParts.fromFirst, List.length_append]
    omega
  cases p <;> rw [placeOf, TemplateParts.fromPlace] <;> split
  · exact hfirst _ _
  · exact hsecond _ _
  · exact hsecond _ _
  · exact hfirst _ _

theorem length_fromSecond_lt (style : CommentStyle) (parts : TemplateParts) (layout : DateLayout) :
    (parts.fromSecond (tagGroup (alternation style.tags)) (expiryGroup layout) noteEnd).length <
      (parts.fromFirst (tagGroup (alternation style.tags)) (expiryGroup layout) noteEnd).length := by
  have htag : 0 < (tagGroup (alternation style.tags)).length := by
    simp [tagGroup, namedGroup]
  have hdate : 0 < (expiryGroup layout).length := by simp [expiryGroup, namedGroup]
  rw [TemplateParts.fromFirst, List.length_append, List.length_append]
  split <;> omega

/-- The tag's place is in front of the date's, or the date's in front of the tag's. -/
theorem length_placeOf_lt (style : CommentStyle) (parts : TemplateParts) (layout : DateLayout) :
    if parts.tagFirst then
      (style.placeOf parts layout .date).length < (style.placeOf parts layout .tag).length
    else (style.placeOf parts layout .tag).length < (style.placeOf parts layout .date).length := by
  have hlt := length_fromSecond_lt style parts layout
  split
  · next h => simpa only [placeOf, TemplateParts.fromPlace, if_pos h] using hlt
  · next h => simpa only [placeOf, TemplateParts.fromPlace, if_neg h] using hlt

theorem groups_openersState (caseSensitive : Bool) {openers : List String} (h : openers ≠ []) :
    (openersState caseSensitive openers).groups =
      [(1, some "annotation"), (2, some "comment")] := by
  have hgroups : (openersLevel caseSensitive openers).close.regex.groups = [] := by
    have hregex := openersRegex_eq caseSensitive h
    rw [openersRegex] at hregex
    rw [hregex]
    exact Regex.Reader.groups_choice_words _ _
  have hframe : (frameLevel caseSensitive).groups = [] := by cases caseSensitive <;> rfl
  simp [State.groups, openersState, frameParent, hframe, Regex.Reader.Level.groups_push,
    openersItem, Regex.groups, hgroups]
  rfl

theorem mem_groups_of_groupIndex? {regex : Regex} {name : String} {index : Nat}
    (h : regex.groupIndex? name = some index) : (index, some name) ∈ regex.groups := by
  obtain ⟨g, hfind, rfl⟩ := Option.map_eq_some_iff.1 h
  have hname : g.2 = some name := by simpa using List.find?_some hfind
  exact hname ▸ List.mem_of_find?_eq_some hfind

theorem exists_read_of_compile [Regex.SizeLimit] {style : CommentStyle} {m : Matcher}
    (hcompile : style.compile = .ok m) :
    ∃ t, read? (openersState style.caseSensitive style.openers)
        (blanks ++ (style.filled m.layout ++ noteEnd)) = some t ∧ t.groups = m.regex.groups := by
  obtain ⟨-, hframe, -⟩ := exists_of_compile hcompile
  obtain ⟨t, hread, hclosed, -, hregex⟩ := Regex.Reader.exists_read?_of_ofText? hframe
  refine ⟨t, (read?_frame _ _ _).symm.trans hread, ?_⟩
  rw [← hregex, Regex.Reader.Level.groups_close, State.groups, hclosed]
  rfl

/-- Every group is one of the two in front of the template or begins at a later step. -/
theorem mem_groups_cases [Regex.SizeLimit] {style : CommentStyle} {m : Matcher}
    (hcompile : style.compile = .ok m) {g : Nat × Option String} (hg : g ∈ m.regex.groups) :
    g = (1, some "annotation") ∨ g = (2, some "comment") ∨
      ∃ x ∈ style.steps m.layout, Begins x.1 x.2 g ∧ 2 < g.1 ∧
        ∀ name ∈ g.2, name ≠ "annotation" ∧ name ≠ "comment" := by
  have hopeners := (layout?_eq_ok_iff.1 (exists_of_compile hcompile).1).1
  obtain ⟨t, hread, hgroups⟩ := exists_read_of_compile hcompile
  rw [← hgroups] at hg
  rcases Regex.Reader.exists_begins_of_mem_groups hread hg with hold | ⟨x, hx, hbegins⟩
  · rw [groups_openersState _ hopeners] at hold
    simp only [List.mem_cons, List.not_mem_nil, or_false] at hold
    exact hold.imp_right .inl
  · have hcaptures := (Regex.Reader.preserved_captures 2).of_mem_trace
      (s := openersState style.caseSensitive style.openers) (Nat.le_refl 2) hx
    have hnames := (Regex.Reader.preserved_names ["comment", "annotation"]).of_mem_trace
      (s := openersState style.caseSensitive style.openers) (List.Subset.refl _) hx
    obtain ⟨-, -, hnew⟩ := hbegins.head
    refine .inr (.inr ⟨x, hx, hbegins, ?_, fun name hname => ?_⟩)
    · rw [hbegins.1]
      exact Nat.lt_succ_of_le hcaptures
    · refine ⟨fun e => hnew name hname (hnames ?_), fun e => hnew name hname (hnames ?_)⟩ <;>
        simp [e]

theorem groupCount_eq {regex : Regex} {g : Nat × Option String} (hg : g ∈ regex.groups)
    (hle : ∀ g' ∈ regex.groups, g'.1 ≤ g.1) : regex.groupCount = g.1 + 1 := by
  have hmap : regex.groupCount = (regex.groups.map fun g => g.1 + 1).foldl max 1 := by
    rw [List.foldl_map]
    rfl
  rw [hmap]
  refine Nat.le_antisymm ?_ ?_
  · refine Regex.Reader.Level.foldl_max_le (Nat.le_add_left 1 _) fun n hn => ?_
    obtain ⟨g', hg', rfl⟩ := List.mem_map.1 hn
    exact Nat.succ_le_succ (hle g' hg')
  · exact Regex.Reader.Level.le_foldl_max 1 (List.mem_map_of_mem (f := fun g => g.1 + 1) hg)

section Roles

variable [Regex.SizeLimit] {style : CommentStyle} {parts : TemplateParts} {m : Matcher}
  (hcut : parts.Cut style.template.toList) (hcompile : style.compile = .ok m)
include hcompile

theorem eq_of_role_in_front {roles : Roles} {tagFirst : Bool}
    (hroles : rolesOf? m.regex tagFirst = some roles) : roles.whole = 1 ∧ roles.opener = 2 := by
  obtain ⟨hwhole, hopener, -⟩ := groupIndex?_of_rolesOf? hroles
  constructor
  · rcases mem_groups_cases hcompile (mem_groups_of_groupIndex? hwhole) with
      e | e | ⟨-, -, -, -, hnew⟩
    · exact (Prod.mk.inj e).1
    · simp at e
    · exact absurd rfl (hnew _ rfl).1
  · rcases mem_groups_cases hcompile (mem_groups_of_groupIndex? hopener) with
      e | e | ⟨-, -, -, -, hnew⟩
    · simp at e
    · exact (Prod.mk.inj e).1
    · exact absurd rfl (hnew _ rfl).2

/-- A role that the template does not take itself is that of the group that is put in for it. -/
theorem exists_step_of_role (hcut : parts.Cut style.template.toList)
    {name : String} {index : Nat} (hindex : m.regex.groupIndex? name = some index)
    (hname : name ≠ "annotation" ∧ name ≠ "comment")
    (hown : ∀ x ∈ style.ownSteps parts m.layout, ¬ BeginsNamed x name) :
    ∃ x ∈ style.steps m.layout, Begins x.1 x.2 (index, some name) ∧ 2 < index ∧
      ((∃ p, x.2 = style.placeOf parts m.layout p ∧ name = p.groupName) ∨
        x.2 = contentPlace ∧ name = "content") := by
  rcases mem_groups_cases hcompile (mem_groups_of_groupIndex? hindex) with
    e | e | ⟨x, hx, hbegins, hlt, -⟩
  · exact absurd (Option.some.inj (Prod.mk.inj e).2) hname.1
  · exact absurd (Option.some.inj (Prod.mk.inj e).2) hname.2
  · refine ⟨x, hx, hbegins, hlt, ?_⟩
    rcases beginsNamed_cases hcut hx ⟨index, hbegins⟩ with h | h
    · exact absurd ⟨index, hbegins⟩ (hown x h)
    · exact h

theorem exists_step_of_placeholder (hcut : parts.Cut style.template.toList)
    {p : Placeholder} {index : Nat} (hindex : m.regex.groupIndex? p.groupName = some index)
    (hown : ∀ x ∈ style.ownSteps parts m.layout, ¬ BeginsNamed x p.groupName) :
    ∃ x ∈ style.steps m.layout, x.2 = style.placeOf parts m.layout p ∧
      Begins x.1 x.2 (index, some p.groupName) ∧ 2 < index := by
  have hname : p.groupName ≠ "annotation" ∧ p.groupName ≠ "comment" := by
    cases p <;> decide
  obtain ⟨x, hx, hbegins, hlt, ⟨q, hq, e⟩ | ⟨-, e⟩⟩ :=
    exists_step_of_role hcompile hcut hindex hname hown
  · obtain rfl : p = q := by cases p <;> cases q <;> simp_all [Placeholder.groupName]
    exact ⟨x, hx, hq, hbegins, hlt⟩
  · cases p <;> simp [Placeholder.groupName] at e

theorem exists_step_of_content (hcut : parts.Cut style.template.toList)
    {index : Nat} (hindex : m.regex.groupIndex? "content" = some index)
    (hown : ∀ x ∈ style.ownSteps parts m.layout, ¬ BeginsNamed x "content") :
    ∃ x ∈ style.steps m.layout, x.2 = contentPlace ∧ Begins x.1 x.2 (index, some "content") ∧
      2 < index := by
  obtain ⟨x, hx, hbegins, hlt, ⟨p, -, e⟩ | ⟨hplace, -⟩⟩ :=
    exists_step_of_role hcompile hcut hindex (by decide) hown
  · cases p <;> simp [Placeholder.groupName] at e
  · exact ⟨x, hx, hplace, hbegins, hlt⟩

/-- No group begins behind that of the content. -/
theorem le_of_content {y : State × List Char} (hy : y ∈ style.steps m.layout)
    (hplace : y.2 = contentPlace) {index : Nat} (hbegins : Begins y.1 y.2 (index, some "content"))
    (hlt : 2 < index) {g : Nat × Option String} (hg : g ∈ m.regex.groups) : g.1 ≤ index := by
  rcases mem_groups_cases hcompile hg with rfl | rfl | ⟨x, hx, hgroup, -, -⟩
  · omega
  · omega
  by_cases hlength : x.2.length < y.2.length
  · obtain ⟨after, hafter, -⟩ := hgroup.head
    have hsuffix := List.suffix_of_suffix_length_le (Regex.Reader.suffix_of_mem_trace hx)
      (Regex.Reader.suffix_of_mem_trace hy) (Nat.le_of_lt hlength)
    rw [hafter, hplace, contentPlace_eq] at hsuffix hlength
    rcases List.suffix_cons_iff.1 hsuffix with e | hsuffix
    · rw [e] at hlength
      exact absurd hlength (Nat.lt_irrefl _)
    · exact absurd (hsuffix.subset List.mem_cons_self) (by decide)
  · rcases Regex.Reader.before_or_eq_of_mem_trace hx hy (Nat.not_lt.1 hlength) with e | hbefore
    · rw [hgroup.1, e, ← hbegins.1]
    · have hnumber : index = y.1.captures + 1 := hbegins.1
      exact hnumber ▸ Nat.le_succ_of_le (hbefore.number g hgroup)

end Roles

theorem tagFirst_of_rolesOf? {regex : Regex} {tagFirst : Bool} {roles : Roles}
    (h : rolesOf? regex tagFirst = some roles) : roles.tagFirst = tagFirst := by
  obtain ⟨whole, -, h⟩ := Option.bind_eq_some_iff.1 h
  obtain ⟨opener, -, h⟩ := Option.bind_eq_some_iff.1 h
  obtain ⟨tag, -, h⟩ := Option.bind_eq_some_iff.1 h
  obtain ⟨expiry, -, h⟩ := Option.bind_eq_some_iff.1 h
  obtain ⟨content, -, h⟩ := Option.bind_eq_some_iff.1 h
  cases h
  rfl

theorem layout_of_compile [Regex.SizeLimit] {style : CommentStyle} {source : List Char}
    {layout : DateLayout} {tagFirst : Bool}
    (hpattern : style.patternOf = .ok (source, layout, tagFirst)) {m : Matcher}
    (hcompile : style.compile = .ok m) :
    m.layout = layout ∧ rolesOf? m.regex tagFirst = some m.roles := by
  rw [compile_of_patternOf hpattern] at hcompile
  split at hcompile
  · cases hcompile
  · split at hcompile
    · cases hcompile
    · next hroles =>
      cases hcompile
      exact ⟨rfl, hroles⟩

theorem exists_cut_of_tagFirst? {template : List Char} {tagFirst : Bool}
    (h : tagFirst? template = .ok tagFirst) : ∃ parts : TemplateParts, parts.Cut template := by
  obtain ⟨tagAt, htag, hrest⟩ := exists_ok_of_bind h
  obtain ⟨dateAt, hdate, -⟩ := exists_ok_of_bind hrest
  exact exists_cut (timesIn_eq_one_of_findPlaceholder .tag htag)
    (timesIn_eq_one_of_findPlaceholder .date hdate)

/-- The tag's place comes first exactly when the template can be read so. -/
theorem TemplateParts.Cut.tagFirst_iff {parts : TemplateParts} {template : List Char}
    (hcut : parts.Cut template) :
    parts.tagFirst = true ↔ ∃ front between back, template =
      front ++ (Placeholder.tag.text.toList ++
        (between ++ (Placeholder.date.text.toList ++ back))) := by
  constructor
  · intro h
    have heq := hcut.eq
    rw [TemplateParts.fill, if_pos h] at heq
    exact ⟨_, _, _, heq⟩
  · rintro ⟨front, between, back, heq⟩
    have hother : TemplateParts.Cut ⟨front, between, back, true⟩ template :=
      ⟨heq, hcut.tag, hcut.date⟩
    exact Except.ok.inj (hcut.tagFirst?.symm.trans hother.tagFirst?)

/-- No step in the template's own text begins a named group. -/
def NamesNoGroup (style : CommentStyle) (parts : TemplateParts) (layout : DateLayout) : Prop :=
  ∀ x ∈ style.ownSteps parts layout, ∀ name, ¬ BeginsNamed x name

/-- The reader takes no step at the place of a placeholder, since what stands in front takes its
parenthesis for something else. -/
def Hides (style : CommentStyle) (parts : TemplateParts) (layout : DateLayout) (p : Placeholder) :
    Prop :=
  ∀ x ∈ style.steps layout, x.2 ≠ style.placeOf parts layout p

theorem rolesInOrder_of_compile [Regex.SizeLimit] {style : CommentStyle} {parts : TemplateParts}
    {m : Matcher} (hcut : parts.Cut style.template.toList) (hcompile : style.compile = .ok m)
    (hroles : rolesOf? m.regex parts.tagFirst = some m.roles)
    (hown : style.NamesNoGroup parts m.layout) : m.RolesInOrder := by
  obtain ⟨-, -, htag, hexpiry, hcontent⟩ := groupIndex?_of_rolesOf? hroles
  obtain ⟨hwhole, hopener⟩ := eq_of_role_in_front hcompile hroles
  obtain ⟨x, hx, hxplace, hxbegins, hxlt⟩ := exists_step_of_placeholder hcompile hcut
    (p := .tag) htag fun x hx => hown x hx _
  obtain ⟨y, hy, hyplace, hybegins, hylt⟩ := exists_step_of_placeholder hcompile hcut
    (p := .date) hexpiry fun x hx => hown x hx _
  obtain ⟨z, hz, hzplace, hzbegins, hzlt⟩ := exists_step_of_content hcompile hcut hcontent
    fun x hx => hown x hx _
  have hlast (p : Placeholder) := length_contentPlace_lt style parts m.layout p
  have horder := length_placeOf_lt style parts m.layout
  rw [← hxplace, ← hyplace] at horder
  have hcount := groupCount_eq (mem_groups_of_groupIndex? hcontent)
    fun g hg => le_of_content hcompile hz hzplace hzbegins hzlt hg
  have htagLast : m.roles.tag < m.roles.content :=
    Regex.Reader.lt_of_begins hx hz (hxplace ▸ hzplace ▸ hlast .tag) hxbegins hzbegins
  have hexpiryLast : m.roles.expiry < m.roles.content :=
    Regex.Reader.lt_of_begins hy hz (hyplace ▸ hzplace ▸ hlast .date) hybegins hzbegins
  have hfirst := tagFirst_of_rolesOf? hroles
  have hbetween : if m.roles.tagFirst then m.roles.tag < m.roles.expiry
      else m.roles.expiry < m.roles.tag := by
    rw [hfirst]
    split at horder
    · next h =>
      rw [if_pos h]
      exact Regex.Reader.lt_of_begins hx hy horder hxbegins hybegins
    · next h =>
      rw [if_neg h]
      exact Regex.Reader.lt_of_begins hy hx horder hybegins hxbegins
  refine ⟨hwhole, hopener, ⟨hxlt, htagLast⟩, ⟨hylt, hexpiryLast⟩, ?_, ?_, hcount⟩
  · split at hbetween
    · exact Nat.ne_of_lt hbetween
    · exact Nat.ne_of_gt hbetween
  · split at hbetween
    · next h => exact iff_of_true hbetween h
    · next h => exact iff_of_false (Nat.not_lt.2 (Nat.le_of_lt hbetween)) h

/-- When a style is compiled whose template begins no named group of its own, the roles are in
order. When the template hides a placeholder, and begins no group with the name of the group that
belongs there, the style is refused. -/
theorem roles_of_patternOf [Regex.SizeLimit] {style : CommentStyle} {source : List Char}
    {layout : DateLayout} {tagFirst : Bool}
    (hpattern : style.patternOf = .ok (source, layout, tagFirst)) :
    (∃ parts : TemplateParts, parts.Cut style.template.toList) ∧
    ∀ parts : TemplateParts, parts.Cut style.template.toList →
      (style.NamesNoGroup parts layout → ∀ m, style.compile = .ok m →
        m.RolesInOrder ∧ (m.roles.tagFirst = true ↔ ∃ front between back,
          style.template.toList = front ++ (Placeholder.tag.text.toList ++
            (between ++ (Placeholder.date.text.toList ++ back))))) ∧
      ∀ p, style.Hides parts layout p →
        (∀ x ∈ style.ownSteps parts layout, ¬ BeginsNamed x p.groupName) →
        style.compile = .error .invalidPattern := by
  obtain ⟨-, hfirst, -⟩ := eq_frame_of_patternOf hpattern
  refine ⟨exists_cut_of_tagFirst? hfirst, fun parts hcut => ?_⟩
  obtain rfl : parts.tagFirst = tagFirst := Except.ok.inj (hcut.tagFirst?.symm.trans hfirst)
  refine ⟨fun hown m hcompile => ?_, fun p hhidden hown => ?_⟩
  · obtain ⟨rfl, hroles⟩ := layout_of_compile hpattern hcompile
    rw [tagFirst_of_rolesOf? hroles]
    exact ⟨rolesInOrder_of_compile hcut hcompile hroles hown, hcut.tagFirst_iff⟩
  · cases hcompile : style.compile with
    | error e =>
      rw [compile_of_patternOf hpattern] at hcompile
      split at hcompile
      · exact hcompile.symm
      · split at hcompile
        · exact hcompile.symm
        · cases hcompile
    | ok m =>
      obtain ⟨rfl, hroles⟩ := layout_of_compile hpattern hcompile
      obtain ⟨-, -, htag, hexpiry, -⟩ := groupIndex?_of_rolesOf? hroles
      have hindex : ∃ index, m.regex.groupIndex? p.groupName = some index := by
        cases p
        · exact ⟨_, htag⟩
        · exact ⟨_, hexpiry⟩
      obtain ⟨index, hindex⟩ := hindex
      obtain ⟨x, hx, hplace, -⟩ := exists_step_of_placeholder hcompile hcut hindex hown
      exact absurd hplace (hhidden x hx)

/-- A template with a group, a class and an escaped parenthesis of its own, the date in front. -/
def groupsStyle : CommentStyle :=
  ⟨["//"], ["TODO"], "(x)?[()]\x7bdate\x7d\\(\x7btag\x7d", "YYYY-MM-DD", true⟩

/-- A template that hides the tag's place in a class. -/
def hiddenStyle : CommentStyle :=
  ⟨["//"], ["TODO"], "[\x7btag\x7d]\x7bdate\x7d", "YYYY-MM-DD", true⟩

theorem not_beginsNamed_of_names {x : State × List Char}
    (h : ((Regex.Reader.step? x.1 x.2).all fun y => y.1.names = x.1.names) = true)
    (name : String) : ¬ BeginsNamed x name := by
  rintro ⟨number, -, rest, hstep⟩
  rw [hstep] at h
  simp [State.enterCapture] at h

theorem roles_of_groupsStyle :
    (∃ m, groupsStyle.compile = .ok m ∧ m.RolesInOrder ∧ m.roles.tagFirst = false) ∧
      hiddenStyle.compile = .error .invalidPattern := by
  have hpattern := @patternOf_eq_ok groupsStyle 16 8 dashedLayout (by decide) (by decide)
    (by decide) (by decide) ofText_dashedLayout
  have hhidden := @patternOf_eq_ok hiddenStyle 1 7 dashedLayout (by decide) (by decide)
    (by decide) (by decide) ofText_dashedLayout
  have hcut : (⟨"(x)?[()]".toList, "\\(".toList, [], false⟩ : TemplateParts).Cut
      groupsStyle.template.toList := ⟨by decide, by decide, by decide⟩
  have hcut' : (⟨['['], [']'], [], true⟩ : TemplateParts).Cut hiddenStyle.template.toList :=
    ⟨by decide, by decide, by decide⟩
  constructor
  · have hsteps : ∀ x ∈ groupsStyle.ownSteps ⟨"(x)?[()]".toList, "\\(".toList, [], false⟩
        dashedLayout, ((Regex.Reader.step? x.1 x.2).all fun y => y.1.names = x.1.names) = true := by
      decide +kernel
    obtain ⟨m, hm⟩ : ∃ m, groupsStyle.compile = .ok m := exists_ok_of_isSome (by decide +kernel)
    obtain ⟨horder, -⟩ := ((roles_of_patternOf hpattern).2 _ hcut).1
      (fun x hx name => not_beginsNamed_of_names (hsteps x hx) name) m hm
    exact ⟨m, hm, horder, (tagFirst_of_rolesOf? (layout_of_compile hpattern hm).2)⟩
  · have hplaces : ∀ x ∈ hiddenStyle.steps dashedLayout,
        x.2 ≠ hiddenStyle.placeOf ⟨['['], [']'], [], true⟩ dashedLayout .tag := by
      decide +kernel
    have hsteps : ∀ x ∈ hiddenStyle.ownSteps ⟨['['], [']'], [], true⟩ dashedLayout,
        ((Regex.Reader.step? x.1 x.2).all fun y => y.1.names = x.1.names) = true := by
      decide +kernel
    exact ((roles_of_patternOf hhidden).2 _ hcut').2 .tag hplaces
      fun x hx => not_beginsNamed_of_names (hsteps x hx) _

end CommentStyle

end Lapse
