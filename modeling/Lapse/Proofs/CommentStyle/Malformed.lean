import Mathlib
import Lapse.Proofs.CommentStyle.Frame
import Lapse.Regex.Size

/-!
# Malformed templates

A template is not read on its own but as part of the whole pattern. When it is no pattern by itself,
the style is refused, unless its first fault is one that the frame around it takes up.
-/
namespace Lapse

namespace Regex.Reader

theorem Level.Le.pushAll {a b : Level} (h : a.Le b) (items : List Item) : a.Le (b.pushAll items) :=
  ⟨h.items.imp fun _ hx => ⟨hx.1, hx.2.trans (List.sublist_append_right _ _)⟩, h.done⟩

theorem Opening.le_wrap (opening : Opening) (inner : Item) : inner.Le (opening.wrap inner) := by
  obtain ⟨capture, flags⟩ := opening
  cases capture with
  | none => exact Nat.le_succ _
  | some => exact Nat.le_succ _

end Regex.Reader

namespace CommentStyle

open Regex (CharSet ofAnySize? ofText?)
open Regex.Reader (State Item Level Opening read? stuck? TakenUp heightLimit lineStopLook)

theorem close_le_closedLevel {level inner whole : Level} (hdone : level.done = [])
    (h : inner.Le whole) (opening : Opening) :
    inner.close.Le (closedLevel level opening whole).close := by
  have hitem : inner.close.Le (opening.wrap whole.close) :=
    Nat.le_trans h.close (opening.le_wrap whole.close)
  have hlevel : (⟨[], [inner.close]⟩ : Level).Le (closedLevel level opening whole) :=
    Level.singleton_le hitem hdone (List.mem_cons_of_mem _ List.mem_cons_self)
  exact hlevel.close

/-- A filled template that is read to its end inside the frame is a pattern on its own. -/
theorem isSome_ofAnySize?_of_read? {caseSensitive : Bool} {openers : List String}
    {filled : List Char} {s u t : State} (hread : read? .start filled = some s)
    (hwithin : s.Within (frontItems caseSensitive openers) (frameParent caseSensitive) u)
    (hend : read? u noteEnd = some t) (hclosed : t.outer = [])
    (hheight : t.level.close.height ≤ heightLimit) : (ofAnySize? filled).isSome := by
  obtain ⟨set, level, opening, outer, houter, rfl⟩ := exists_of_read?_noteEnd hend
  obtain rfl : outer = [] := hclosed
  have hnested := hwithin.nested
  rw [houter] at hnested
  have hopen := hnested.of_singleton
  rw [hopen] at hnested
  obtain ⟨e, hlevel⟩ := hnested.of_nil
  cases e
  have hdone : (frameLevel caseSensitive).done = [] := by cases caseSensitive <;> rfl
  have hnote : s.level.Le (closingLevel u set) := hlevel.le.pushAll _
  have hwhole := close_le_closedLevel hdone hnote
    ⟨some (1, some "annotation"), frameFlags caseSensitive⟩
  exact Option.isSome_iff_exists.2 ⟨s.level.close.regex, Regex.Reader.ofAnySize?_eq_some_iff.2
    ⟨s, hread, hopen, Nat.le_trans hwhole hheight, rfl⟩⟩

/-- The first fault of a text is taken up by the frame. -/
def HasTakenUpFault (filled : List Char) : Prop :=
  ∃ s rest, stuck? .start filled = some (s, rest) ∧ TakenUp noteEnd s rest

theorem hasTakenUpFault_of_frame [Regex.SizeLimit] {caseSensitive : Bool} {openers : List String}
    {filled : List Char} {regex : Regex} (hmalformed : ofAnySize? filled = none)
    (hframe : ofText? (frame caseSensitive (alternation openers) filled) = some regex) :
    HasTakenUpFault filled := by
  obtain ⟨t, hread, hclosed, hheight, rfl⟩ := Regex.Reader.exists_read?_of_ofText? hframe
  -- A `?` at the front makes the blanks before it reluctant, so it is no step of its own there.
  by_cases hhead : filled.head? = some '?'
  · obtain ⟨rest, rfl⟩ := List.head?_eq_some_iff.1 hhead
    exact ⟨.start, '?' :: rest, Regex.Reader.stuck?_of_step_eq_none rfl rfl,
      .repetition rest rfl (.inl rfl) rfl⟩
  · rw [read?_frame_of_head hhead] at hread
    rcases Regex.Reader.exists_of_read?_append isTail_noteEnd
      (within_templateState caseSensitive openers) hread hclosed with ⟨s, u, hs, hu, hend⟩ | hfault
    · have hsome := isSome_ofAnySize?_of_read? hs hu hend hclosed hheight
      rw [hmalformed] at hsome
      cases hsome
    · exact hfault

/-- A style whose filled template is no pattern on its own is refused, except when the frame takes
up its first fault and all that comes then can be read. -/
theorem compile_of_malformed [Regex.SizeLimit] {style : CommentStyle} {tagAt dateAt : Nat}
    {layout : DateLayout} (htag : findPlaceholder style.template.toList .tag = .ok tagAt)
    (hdate : findPlaceholder style.template.toList .date = .ok dateAt)
    (hopeners : style.openers ≠ []) (htags : style.tags ≠ [])
    (hlayout : DateLayout.ofText style.dateLayout.toList = .ok layout)
    (hmalformed : ofAnySize? (style.filled layout) = none) :
    style.compile = .error .invalidPattern ↔
      ¬ (HasTakenUpFault (style.filled layout) ∧
        ∃ regex, ofText? (frame style.caseSensitive (alternation style.openers)
          (style.filled layout)) = some regex ∧ (rolesOf? regex (tagAt < dateAt)).isSome) := by
  rw [compile_of_patternOf (patternOf_eq_ok htag hdate hopeners htags hlayout)]
  constructor
  · rintro hcompile ⟨-, regex, hframe, hroles⟩
    obtain ⟨roles, hroles⟩ := Option.isSome_iff_exists.1 hroles
    rw [hframe] at hcompile
    simp only [hroles] at hcompile
    cases hcompile
  · intro hfault
    cases hframe : ofText? (frame style.caseSensitive (alternation style.openers)
      (style.filled layout)) with
    | none => rfl
    | some regex =>
      simp only
      cases hroles : rolesOf? regex (decide (tagAt < dateAt)) with
      | none => rfl
      | some roles =>
        exact (hfault ⟨hasTakenUpFault_of_frame hmalformed hframe, regex, hframe,
          by rw [hroles]; rfl⟩).elim

/-- A template that leaves a group open is refused. -/
theorem compile_of_open_group :
    compile ⟨["//"], ["TODO"], "\x7btag\x7d(\x7bdate\x7d", "YYYY-MM-DD", true⟩ =
      .error .invalidPattern := by
  have hstuck : (stuck? .start (filled
      ⟨["//"], ["TODO"], "\x7btag\x7d(\x7bdate\x7d", "YYYY-MM-DD", true⟩
      dashedLayout)).isNone := by
    decide +kernel
  have hmalformed : (ofAnySize? (filled ⟨["//"], ["TODO"], "\x7btag\x7d(\x7bdate\x7d",
      "YYYY-MM-DD", true⟩ dashedLayout)).isNone := by
    decide +kernel
  refine (@compile_of_malformed _ _ 0 6 _ (by decide) (by decide) (by decide) (by decide)
    ofText_dashedLayout (Option.isNone_iff_eq_none.1 hmalformed)).2 ?_
  rintro ⟨⟨s, rest, hfault, -⟩, -⟩
  rw [hfault] at hstuck
  cases hstuck

/-- A template whose stray parenthesis ends the outermost group, and whose open group the frame
ends. -/
theorem not_forall_malformed_refused :
    ¬ ∀ (style : CommentStyle) (tagAt dateAt : Nat) (layout : DateLayout),
      findPlaceholder style.template.toList .tag = .ok tagAt →
      findPlaceholder style.template.toList .date = .ok dateAt →
      style.openers ≠ [] → style.tags ≠ [] →
      DateLayout.ofText style.dateLayout.toList = .ok layout →
      ofAnySize? (style.filled layout) = none → style.compile = .error .invalidPattern := by
  intro h
  have hrefused := h ⟨["//"], ["TODO"], "\x7btag\x7d\x7bdate\x7d)(?:x", "YYYY-MM-DD", true⟩ 0 5
    dashedLayout (by decide) (by decide) (by decide) (by decide) ofText_dashedLayout
    (Option.isNone_iff_eq_none.1 (by decide +kernel))
  have hcompiled : (compile ⟨["//"], ["TODO"], "\x7btag\x7d\x7bdate\x7d)(?:x", "YYYY-MM-DD",
      true⟩).toOption.isSome := by
    decide +kernel
  rw [hrefused] at hcompiled
  cases hcompiled

end CommentStyle

end Lapse
