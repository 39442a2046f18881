import Lapse.Proofs.Regex.Action
import Lapse.Proofs.Regex.Property
import Lapse.Proofs.Regex.Suffix

/-!
# Reading up to a parenthesis

What the reader makes of a text in front of an opening parenthesis does not depend on what follows the
parenthesis, unless the text opens a class or ends in a backslash: whatever else is open there cannot go
on with a parenthesis. Gaps are not skipped here, since a comment would hide the parenthesis.
-/
namespace Lapse.Regex.Reader

variable {α β : Type}

/-- What is read in front of a parenthesis is the same whatever follows it. -/
def Local (f : List Char → Option (α × List Char)) : Prop :=
  ∃ x : Option (α × List Char), ∀ after, f after = x.map fun p => (p.1, p.2 ++ '(' :: after)

namespace Local

theorem none : Local fun _ => (none : Option (α × List Char)) := ⟨.none, fun _ => rfl⟩

theorem some (a : α) (rest : List Char) : Local fun after => some (a, rest ++ '(' :: after) :=
  ⟨.some (a, rest), fun _ => rfl⟩

theorem ite {c : Prop} [Decidable c] {f g : List Char → Option (α × List Char)}
    (hpos : c → Local f) (hneg : ¬ c → Local g) :
    Local fun after => if c then f after else g after := by
  split
  · next h => exact hpos h
  · next h => exact hneg h

theorem map (x : Option β) (a : β → α) (rest : List Char) :
    Local fun after => x.map fun b => (a b, rest ++ '(' :: after) := by
  cases x with
  | none => exact .none
  | some b => exact .some _ _

theorem bind {f : List Char → Option (β × List Char)} {g : β × List Char → Option (α × List Char)}
    (h : Local f) (hg : ∀ b rest, Local fun after => g (b, rest ++ '(' :: after)) :
    Local fun after => (f after).bind g := by
  obtain ⟨x, hx⟩ := h
  cases x with
  | none => exact ⟨.none, fun after => congrArg (Option.bind · g) (hx after)⟩
  | some p =>
    obtain ⟨y, hy⟩ := hg p.1 p.2
    exact ⟨y, fun after => (congrArg (Option.bind · g) (hx after)).trans (hy after)⟩

theorem forall_bind (x : Option β) {g : β → List Char → Option (α × List Char)}
    (hg : ∀ b, Local (g b)) : Local fun after => x.bind fun b => g b after := by
  cases x with
  | none => exact .none
  | some b => exact hg b

theorem mapFirst {f : List Char → Option (β × List Char)} (h : Local f) (a : β → α) :
    Local fun after => (f after).map fun x => (a x.1, x.2) := by
  obtain ⟨x, hx⟩ := h
  refine ⟨x.map fun p => (a p.1, p.2), fun after => ?_⟩
  simp only [hx, Option.map_map]
  rfl

theorem congr {f g : List Char → Option (α × List Char)} (h : Local g) (hfg : ∀ after, f after = g after) :
    Local f := funext hfg ▸ h

end Local

variable {flags : Flags} (hblank : flags.ignoreBlank = false)
include hblank

theorem skip_eq (text : List Char) : skip flags text = text := by
  rw [skip, if_neg (by simp [hblank])]

theorem peek?_eq_head? (text : List Char) : peek? flags text = text.head? := by
  rw [peek?, if_neg (by simp [hblank])]

theorem takeParts_cons (wanted : Char → Bool) (c : Char) (text : List Char) :
    takeParts flags wanted false (c :: text) =
      if wanted c then
        (c :: (takeParts flags wanted false text).1, (takeParts flags wanted false text).2)
      else ([], c :: text) := by
  rw [takeParts]
  simp only [hblank, Bool.false_and, Bool.false_eq_true, if_false]

theorem takeParts_parenthesis (wanted : Char → Bool) (hwanted : wanted '(' = false)
    (text after : List Char) :
    takeParts flags wanted false (text ++ '(' :: after) =
      ((takeParts flags wanted false text).1,
        (takeParts flags wanted false text).2 ++ '(' :: after) := by
  induction text with
  | nil =>
    rw [List.nil_append, takeParts_cons hblank, hwanted]
    rfl
  | cons c text ih =>
    rw [List.cons_append, takeParts_cons hblank, takeParts_cons hblank, ih]
    split <;> rfl

theorem local_readHexDigits? (count value : Nat) (text : List Char) :
    Local fun after => readHexDigits? flags count value (text ++ '(' :: after) := by
  induction count generalizing value text with
  | zero => exact .some _ _
  | succ count ih =>
    cases text with
    | nil => exact .none
    | cons c text =>
      refine .ite (fun _ => ?_) fun _ => .none
      cases count with
      | zero => exact .some _ _
      | succ count =>
        refine (ih (value * 16 + Text.hexDigit c) text).congr fun after => ?_
        simp only [skip_eq hblank, List.append_eq]

theorem local_readCodePoint? (count : Nat) (text : List Char) :
    Local fun after => readCodePoint? flags count (text ++ '(' :: after) := by
  have hdigits : Local fun after =>
      (readHexDigits? flags count 0 (text ++ '(' :: after)).bind fun x =>
        (scalar? x.1).bind fun c =>
          Option.some (Primitive.literal c (decide (count = 2)), x.2) :=
    (local_readHexDigits? hblank count 0 text).bind fun value rest =>
      .forall_bind (scalar? value) fun c => .some _ rest
  cases text with
  | nil => exact hdigits.congr fun after => readCodePoint?_of_ne (skip_eq hblank _) (by decide)
  | cons c text =>
    by_cases hc : c = '\x7b'
    · subst hc
      cases htake : takeParts flags isHexDigit false text with
      | mk digits rest =>
        have heq (after : List Char) := (@readCodePoint?_of_brace flags count _ _
          (skip_eq hblank ('\x7b' :: (text ++ '(' :: after))))
        simp only [takeParts_parenthesis hblank isHexDigit (by decide), htake]
          at heq
        refine Local.congr ?_ heq
        rcases digits with _ | ⟨d, digits⟩
        · exact .none
        rcases rest with _ | ⟨x, rest⟩
        · exact .none
        by_cases hx : x = '\x7d'
        · subst hx
          exact .map _ _ rest
        · refine Local.none.congr fun after => ?_
          split <;> simp_all
    · exact hdigits.congr fun after => readCodePoint?_of_ne (skip_eq hblank _) hc

/-- A name in braces ends in front of the parenthesis or holds it. -/
theorem takeParts_brace (text : List Char) :
    (∃ name rest, ∀ after, takeParts flags (· ≠ '\x7d') false (text ++ '(' :: after) =
      (name, '\x7d' :: (rest ++ '(' :: after))) ∨
    ∀ after, '(' ∈ (takeParts flags (· ≠ '\x7d') false (text ++ '(' :: after)).1 := by
  induction text with
  | nil =>
    refine .inr fun after => ?_
    rw [List.nil_append, takeParts_cons hblank, if_pos (by decide)]
    exact List.mem_cons_self
  | cons c text ih =>
    simp only [List.cons_append, takeParts_cons hblank]
    split
    · rcases ih with ⟨name, rest, hname⟩ | hname
      · exact .inl ⟨c :: name, rest, fun after => by rw [hname]⟩
      · exact .inr fun after => List.mem_cons_of_mem _ (hname after)
    · next hc =>
      obtain rfl : c = '\x7d' := by simpa using hc
      exact .inl ⟨[], text, fun after => rfl⟩

omit hblank in
theorem local_propertyClass? (negated : Bool) (name rest : List Char) :
    Local fun after => propertyClass? flags negated name (rest ++ '(' :: after) :=
  .forall_bind _ fun _ => .ite (fun _ => .forall_bind _ fun _ => .some _ rest) fun _ => .none

omit hblank in
theorem propertyClass?_eq_none {name : List Char} (h : '(' ∈ name) (negated : Bool)
    (rest : List Char) : propertyClass? flags negated name rest = none := by
  rw [propertyClass?, propertySet?_eq_none h]
  rfl

theorem local_readProperty? (negated : Bool) (text : List Char) :
    Local fun after => readProperty? flags negated (text ++ '(' :: after) := by
  simp only [readProperty?]
  have hne {c : Char} (hc : c ≠ '\x7b') (rest : List Char) :
      propertyName? flags (c :: rest) = if c = '\\' then Option.none else Option.some ([c], rest) := by
    rw [propertyName?, skip_eq hblank]
    split <;> simp_all
  have hbrace (rest : List Char) : propertyName? flags ('\x7b' :: rest) =
      let taken := takeParts flags (· ≠ '\x7d') false rest
      if taken.2 = [] then Option.none else Option.some (taken.1, taken.2.tail) := by
    rw [propertyName?, skip_eq hblank]
    cases htake : takeParts flags (· ≠ '\x7d') false rest with
    | mk name behind =>
      simp only [htake]
      cases behind <;> rfl
  cases text with
  | nil =>
    refine Local.none.congr fun after => ?_
    rw [List.nil_append, hne (by decide), if_neg (by decide), Option.bind_some]
    exact propertyClass?_eq_none (List.mem_singleton_self '(') negated after
  | cons c text =>
    by_cases hc : c = '\x7b'
    · subst hc
      simp only [List.cons_append, hbrace]
      rcases takeParts_brace hblank text with ⟨name, rest, hname⟩ | hname
      · simp only [hname]
        exact local_propertyClass? negated name rest
      · refine Local.none.congr fun after => ?_
        have hnone := hname after
        split
        · rfl
        · exact propertyClass?_eq_none hnone negated _
    · simp only [List.cons_append, hne hc]
      split
      · exact .none
      · exact local_propertyClass? negated [c] text

theorem local_readBoundary? (text : List Char) :
    Local fun after => readBoundary? flags (text ++ '(' :: after) := by
  have hplain : Local fun after =>
      Option.some (Primitive.look (.boundary !flags.unicode), text ++ '(' :: after) := .some _ text
  cases text with
  | nil => exact hplain
  | cons c text =>
    by_cases hc : c = '\x7b'
    · subst hc
      simp only [readBoundary?, List.cons_append, skip_eq hblank]
      cases text with
      | nil => exact hplain
      | cons x text =>
        simp only [List.cons_append]
        refine .ite (fun hx => ?_) fun _ => hplain
        have htake := takeParts_parenthesis hblank (fun c => c.isAlpha || c = '-')
          (by decide) (x :: text)
        simp only [List.cons_append] at htake
        simp only [htake]
        generalize takeParts flags (fun c => c.isAlpha || c = '-') false (x :: text) = taken
        obtain ⟨name, rest⟩ := taken
        rcases rest with _ | ⟨y, rest⟩
        · exact .none
        by_cases hy : y = '\x7d'
        · subst hy
          exact .map _ _ rest
        · refine Local.none.congr fun after => ?_
          split <;> simp_all
    · refine hplain.congr fun after => ?_
      rw [readBoundary?]
      exact fun rest e => hc (List.cons.inj e).1

theorem local_readEscape? (c : Char) (text : List Char) :
    Local fun after => readEscape? flags (c :: (text ++ '(' :: after)) := by
  simp only [readEscape?]
  iterate 3 refine .ite (fun _ => local_readCodePoint? hblank _ text) fun _ => ?_
  iterate 2 refine .ite (fun _ => local_readProperty? hblank _ text) fun _ => ?_
  refine .ite (fun _ => .some _ _) fun _ => ?_
  refine .ite (fun _ => .map _ _ _) fun _ => ?_
  iterate 8 refine .ite (fun _ => .some _ _) fun _ => ?_
  refine .ite (fun _ => local_readBoundary? hblank text) fun _ => ?_
  iterate 3 refine .ite (fun _ => .some _ _) fun _ => ?_
  exact .ite (fun _ => .some _ _) fun _ => .none

theorem local_openedClass? (negated : Bool) (text : List Char) :
    Local fun after => openedClass? flags negated (text ++ '(' :: after) := by
  simp only [openedClass?, takeParts_parenthesis hblank (· = '-') (by decide)]
  generalize takeParts flags (· = '-') false text = taken
  obtain ⟨hyphens, rest⟩ := taken
  rcases hyphens with _ | ⟨x, hyphens⟩
  · rcases rest with _ | ⟨c, rest⟩
    · exact .some (OpenClass.new negated) []
    by_cases hc : c = ']'
    · subst hc
      simp only [List.cons_append, skip_eq hblank]
      refine (Local.some ((OpenClass.new negated).add (.singleton ']')) rest).congr fun after => ?_
      cases rest <;> rfl
    · refine (Local.some (OpenClass.new negated) (c :: rest)).congr fun after => ?_
      split <;> simp_all
  · refine (Local.some { (OpenClass.new negated).add (.singleton '-') with
      parts := (x :: hyphens).length } rest).congr fun after => ?_
    cases rest <;> rfl

theorem local_readOpening? (text : List Char) :
    Local fun after => readOpening? flags (text ++ '(' :: after) := by
  simp only [readOpening?, skip_eq hblank]
  cases text with
  | nil => exact local_openedClass? hblank false []
  | cons c text =>
    by_cases hc : c = '^'
    · subst hc
      simp only [List.cons_append, circumflex, skip_eq hblank]
      exact local_openedClass? hblank true text
    · simp only [List.cons_append, circumflex_of_ne hc]
      exact local_openedClass? hblank false (c :: text)

omit hblank in
theorem local_greedAction (least : Nat) (most : Option Nat) (text : List Char) :
    Local fun after => Option.some (greedAction least most (text ++ '(' :: after)) := by
  simp only [greedAction, readGreed_append (show ('(' :: _).head? ≠ Option.some '?' by simp)]
  exact .some _ _

theorem local_readBound? (text : List Char) :
    Local fun after => readBound? flags (text ++ '(' :: after) := by
  have hdrop (text after : List Char) : (text ++ '(' :: after).dropWhile Text.isBlank =
      text.dropWhile Text.isBlank ++ '(' :: after := by
    rw [List.dropWhile_append]
    split
    · next h =>
      rw [List.isEmpty_iff.1 h]
      exact List.dropWhile_cons_of_neg (by decide)
    · rfl
  simp only [readBound?, hdrop, takeParts_parenthesis hblank Char.isDigit (by decide)]
  exact .ite (fun _ => .none) fun _ => .some _ _

theorem local_readMost? (least : Nat) (text : List Char) :
    Local fun after => (readMost? flags least (text ++ '(' :: after)).map fun x =>
      ((x.1, x.2.1), x.2.2) := by
  have hbound : Local fun after => (readBound? flags (text ++ '(' :: after)).bind fun x =>
      if x.2.head? = Option.some '\x7d' ∧ least ≤ x.1 then
        Option.some ((least, Option.some x.1), x.2.tail)
      else Option.none := by
    refine (local_readBound? hblank text).bind fun most rest => ?_
    rcases rest with _ | ⟨c, rest⟩
    · exact .none
    · show Local fun after => if Option.some c = Option.some '\x7d' ∧ least ≤ most then
        Option.some ((least, Option.some most), rest ++ '(' :: after) else Option.none
      exact .ite (fun _ => .some _ rest) fun _ => .none
  have hne {c : Char} (hc : c ≠ '\x7d') (rest : List Char) :
      (readMost? flags least (c :: rest)).map (fun x => ((x.1, x.2.1), x.2.2)) =
        (readBound? flags (c :: rest)).bind fun x =>
          if x.2.head? = Option.some '\x7d' ∧ least ≤ x.1 then
            Option.some ((least, Option.some x.1), x.2.tail)
          else Option.none := by
    rw [readMost?_of_ne (skip_eq hblank _) hc, Option.map_bind]
    refine congrArg _ (funext fun x => ?_)
    simp only [Function.comp_apply]
    split <;> rfl
  cases text with
  | nil => exact hbound.congr fun after => hne (by decide) after
  | cons c text =>
    by_cases hc : c = '\x7d'
    · subst hc
      refine (Local.some (least, Option.none) text).congr fun after => ?_
      rw [readMost?, skip_eq hblank]
      rfl
    · exact hbound.congr fun after => hne hc _

theorem local_readBounds? (text : List Char) :
    Local fun after => (readBounds? flags (text ++ '(' :: after)).map fun x =>
      ((x.1, x.2.1), x.2.2) := by
  obtain ⟨x, hx⟩ := local_readBound? hblank text
  simp only [readBounds?, skip_eq hblank, hx]
  rcases x with _ | ⟨least, rest⟩
  · exact .none
  simp only [Option.map_some, Option.bind_some]
  rcases rest with _ | ⟨c, rest⟩
  · exact .none
  by_cases hc : c = '\x7d'
  · subst hc
    exact Local.some (least, Option.some least) rest
  by_cases hcomma : c = ','
  · subst hcomma
    exact local_readMost? hblank least rest
  · refine Local.none.congr fun after => ?_
    simp [boundsBehind?, hc, hcomma]

theorem local_countedAction? (text : List Char) :
    Local fun after => countedAction? flags (text ++ '(' :: after) := by
  refine ((local_readBounds? hblank text).bind (g := fun x =>
    Option.some (greedAction x.1.1 x.1.2 (skip flags x.2))) fun bounds rest => ?_).congr
    fun after => ?_
  · simp only [skip_eq hblank]
    exact local_greedAction bounds.1 bounds.2 rest
  · rw [countedAction?]
    cases readBounds? flags (text ++ '(' :: after) <;> rfl

omit hblank in
theorem local_readName? (text : List Char) :
    Local fun after => readName? (text ++ '(' :: after) := by
  by_cases h : ∃ name rest, IsName name ∧ text = name ++ '>' :: rest
  · obtain ⟨name, rest, hname, rfl⟩ := h
    refine (Local.some (String.ofList name) rest).congr fun after => ?_
    rw [List.append_assoc, List.cons_append, readName?_append hname]
  · refine Local.none.congr fun after => Option.eq_none_iff_forall_ne_some.2 fun ⟨name, rest⟩ hread => ?_
    obtain ⟨hname, heq⟩ := eq_append_of_readName? hread
    have hparenthesis : '(' ∉ name.toList := by
      obtain ⟨hfirst, hothers, -⟩ := hname
      intro hmem
      cases hchars : name.toList with
      | nil =>
        rw [hchars] at hmem
        cases hmem
      | cons x others =>
        rw [hchars] at hmem hfirst hothers
        rcases List.mem_cons.1 hmem with rfl | hmem
        · exact absurd (show isNameStart '(' = true from hfirst) (by decide)
        · exact absurd (List.all_eq_true.1 hothers _ hmem) (by decide)
    rcases List.append_eq_append_iff.1 heq with ⟨part, hpart, htail⟩ | ⟨part, hpart, htail⟩
    · cases part with
      | nil => cases htail
      | cons x part =>
        cases htail
        exact hparenthesis (hpart ▸ List.mem_append_right _ List.mem_cons_self)
    · cases part with
      | nil => cases htail
      | cons x part =>
        cases htail
        exact h ⟨name.toList, part, hname, hpart⟩

omit hblank in
theorem local_namedAction? (text : List Char) :
    Local fun after => namedAction? (text ++ '(' :: after) :=
  (local_readName? text).mapFirst fun name => Action.capture (Option.some name)

omit hblank in
theorem readSigns?_parenthesis (text after : List Char) :
    readSigns? (text ++ '(' :: after) =
      (readSigns? text).map fun x => (x.1, x.2.1, x.2.2 ++ '(' :: after) := by
  induction text with
  | nil => rfl
  | cons c text ih =>
    rw [List.cons_append, readSigns?, readSigns?, ih]
    split
    · rfl
    · split
      · cases readSigns? text <;> rfl
      · split
        · cases readSigns? text <;> rfl
        · rfl

omit hblank in
theorem local_flagAction? (flags : Flags) (text : List Char) :
    Local fun after => flagAction? flags (text ++ '(' :: after) := by
  simp only [flagAction?, readSigns?_parenthesis]
  rcases readSigns? text with _ | ⟨signs, stop, rest⟩
  · exact .none
  simp only [Option.map_some, Option.bind_some]
  refine .ite (fun _ => .none) fun _ => .ite (fun _ => .some _ rest) fun _ => ?_
  exact .ite (fun _ => .none) fun _ => .some _ rest

omit hblank in
theorem local_markedAction? (flags : Flags) (text : List Char) :
    Local fun after => markedAction? flags (text ++ '(' :: after) := by
  have hflags := local_flagAction? flags text
  rcases text with _ | ⟨c, text⟩
  · exact hflags
  by_cases hp : c = 'P'
  · subst hp
    rcases text with _ | ⟨x, text⟩
    · exact hflags
    by_cases hx : x = '<'
    · subst hx
      exact local_namedAction? text
    · refine hflags.congr fun after => ?_
      rw [markedAction?.eq_def]
      split <;> simp_all
  by_cases hangle : c = '<'
  · subst hangle
    rcases text with _ | ⟨x, text⟩
    · exact local_namedAction? []
    by_cases hx : x = '=' ∨ x = '!'
    · rcases hx with rfl | rfl
      · exact .none
      · exact .none
    · refine (local_namedAction? (x :: text)).congr fun after => ?_
      rw [markedAction?.eq_def]
      split <;> simp_all
  · refine hflags.congr fun after => ?_
    rw [markedAction?.eq_def]
    split <;> simp_all

theorem local_groupAction? (text : List Char) :
    Local fun after => groupAction? flags (text ++ '(' :: after) := by
  simp only [groupAction?, skip_eq hblank]
  cases text with
  | nil => exact .some (Action.capture Option.none) []
  | cons c text =>
    by_cases hc : c = '?'
    · subst hc
      exact local_markedAction? flags text
    · refine (Local.some (Action.capture Option.none) (c :: text)).congr fun after => ?_
      split <;> simp_all

/-- A step that opens no class ends in front of the parenthesis. -/
theorem local_action? {c : Char} {text : List Char} (hclass : c ≠ '[')
    (hescape : c = '\\' → text ≠ []) :
    Local fun after => action? flags (c :: (text ++ '(' :: after)) := by
  simp only [action?]
  refine .ite (fun _ => local_groupAction? hblank text) fun _ => ?_
  iterate 2 refine .ite (fun _ => .some _ _) fun _ => ?_
  refine .ite (fun h => absurd h hclass) fun _ => ?_
  iterate 3 refine .ite (fun _ => local_greedAction _ _ text) fun _ => ?_
  refine .ite (fun _ => local_countedAction? hblank text) fun _ => ?_
  refine .ite (fun h => ?_) fun _ => ?_
  · obtain ⟨x, text, rfl⟩ := List.exists_cons_of_ne_nil (hescape h)
    exact (local_readEscape? hblank x text).bind fun primitive rest =>
      .map (primitiveRegex? flags primitive) _ rest
  refine .ite (fun _ => .map _ _ _) fun _ => ?_
  iterate 2 refine .ite (fun _ => .some _ _) fun _ => ?_
  exact .map _ _ _

end Lapse.Regex.Reader
