import Mathlib
import Lapse.Proofs.Calendar.DayNumber
import Lapse.Proofs.Calendar.Digits
import Lapse.Proofs.DateLayout

/-!
# Writing dates in a layout

`write` is the other direction of `readDate?`. For layouts with one kind of year, a text is read as a
date exactly when the layout can express the date and the text is what is written for it, so no two
texts stand for the same date.
-/
namespace Lapse.DateLayout

open Calendar (Date IsDay)

/-- What a date has in a field; of a short year the last two digits count. -/
def fieldOf (d : Date) : DateField → Nat
  | .year => d.year.toNat
  | .shortYear => (d.year % 100).toNat
  | .month => d.month
  | .day => d.day

/-- A piece with a number in the place of its field, filled up with zeros to the field's width. -/
def writePiece (value : DateField → Nat) : LayoutPiece → List Char
  | .field kind width => (Date.padded width (value kind)).toList
  | .literal c => [c]

/-- A date written in a layout. -/
def write (layout : DateLayout) (d : Date) : List Char :=
  layout.pieces.flatMap (writePiece (fieldOf d))

def hasField (layout : DateLayout) (kind : DateField) : Bool :=
  layout.pieces.any fun
    | .field k _ => k = kind
    | .literal _ => false

theorem hasField_iff {layout : DateLayout} {kind : DateField} :
    layout.hasField kind ↔ ∃ width, .field kind width ∈ layout.pieces := by
  rw [hasField, List.any_eq_true]
  constructor
  · rintro ⟨piece, hmem, hpiece⟩
    cases piece with
    | field k width =>
      obtain rfl : k = kind := by simpa using hpiece
      exact ⟨width, hmem⟩
    | literal c => simp at hpiece
  · rintro ⟨width, hmem⟩
    exact ⟨_, hmem, by simp⟩

/-- The dates that a layout has room for. What it has no field for must be what is taken for a
missing field. -/
structure Expresses (layout : DateLayout) (d : Date) : Prop where
  year (h : layout.hasField .year) : 0 ≤ d.year ∧ d.year ≤ 9999
  shortYear (hno : ¬ layout.hasField .year) (h : layout.hasField .shortYear) :
    1969 ≤ d.year ∧ d.year ≤ 2068
  noYear (hno : ¬ layout.hasField .year) (hno' : ¬ layout.hasField .shortYear) : d.year = 0
  noMonth (hno : ¬ layout.hasField .month) : d.month = 1
  noDay (hno : ¬ layout.hasField .day) : d.day = 1
  narrowMonth (h : .field .month 1 ∈ layout.pieces) : d.month < 10
  narrowDay (h : .field .day 1 ∈ layout.pieces) : d.day < 10

/-- The widths that a field can have. -/
def isWidth (kind : DateField) (width : Nat) : Bool :=
  match kind with
  | .year => width = 4
  | .shortYear => width = 2
  | .month | .day => width = 1 ∨ width = 2

theorem isWidth_of_mem_tokens {token : List Char} {kind : DateField} (h : (token, kind) ∈ tokens) :
    isWidth kind token.length := by
  have hall : ∀ entry ∈ tokens, isWidth entry.2 entry.1.length := by decide
  exact hall _ h

theorem isWidth_of_runField? {c : Char} {length : Nat} {kind : DateField}
    (h : runField? c length = some kind) : isWidth kind length := by
  rw [runField?] at h
  split at h
  · next hrun =>
    cases h
    simp [isWidth, hrun.2]
  split at h
  · next hrun =>
    cases h
    simp [isWidth, hrun.2]
  split at h
  · next hrun =>
    cases h
    simp [isWidth, hrun.2]
  split at h
  · next hrun =>
    cases h
    simp [isWidth, hrun.2]
  · cases h

theorem isWidth_of_cut {text : List Char} {pieces : List LayoutPiece} (h : cut text = .ok pieces)
    {kind : DateField} {width : Nat} (hmem : .field kind width ∈ pieces) : isWidth kind width := by
  fun_induction cut text generalizing pieces with
  | case1 =>
    cases h
    cases hmem
  | case2 c rest hdigit token kind' hfind ih =>
    obtain ⟨others, hcut, rfl⟩ := eq_ok_of_map h
    rcases List.mem_cons.1 hmem with e | hmem
    · obtain ⟨rfl, rfl⟩ := LayoutPiece.field.inj e
      exact isWidth_of_mem_tokens (List.mem_of_find?_eq_some hfind)
    · exact ih hcut hmem
  | case3 c rest hdigit hfind ih =>
    obtain ⟨others, hcut, rfl⟩ := eq_ok_of_map h
    rcases List.mem_cons.1 hmem with e | hmem
    · cases e
    · exact ih hcut hmem
  | case4 c rest hdigit hletter _ kind' hrun =>
    rename_i ih
    obtain ⟨others, hcut, rfl⟩ := eq_ok_of_map h
    rcases List.mem_cons.1 hmem with e | hmem
    · obtain ⟨rfl, rfl⟩ := LayoutPiece.field.inj e
      exact isWidth_of_runField? hrun
    · exact ih hcut hmem
  | case5 => cases h
  | case6 c rest hdigit hletter ih =>
    obtain ⟨others, hcut, rfl⟩ := eq_ok_of_map h
    rcases List.mem_cons.1 hmem with e | hmem
    · cases e
    · exact ih hcut hmem

theorem isWidth_of_ofText {text : List Char} {layout : DateLayout} (h : ofText text = .ok layout)
    {kind : DateField} {width : Nat} (hmem : .field kind width ∈ layout.pieces) :
    isWidth kind width :=
  isWidth_of_cut (ofText_eq_ok_iff.1 h).2 hmem

theorem pos_of_isWidth {kind : DateField} {width : Nat} (h : isWidth kind width) : 0 < width := by
  cases kind <;> simp only [isWidth, decide_eq_true_eq] at h <;> omega

namespace Fields

@[simp] theorem get_set (fields : Fields) (kind other : DateField) (value : Nat) :
    (fields.set kind value).get other = if other = kind then some value else fields.get other := by
  cases kind <;> cases other <;> rfl

theorem get_inj {a b : Fields} (h : ∀ kind, a.get kind = b.get kind) : a = b := by
  cases a
  cases b
  cases h .year
  cases h .shortYear
  cases h .month
  cases h .day
  rfl

theorem agree?_eq_some_iff {fields next : Fields} {kind : DateField} {value : Nat} :
    fields.agree? kind value = some next ↔
      (fields.get kind = none ∨ fields.get kind = some value) ∧ next = fields.set kind value := by
  rw [agree?]
  cases hget : fields.get kind with
  | none => simp [eq_comm]
  | some present =>
    by_cases hvalue : present = value
    · have hsame : fields.set kind value = fields :=
        get_inj fun other => by
          rw [get_set]
          split
          · next h => rw [h, hget, hvalue]
          · rfl
      simp [hvalue, hsame, eq_comm]
    · simp [hvalue]

/-- The fields after reading the pieces: the fields there were before, and a number that fits for
each field among the pieces. -/
structure Completes (final fields : Fields) (pieces : List LayoutPiece) : Prop where
  kept (kind : DateField) : final.get kind = fields.get kind ∨
    fields.get kind = none ∧ ∃ width, .field kind width ∈ pieces
  fits {kind : DateField} {width : Nat} (h : .field kind width ∈ pieces) :
    ∃ value, final.get kind = some value ∧ value < 10 ^ width

end Fields

/-- Pieces are read exactly where they are written with the numbers that the fields end up with. -/
theorem readFields?_eq_some_iff {pieces : List LayoutPiece}
    (hpos : ∀ kind width, .field kind width ∈ pieces → 0 < width) {fields final : Fields}
    {text : List Char} :
    readFields? pieces fields text = some final ↔ final.Completes fields pieces ∧
      text = pieces.flatMap (writePiece fun kind => (final.get kind).getD 0) := by
  induction pieces generalizing fields text with
  | nil =>
    constructor
    · intro h
      cases text with
      | nil =>
        cases h
        exact ⟨⟨fun _ => .inl rfl, fun h => by cases h⟩, rfl⟩
      | cons c text => cases h
    · rintro ⟨hcompletes, rfl⟩
      have hsame : final = fields := Fields.get_inj fun kind =>
        (hcompletes.kept kind).elim id fun h => by
          obtain ⟨-, width, hmem⟩ := h
          cases hmem
      rw [hsame]
      rfl
  | cons piece pieces ih =>
    have ih := fun {fields : Fields} {text : List Char} =>
      @ih (fun kind width h => hpos kind width (List.mem_cons_of_mem _ h)) fields text
    cases piece with
    | literal c =>
      have hcompletes : final.Completes fields (.literal c :: pieces) ↔
          final.Completes fields pieces := by
        constructor
        · exact fun h => ⟨fun kind => by simpa using h.kept kind,
            fun hmem => h.fits (List.mem_cons_of_mem _ hmem)⟩
        · exact fun h => ⟨fun kind => by simpa using h.kept kind,
            fun hmem => h.fits (by simpa using hmem)⟩
      rw [hcompletes, List.flatMap_cons, writePiece]
      cases text with
      | nil => simp [readFields?]
      | cons x text =>
        rw [readFields?]
        by_cases hx : x = c
        · simp [hx, ih]
        · simp [hx]
    | field kind width =>
      have hwidth := hpos kind width List.mem_cons_self
      constructor
      · intro h
        rw [readFields?] at h
        split at h
        case h_2 => cases h
        next value rest hread =>
        obtain ⟨hvalue, htext⟩ := (readDigits?_eq_some_iff hwidth).1 hread
        split at h
        case h_2 => cases h
        next mid hagree =>
        obtain ⟨hbefore, rfl⟩ := Fields.agree?_eq_some_iff.1 hagree
        obtain ⟨hcompletes, hrest⟩ := ih.1 h
        have hfinal : final.get kind = some value := by
          simpa using hcompletes.kept kind
        refine ⟨⟨fun other => ?_, fun {other w} hmem => ?_⟩, ?_⟩
        · by_cases hother : other = kind
          · rw [hother, hfinal]
            rcases hbefore with hnone | hsome
            · exact .inr ⟨hnone, width, List.mem_cons_self⟩
            · exact .inl hsome.symm
          · have hkept := hcompletes.kept other
            rw [Fields.get_set, if_neg hother] at hkept
            exact hkept.imp_right fun ⟨hnone, w, hmem⟩ => ⟨hnone, w, List.mem_cons_of_mem _ hmem⟩
        · rcases List.mem_cons.1 hmem with e | hmem
          · cases e
            exact ⟨value, hfinal, hvalue⟩
          · exact hcompletes.fits hmem
        · rw [List.flatMap_cons, writePiece, hfinal, Option.getD_some, htext, hrest]
      · rintro ⟨hcompletes, htext⟩
        obtain ⟨value, hfinal, hvalue⟩ := hcompletes.fits List.mem_cons_self
        have hbefore : fields.get kind = none ∨ fields.get kind = some value :=
          (hcompletes.kept kind).elim (fun h => .inr (h ▸ hfinal)) fun h => .inl h.1
        have hread (rest : List Char) : readDigits? width 0
            ((Date.padded width value).toList ++ rest) = some (value, rest) :=
          (readDigits?_eq_some_iff hwidth).2 ⟨hvalue, rfl⟩
        have hrest : final.Completes (fields.set kind value) pieces := by
          refine ⟨fun other => ?_, fun hmem => hcompletes.fits (List.mem_cons_of_mem _ hmem)⟩
          rw [Fields.get_set]
          split
          · next hother => exact .inl (hother ▸ hfinal)
          · next hother =>
            refine (hcompletes.kept other).imp_right fun ⟨hnone, w, hmem⟩ => ⟨hnone, w, ?_⟩
            exact (List.mem_cons.1 hmem).resolve_left fun e => hother (by cases e; rfl)
        rw [htext, List.flatMap_cons, writePiece, hfinal, Option.getD_some, readFields?, hread]
        simp only [Fields.agree?_eq_some_iff.2 ⟨hbefore, rfl⟩]
        exact ih.2 ⟨hrest, rfl⟩

theorem date?_eq_some_iff {fields : Fields} {d : Date} :
    fields.date? = some d ↔ (fields.fullYear : Int) = d.year ∧ fields.month.getD 1 = d.month ∧
      fields.day.getD 1 = d.day := by
  obtain ⟨year, month, day, hday⟩ := d
  rw [Fields.date?, Date.of?]
  constructor
  · intro h
    split at h
    · cases h
      exact ⟨rfl, rfl, rfl⟩
    · cases h
  · rintro ⟨rfl, rfl, rfl⟩
    rw [dif_pos hday]

variable {layout : DateLayout} {d : Date}

/-- The fields of a layout as a date fills them. -/
def filledBy (layout : DateLayout) (d : Date) : Fields where
  year := if layout.hasField .year then some (fieldOf d .year) else none
  shortYear := if layout.hasField .shortYear then some (fieldOf d .shortYear) else none
  month := if layout.hasField .month then some (fieldOf d .month) else none
  day := if layout.hasField .day then some (fieldOf d .day) else none

theorem get_filledBy (layout : DateLayout) (d : Date) (kind : DateField) :
    (layout.filledBy d).get kind =
      if layout.hasField kind then some (fieldOf d kind) else none := by
  cases kind <;> rfl

theorem Expresses.fieldOf_lt (h : layout.Expresses d) {kind : DateField} {width : Nat}
    (hwidth : isWidth kind width) (hmem : .field kind width ∈ layout.pieces) :
    fieldOf d kind < 10 ^ width := by
  obtain ⟨hmonth, hday⟩ := d.month_and_day_lt
  have hfield : layout.hasField kind := hasField_iff.2 ⟨width, hmem⟩
  cases kind with
  | year =>
    obtain rfl : width = 4 := by simpa [isWidth] using hwidth
    obtain ⟨hlow, hhigh⟩ := h.year hfield
    simp only [fieldOf]
    omega
  | shortYear =>
    obtain rfl : width = 2 := by simpa [isWidth] using hwidth
    simp only [fieldOf]
    omega
  | month =>
    obtain rfl | rfl : width = 1 ∨ width = 2 := by simpa [isWidth] using hwidth
    · exact h.narrowMonth hmem
    · exact hmonth
  | day =>
    obtain rfl | rfl : width = 1 ∨ width = 2 := by simpa [isWidth] using hwidth
    · exact h.narrowDay hmem
    · exact hday

theorem Expresses.completes_filledBy (h : layout.Expresses d)
    (hwidths : ∀ kind width, .field kind width ∈ layout.pieces → isWidth kind width) :
    (layout.filledBy d).Completes {} layout.pieces where
  kept kind := by
    rw [get_filledBy]
    split
    · next hfield => exact .inr ⟨by cases kind <;> rfl, hasField_iff.1 hfield⟩
    · exact .inl (by cases kind <;> rfl)
  fits {kind width} hmem :=
    ⟨fieldOf d kind, by rw [get_filledBy, if_pos (hasField_iff.2 ⟨width, hmem⟩)],
      h.fieldOf_lt (hwidths _ _ hmem) hmem⟩

theorem Expresses.date?_filledBy (h : layout.Expresses d) :
    (layout.filledBy d).date? = some d := by
  refine date?_eq_some_iff.2 ⟨?_, ?_, ?_⟩
  · by_cases hyear : layout.hasField .year
    · have hfull : (layout.filledBy d).fullYear = d.year.toNat := by
        simp [filledBy, Fields.fullYear, hyear, fieldOf]
      rw [hfull]
      have := (h.year hyear).1
      omega
    by_cases hshort : layout.hasField .shortYear
    · have hfull : (layout.filledBy d).fullYear =
          if 69 ≤ (d.year % 100).toNat then 1900 + (d.year % 100).toNat
          else 2000 + (d.year % 100).toNat := by
        simp [filledBy, Fields.fullYear, hyear, hshort, fieldOf]
      obtain ⟨hlow, hhigh⟩ := h.shortYear hyear hshort
      rw [hfull]
      split <;> omega
    · have hfull : (layout.filledBy d).fullYear = 0 := by
        simp [filledBy, Fields.fullYear, hyear, hshort]
      rw [hfull, h.noYear hyear hshort]
      rfl
  · by_cases hmonth : layout.hasField .month
    · simp [filledBy, hmonth, fieldOf]
    · simp [filledBy, hmonth, h.noMonth hmonth]
  · by_cases hday : layout.hasField .day
    · simp [filledBy, hday, fieldOf]
    · simp [filledBy, hday, h.noDay hday]

theorem Fields.Completes.isSome_get {final : Fields} (h : final.Completes {} layout.pieces)
    (kind : DateField) : (final.get kind).isSome ↔ layout.hasField kind := by
  rw [hasField_iff]
  constructor
  · intro hsome
    rcases h.kept kind with hkept | ⟨-, hmem⟩
    · rw [hkept] at hsome
      cases kind <;> cases hsome
    · exact hmem
  · rintro ⟨width, hmem⟩
    obtain ⟨value, hvalue, -⟩ := h.fits hmem
    rw [hvalue]
    rfl

theorem Fields.Completes.get_eq_none {final : Fields} (h : final.Completes {} layout.pieces)
    {kind : DateField} (hno : ¬ layout.hasField kind) : final.get kind = none :=
  Option.not_isSome_iff_eq_none.1 fun hsome => hno ((h.isSome_get kind).1 hsome)

/-- The number in a short field is that of the date that is read. -/
theorem year_of_short {final : Fields} {short : Nat} (hnone : final.year = none)
    (hshort : final.shortYear = some short) (hlt : short < 100)
    (hyear : (final.fullYear : Int) = d.year) :
    1969 ≤ d.year ∧ d.year ≤ 2068 ∧ (d.year % 100).toNat = short := by
  rw [Fields.fullYear, hnone, hshort] at hyear
  simp only at hyear
  split at hyear <;> omega

/-- What a layout reads as a date it has room for, and the date fills the fields as they are
read. -/
theorem expresses_of_date? {final : Fields}
    (hwidths : ∀ kind width, .field kind width ∈ layout.pieces → isWidth kind width)
    (hyears : ¬ (layout.hasField .year ∧ layout.hasField .shortYear))
    (h : final.Completes {} layout.pieces) (hdate : final.date? = some d) :
    layout.Expresses d ∧ ∀ kind, layout.hasField kind → final.get kind = some (fieldOf d kind) := by
  obtain ⟨hyear, hmonth, hday⟩ := date?_eq_some_iff.1 hdate
  have hlong (hfield : layout.hasField .year) :
      0 ≤ d.year ∧ d.year ≤ 9999 ∧ final.year = some d.year.toNat := by
    obtain ⟨width, hmem⟩ := hasField_iff.1 hfield
    obtain ⟨value, hvalue, hlt⟩ := h.fits hmem
    obtain rfl : width = 4 := by simpa [isWidth] using hwidths _ _ hmem
    have hvalue : final.year = some value := hvalue
    rw [Fields.fullYear, hvalue] at hyear
    simp only at hyear
    rw [hvalue]
    refine ⟨by omega, by omega, congrArg some (by omega)⟩
  have hshort (hno : ¬ layout.hasField .year) (hfield : layout.hasField .shortYear) :
      1969 ≤ d.year ∧ d.year ≤ 2068 ∧ final.shortYear = some (d.year % 100).toNat := by
    obtain ⟨width, hmem⟩ := hasField_iff.1 hfield
    obtain ⟨value, hvalue, hlt⟩ := h.fits hmem
    obtain rfl : width = 2 := by simpa [isWidth] using hwidths _ _ hmem
    obtain ⟨hlow, hhigh, hmod⟩ := year_of_short (h.get_eq_none hno) hvalue hlt hyear
    exact ⟨hlow, hhigh, hmod ▸ hvalue⟩
  have hmonths {width : Nat} (hmem : .field .month width ∈ layout.pieces) :
      final.month = some d.month ∧ d.month < 10 ^ width := by
    obtain ⟨value, hvalue, hlt⟩ := h.fits hmem
    have hvalue : final.month = some value := hvalue
    rw [hvalue, Option.getD_some] at hmonth
    exact ⟨hmonth ▸ hvalue, hmonth ▸ hlt⟩
  have hdays {width : Nat} (hmem : .field .day width ∈ layout.pieces) :
      final.day = some d.day ∧ d.day < 10 ^ width := by
    obtain ⟨value, hvalue, hlt⟩ := h.fits hmem
    have hvalue : final.day = some value := hvalue
    rw [hvalue, Option.getD_some] at hday
    exact ⟨hday ▸ hvalue, hday ▸ hlt⟩
  refine ⟨?_, fun kind hfield => ?_⟩
  · exact {
      year := fun hfield => ⟨(hlong hfield).1, (hlong hfield).2.1⟩
      shortYear := fun hno hfield => ⟨(hshort hno hfield).1, (hshort hno hfield).2.1⟩
      noYear := fun hno hno' => by
        have hnone : final.year = none := h.get_eq_none hno
        have hnone' : final.shortYear = none := h.get_eq_none hno'
        rw [Fields.fullYear, hnone, hnone'] at hyear
        exact hyear.symm
      noMonth := fun hno => by
        have hnone : final.month = none := h.get_eq_none hno
        rw [hnone] at hmonth
        exact hmonth.symm
      noDay := fun hno => by
        have hnone : final.day = none := h.get_eq_none hno
        rw [hnone] at hday
        exact hday.symm
      narrowMonth := fun hmem => (hmonths hmem).2
      narrowDay := fun hmem => (hdays hmem).2 }
  · obtain ⟨width, hmem⟩ := hasField_iff.1 hfield
    cases kind with
    | year => exact (hlong hfield).2.2
    | shortYear => exact (hshort (fun hyear => hyears ⟨hyear, hfield⟩) hfield).2.2
    | month => exact (hmonths hmem).1
    | day => exact (hdays hmem).1

theorem flatMap_writePiece_congr {value value' : DateField → Nat} {pieces : List LayoutPiece}
    (h : ∀ kind width, .field kind width ∈ pieces → value kind = value' kind) :
    pieces.flatMap (writePiece value) = pieces.flatMap (writePiece value') := by
  refine List.flatMap_congr fun piece hpiece => ?_
  cases piece with
  | field kind width => rw [writePiece, writePiece, h kind width hpiece]
  | literal c => rfl

/-- A text is read as a date exactly when the layout has room for the date and the text is what is
written for it. -/
theorem readDate?_eq_some_iff
    (hwidths : ∀ kind width, .field kind width ∈ layout.pieces → isWidth kind width)
    (hyears : ¬ (layout.hasField .year ∧ layout.hasField .shortYear)) {text : List Char} :
    layout.readDate? text = some d ↔ layout.Expresses d ∧ text = layout.write d := by
  have hpos (kind : DateField) (width : Nat) (hmem : .field kind width ∈ layout.pieces) :
      0 < width := pos_of_isWidth (hwidths kind width hmem)
  rw [readDate?, Option.bind_eq_some_iff]
  constructor
  · rintro ⟨final, hread, hdate⟩
    obtain ⟨hcompletes, htext⟩ := (readFields?_eq_some_iff hpos).1 hread
    obtain ⟨hexpresses, hfields⟩ := expresses_of_date? hwidths hyears hcompletes hdate
    refine ⟨hexpresses, htext.trans (flatMap_writePiece_congr fun kind width hmem => ?_)⟩
    rw [hfields kind (hasField_iff.2 ⟨width, hmem⟩), Option.getD_some]
  · rintro ⟨hexpresses, htext⟩
    refine ⟨layout.filledBy d, (readFields?_eq_some_iff hpos).2
      ⟨hexpresses.completes_filledBy hwidths, htext.trans ?_⟩, hexpresses.date?_filledBy⟩
    refine flatMap_writePiece_congr fun kind width hmem => ?_
    rw [get_filledBy, if_pos (hasField_iff.2 ⟨width, hmem⟩), Option.getD_some]

/-- Reading and writing in a layout with one kind of year undo each other: a text that is read as a
date is what is written for it, so different texts are read as different dates, and what is written
for a date that the layout has room for is read as that date. -/
theorem write_and_readDate? {layoutText : List Char} (h : ofText layoutText = .ok layout)
    (hyears : ¬ (layout.hasField .year ∧ layout.hasField .shortYear)) :
    (∀ text d, layout.readDate? text = some d → layout.write d = text ∧ layout.Expresses d) ∧
    (∀ text other d, layout.readDate? text = some d → layout.readDate? other = some d →
      text = other) ∧
    ∀ d, layout.Expresses d → layout.readDate? (layout.write d) = some d := by
  have hiff {text : List Char} {d : Date} :
      layout.readDate? text = some d ↔ layout.Expresses d ∧ text = layout.write d :=
    readDate?_eq_some_iff (fun kind width => isWidth_of_ofText h) hyears
  refine ⟨fun text d hread => ?_, fun text other d hread hother => ?_, fun d hd => ?_⟩
  · obtain ⟨hexpresses, htext⟩ := hiff.1 hread
    exact ⟨htext.symm, hexpresses⟩
  · rw [(hiff.1 hread).2, (hiff.1 hother).2]
  · exact hiff.2 ⟨hd, rfl⟩

/-- A layout with a day in two widths, a short year and a literal digit. -/
theorem write_and_readDate?_of_repeated_day :
    ∃ layout d, ofText "2/1/06 3 (02)".toList = .ok layout ∧
      ¬ (layout.hasField .year ∧ layout.hasField .shortYear) ∧ layout.Expresses d ∧
      layout.readDate? "7/3/99 3 (07)".toList = some d ∧
      layout.write d = "7/3/99 3 (07)".toList ∧ layout.readDate? (layout.write d) = some d := by
  let layout : DateLayout := ⟨[.field .day 1, .literal '/', .field .month 1, .literal '/',
    .field .shortYear 2, .literal ' ', .literal '3', .literal ' ', .literal '(', .field .day 2,
    .literal ')']⟩
  let d : Date := ⟨1999, 3, 7, by decide⟩
  have hlayout : ofText "2/1/06 3 (02)".toList = .ok layout := by cbv
  have hyears : ¬ (layout.hasField .year ∧ layout.hasField .shortYear) := by decide
  have hread : layout.readDate? "7/3/99 3 (07)".toList = some d := by decide +kernel
  obtain ⟨hwritten, -, hback⟩ := write_and_readDate? hlayout hyears
  obtain ⟨hwrite, hexpresses⟩ := hwritten _ _ hread
  exact ⟨layout, d, hlayout, hyears, hexpresses, hread, hwrite, hback d hexpresses⟩

end Lapse.DateLayout
