import Mathlib
import Lapse.Proofs.Toml.Quoted
import Lapse.Toml.Printer
import Lapse.Toml.Reader

/-!
# Documents read back

A document of assignments with plain and different keys is read back as the table of its keys and
values, in the order in which they are written.
-/
namespace Lapse.Toml

/-- The value that a field of a written document stands for. -/
def Field.value : Field → Toml
  | text value => .string value
  | flag value => .boolean value
  | texts items => .array (items.map .string)

variable {bound fuel : Nat} {c : Char} {text rest : List Char}

/-- A character that begins no blank, no comment and no new line. -/
def IsSolid (c : Char) : Prop := ¬ isGap c ∧ c ≠ '#' ∧ c ≠ '\n' ∧ c ≠ '\r'

theorem dropFiller_of_solid (hc : IsSolid c) : dropFiller fuel (c :: rest) = c :: rest := by
  obtain ⟨hgap, hcomment, hline, hreturn⟩ := hc
  cases fuel with
  | zero => rfl
  | succ fuel =>
    rw [dropFiller, if_neg hgap, if_neg hcomment, lineEnd?_cons hline hreturn]

/-- Blanks and line feeds in front of something solid are dropped. -/
theorem dropFiller_append {gap : List Char} (hgap : ∀ c ∈ gap, c = ' ' ∨ c = '\n')
    (hc : IsSolid c) (hfuel : gap.length ≤ fuel) :
    dropFiller fuel (gap ++ c :: rest) = c :: rest := by
  induction gap generalizing fuel with
  | nil => exact dropFiller_of_solid hc
  | cons d gap ih =>
    obtain ⟨hd, hgap⟩ := List.forall_mem_cons.1 hgap
    obtain ⟨fuel, rfl⟩ : ∃ n, fuel = n + 1 := ⟨fuel - 1, by simp at hfuel; omega⟩
    have ih := ih hgap (by simpa using hfuel)
    rw [List.cons_append, dropFiller]
    rcases hd with rfl | rfl
    · exact ih
    · exact ih

theorem exists_quote_eq (text : String) :
    ∃ mark more, quote text = mark :: more ∧ (mark = '"' ∨ mark = '\'') := by
  rw [quote, quoteAs]
  cases (styleFor text.toList).block <;> cases (styleFor text.toList).escapes <;>
    exact ⟨_, _, rfl, by simp⟩

theorem isSolid_mark (h : c = '"' ∨ c = '\'') : IsSolid c := by
  rcases h with rfl | rfl <;> refine ⟨by decide, by decide, by decide, by decide⟩

theorem dropFiller_quote {gap : List Char} (hgap : ∀ c ∈ gap, c = ' ' ∨ c = '\n') (text : String)
    (hfuel : gap.length ≤ fuel) :
    dropFiller fuel (gap ++ (quote text ++ rest)) = quote text ++ rest := by
  obtain ⟨mark, more, hquote, hmark⟩ := exists_quote_eq text
  rw [hquote]
  exact dropFiller_append hgap (isSolid_mark hmark) hfuel

/-- What may stand behind a value. -/
def EndsValue (rest : List Char) : Prop := ∀ c ∈ rest.head?, c ≠ '"' ∧ c ≠ '\''

theorem readValue?_quote {depth : Nat} (text : String) (hrest : EndsValue rest)
    (hbound : (quote text ++ rest).length ≤ bound) :
    readValue? bound depth (quote text ++ rest) = some (.string text, rest) := by
  have hread := readQuoted?_quote hrest text hbound
  obtain ⟨mark, more, hquote, hmark⟩ := exists_quote_eq text
  rw [hquote] at hread ⊢
  rcases hmark with rfl | rfl <;>
  · rw [List.cons_append] at hread ⊢
    rw [readValue?, hread]
    rfl

theorem readWord?_append (word : List Char) (value : Toml) (rest : List Char) :
    readWord? word value (word ++ rest) = some (value, rest) := by
  rw [readWord?, if_pos (List.isPrefixOf_iff_prefix.2 (List.prefix_append word rest)),
    List.drop_left]

theorem readValue?_flag {depth : Nat} (value : Bool) :
    readValue? bound depth ((Field.flag value).written ++ rest) = some (.boolean value, rest) := by
  cases value with
  | true =>
    show readValue? bound depth ('t' :: ("rue".toList ++ rest)) = _
    rw [readValue?]
    exact readWord?_append "true".toList _ rest
  | false =>
    show readValue? bound depth ('f' :: ("alse".toList ++ rest)) = _
    rw [readValue?]
    exact readWord?_append "false".toList _ rest

theorem readItems?_close {item : List Char → Option (Toml × List Char)} {gap : List Char}
    (hgap : ∀ c ∈ gap, c = ' ' ∨ c = '\n') (hbound : gap.length ≤ bound) :
    readItems? bound item (fuel + 1) (gap ++ ']' :: rest) = some ([], rest) := by
  have hsolid : IsSolid ']' := by refine ⟨by decide, by decide, by decide, by decide⟩
  rw [readItems?, dropFiller_append hgap hsolid hbound]
  rfl

section Items

variable {item : List Char → Option (Toml × List Char)} {start more last : List Char} {value : Toml}
  {values : List Toml}

theorem readItems?_last (hstart : dropFiller bound start = text) (hopen : text.head? ≠ some ']')
    (hitem : item text = some (value, rest)) (hclose : dropFiller bound rest = ']' :: more) :
    readItems? bound item (fuel + 1) start = some ([value], more) := by
  rw [readItems?, hstart]
  split
  · next h => exact absurd rfl hopen
  · rw [hitem]
    simp only [bind, Option.bind, hclose]
    rfl

theorem readItems?_more (hstart : dropFiller bound start = text) (hopen : text.head? ≠ some ']')
    (hitem : item text = some (value, rest)) (hcomma : dropFiller bound rest = ',' :: more)
    (hmore : readItems? bound item fuel more = some (values, last)) :
    readItems? bound item (fuel + 1) start = some (value :: values, last) := by
  rw [readItems?, hstart]
  split
  · next h => exact absurd rfl hopen
  · rw [hitem]
    simp only [bind, Option.bind, hcomma, hmore]
    rfl

end Items

theorem head?_quote_append_ne (text : String) : (quote text ++ rest).head? ≠ some ']' := by
  obtain ⟨mark, more, hquote, hmark⟩ := exists_quote_eq text
  rw [hquote]
  rcases hmark with rfl | rfl <;> simp

theorem isSolid_separator (h : c = ',' ∨ c = ']') : IsSolid c := by
  rcases h with rfl | rfl <;> refine ⟨by decide, by decide, by decide, by decide⟩

theorem endsValue_separator (h : c = ',' ∨ c = ']') : EndsValue (c :: rest) := by
  intro d hd
  cases hd
  rcases h with rfl | rfl <;> exact ⟨by decide, by decide⟩

/-- The item of a list that stands on a line of its own. -/
def itemLine (text : String) : List Char := "    ".toList ++ quote text ++ ",\n".toList

theorem readItems?_lines {depth : Nat} (items : List String) (hfuel : items.length < fuel)
    (hbound : ('\n' :: (items.flatMap itemLine ++ ']' :: rest)).length ≤ bound) :
    readItems? bound (readValue? bound depth) fuel
        ('\n' :: (items.flatMap itemLine ++ ']' :: rest)) =
      some (items.map .string, rest) := by
  induction items generalizing fuel with
  | nil =>
    obtain ⟨fuel, rfl⟩ := Nat.exists_eq_add_of_lt hfuel
    have hgap : ['\n'].length ≤ bound := by simp at hbound ⊢; omega
    exact readItems?_close (by simp) hgap
  | cons item items ih =>
    obtain ⟨fuel, rfl⟩ : ∃ n, fuel = n + 1 := ⟨fuel - 1, by omega⟩
    have hline : '\n' :: ((item :: items).flatMap itemLine ++ ']' :: rest) =
        ['\n', ' ', ' ', ' ', ' '] ++
          (quote item ++ ',' :: '\n' :: (items.flatMap itemLine ++ ']' :: rest)) := by
      simp [itemLine]
    rw [hline] at hbound ⊢
    have hgap : ['\n', ' ', ' ', ' ', ' '].length ≤ bound := by
      rw [List.length_append] at hbound
      omega
    have hitem : (quote item ++ ',' :: '\n' :: (items.flatMap itemLine ++ ']' :: rest)).length ≤
        bound := by
      rw [List.length_append] at hbound
      omega
    have hmore : ('\n' :: (items.flatMap itemLine ++ ']' :: rest)).length ≤ bound := by
      rw [List.length_append, List.length_cons] at hitem
      omega
    exact readItems?_more (dropFiller_quote (by simp) item hgap) (head?_quote_append_ne item)
      (readValue?_quote item (endsValue_separator (.inl rfl)) hitem)
      (dropFiller_of_solid (isSolid_separator (.inl rfl)))
      (ih (by simpa using hfuel) hmore)

theorem length_le_length_flatMap {α : Type} {f : α → List Char} {xs : List α}
    (h : ∀ a ∈ xs, f a ≠ []) : xs.length ≤ (xs.flatMap f).length := by
  induction xs with
  | nil => exact Nat.le_refl 0
  | cons a xs ih =>
    obtain ⟨ha, hxs⟩ := List.forall_mem_cons.1 h
    have hpos := List.length_pos_iff.2 ha
    have hrest := ih hxs
    rw [List.flatMap_cons, List.length_append, List.length_cons]
    omega

theorem readValue?_texts {depth : Nat} (items : List String) (hdepth : depth ≠ 0)
    (hbound : ((Field.texts items).written ++ rest).length ≤ bound) :
    readValue? bound (depth + 1) ((Field.texts items).written ++ rest) =
      some ((Field.texts items).value, rest) := by
  have hlist {more : List Char} (hread : readItems? bound (readValue? bound depth) bound more =
      some (items.map .string, rest)) :
      readValue? bound (depth + 1) ('[' :: more) = some (.array (items.map .string), rest) := by
    rw [readValue?, if_neg hdepth, hread]
    rfl
  match items with
  | [] =>
    have hwritten : (Field.texts []).written ++ rest = '[' :: ([] ++ ']' :: rest) := rfl
    rw [hwritten] at hbound ⊢
    obtain ⟨fuel, rfl⟩ : ∃ n, bound = n + 1 := ⟨bound - 1, by simp at hbound; omega⟩
    exact hlist (readItems?_close (by simp) (Nat.zero_le _))
  | [item] =>
    have hwritten : (Field.texts [item]).written ++ rest = '[' :: (quote item ++ ']' :: rest) := by
      simp [Field.written, listText]
    rw [hwritten] at hbound ⊢
    obtain ⟨fuel, rfl⟩ : ∃ n, bound = n + 1 := ⟨bound - 1, by simp at hbound; omega⟩
    have hstart : dropFiller (fuel + 1) (quote item ++ ']' :: rest) = quote item ++ ']' :: rest :=
      @dropFiller_quote _ _ [] (by simp) item (Nat.zero_le _)
    have hitem : readValue? (fuel + 1) depth (quote item ++ ']' :: rest) =
        some (.string item, ']' :: rest) :=
      readValue?_quote item (endsValue_separator (.inr rfl)) (Nat.le_of_succ_le hbound)
    exact hlist (readItems?_last hstart (head?_quote_append_ne item) hitem
      (dropFiller_of_solid (isSolid_separator (.inr rfl))))
  | first :: second :: items =>
    have hwritten : (Field.texts (first :: second :: items)).written ++ rest =
        '[' :: '\n' :: ((first :: second :: items).flatMap itemLine ++ ']' :: rest) := by
      have hlines : (Field.texts (first :: second :: items)).written =
        "[\n".toList ++ (first :: second :: items).flatMap itemLine ++ [']'] := rfl
      simp only [hlines, List.append_assoc]
      rfl
    rw [hwritten] at hbound ⊢
    have hlength : (first :: second :: items).length ≤
        ((first :: second :: items).flatMap itemLine).length :=
      length_le_length_flatMap fun item _ => by simp [itemLine]
    refine hlist (readItems?_lines _ ?_ ?_)
    · rw [List.length_cons, List.length_cons, List.length_append] at hbound
      omega
    · rw [List.length_cons] at hbound
      omega

theorem exists_written_eq (value : Field) :
    ∃ c more, value.written = c :: more ∧ ¬ isGap c := by
  cases value with
  | text text =>
    obtain ⟨mark, more, hquote, hmark⟩ := exists_quote_eq text
    exact ⟨mark, more, hquote, (isSolid_mark hmark).1⟩
  | flag value => cases value <;> exact ⟨_, _, rfl, by decide⟩
  | texts items =>
    match items with
    | [] => exact ⟨_, _, rfl, by decide⟩
    | [_] => exact ⟨_, _, rfl, by decide⟩
    | _ :: _ :: _ => exact ⟨_, _, rfl, by decide⟩

theorem readValue?_written (value : Field)
    (hbound : (value.written ++ '\n' :: rest).length ≤ bound) :
    readValue? bound depthLimit (value.written ++ '\n' :: rest) =
      some (value.value, '\n' :: rest) := by
  cases value with
  | text text =>
    refine readValue?_quote text ?_ hbound
    intro c hc
    cases hc
    exact ⟨by decide, by decide⟩
  | flag value => exact readValue?_flag value
  | texts items => exact readValue?_texts items (by decide) hbound

/-- A key that is written without quotes. -/
def IsBareKey (key : String) : Prop := key ≠ "" ∧ ∀ c ∈ key.toList, isBareKeyChar c

theorem exists_bareKey_eq {key : String} (h : IsBareKey key) :
    ∃ c more, key.toList = c :: more ∧ isBareKeyChar c := by
  obtain ⟨hne, hall⟩ := h
  cases hlist : key.toList with
  | nil => exact absurd (String.toList_eq_nil_iff.1 hlist) hne
  | cons c more => exact ⟨c, more, rfl, hall c (hlist ▸ List.mem_cons_self)⟩

theorem ne_of_isBareKeyChar {d : Char} (hc : isBareKeyChar c) (hd : ¬ isBareKeyChar d) : c ≠ d :=
  fun h => hd (h ▸ hc)

theorem isSolid_of_isBareKeyChar (hc : isBareKeyChar c) : IsSolid c := by
  refine ⟨?_, ne_of_isBareKeyChar hc (by decide), ne_of_isBareKeyChar hc (by decide),
    ne_of_isBareKeyChar hc (by decide)⟩
  have hblank : c ≠ ' ' := ne_of_isBareKeyChar hc (by decide)
  have htab : c ≠ '\t' := ne_of_isBareKeyChar hc (by decide)
  simp [isGap, hblank, htab]

theorem readName?_bare {key : String} (h : IsBareKey key) :
    readName? bound (key.toList ++ ' ' :: rest) = some (key, ' ' :: rest) := by
  have htake : (key.toList ++ ' ' :: rest).takeWhile isBareKeyChar = key.toList := by
    rw [List.takeWhile_append_of_pos h.2]
    exact List.append_nil _
  have hdrop : (key.toList ++ ' ' :: rest).dropWhile isBareKeyChar = ' ' :: rest := by
    rw [List.dropWhile_append_of_pos h.2]
    rfl
  have hempty : ¬ key.toList.isEmpty := by simpa using h.1
  obtain ⟨c, more, hlist, hc⟩ := exists_bareKey_eq h
  have hquoted : readQuotedLine? bound (key.toList ++ ' ' :: rest) = none := by
    have hdouble : c ≠ '"' := ne_of_isBareKeyChar hc (by decide)
    have hsingle : c ≠ '\'' := ne_of_isBareKeyChar hc (by decide)
    simp [hlist, readQuotedLine?, hdouble, hsingle]
  rw [readName?, hquoted]
  simp only [htake, hdrop, hempty, String.ofList_toList]
  rfl

theorem readKey?_bare {key : String} (h : IsBareKey key) :
    readKey? (bound + 1) (key.toList ++ " = ".toList ++ rest) =
      some (⟨[], key⟩, '=' :: ' ' :: rest) := by
  have htext : key.toList ++ " = ".toList ++ rest = key.toList ++ ' ' :: '=' :: ' ' :: rest := by
    rw [List.append_assoc]
    rfl
  have hstart : (key.toList ++ " = ".toList ++ rest).dropWhile isGap =
      key.toList ++ ' ' :: '=' :: ' ' :: rest := by
    rw [htext]
    obtain ⟨c, more, hlist, hc⟩ := exists_bareKey_eq h
    rw [hlist]
    exact List.dropWhile_cons_of_neg (isSolid_of_isBareKeyChar hc).1
  have hnames : readNames? (bound + 1) (bound + 1) (key.toList ++ " = ".toList ++ rest) =
      some ([key], '=' :: ' ' :: rest) := by
    rw [readNames?, hstart, readName?_bare h]
    rfl
  rw [readKey?, hnames]
  rfl

/-- An assignment as it is written in a document. -/
def assignmentText (assignment : String × Field) : List Char :=
  assignment.1.toList ++ " = ".toList ++ assignment.2.written ++ ['\n']

theorem documentText_eq (assignments : List (String × Field)) :
    documentText assignments = assignments.flatMap assignmentText := rfl

theorem readStatement?_assignmentText {assignment : String × Field} (hkey : IsBareKey assignment.1)
    (hbound : (assignmentText assignment ++ rest).length ≤ bound + 1) :
    readStatement? (bound + 1) (assignmentText assignment ++ rest) =
      some (.assignment ⟨[], assignment.1⟩ assignment.2.value, rest) := by
  obtain ⟨key, field⟩ := assignment
  have htext : assignmentText (key, field) ++ rest =
      key.toList ++ " = ".toList ++ (field.written ++ '\n' :: rest) := by
    simp [assignmentText]
  rw [htext] at hbound ⊢
  have hvalue : readValue? (bound + 1) depthLimit (field.written ++ '\n' :: rest) =
      some (field.value, '\n' :: rest) := by
    refine readValue?_written field ?_
    rw [List.length_append] at hbound
    omega
  have hblank : (' ' :: (field.written ++ '\n' :: rest)).dropWhile isGap =
      field.written ++ '\n' :: rest := by
    obtain ⟨c, more, hwritten, hc⟩ := exists_written_eq field
    rw [hwritten]
    exact List.dropWhile_cons_of_neg hc
  have hpair : readPair? (bound + 1) (readValue? (bound + 1) depthLimit)
      (key.toList ++ " = ".toList ++ (field.written ++ '\n' :: rest)) =
        some ((⟨[], key⟩, field.value), '\n' :: rest) := by
    rw [readPair?, readKey?_bare hkey]
    simp only [Option.bind_eq_bind, Option.bind_some, expect?, if_true, hblank, hvalue]
    rfl
  have hhead (more : List Char) :
      key.toList ++ " = ".toList ++ (field.written ++ '\n' :: rest) ≠ '[' :: more := by
    obtain ⟨c, others, hlist, hc⟩ := exists_bareKey_eq hkey
    intro h
    rw [hlist] at h
    exact ne_of_isBareKeyChar hc (d := '[') (by decide) (List.cons.inj h).1
  rw [readStatement?]
  · rw [hpair]
    rfl
  · exact fun more => hhead _
  · exact fun more => hhead _

theorem readStatements?_documentText {assignments : List (String × Field)}
    (hkeys : ∀ assignment ∈ assignments, IsBareKey assignment.1)
    (hfuel : assignments.length < fuel)
    (hbound : (documentText assignments).length ≤ bound + 1) :
    readStatements? (bound + 1) fuel (documentText assignments) =
      some (assignments.map fun a => .assignment ⟨[], a.1⟩ a.2.value) := by
  rw [documentText_eq] at hbound ⊢
  induction assignments generalizing fuel with
  | nil =>
    obtain ⟨fuel, rfl⟩ := Nat.exists_eq_add_of_lt hfuel
    rfl
  | cons assignment assignments ih =>
    obtain ⟨fuel, rfl⟩ : ∃ n, fuel = n + 1 := ⟨fuel - 1, by omega⟩
    obtain ⟨hkey, hkeys⟩ := List.forall_mem_cons.1 hkeys
    rw [List.flatMap_cons] at hbound ⊢
    have hread := readStatement?_assignmentText hkey hbound
    have ih := ih hkeys (by simpa using hfuel) (by rw [List.length_append] at hbound; omega)
    have hfiller : dropFiller (bound + 1) (assignmentText assignment ++
        assignments.flatMap assignmentText) =
          assignmentText assignment ++ assignments.flatMap assignmentText := by
      obtain ⟨c, more, hlist, hc⟩ := exists_bareKey_eq hkey
      rw [assignmentText, hlist]
      exact dropFiller_of_solid (isSolid_of_isBareKeyChar hc)
    rw [readStatements?, hfiller]
    split
    · next h => simp [assignmentText] at h
    · rw [hread]
      simp only [Option.bind_eq_bind, Option.bind_some, ih]
      rfl

theorem addAll?_assignments {assignments : List (String × Field)} {entries : Entries}
    (hnodup : (assignments.map (·.1)).Nodup)
    (hfresh : ∀ a ∈ assignments, find? entries a.1 = none) :
    addAll? [] entries (assignments.map fun a => .assignment ⟨[], a.1⟩ a.2.value) =
      some (entries ++ assignments.map fun a => (a.1, a.2.value)) := by
  induction assignments generalizing entries with
  | nil => simp [addAll?]
  | cons assignment assignments ih =>
    obtain ⟨hfirst, hfresh⟩ := List.forall_mem_cons.1 hfresh
    rw [List.map_cons, List.nodup_cons] at hnodup
    have hinsert : insert? entries assignment.1 assignment.2.value =
        some (entries ++ [(assignment.1, assignment.2.value)]) := by
      rw [insert?, hfirst]
    rw [List.map_cons, addAll?]
    simp only [changeBelow?, assign?, hinsert, Option.bind_eq_bind, Option.bind_some]
    rw [ih hnodup.2]
    · simp
    · intro a ha
      have hne : a.1 ≠ assignment.1 := fun h =>
        hnodup.1 (h ▸ List.mem_map_of_mem ha)
      have hnone := hfresh a ha
      rw [find?] at hnone ⊢
      simp [List.lookup_append, hnone, List.lookup, beq_false_of_ne hne]

/-- A document of assignments with plain and different keys is read back as their table. -/
theorem ofText?_documentText {assignments : List (String × Field)}
    (hkeys : ∀ assignment ∈ assignments, IsBareKey assignment.1)
    (hnodup : (assignments.map (·.1)).Nodup) :
    ofText? (documentText assignments) = some (assignments.map fun a => (a.1, a.2.value)) := by
  have hmark : (documentText assignments).head? ≠ some '\ufeff' := by
    cases assignments with
    | nil => simp [documentText]
    | cons assignment assignments =>
      obtain ⟨c, more, hlist, hc⟩ := exists_bareKey_eq (hkeys assignment List.mem_cons_self)
      rw [documentText_eq, List.flatMap_cons, assignmentText, hlist]
      exact fun h => ne_of_isBareKeyChar hc (d := '\ufeff') (by decide) (Option.some.inj h)
  have hlength : assignments.length ≤ (documentText assignments).length :=
    length_le_length_flatMap fun a _ => by simp
  have hread := readStatements?_documentText hkeys (Nat.lt_succ_of_le hlength)
    (Nat.le_succ (documentText assignments).length)
  rw [ofText?, if_neg hmark]
  simp only [hread, Option.bind_some, ofStatements?]
  rw [addAll?_assignments hnodup fun a ha => rfl]
  rfl

end Lapse.Toml
