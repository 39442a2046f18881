import Mathlib
import Lapse.Json.Printer
import Lapse.Json.Reader
import Lapse.Proofs.Calendar.Digits

/-!
# JSON values read back

A value that is written over lines is read back, when its numbers are whole and fit into 64 bits and
it is not too deep.
-/
namespace Lapse.Json

variable {bound fuel depth : Nat} {c : Char} {text rest gap : List Char}

theorem hexDigit_hexDigitChar : ∀ n < 16, Text.hexDigit (hexDigitChar n) = n := by decide

theorem isHexDigit_hexDigitChar : ∀ n < 16, ((hexDigitChar n).isDigit ||
    ('a' ≤ hexDigitChar n && hexDigitChar n ≤ 'f') ||
    ('A' ≤ hexDigitChar n && hexDigitChar n ≤ 'F')) := by decide

theorem readFourDigits?_hexDigitChar {n : Nat} (hn : n < 256) (more : List Char) :
    readFourDigits? ('0' :: '0' :: hexDigitChar (n / 16) :: hexDigitChar (n % 16) :: more) =
      some (n, more) := by
  have hhigh : n / 16 < 16 := by omega
  have hlow : n % 16 < 16 := by omega
  have hdigits : ['0', '0', hexDigitChar (n / 16), hexDigitChar (n % 16)].all fun x =>
      x.isDigit || ('a' ≤ x && x ≤ 'f') || ('A' ≤ x && x ≤ 'F') := by
    have hzero : '0'.isDigit := by decide
    simp only [List.all_cons, List.all_nil, isHexDigit_hexDigitChar _ hhigh,
      isHexDigit_hexDigitChar _ hlow, hzero, Bool.true_or, Bool.and_true]
  have hvalue : Text.hexValue ['0', '0', hexDigitChar (n / 16), hexDigitChar (n % 16)] = n := by
    have hzero : Text.hexDigit '0' = 0 := rfl
    simp only [Text.hexValue, List.foldl_cons, List.foldl_nil, hzero,
      hexDigit_hexDigitChar _ hhigh, hexDigit_hexDigitChar _ hlow]
    omega
  rw [readFourDigits?]
  simp only [hdigits, if_true, hvalue]

theorem readUnits?_of_control (hc : c.toNat < 32) (more : List Char) :
    readUnits? ('0' :: '0' :: hexDigitChar (c.toNat / 16) :: hexDigitChar (c.toNat % 16) :: more) =
      some (c, more) := by
  rw [readUnits?, readFourDigits?_hexDigitChar (by omega)]
  simp only [Option.bind_eq_bind, Option.bind_some]
  rw [if_pos (Or.inl (by omega)), Char.ofNat_toNat]
  rfl

/-- A character of a string is written as it is or as an escape of it. -/
theorem escapeChar_cases (c : Char) :
    (escapeChar c = [c] ∧ c ≠ '"' ∧ c ≠ '\\' ∧ ¬ c.toNat < 32) ∨
      ∃ escape, escapeChar c = '\\' :: escape ∧
        ∀ more, readEscape? (escape ++ more) = some (c, more) := by
  rw [escapeChar]
  split
  · next h =>
    subst h
    exact .inr ⟨_, rfl, fun _ => rfl⟩
  next hquote =>
  split
  · next h =>
    subst h
    exact .inr ⟨_, rfl, fun _ => rfl⟩
  next hbackslash =>
  split
  · next h =>
    subst h
    exact .inr ⟨_, rfl, fun _ => rfl⟩
  split
  · next h =>
    subst h
    exact .inr ⟨_, rfl, fun _ => rfl⟩
  split
  · next h =>
    subst h
    exact .inr ⟨_, rfl, fun _ => rfl⟩
  split
  · next h =>
    subst h
    exact .inr ⟨_, rfl, fun _ => rfl⟩
  split
  · next h =>
    subst h
    exact .inr ⟨_, rfl, fun _ => rfl⟩
  split
  · next h => exact .inr ⟨_, rfl, fun more => readUnits?_of_control h more⟩
  · next h => exact .inl ⟨rfl, hquote, hbackslash, h⟩

theorem readString?_escaped (text done : List Char)
    (hfuel : (text.flatMap escapeChar).length < fuel) :
    readString? fuel done (text.flatMap escapeChar ++ '"' :: rest) =
      some (String.ofList (done.reverse ++ text), rest) := by
  induction text generalizing fuel done with
  | nil =>
    obtain ⟨fuel, rfl⟩ := Nat.exists_eq_add_of_lt hfuel
    rw [List.flatMap_nil, List.nil_append, readString?, if_pos rfl, List.append_nil]
  | cons c text ih =>
    obtain ⟨fuel, rfl⟩ : ∃ n, fuel = n + 1 := ⟨fuel - 1, by omega⟩
    rw [List.flatMap_cons] at hfuel ⊢
    have hdone : (c :: done).reverse ++ text = done.reverse ++ c :: text := by simp
    rcases escapeChar_cases c with ⟨hc, hquote, hbackslash, hcontrol⟩ | ⟨escape, hc, hread⟩
    · rw [hc] at hfuel ⊢
      have ih := ih (c :: done) (by simpa using hfuel)
      rw [List.singleton_append, List.cons_append, readString?, if_neg hquote, if_neg hbackslash,
        if_neg hcontrol, ih, hdone]
    · rw [hc, List.cons_append] at hfuel ⊢
      rw [List.length_cons, List.length_append] at hfuel
      have ih := @ih fuel (c :: done) (by omega)
      rw [List.cons_append, readString?, if_neg (by decide), if_pos rfl, List.append_assoc, hread]
      dsimp only
      rw [ih, hdone]

theorem readString?_quote (s : String) (hbound : (quote s ++ rest).length ≤ bound) :
    readString? bound [] (s.toList.flatMap escapeChar ++ '"' :: rest) = some (s, rest) := by
  have hfuel : (s.toList.flatMap escapeChar).length < bound := by
    simp only [quote, List.length_append, List.length_cons] at hbound
    omega
  rw [readString?_escaped _ _ hfuel]
  simp

theorem quote_append (s : String) (rest : List Char) :
    quote s ++ rest = '"' :: (s.toList.flatMap escapeChar ++ '"' :: rest) := by
  simp [quote]

/-- What may stand behind a number. -/
def EndsNumber (rest : List Char) : Prop :=
  ∀ c ∈ rest.head?, ¬ c.isDigit ∧ c ≠ '.' ∧ c ≠ 'e' ∧ c ≠ 'E'

theorem endsNumber_nil : EndsNumber [] := by simp [EndsNumber]

theorem endsNumber_cons (h : c = ',' ∨ c = '\n') : EndsNumber (c :: rest) := by
  intro d hd
  cases hd
  rcases h with rfl | rfl <;> decide

theorem takeDigits_append {digits : List Char} (hdigits : ∀ c ∈ digits, c.isDigit)
    (hrest : EndsNumber rest) : takeDigits (digits ++ rest) = (digits, rest) := by
  obtain ⟨htake, hdrop⟩ := span_isDigit_append hdigits fun c hc => (hrest c hc).1
  rw [takeDigits, htake, hdrop]

theorem readFraction?_of_endsNumber (hrest : EndsNumber rest) :
    readFraction? rest = some ([], rest) := by
  cases rest with
  | nil => rfl
  | cons c rest =>
    rw [readFraction?]
    intro more h
    exact (hrest c rfl).2.1 (List.cons.inj h).1

theorem readExponent?_of_endsNumber (hrest : EndsNumber rest) :
    readExponent? rest = some ([], rest) := by
  cases rest with
  | nil => rfl
  | cons c rest =>
    obtain ⟨-, -, hlower, hupper⟩ := hrest c rfl
    exact if_neg (by simp [hlower, hupper])

theorem toDigits_head_ne_zero {n : Nat} (hlength : 1 < (Nat.toDigits 10 n).length) :
    (Nat.toDigits 10 n).head? ≠ some '0' := by
  intro hhead
  obtain ⟨digits, hdigits⟩ := List.head?_eq_some_iff.1 hhead
  have hall : ∀ c ∈ digits, c.isDigit := fun c hc =>
    Nat.isDigit_of_mem_toDigits (b := 10) (n := n) (by decide) (by decide)
      (hdigits ▸ List.mem_cons_of_mem _ hc)
  have hvalue : n = Nat.ofDigitChars 10 digits 0 := by
    have h := Nat.ofDigitChars_ten_toDigits (n := n)
    rw [hdigits, Nat.ofDigitChars_cons] at h
    exact h.symm
  have hlt : n < 10 ^ digits.length := hvalue ▸ ofDigitChars_lt hall
  rw [hdigits, List.length_cons] at hlength
  have hle := (Nat.length_toDigits_le_iff (show 1 < 10 by decide) (by omega)).2 hlt
  rw [hdigits, List.length_cons] at hle
  omega

theorem readNumber?_toDigits {negative : Bool} {n : Nat}
    (hn : if negative then 0 < n ∧ n ≤ Nat.pow 2 63 else n < Nat.pow 2 64)
    (hrest : EndsNumber rest) :
    readNumber? negative (Nat.toDigits 10 n ++ rest) =
      some (.int (if negative then -(n : Int) else n), rest) := by
  have hdigits : ∀ c ∈ Nat.toDigits 10 n, c.isDigit := fun c hc =>
    Nat.isDigit_of_mem_toDigits (by decide) (by decide) hc
  have hvalue : (Nat.toDigits 10 n).foldl (fun n c => n * 10 + (c.toNat - '0'.toNat)) 0 = n :=
    (Calendar.decimalValue_eq_ofDigitChars _).trans Nat.ofDigitChars_ten_toDigits
  have hzero : ¬ ((Nat.toDigits 10 n).isEmpty ∨
      (Nat.toDigits 10 n).head? = some '0' ∧ 1 < (Nat.toDigits 10 n).length) := by
    rintro (hempty | ⟨hhead, hlength⟩)
    · simp at hempty
    · exact toDigits_head_ne_zero hlength hhead
  rw [readNumber?, takeDigits_append hdigits hrest]
  simp only [Option.bind_eq_bind, readFraction?_of_endsNumber hrest,
    readExponent?_of_endsNumber hrest, Option.bind_some]
  rw [if_neg hzero, hvalue, if_pos ⟨rfl, rfl, hn⟩]
  rfl

/-- Values whose numbers are whole and fit into 64 bits, with or without a sign, and in which others
stand at most `depth` deep. -/
inductive IsWhole : (depth : Nat) → Json → Prop
  | null {depth : Nat} : IsWhole depth .null
  | bool {depth : Nat} (value : Bool) : IsWhole depth (.bool value)
  | int {depth : Nat} {value : Int} (low : -2 ^ 63 ≤ value) (high : value < 2 ^ 64) :
    IsWhole depth (.int value)
  | string {depth : Nat} (value : String) : IsWhole depth (.string value)
  | array {depth : Nat} {items : List Json} (h : ∀ j ∈ items, IsWhole depth j) :
    IsWhole (depth + 1) (.array items)
  | object {depth : Nat} {members : List (String × Json)} (h : ∀ m ∈ members, IsWhole depth m.2) :
    IsWhole (depth + 1) (.object members)

theorem dropGap_append (hgap : ∀ c ∈ gap, isGap c) (text : List Char) :
    dropGap (gap ++ text) = dropGap text :=
  List.dropWhile_append_of_pos hgap

theorem dropGap_cons (hc : ¬ isGap c) : dropGap (c :: rest) = c :: rest :=
  List.dropWhile_cons_of_neg hc

/-- A gap before a value does not matter. -/
theorem readValue?_gap (hgap : ∀ c ∈ gap, isGap c) (text : List Char) :
    readValue? bound depth (gap ++ text) = readValue? bound depth text := by
  conv_lhs => rw [readValue?.eq_def]
  conv_rhs => rw [readValue?.eq_def]
  dsimp only
  rw [dropGap_append hgap]

theorem isGap_of_mem_newline {level : Nat} (h : c ∈ newline level) : isGap c := by
  rw [newline, List.mem_cons] at h
  rcases h with rfl | h
  · rfl
  · rw [List.eq_of_mem_replicate h]
    rfl

theorem dropGap_newline_cons (level : Nat) (hc : ¬ isGap c) :
    dropGap (newline level ++ c :: rest) = c :: rest := by
  rw [dropGap_append fun _ => isGap_of_mem_newline, dropGap_cons hc]

theorem readValue?_newline (level : Nat) (text : List Char) :
    readValue? bound depth (newline level ++ text) = readValue? bound depth text :=
  readValue?_gap (fun _ => isGap_of_mem_newline) text

theorem not_isGap_of_isDigit (hc : c.isDigit) : ¬ isGap c := by
  intro hgap
  simp only [isGap, decide_eq_true_eq] at hgap
  rcases hgap with rfl | rfl | rfl | rfl <;> cases hc

theorem readValue?_digit (hc : c.isDigit) (text : List Char) :
    readValue? bound depth (c :: text) = readNumber? false (c :: text) := by
  have hne {d : Char} (hd : ¬ d.isDigit) : c ≠ d := fun h => hd (h ▸ hc)
  have hgap : dropGap (c :: text) = c :: text := dropGap_cons (not_isGap_of_isDigit hc)
  refine (readValue?.eq_8 bound _ depth c text (hne (by decide)) (hne (by decide))
    (hne (by decide)) (hne (by decide)) (hne (by decide)) hgap (fun _ _ => hne (by decide))
    fun _ _ => hne (by decide)).trans (if_pos hc)

/-- The reader takes what is written for a value and leaves the text behind it. -/
def Reads (bound depth : Nat) (j : Json) : Prop :=
  ∀ level rest, EndsNumber rest → (pretty level j ++ rest).length ≤ bound →
    readValue? bound depth (pretty level j ++ rest) = some (j, rest)

theorem reads_null : Reads bound depth .null := by
  intro level rest _ _
  cases depth <;> rfl

theorem reads_bool (value : Bool) : Reads bound depth (.bool value) := by
  intro level rest _ _
  cases value <;> cases depth <;> rfl

theorem reads_string (value : String) : Reads bound depth (.string value) := by
  intro level rest _ hbound
  rw [pretty] at hbound ⊢
  have hstring : readValue? bound depth ('"' :: (value.toList.flatMap escapeChar ++ '"' :: rest)) =
      (readString? bound [] (value.toList.flatMap escapeChar ++ '"' :: rest)).map
        fun r => (.string r.1, r.2) := by cases depth <;> rfl
  rw [quote_append, hstring, readString?_quote value hbound]
  rfl

theorem exists_toDigits_eq (n : Nat) : ∃ c more, Nat.toDigits 10 n = c :: more ∧ c.isDigit := by
  obtain ⟨c, more, h⟩ := List.exists_cons_of_ne_nil (Nat.toDigits_ne_nil (n := n) (b := 10))
  exact ⟨c, more, h, Nat.isDigit_of_mem_toDigits (by decide) (by decide) (h ▸ List.mem_cons_self)⟩

theorem pretty_ofNat (level n : Nat) : pretty level (.int n) = Nat.toDigits 10 n := by
  rw [pretty]
  exact Nat.toList_repr

theorem pretty_negSucc (level n : Nat) :
    pretty level (.int (.negSucc n)) = '-' :: Nat.toDigits 10 (n + 1) := by
  rw [pretty]
  show ("-" ++ (n + 1).repr).toList = _
  rw [String.toList_append, Nat.toList_repr]
  rfl

theorem reads_int {value : Int} (low : -2 ^ 63 ≤ value) (high : value < 2 ^ 64) :
    Reads bound depth (.int value) := by
  intro level rest hrest _
  cases value with
  | ofNat n =>
    have hn : n < Nat.pow 2 64 := by
      have : (n : Int) < 2 ^ 64 := high
      show n < 2 ^ 64
      omega
    rw [Int.ofNat_eq_natCast, pretty_ofNat]
    have hread := @readNumber?_toDigits rest false n hn hrest
    obtain ⟨c, more, hdigits, hc⟩ := exists_toDigits_eq n
    rw [hdigits] at hread ⊢
    rw [List.cons_append, readValue?_digit hc]
    exact hread
  | negSucc n =>
    have hn : 0 < n + 1 ∧ n + 1 ≤ Nat.pow 2 63 := by
      have : n + 1 ≤ 2 ^ 63 := by omega
      exact ⟨n.succ_pos, this⟩
    have hnegative (text : List Char) :
        readValue? bound depth ('-' :: text) = readNumber? true text := by cases depth <;> rfl
    rw [pretty_negSucc, List.cons_append, hnegative]
    exact @readNumber?_toDigits rest true (n + 1) hn hrest

/-- A value begins neither with a gap nor as the end of an array. -/
theorem exists_pretty_eq {j : Json} (h : IsWhole depth j) (level : Nat) :
    ∃ c more, pretty level j = c :: more ∧ ¬ isGap c ∧ c ≠ ']' := by
  cases h with
  | null => exact ⟨_, _, rfl, by decide, by decide⟩
  | bool value => cases value <;> exact ⟨_, _, rfl, by decide, by decide⟩
  | @int _ value _ _ =>
    cases value with
    | ofNat n =>
      obtain ⟨c, more, hdigits, hc⟩ := exists_toDigits_eq n
      refine ⟨c, more, (pretty_ofNat level n).trans hdigits, not_isGap_of_isDigit hc, ?_⟩
      rintro rfl
      cases hc
    | negSucc n => exact ⟨_, _, pretty_negSucc level n, by decide, by decide⟩
  | string value => exact ⟨_, _, by rw [pretty, quote]; rfl, by decide, by decide⟩
  | @array _ items _ =>
    cases items with
    | nil => exact ⟨_, _, rfl, by decide, by decide⟩
    | cons => exact ⟨_, _, by rw [pretty]; rfl, by decide, by decide⟩
  | @object _ members _ =>
    cases members with
    | nil => exact ⟨_, _, rfl, by decide, by decide⟩
    | cons => exact ⟨_, _, by rw [pretty]; rfl, by decide, by decide⟩

section Items

variable {level close : Nat}

/-- The items of an array that is not empty, with what stands behind them. -/
def itemsText (level close : Nat) (item : Json) (items : List Json) (rest : List Char) :
    List Char :=
  pretty level item ++ (prettyItems level items ++ (newline close ++ ']' :: rest))

theorem endsNumber_newline (level : Nat) (text : List Char) : EndsNumber (newline level ++ text) :=
  endsNumber_cons (.inr rfl)

theorem readItems?_itemsText {item : Json} {items : List Json}
    (hread : ∀ j ∈ item :: items, Reads bound depth j) (hfuel : items.length < fuel)
    (hbound : (itemsText level close item items rest).length ≤ bound) :
    readItems? (readValue? bound depth) fuel
        (newline level ++ itemsText level close item items rest) =
      some (item :: items, rest) := by
  induction items generalizing item fuel with
  | nil =>
    obtain ⟨fuel, rfl⟩ := Nat.exists_eq_add_of_lt hfuel
    have hvalue := hread item List.mem_cons_self level _ (endsNumber_newline close _) hbound
    rw [readItems?, readValue?_newline, itemsText, prettyItems, List.nil_append, hvalue]
    simp only [Option.bind_eq_bind, Option.bind_some]
    rw [dropGap_newline_cons close (by decide)]
    rfl
  | cons second items ih =>
    obtain ⟨fuel, rfl⟩ : ∃ n, fuel = n + 1 := ⟨fuel - 1, by omega⟩
    obtain ⟨hitem, hitems⟩ := List.forall_mem_cons.1 hread
    have htext : itemsText level close item (second :: items) rest =
        pretty level item ++ ',' :: (newline level ++ itemsText level close second items rest) := by
      simp [itemsText, prettyItems]
    rw [htext] at hbound ⊢
    have hmore : (itemsText level close second items rest).length ≤ bound := by
      simp only [List.length_append, List.length_cons] at hbound
      omega
    have ih := ih hitems (by simpa using hfuel) hmore
    rw [readItems?, readValue?_newline, hitem level _ (endsNumber_cons (.inl rfl)) hbound]
    simp only [Option.bind_eq_bind, Option.bind_some]
    rw [dropGap_cons (by decide)]
    show (readItems? (readValue? bound depth) fuel _).bind _ = _
    rw [ih]
    rfl

theorem length_le_length_prettyItems (level : Nat) (items : List Json) :
    items.length ≤ (prettyItems level items).length := by
  induction items with
  | nil => exact Nat.le_refl 0
  | cons item items ih =>
    rw [prettyItems]
    simp only [List.length_cons, List.length_append]
    omega

end Items

theorem reads_array {need : Nat} {items : List Json} (hwhole : ∀ j ∈ items, IsWhole need j)
    (hread : ∀ j ∈ items, Reads bound (depth + 1) j) :
    Reads bound (depth + 2) (.array items) := by
  intro level rest hrest hbound
  cases items with
  | nil => rfl
  | cons item items =>
    have htext : pretty level (.array (item :: items)) ++ rest =
        '[' :: (newline (level + 1) ++ itemsText (level + 1) level item items rest) := by
      simp [pretty, itemsText]
    rw [htext] at hbound ⊢
    have hlength := length_le_length_prettyItems (level + 1) items
    have hitems := @readItems?_itemsText bound bound (depth + 1) rest (level + 1) level item items
      hread (by simp only [itemsText, List.length_cons, List.length_append] at hbound; omega)
      (by simp only [List.length_cons, List.length_append] at hbound; omega)
    obtain ⟨c, more, hpretty, hgap, hclose⟩ :=
      exists_pretty_eq (hwhole item List.mem_cons_self) (level + 1)
    have hopen : dropGap (newline (level + 1) ++ itemsText (level + 1) level item items rest) =
        c :: (more ++ (prettyItems (level + 1) items ++ (newline level ++ ']' :: rest))) := by
      rw [itemsText, hpretty, List.cons_append, dropGap_newline_cons _ hgap]
    rw [readValue?.eq_1 _ _ _ _ (dropGap_cons (by decide)), hopen]
    split
    · next h => exact absurd (List.cons.inj h).1 hclose
    · rw [if_neg (by omega), hitems]
      rfl

section Members

variable {level close : Nat} {name : String} {value : Json} {members : List (String × Json)}

/-- The members of an object that is not empty, with what stands behind them. -/
def membersText (level close : Nat) (name : String) (value : Json) (members : List (String × Json))
    (rest : List Char) : List Char :=
  quote name ++ ':' :: ' ' :: (pretty level value ++
    (prettyMembers level members ++ (newline close ++ '\x7d' :: rest)))

/-- One member is read up to what stands behind its value. -/
theorem readMembers?_member {text : List Char} (hread : Reads bound depth value)
    (htext : EndsNumber text)
    (hbound : (quote name ++ ':' :: ' ' :: (pretty level value ++ text)).length ≤ bound) :
    readMembers? (readValue? bound depth) bound (fuel + 1)
        (newline level ++ (quote name ++ ':' :: ' ' :: (pretty level value ++ text))) =
      match dropGap text with
      | '\x7d' :: rest => some ([(name, value)], rest)
      | ',' :: rest => do
        let (members, rest) ← readMembers? (readValue? bound depth) bound fuel rest
        return ((name, value) :: members, rest)
      | _ => none := by
  have hname := readString?_quote name hbound
  have hvalue : readValue? bound depth (' ' :: (pretty level value ++ text)) =
      some (value, text) := by
    rw [← List.singleton_append, readValue?_gap (by simp [isGap]), hread level text htext]
    simp only [List.length_append, List.length_cons] at hbound ⊢
    omega
  rw [readMembers?, quote_append, dropGap_newline_cons _ (by decide)]
  show (readString? bound [] _).bind _ = _
  rw [hname]
  show (readValue? bound depth (' ' :: (pretty level value ++ text))).bind _ = _
  rw [hvalue]
  rfl

theorem readMembers?_membersText (hread : ∀ m ∈ (name, value) :: members, Reads bound depth m.2)
    (hfuel : members.length < fuel)
    (hbound : (membersText level close name value members rest).length ≤ bound) :
    readMembers? (readValue? bound depth) bound fuel
        (newline level ++ membersText level close name value members rest) =
      some ((name, value) :: members, rest) := by
  induction members generalizing name value fuel with
  | nil =>
    obtain ⟨fuel, rfl⟩ := Nat.exists_eq_add_of_lt hfuel
    have hvalue : Reads bound depth value := hread (name, value) List.mem_cons_self
    rw [membersText, prettyMembers, List.nil_append] at hbound ⊢
    rw [readMembers?_member hvalue (endsNumber_newline close _) hbound,
      dropGap_newline_cons close (by decide)]
    rfl
  | cons second members ih =>
    obtain ⟨fuel, rfl⟩ : ∃ n, fuel = n + 1 := ⟨fuel - 1, by omega⟩
    obtain ⟨hvalue, hmembers⟩ := List.forall_mem_cons.1 hread
    obtain ⟨other, last⟩ := second
    have htext : membersText level close name value ((other, last) :: members) rest =
        quote name ++ ':' :: ' ' :: (pretty level value ++
          ',' :: (newline level ++ membersText level close other last members rest)) := by
      simp [membersText, prettyMembers]
    rw [htext] at hbound ⊢
    have hmore : (membersText level close other last members rest).length ≤ bound := by
      simp only [List.length_append, List.length_cons] at hbound
      omega
    have ih := ih hmembers (by simpa using hfuel) hmore
    rw [readMembers?_member hvalue (endsNumber_cons (.inl rfl)) hbound, dropGap_cons (by decide)]
    show (readMembers? (readValue? bound depth) bound fuel _).bind _ = _
    rw [ih]
    rfl

theorem length_le_length_prettyMembers (level : Nat) (members : List (String × Json)) :
    members.length ≤ (prettyMembers level members).length := by
  induction members with
  | nil => exact Nat.le_refl 0
  | cons member members ih =>
    obtain ⟨name, value⟩ := member
    rw [prettyMembers]
    simp only [List.length_cons, List.length_append]
    omega

end Members

theorem reads_object {members : List (String × Json)}
    (hread : ∀ m ∈ members, Reads bound (depth + 1) m.2) :
    Reads bound (depth + 2) (.object members) := by
  intro level rest hrest hbound
  cases members with
  | nil => rfl
  | cons member members =>
    obtain ⟨name, value⟩ := member
    have htext : pretty level (.object ((name, value) :: members)) ++ rest =
        '\x7b' :: (newline (level + 1) ++
          membersText (level + 1) level name value members rest) := by
      simp [pretty, membersText]
    rw [htext] at hbound ⊢
    have hlength := length_le_length_prettyMembers (level + 1) members
    have hmembers := @readMembers?_membersText bound bound (depth + 1) rest (level + 1) level name
      value members hread
      (by simp only [membersText, List.length_cons, List.length_append] at hbound; omega)
      (by simp only [List.length_cons, List.length_append] at hbound; omega)
    have hopen : dropGap
        (newline (level + 1) ++ membersText (level + 1) level name value members rest) =
          membersText (level + 1) level name value members rest := by
      rw [membersText, quote_append, dropGap_newline_cons _ (by decide)]
    rw [readValue?.eq_2 _ _ _ _ (dropGap_cons (by decide)), hopen]
    split
    · next h =>
      rw [membersText, quote_append] at h
      cases h
    · rw [if_neg (by omega), hmembers]
      rfl

/-- What is left of the depth at a value is more than what the value needs. -/
theorem IsWhole.reads {j : Json} (h : IsWhole depth j) {room : Nat} (hroom : depth < room) :
    Reads bound room j := by
  induction h generalizing room with
  | null => exact reads_null
  | bool value => exact reads_bool value
  | int low high => exact reads_int low high
  | string value => exact reads_string value
  | array hitems ih =>
    obtain ⟨room, rfl⟩ : ∃ n, room = n + 2 := ⟨room - 2, by omega⟩
    exact reads_array hitems fun j hj => ih j hj (by omega)
  | object _ ih =>
    obtain ⟨room, rfl⟩ : ∃ n, room = n + 2 := ⟨room - 2, by omega⟩
    exact reads_object fun m hm => ih m hm (by omega)

/-- A value that is not too deep is read back from its text. -/
theorem ofText?_pretty {j : Json} (h : IsWhole depth j) (hdepth : depth < depthLimit) :
    ofText? (pretty 0 j) = some j := by
  have hread := h.reads hdepth 0 [] endsNumber_nil (Nat.le_succ (pretty 0 j ++ []).length)
  rw [List.append_nil] at hread
  rw [ofText?, hread]
  rfl

end Lapse.Json
