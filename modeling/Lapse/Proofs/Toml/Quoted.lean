import Mathlib
import Lapse.Toml.Quoted

/-!
# Quoted texts read back

Every text is read back from the quotes that it is written in, in each of the styles that can hold
it. What follows must not begin with a mark of the same kind.
-/
namespace Lapse.Toml

variable {mark c : Char} {bound : Nat} {text more value rest : List Char}

theorem hexDigit_upperHexDigit : ∀ n < 16, Text.hexDigit (upperHexDigit n) = n := by decide

theorem isHexDigit_upperHexDigit : ∀ n < 16, isHexDigit (upperHexDigit n) := by decide

theorem readScalar?_upperHexDigit (hc : c.toNat < 128) (more : List Char) :
    readScalar? 4 (['0', '0', upperHexDigit (c.toNat / 16), upperHexDigit (c.toNat % 16)] ++ more) =
      some (c, more) := by
  have hhigh : c.toNat / 16 < 16 := by omega
  have hlow : c.toNat % 16 < 16 := by omega
  have hvalue : Text.hexValue
      ['0', '0', upperHexDigit (c.toNat / 16), upperHexDigit (c.toNat % 16)] = c.toNat := by
    have hzero : Text.hexDigit '0' = 0 := rfl
    simp only [Text.hexValue, List.foldl_cons, List.foldl_nil, hzero,
      hexDigit_upperHexDigit _ hhigh, hexDigit_upperHexDigit _ hlow]
    omega
  have hdigits : ['0', '0', upperHexDigit (c.toNat / 16), upperHexDigit (c.toNat % 16)].all
      isHexDigit := by
    have hzero : isHexDigit '0' := by decide
    simp [hzero, isHexDigit_upperHexDigit _ hhigh, isHexDigit_upperHexDigit _ hlow]
  generalize upperHexDigit (c.toNat / 16) = high at hvalue hdigits ⊢
  generalize upperHexDigit (c.toNat % 16) = low at hvalue hdigits ⊢
  have hvalid : (Text.hexValue ['0', '0', high, low]).isValidChar := hvalue ▸ c.valid
  refine (if_pos ⟨rfl, hdigits, hvalid⟩).trans ?_
  show some (Char.ofNat (Text.hexValue ['0', '0', high, low]), more) = _
  rw [hvalue, Char.ofNat_toNat]

theorem toNat_lt_of_not_isPlain (h : ¬ isPlain c) : c.toNat < 128 := by
  simp only [isPlain, decide_eq_true_eq, not_or, not_and_or, not_not] at h
  omega

/-- What stands after a backslash is read as the character. -/
def IsEscapeOf (escape : List Char) (c : Char) : Prop :=
  ∀ more, readEscape? (escape ++ more) = some (c, more) ∧ continued? (escape ++ more) = none

theorem isEscapeOf_quote : IsEscapeOf ['"'] '"' := fun _ => ⟨rfl, rfl⟩

/-- A character other than a double quote is written as it is or as an escape of it. -/
theorem escapeChar_cases (block : Bool) (hc : c ≠ '"') :
    (escapeChar block c = [c] ∧ c ≠ '\\' ∧ (isPlain c ∨ block ∧ c = '\n')) ∨
      ∃ escape, escapeChar block c = '\\' :: escape ∧ IsEscapeOf escape c := by
  rw [escapeChar]
  split
  · next h =>
    subst h
    exact .inr ⟨_, rfl, fun _ => ⟨rfl, rfl⟩⟩
  next hbackslash =>
  split
  · next h =>
    subst h
    exact .inr ⟨_, rfl, fun _ => ⟨rfl, rfl⟩⟩
  split
  · next h =>
    subst h
    exact .inr ⟨_, rfl, fun _ => ⟨rfl, rfl⟩⟩
  split
  · next h =>
    cases block with
    | true => exact .inl ⟨h ▸ rfl, hbackslash, .inr ⟨rfl, h⟩⟩
    | false =>
      subst h
      exact .inr ⟨_, rfl, fun _ => ⟨rfl, rfl⟩⟩
  split
  · next h =>
    subst h
    exact .inr ⟨_, rfl, fun _ => ⟨rfl, rfl⟩⟩
  split
  · next h =>
    subst h
    exact .inr ⟨_, rfl, fun _ => ⟨rfl, rfl⟩⟩
  split
  · next h => exact .inl ⟨rfl, hbackslash, .inl h⟩
  · next h =>
    exact .inr ⟨_, rfl, fun more =>
      ⟨readScalar?_upperHexDigit (toNat_lt_of_not_isPlain h) more, rfl⟩⟩

theorem lineEnd?_cons (hline : c ≠ '\n') (hreturn : c ≠ '\r') : lineEnd? (c :: more) = none := by
  simp [lineEnd?, hline, hreturn]

/-- The reader takes what is written for the value, whatever it has read before. -/
def Reads (read : (fuel : Nat) → (done text : List Char) → Option (List Char × List Char))
    (written value rest : List Char) : Prop :=
  ∀ fuel done, written.length < fuel → read fuel done written = some (done.reverse ++ value, rest)

namespace Reads

theorem of_step {read : Nat → List Char → List Char → Option (List Char × List Char)}
    (front taken : List Char) (hfront : front ≠ [])
    (hstep : ∀ fuel done,
      read (fuel + 1) done (front ++ more) = read fuel (taken.reverse ++ done) more)
    (h : Reads read more value rest) : Reads read (front ++ more) (taken ++ value) rest := by
  intro fuel done hfuel
  have hlength := List.length_pos_iff.2 hfront
  rw [List.length_append] at hfuel
  obtain ⟨fuel, rfl⟩ : ∃ n, fuel = n + 1 := ⟨fuel - 1, by omega⟩
  rw [hstep, h _ _ (by omega)]
  simp

theorem line_mark : Reads (readLine? mark) (mark :: rest) [] rest := by
  intro fuel done hfuel
  obtain ⟨fuel, rfl⟩ := Nat.exists_eq_add_of_lt hfuel
  rw [readLine?, if_pos rfl, List.append_nil]

theorem line_plain (hmark : c ≠ mark) (hescape : c = '\\' → mark ≠ '"') (hc : isPlain c)
    (h : Reads (readLine? mark) more value rest) :
    Reads (readLine? mark) (c :: more) (c :: value) rest := by
  refine of_step [c] [c] (by simp) (fun fuel done => ?_) h
  rw [List.singleton_append, readLine?, if_neg hmark, if_neg fun h => hescape h.1 h.2, if_pos hc]
  rfl

theorem line_escape (escape : List Char) (hescape : IsEscapeOf escape c)
    (h : Reads (readLine? '"') more value rest) :
    Reads (readLine? '"') ('\\' :: escape ++ more) (c :: value) rest := by
  refine of_step ('\\' :: escape) [c] (by simp) (fun fuel done => ?_) h
  rw [List.cons_append, readLine?, if_neg (by decide), if_pos ⟨rfl, rfl⟩, (hescape more).1]
  rfl

theorem line_escapeText (quotes : Nat) :
    Reads (readLine? '"') (escapeText false quotes text ++ '"' :: rest) text rest := by
  induction text generalizing quotes with
  | nil => exact line_mark
  | cons c text ih =>
    rw [escapeText]
    by_cases hc : c = '"'
    · rw [if_pos hc, if_neg (by simp), hc]
      exact line_escape ['"'] isEscapeOf_quote (ih 0)
    · rw [if_neg hc, List.append_assoc]
      rcases escapeChar_cases false hc with ⟨hwritten, hbackslash, hplain⟩ | ⟨escape, hwritten, h⟩
      · rw [hwritten]
        exact line_plain hc (fun h => absurd h hbackslash) (by simpa using hplain) (ih 0)
      · rw [hwritten]
        exact line_escape _ h (ih 0)

theorem line_literal (hplain : ∀ c ∈ text, isPlain c ∧ c ≠ '\'') :
    Reads (readLine? '\'') (text ++ '\'' :: rest) text rest := by
  induction text with
  | nil => exact line_mark
  | cons c text ih =>
    obtain ⟨⟨hc, hmark⟩, htext⟩ := List.forall_mem_cons.1 hplain
    exact line_plain hmark (fun _ => by decide) hc (ih htext)

theorem block_plain (hmark : c ≠ mark) (hescape : c = '\\' → mark ≠ '"')
    (hc : isPlain c ∨ c = '\n') (h : Reads (readBlock? mark) more value rest) :
    Reads (readBlock? mark) (c :: more) (c :: value) rest := by
  refine of_step [c] [c] (by simp) (fun fuel done => ?_) h
  rw [List.singleton_append, readBlock?, if_neg hmark, if_neg fun h => hescape h.1 h.2]
  by_cases hline : c = '\n'
  · rw [hline]
    rfl
  · have hplain := hc.resolve_right hline
    have hreturn : c ≠ '\r' := by
      rintro rfl
      exact absurd hplain (by decide)
    rw [lineEnd?_cons hline hreturn]
    exact if_pos hplain

theorem block_escape (escape : List Char) (hescape : IsEscapeOf escape c)
    (h : Reads (readBlock? '"') more value rest) :
    Reads (readBlock? '"') ('\\' :: escape ++ more) (c :: value) rest := by
  refine of_step ('\\' :: escape) [c] (by simp) (fun fuel done => ?_) h
  rw [List.cons_append, readBlock?, if_neg (by decide), if_pos ⟨rfl, rfl⟩, (hescape more).1,
    (hescape more).2]
  rfl

end Reads

theorem takeWhile_replicate_append (count : Nat) (h : rest.head? ≠ some mark) :
    (List.replicate count mark ++ rest).takeWhile (· = mark) = List.replicate count mark := by
  rw [List.takeWhile_append_of_pos (by simp)]
  cases rest with
  | nil => simp
  | cons c rest => simpa using h

theorem dropWhile_replicate_append (count : Nat) (h : rest.head? ≠ some mark) :
    (List.replicate count mark ++ rest).dropWhile (· = mark) = rest := by
  rw [List.dropWhile_append_of_pos (by simp)]
  cases rest with
  | nil => rfl
  | cons c rest => simpa using h

theorem readBlock?_marks {count fuel : Nat} {done : List Char} (h : rest.head? ≠ some mark) :
    readBlock? mark (fuel + 1) done (List.replicate (count + 1) mark ++ rest) =
      if count + 1 < 3 then readBlock? mark fuel (List.replicate (count + 1) mark ++ done) rest
      else if count + 1 < 6 then
        some (done.reverse ++ List.replicate (count + 1 - 3) mark, rest)
      else none := by
  have hrun := takeWhile_replicate_append (count + 1) h
  have hrest := dropWhile_replicate_append (count + 1) h
  rw [List.replicate_succ, List.cons_append] at hrun hrest ⊢
  rw [readBlock?, if_pos rfl, hrun, hrest]
  simp

namespace Reads

/-- Up to two marks in a row belong to the text. -/
theorem block_marks {count : Nat} (hcount : count ≤ 2) (hmore : more.head? ≠ some mark)
    (h : Reads (readBlock? mark) more value rest) :
    Reads (readBlock? mark) (List.replicate count mark ++ more)
      (List.replicate count mark ++ value) rest := by
  cases count with
  | zero => exact h
  | succ count =>
    refine of_step _ _ (by simp) (fun fuel done => ?_) h
    rw [readBlock?_marks hmore, if_pos (by omega), List.reverse_replicate]

/-- Three marks close the text, which may end with two of them. -/
theorem block_close {count : Nat} (hcount : count ≤ 2) (hrest : rest.head? ≠ some mark) :
    Reads (readBlock? mark) (List.replicate count mark ++ (List.replicate 3 mark ++ rest))
      (List.replicate count mark) rest := by
  intro fuel done hfuel
  obtain ⟨fuel, rfl⟩ := Nat.exists_eq_add_of_lt hfuel
  rw [← List.append_assoc, List.replicate_append_replicate, readBlock?_marks hrest,
    if_neg (by omega), if_pos (by omega)]
  rfl

/-- The marks that have just been written are read together with the text that follows. -/
theorem block_escapeText {quotes : Nat} (hquotes : quotes ≤ 2) (hrest : rest.head? ≠ some '"') :
    Reads (readBlock? '"') (List.replicate quotes '"' ++
        (escapeText true quotes text ++ (List.replicate 3 '"' ++ rest)))
      (List.replicate quotes '"' ++ text) rest := by
  induction text generalizing quotes with
  | nil =>
    rw [escapeText, List.nil_append, List.append_nil]
    exact block_close hquotes hrest
  | cons c text ih =>
    rw [escapeText]
    by_cases hc : c = '"'
    · subst hc
      by_cases hmore : quotes < 2
      · have h := @ih (quotes + 1) hmore
        rw [List.replicate_succ', List.append_assoc, List.append_assoc] at h
        rw [if_pos rfl, if_pos ⟨rfl, hmore⟩]
        exact h
      · rw [if_pos rfl, if_neg fun h => hmore h.2]
        exact block_marks hquotes (by simp)
          (block_escape ['"'] isEscapeOf_quote (ih (Nat.zero_le 2)))
    · rw [if_neg hc, List.append_assoc]
      rcases escapeChar_cases true hc with ⟨hwritten, hbackslash, hplain⟩ | ⟨escape, hwritten, h⟩
      · rw [hwritten]
        exact block_marks hquotes (by simpa using hc) (block_plain hc
          (fun h => absurd h hbackslash) (by simpa using hplain) (ih (Nat.zero_le 2)))
      · rw [hwritten]
        exact block_marks hquotes (by simp) (block_escape _ h (ih (Nat.zero_le 2)))

end Reads

/-- The longest run so far and the run that is going on, after one more character. -/
def runStep (mark : Char) (runs : Nat × Nat) (c : Char) : Nat × Nat :=
  if c = mark then (max runs.1 (runs.2 + 1), runs.2 + 1) else (runs.1, 0)

theorem longestRun_eq (mark : Char) (text : List Char) :
    longestRun mark text = (text.foldl (runStep mark) (0, 0)).1 := rfl

theorem le_foldl_runStep (runs : Nat × Nat) :
    runs.1 ≤ (text.foldl (runStep mark) runs).1 := by
  induction text generalizing runs with
  | nil => exact Nat.le_refl _
  | cons c text ih =>
    refine Nat.le_trans ?_ (ih _)
    rw [runStep]
    split
    · exact Nat.le_max_left _ _
    · exact Nat.le_refl _

theorem not_mem_of_longestRun (h : longestRun mark text = 0) : mark ∉ text := by
  rw [longestRun_eq] at h
  intro hmem
  obtain ⟨front, back, rfl⟩ := List.append_of_mem hmem
  rw [List.foldl_append, List.foldl_cons] at h
  generalize front.foldl (runStep mark) (0, 0) = runs at h
  have hle : (runStep mark runs mark).1 ≤ (back.foldl (runStep mark) (runStep mark runs mark)).1 :=
    le_foldl_runStep _
  rw [h, runStep, if_pos rfl] at hle
  have hmax := Nat.le_max_right runs.1 (runs.2 + 1)
  omega

/-- A text whose marks stand in runs of at most two is read as it is. The run that is going on is
read together with the text that follows. -/
theorem Reads.block_literal {best quotes : Nat} (hplain : ∀ c ∈ text, isPlain c ∨ c = '\n')
    (hquotes : quotes ≤ best) (hruns : (text.foldl (runStep '\'') (best, quotes)).1 ≤ 2)
    (hrest : rest.head? ≠ some '\'') :
    Reads (readBlock? '\'') (List.replicate quotes '\'' ++
        (text ++ (List.replicate 3 '\'' ++ rest)))
      (List.replicate quotes '\'' ++ text) rest := by
  have hbest : best ≤ 2 := (le_foldl_runStep (best, quotes)).trans hruns
  induction text generalizing best quotes with
  | nil =>
    rw [List.nil_append, List.append_nil]
    exact block_close (hquotes.trans hbest) hrest
  | cons c text ih =>
    obtain ⟨hc, htext⟩ := List.forall_mem_cons.1 hplain
    rw [List.foldl_cons] at hruns
    by_cases hmark : c = '\''
    · subst hmark
      rw [runStep, if_pos rfl] at hruns
      have h := ih htext (Nat.le_max_right _ _) hruns ((le_foldl_runStep _).trans hruns)
      rw [List.replicate_succ', List.append_assoc, List.append_assoc] at h
      exact h
    · rw [runStep, if_neg hmark] at hruns
      exact block_marks (hquotes.trans hbest) (by simpa using hmark)
        (block_plain hmark (fun _ => by decide) hc (ih htext (Nat.zero_le _) hruns hbest))

theorem holds_styleFor (text : List Char) :
    (styleFor text).escapes ∨ holds (styleFor text) text := by
  rw [styleFor]
  cases h : ([⟨true, false⟩, ⟨false, false⟩, ⟨true, true⟩, ⟨false, true⟩] : List QuoteStyle).find?
      (holds · text) with
  | none => exact .inl rfl
  | some style =>
    have hholds : holds style text := List.find?_some (p := (holds · text)) h
    exact .inr hholds

/-- What is written begins with a backslash, with a mark as it is, or with the first character of
the text. -/
theorem exists_head_escapeText (block : Bool) (quotes : Nat) (c : Char) (text : List Char) :
    ∃ d more, escapeText block quotes (c :: text) = d :: more ∧
      (d = '"' ∧ block ∨ d = '\\' ∨ d = c ∧ c ≠ '"' ∧ (isPlain c ∨ c = '\n')) := by
  rw [escapeText]
  by_cases hc : c = '"'
  · rw [if_pos hc]
    split
    · next h => exact ⟨_, _, rfl, .inl ⟨hc, h.1⟩⟩
    · exact ⟨_, _, rfl, .inr (.inl rfl)⟩
  · rw [if_neg hc]
    rcases escapeChar_cases block hc with ⟨hwritten, -, hplain⟩ | ⟨escape, hwritten, -⟩
    · rw [hwritten]
      exact ⟨c, _, rfl, .inr (.inr ⟨rfl, hc, hplain.imp_right And.right⟩)⟩
    · rw [hwritten]
      exact ⟨_, _, rfl, .inr (.inl rfl)⟩

theorem ne_two_marks {front : List Char} (hfront : front.head? ≠ some mark)
    (hrest : rest.head? ≠ some mark) (others : List Char) :
    front ++ mark :: rest ≠ mark :: mark :: others := by
  intro h
  cases front with
  | nil => exact hrest (by rw [(List.cons.inj h).2]; rfl)
  | cons c front => exact hfront (by rw [(List.cons.inj h).1]; rfl)

theorem readQuoted?_line (hmark : mark = '"' ∨ mark = '\'')
    (h : Reads (readLine? mark) more value rest)
    (hone : ∀ others, more ≠ mark :: mark :: others) (hbound : more.length < bound) :
    readQuoted? bound (mark :: more) = some (String.ofList value, rest) := by
  have hread := h bound [] hbound
  rw [List.reverse_nil, List.nil_append] at hread
  rcases hmark with rfl | rfl <;>
  · rw [readQuoted?]
    dsimp only
    split
    · next a b others =>
      rw [if_neg, hread]
      · rfl
      · rintro ⟨rfl, rfl⟩
        exact hone others rfl
    · rw [hread]
      rfl

theorem readQuoted?_block (hmark : mark = '"' ∨ mark = '\'') {body : List Char}
    (hmore : (lineEnd? more).getD more = body) (h : Reads (readBlock? mark) body value rest)
    (hbound : body.length < bound) :
    readQuoted? bound (mark :: mark :: mark :: more) = some (String.ofList value, rest) := by
  have hread := h bound [] hbound
  rw [List.reverse_nil, List.nil_append] at hread
  rcases hmark with rfl | rfl <;>
  · rw [readQuoted?]
    simp only [and_self, if_true, hmore, hread]
    rfl

/-- The line end that opens a block is left out, and no other begins a text without line ends. -/
theorem lineEnd?_gap {body : List Char} (h : '\n' ∉ text → lineEnd? body = none) :
    let more := (if text.contains '\n' then ['\n'] else []) ++ body
    (lineEnd? more).getD more = body := by
  by_cases hline : '\n' ∈ text
  · simp [hline, lineEnd?]
  · simp [hline, h hline]

section Styles

variable (hrest : ∀ c ∈ rest.head?, c ≠ '"' ∧ c ≠ '\'')
include hrest

theorem readQuoted?_basic (hbound : (quoteAs ⟨true, false⟩ text ++ rest).length ≤ bound) :
    readQuoted? bound (quoteAs ⟨true, false⟩ text ++ rest) = some (String.ofList text, rest) := by
  have hquote : quoteAs ⟨true, false⟩ text ++ rest =
      '"' :: (escapeText false 0 text ++ '"' :: rest) := by simp [quoteAs]
  rw [hquote] at hbound ⊢
  refine readQuoted?_line (.inl rfl) (.line_escapeText 0) (ne_two_marks ?_ ?_) hbound
  · cases text with
    | nil => simp [escapeText]
    | cons c text =>
      obtain ⟨d, more, e, hd⟩ := exists_head_escapeText false 0 c text
      rw [e]
      rcases hd with ⟨-, hd⟩ | rfl | ⟨rfl, hne, -⟩
      · cases hd
      · simp
      · simpa using hne
  · exact fun h => (hrest _ h).1 rfl

theorem readQuoted?_literal (hholds : holds ⟨false, false⟩ text)
    (hbound : (quoteAs ⟨false, false⟩ text ++ rest).length ≤ bound) :
    readQuoted? bound (quoteAs ⟨false, false⟩ text ++ rest) = some (String.ofList text, rest) := by
  have hquote : quoteAs ⟨false, false⟩ text ++ rest = '\'' :: (text ++ '\'' :: rest) := by
    simp [quoteAs]
  simp only [holds, Bool.false_or, Bool.not_false, Bool.true_or, Bool.and_true, Bool.and_eq_true,
    List.all_eq_true, decide_eq_true_eq, Bool.not_eq_true', List.contains_eq_mem,
    decide_eq_false_iff_not] at hholds
  obtain ⟨⟨hplain, hline⟩, hruns⟩ := hholds
  have hmark : '\'' ∉ text := not_mem_of_longestRun (Nat.le_zero.1 hruns)
  rw [hquote] at hbound ⊢
  refine readQuoted?_line (.inr rfl) (.line_literal fun c hc => ⟨?_, ?_⟩) (ne_two_marks ?_ ?_)
    hbound
  · exact (hplain c hc).resolve_right fun h => hline (h ▸ hc)
  · exact fun h => hmark (h ▸ hc)
  · exact fun h => hmark (List.mem_of_mem_head? h)
  · exact fun h => (hrest _ h).2 rfl

theorem readQuoted?_basicBlock (hbound : (quoteAs ⟨true, true⟩ text ++ rest).length ≤ bound) :
    readQuoted? bound (quoteAs ⟨true, true⟩ text ++ rest) = some (String.ofList text, rest) := by
  let body := escapeText true 0 text ++ (List.replicate 3 '"' ++ rest)
  have hquote : quoteAs ⟨true, true⟩ text ++ rest =
      '"' :: '"' :: '"' :: ((if text.contains '\n' then ['\n'] else []) ++ body) := by
    simp [quoteAs, body, List.replicate]
  have hbody : body.length < bound := by
    rw [hquote] at hbound
    simp only [List.length_cons, List.length_append] at hbound
    omega
  rw [hquote]
  refine readQuoted?_block (.inl rfl) (lineEnd?_gap fun hline => ?_)
    (.block_escapeText (Nat.zero_le 2) fun h => (hrest _ h).1 rfl) hbody
  cases text with
  | nil => rfl
  | cons c text =>
    obtain ⟨d, more, e, hd⟩ := exists_head_escapeText true 0 c text
    have hc : c ≠ '\n' := fun h => hline (h ▸ List.mem_cons_self)
    simp only [body, e]
    rcases hd with ⟨rfl, -⟩ | rfl | ⟨rfl, -, hplain⟩
    · rfl
    · rfl
    · refine lineEnd?_cons hc ?_
      rintro rfl
      exact absurd hplain (by decide)

theorem readQuoted?_literalBlock (hholds : holds ⟨false, true⟩ text)
    (hbound : (quoteAs ⟨false, true⟩ text ++ rest).length ≤ bound) :
    readQuoted? bound (quoteAs ⟨false, true⟩ text ++ rest) = some (String.ofList text, rest) := by
  let body := text ++ (List.replicate 3 '\'' ++ rest)
  have hquote : quoteAs ⟨false, true⟩ text ++ rest =
      '\'' :: '\'' :: '\'' :: ((if text.contains '\n' then ['\n'] else []) ++ body) := by
    simp [quoteAs, body, List.replicate]
  simp only [holds, Bool.true_or, Bool.not_false, Bool.and_true, Bool.and_eq_true,
    List.all_eq_true, decide_eq_true_eq] at hholds
  obtain ⟨hplain, hruns⟩ := hholds
  have hbody : body.length < bound := by
    rw [hquote] at hbound
    simp only [List.length_cons, List.length_append] at hbound
    omega
  rw [hquote]
  refine readQuoted?_block (.inr rfl) (lineEnd?_gap fun hline => ?_)
    (.block_literal hplain (Nat.zero_le 0) hruns fun h => (hrest _ h).2 rfl) hbody
  cases text with
  | nil => rfl
  | cons c text =>
    have hc := hplain c List.mem_cons_self
    refine lineEnd?_cons (fun h => hline (h ▸ List.mem_cons_self)) ?_
    rintro rfl
    exact absurd hc (by decide)

/-- A text is read back from its quotes, whatever follows that is no quote. -/
theorem readQuoted?_quote (text : String) (hbound : (quote text ++ rest).length ≤ bound) :
    readQuoted? bound (quote text ++ rest) = some (text, rest) := by
  rw [quote] at hbound ⊢
  have hholds := holds_styleFor text.toList
  cases hstyle : styleFor text.toList with
  | mk escapes block =>
    rw [hstyle] at hbound hholds
    suffices h : readQuoted? bound (quoteAs ⟨escapes, block⟩ text.toList ++ rest) =
        some (String.ofList text.toList, rest) by rwa [String.ofList_toList] at h
    cases escapes with
    | true =>
      cases block with
      | true => exact readQuoted?_basicBlock hrest hbound
      | false => exact readQuoted?_basic hrest hbound
    | false =>
      have hholds := hholds.resolve_left Bool.false_ne_true
      cases block with
      | true => exact readQuoted?_literalBlock hrest hholds hbound
      | false => exact readQuoted?_literal hrest hholds hbound

end Styles

end Lapse.Toml
