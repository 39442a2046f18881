import Mathlib.Data.List.TakeWhile
import Lapse.Proofs.Regex.Progress

/-!
# Reading in front of more text

A part of a pattern that can be read is read in the same way when more text follows it, as long as
that text begins with a bracket or a parenthesis. Only a comment that is still open takes up what
follows.
-/
namespace Lapse.Regex.Reader

/-- A text that begins a part of its own, whatever stands in front of it. -/
def IsFresh (tail : List Char) : Prop := ∃ c ∈ ['[', '('], ∃ rest, tail = c :: rest

/-- What the text behind a pattern has to be like. -/
structure IsTail (tail : List Char) : Prop where
  fresh : IsFresh tail
  oneLine : '\n' ∉ tail

/-- What is read in front of `tail` is read in the same way as without it. -/
def Extended {α : Type} (tail : List Char) (x y : Option (α × List Char)) : Prop :=
  ∀ a rest, x = some (a, rest) → y = some (a, rest ++ tail)

theorem Extended.none {α : Type} {tail : List Char} (y : Option (α × List Char)) :
    Extended tail none y := fun _ _ h => by cases h

theorem Extended.some {α : Type} (a : α) (rest tail : List Char) :
    Extended tail (some (a, rest)) (some (a, rest ++ tail)) := fun _ _ h => by
  cases h
  rfl

theorem Extended.ite {α : Type} {tail : List Char} {c : Prop} [Decidable c]
    {x y x' y' : Option (α × List Char)} (hpos : c → Extended tail x x')
    (hneg : ¬ c → Extended tail y y') :
    Extended tail (if c then x else y) (if c then x' else y') := by
  split
  · next h => exact hpos h
  · next h => exact hneg h

theorem Extended.map {α β : Type} {tail : List Char} {x : Option α} {f : α → β}
    {rest : List Char} :
    Extended tail (x.map fun a => (f a, rest)) (x.map fun a => (f a, rest ++ tail)) := by
  cases x with
  | none => exact .none _
  | some a => exact .some _ _ _

theorem Extended.bind {α β : Type} {tail : List Char} {x y : Option (α × List Char)}
    {f g : α × List Char → Option (β × List Char)} (h : Extended tail x y)
    (hf : ∀ a rest, Extended tail (f (a, rest)) (g (a, rest ++ tail))) :
    Extended tail (x.bind f) (y.bind g) := by
  cases x with
  | none => exact .none _
  | some x =>
    obtain ⟨a, rest⟩ := x
    rw [h a rest rfl]
    exact hf a rest

theorem Extended.forall_bind {α β : Type} {tail : List Char} {x : Option α}
    {f g : α → Option (β × List Char)} (h : ∀ a, Extended tail (f a) (g a)) :
    Extended tail (x.bind f) (x.bind g) := by
  cases x with
  | none => exact .none _
  | some a => exact h a

variable {flags : Flags} {tail : List Char}

theorem dropGap_append {inComment : Bool} {text : List Char} {c : Char} {rest : List Char}
    (h : dropGap inComment text = c :: rest) (tail : List Char) :
    dropGap inComment (text ++ tail) = c :: (rest ++ tail) := by
  induction text generalizing inComment with
  | nil => cases inComment <;> cases h
  | cons x text ih =>
    cases inComment with
    | true => exact ih h
    | false =>
      rw [dropGap] at h
      rw [List.cons_append, dropGap]
      split at h
      · next hx => rw [if_pos hx, ih h]
      · next hx =>
        rw [if_neg hx]
        split at h
        · next hsign => rw [if_pos hsign, ih h]
        · next hsign =>
          rw [if_neg hsign]
          cases h
          rfl

theorem skip_append {text : List Char} {c : Char} {rest : List Char}
    (h : skip flags text = c :: rest) (tail : List Char) :
    skip flags (text ++ tail) = c :: (rest ++ tail) := by
  rw [skip] at h ⊢
  split at h
  · next hblank => rw [if_pos hblank, dropGap_append h]
  · next hblank => rw [if_neg hblank, h, List.cons_append]

theorem dropGap_true_of_oneLine {text : List Char} (h : '\n' ∉ text) : dropGap true text = [] := by
  induction text with
  | nil => rfl
  | cons c text ih =>
    rw [List.mem_cons, not_or] at h
    have hc : decide (c ≠ '\n') = true := by simpa using Ne.symm h.1
    rw [dropGap, hc, ih h.2]

theorem dropGap_of_forall_isBlank {text : List Char} (h : ∀ c ∈ text, Text.isBlank c = true)
    (inComment : Bool) : dropGap inComment text = [] := by
  induction text generalizing inComment with
  | nil => rw [dropGap]
  | cons c text ih =>
    have hrest := ih fun x hx => h x (List.mem_cons_of_mem _ hx)
    cases inComment with
    | true => exact hrest _
    | false => rw [dropGap, if_pos (h c List.mem_cons_self), hrest]

theorem dropGap_eq_dropGap_dropWhile (text : List Char) :
    dropGap false text = dropGap false (text.dropWhile Text.isBlank) := by
  induction text with
  | nil => rfl
  | cons c text ih =>
    rw [List.dropWhile_cons]
    split
    · next hc => rw [dropGap, if_pos hc, ih]
    · rfl

/-- Behind a gap the reader is in a comment or it is not. -/
theorem dropGap_append_of_nil {inComment : Bool} {text : List Char}
    (h : dropGap inComment text = []) :
    ∃ open?, ∀ tail, dropGap inComment (text ++ tail) = dropGap open? tail := by
  induction text generalizing inComment with
  | nil => exact ⟨inComment, fun tail => rfl⟩
  | cons x text ih =>
    cases inComment with
    | true => exact ih h
    | false =>
      rw [dropGap] at h
      split at h
      · next hx =>
        obtain ⟨open?, hopen⟩ := ih h
        exact ⟨open?, fun tail => by rw [List.cons_append, dropGap, if_pos hx, hopen]⟩
      · next hx =>
        split at h
        · next hsign =>
          obtain ⟨open?, hopen⟩ := ih h
          exact ⟨open?, fun tail => by
            rw [List.cons_append, dropGap, if_neg hx, if_pos hsign, hopen]⟩
        · cases h

theorem IsFresh.head_ne (htail : IsFresh tail) {c : Char} (hc : c ∉ ['[', '(']) :
    tail.head? ≠ some c := by
  obtain ⟨x, hx, rest, rfl⟩ := htail
  exact fun e => hc (Option.some.inj e ▸ hx)

theorem isSolid_of_mem {c : Char} (h : c ∈ ['[', '(']) (flags : Flags) : IsSolid flags c := by
  have hcases : c = '[' ∨ c = '(' := by simpa using h
  rcases hcases with rfl | rfl
  · exact .inr (by decide)
  · exact .inr (by decide)

theorem IsFresh.dropGap_eq (htail : IsFresh tail) : dropGap false tail = tail := by
  obtain ⟨c, hc, rest, rfl⟩ := htail
  have hskip : skip { ignoreBlank := true } (c :: rest) = c :: rest :=
    skip_cons (isSolid_of_mem hc _) rest
  exact hskip

/-- Behind a gap stands the following text, unless a comment takes it up. -/
theorem skip_append_of_nil {text : List Char} (h : skip flags text = []) :
    (∀ tail, IsFresh tail → skip flags (text ++ tail) = tail) ∨
      ∀ tail, '\n' ∉ tail → skip flags (text ++ tail) = [] := by
  by_cases hblank : flags.ignoreBlank
  · rw [skip, if_pos hblank] at h
    obtain ⟨open?, hopen⟩ := dropGap_append_of_nil h
    cases open? with
    | true =>
      exact .inr fun tail hline => by
        rw [skip, if_pos hblank, hopen, dropGap_true_of_oneLine hline]
    | false =>
      exact .inl fun tail htail => by rw [skip, if_pos hblank, hopen, htail.dropGap_eq]
  · rw [skip, if_neg hblank] at h
    exact .inl fun tail _ => by rw [skip, if_neg hblank, h, List.nil_append]

theorem takeParts_append {wanted : Char → Bool} {inComment : Bool} {text taken rest : List Char}
    {c : Char} (h : takeParts flags wanted inComment text = (taken, c :: rest))
    (tail : List Char) :
    takeParts flags wanted inComment (text ++ tail) = (taken, c :: (rest ++ tail)) := by
  induction text generalizing inComment taken with
  | nil => cases inComment <;> cases h
  | cons x text ih =>
    cases inComment with
    | true => exact ih h
    | false =>
      rw [takeParts] at h
      rw [List.cons_append, takeParts]
      split at h
      · next hblank => rw [if_pos hblank, ih h]
      · next hblank =>
        rw [if_neg hblank]
        split at h
        · next hsign => rw [if_pos hsign, ih h]
        · next hsign =>
          rw [if_neg hsign]
          split at h
          · next hx =>
            rw [if_pos hx]
            cases hrest : takeParts flags wanted false text with
            | mk others after =>
              rw [hrest] at h
              cases h
              rw [ih hrest]
          · next hx =>
            rw [if_neg hx]
            cases h
            rfl

theorem extended_readHexDigits? (count value : Nat) (text tail : List Char) :
    Extended tail (readHexDigits? flags count value text)
      (readHexDigits? flags count value (text ++ tail)) := by
  intro n rest h
  induction count generalizing value text with
  | zero =>
    cases h
    rfl
  | succ count ih =>
    cases text with
    | nil => cases h
    | cons c text =>
      rw [List.cons_append]
      by_cases hc : isHexDigit c
      case neg =>
        cases count <;> simp [readHexDigits?, hc] at h
      cases count with
      | zero =>
        simp only [readHexDigits?, hc, if_true] at h ⊢
        cases h
        rfl
      | succ count =>
        simp only [readHexDigits?, hc, if_true] at h ih ⊢
        cases hskip : skip flags text with
        | nil =>
          rw [hskip] at h
          cases count <;> cases h
        | cons x others =>
          rw [hskip] at h
          rw [skip_append hskip]
          exact ih _ _ h

theorem readCodePoint?_of_brace {count : Nat} {text rest : List Char}
    (h : skip flags text = '\x7b' :: rest) :
    readCodePoint? flags count text =
      match takeParts flags isHexDigit false rest with
      | (d :: digits, '\x7d' :: rest) =>
        (scalar? (Text.hexValue (d :: digits))).map fun c => (.literal c false, rest)
      | _ => none := by
  rw [readCodePoint?, h]
  rfl

theorem readCodePoint?_of_ne {count : Nat} {text rest : List Char} {c : Char}
    (h : skip flags text = c :: rest) (hc : c ≠ '\x7b') :
    readCodePoint? flags count text =
      (readHexDigits? flags count 0 (c :: rest)).bind fun x =>
        (scalar? x.1).bind fun c => some (.literal c (count = 2), x.2) := by
  rw [readCodePoint?, h]
  split
  · next e => exact (hc (List.cons.inj e).1).elim
  · rfl

theorem extended_readCodePoint? {count : Nat} (hcount : count ≠ 0) (text tail : List Char) :
    Extended tail (readCodePoint? flags count text)
      (readCodePoint? flags count (text ++ tail)) := by
  intro primitive rest h
  cases hskip : skip flags text with
  | nil =>
    obtain ⟨count, rfl⟩ := Nat.exists_eq_succ_of_ne_zero hcount
    rw [readCodePoint?, hskip] at h
    cases h
  | cons c others =>
    have hmore := skip_append hskip tail
    by_cases hc : c = '\x7b'
    · subst hc
      rw [readCodePoint?_of_brace hskip] at h
      rw [readCodePoint?_of_brace hmore]
      split at h
      case h_2 => cases h
      next d digits after htake =>
        rw [takeParts_append htake]
        obtain ⟨x, hx, e⟩ := Option.map_eq_some_iff.1 h
        cases e
        simp [hx]
    · rw [readCodePoint?_of_ne hskip hc] at h
      rw [readCodePoint?_of_ne hmore hc]
      obtain ⟨⟨n, after⟩, hdigits, h⟩ := Option.bind_eq_some_iff.1 h
      obtain ⟨x, hx, e⟩ := Option.bind_eq_some_iff.1 h
      cases e
      have happend := extended_readHexDigits? count 0 (c :: others) tail n after hdigits
      rw [List.cons_append] at happend
      rw [happend, Option.bind_some, hx]
      rfl

theorem extended_propertyClass? (negated : Bool) (name text tail : List Char) :
    Extended tail (propertyClass? flags negated name text)
      (propertyClass? flags negated name (text ++ tail)) := by
  rw [propertyClass?, propertyClass?]
  cases propertySet? name with
  | none => exact .none _
  | some s =>
    refine .ite (fun _ => ?_) fun _ => .none _
    cases negate? flags negated (foldFor flags s) with
    | none => exact .none _
    | some t => exact .some _ _ _

theorem extended_propertyName? (text tail : List Char) :
    Extended tail (propertyName? flags text) (propertyName? flags (text ++ tail)) := by
  intro name rest h
  rw [propertyName?] at h ⊢
  cases hskip : skip flags text with
  | nil =>
    rw [hskip] at h
    cases h
  | cons c others =>
    rw [hskip] at h
    rw [skip_append hskip]
    by_cases hc : c = '\x7b'
    · subst hc
      cases htake : takeParts flags (· ≠ '\x7d') false others with
      | mk found after =>
        simp only [htake] at h
        cases after with
        | nil => cases h
        | cons x after =>
          cases h
          simp only [takeParts_append htake]
    · simp only at h ⊢
      split at h
      · cases h
      · next hslash =>
        cases h
        rw [if_neg hslash]

theorem extended_readProperty? (negated : Bool) (text tail : List Char) :
    Extended tail (readProperty? flags negated text)
      (readProperty? flags negated (text ++ tail)) := by
  rw [readProperty?, readProperty?]
  exact .bind (extended_propertyName? text tail) fun name rest =>
    extended_propertyClass? negated name rest tail

theorem extended_readBoundary? (htail : IsFresh tail) (text : List Char) :
    Extended tail (readBoundary? flags text) (readBoundary? flags (text ++ tail)) := by
  intro primitive rest h
  obtain ⟨x, hx, others, rfl⟩ := htail
  unfold readBoundary? at h ⊢
  split at h
  · next inner =>
    simp only [List.cons_append]
    split at h
    · cases h
    · next hskip =>
      simp only [skip_append hskip]
      dsimp only at h
      split at h
      · next hname =>
        rw [if_pos hname]
        split at h
        · next htake =>
          obtain ⟨l, hl, e⟩ := Option.map_eq_some_iff.1 h
          cases e
          simp only [takeParts_append htake]
          simp [hl]
        · cases h
      · next hname =>
        cases h
        rw [if_neg hname]
        rfl
  · next hbrace =>
    cases h
    split
    · next inner e =>
      cases text with
      | nil =>
        cases e
        exact absurd hx (by decide)
      | cons c text =>
        cases e
        exact (hbrace _ rfl).elim
    · rfl

theorem extended_readEscape? (htail : IsFresh tail) (text : List Char) :
    Extended tail (readEscape? flags text) (readEscape? flags (text ++ tail)) := by
  cases text with
  | nil => exact .none _
  | cons c text =>
    rw [List.cons_append, readEscape?, readEscape?]
    iterate 3 refine .ite (fun _ => extended_readCodePoint? (by decide) text tail) fun _ => ?_
    refine .ite (fun _ => extended_readProperty? false text tail) fun _ => ?_
    refine .ite (fun _ => extended_readProperty? true text tail) fun _ => ?_
    refine .ite (fun _ => .some _ _ _) fun _ => ?_
    refine .ite (fun _ => .map) fun _ => ?_
    iterate 8 refine .ite (fun _ => .some _ _ _) fun _ => ?_
    refine .ite (fun _ => extended_readBoundary? htail text) fun _ => ?_
    iterate 3 refine .ite (fun _ => .some _ _ _) fun _ => ?_
    exact .ite (fun _ => .some _ _ _) fun _ => .none _

theorem readClassName?_colon {word : List Char} (h : ':' ∉ word) (negated : Bool)
    (text : List Char) :
    readClassName? negated (word ++ ':' :: text) =
      match text with
      | ']' :: rest =>
        (CharSet.posix.lookup (String.ofList word)).map fun s => (negated, s, rest)
      | _ => none := by
  rw [readClassName?, takeWhile_ne_append h, List.drop_left]
  cases text with
  | nil => rfl
  | cons c text =>
    by_cases hc : c = ']'
    · subst hc
      rfl
    · split <;> simp_all

theorem readClassName?_of_not_mem {text : List Char} (h : ':' ∉ text) (negated : Bool) :
    readClassName? negated text = none := by
  have hall : text.takeWhile (· ≠ ':') = text := by
    refine List.takeWhile_eq_self_iff.2 fun c hc => decide_eq_true ?_
    rintro rfl
    exact h hc
  rw [readClassName?, hall, List.drop_length]

/-- What begins a fresh text is in no name of a class. -/
theorem lookup_posix_eq_none {c : Char} (hc : c ∈ ['[', '(']) {word : List Char} (h : c ∈ word) :
    CharSet.posix.lookup (String.ofList word) = none := by
  have hnames : ∀ entry ∈ CharSet.posix, '[' ∉ entry.1.toList ∧ '(' ∉ entry.1.toList := by
    decide +kernel
  refine List.lookup_eq_none_iff.2 fun entry hentry => bne_iff_ne.2 fun e => ?_
  have hword : c ∈ entry.1.toList := by rwa [← e, String.toList_ofList]
  obtain ⟨hbracket, hparenthesis⟩ := hnames entry hentry
  have hcases : c = '[' ∨ c = '(' := by simpa using hc
  rcases hcases with rfl | rfl
  · exact hbracket hword
  · exact hparenthesis hword

theorem readClassName?_append (htail : IsFresh tail) (negated : Bool) (text : List Char) :
    readClassName? negated (text ++ tail) =
      (readClassName? negated text).map fun (negated, s, rest) => (negated, s, rest ++ tail) := by
  by_cases hcolon : ':' ∈ text
  · obtain ⟨word, after, rfl, hword⟩ := List.eq_append_cons_of_mem hcolon
    rw [List.append_assoc, List.cons_append, readClassName?_colon hword,
      readClassName?_colon hword]
    cases after with
    | nil =>
      have hhead := htail.head_ne (show ']' ∉ ['[', '('] by decide)
      obtain ⟨c, -, rest, rfl⟩ := htail
      split
      · next e =>
        cases e
        exact absurd rfl hhead
      · rfl
    | cons c after =>
      by_cases hc : c = ']'
      · subst hc
        simp only [List.cons_append, Option.map_map]
        rfl
      · split <;> simp_all
  · rw [readClassName?_of_not_mem hcolon, Option.map_none]
    by_cases hmore : ':' ∈ tail
    · obtain ⟨word, after, rfl, hword⟩ := List.eq_append_cons_of_mem hmore
      obtain ⟨c, hc, rest, e⟩ := htail
      have hmem : c ∈ text ++ word := by
        cases word with
        | nil =>
          cases e
          exact absurd hc (by decide)
        | cons x word =>
          cases e
          exact List.mem_append_right _ List.mem_cons_self
      rw [← List.append_assoc, readClassName?_colon (by simp [hcolon, hword]),
        lookup_posix_eq_none hc hmem]
      split <;> rfl
    · exact readClassName?_of_not_mem (by simp [hcolon, hmore]) negated

/-- No name of a class ends in a fresh text. -/
theorem readNamed?_append (htail : IsFresh tail) (text : List Char) :
    readNamed? (text ++ tail) =
      (readNamed? text).map fun (negated, s, rest) => (negated, s, rest ++ tail) := by
  have hnil : readNamed? tail = none := by
    have hcolon := htail.head_ne (show ':' ∉ ['[', '('] by decide)
    rw [readNamed?]
    · exact fun rest e => hcolon (e ▸ rfl)
    · exact fun rest e => hcolon (e ▸ rfl)
  rcases text with _ | ⟨c, text⟩
  · exact hnil
  by_cases hc : c = ':'
  · subst hc
    rcases text with _ | ⟨c, text⟩
    · have hcircumflex := htail.head_ne (show '^' ∉ ['[', '('] by decide)
      exact (readNamed?_colon hcircumflex).trans (readClassName?_append htail false [])
    by_cases hc : c = '^'
    · subst hc
      exact readClassName?_append htail true text
    · rw [List.cons_append, List.cons_append, readNamed?_colon (by simpa using hc),
        readNamed?_colon (by simpa using hc)]
      exact readClassName?_append htail false (c :: text)
  · unfold readNamed?
    split <;> simp_all

theorem extended_readPart? (htail : IsFresh tail) (text : List Char) :
    Extended tail (readPart? flags text) (readPart? flags (text ++ tail)) := by
  cases text with
  | nil => exact .none _
  | cons c text =>
    rw [List.cons_append, readPart?, readPart?]
    exact .ite (fun _ => extended_readEscape? htail text) fun _ => .some _ _ _

theorem dropWhile_append_of_cons {p : Char → Bool} {text rest : List Char} {c : Char}
    (h : text.dropWhile p = c :: rest) (tail : List Char) :
    (text ++ tail).dropWhile p = c :: (rest ++ tail) := by
  rw [List.dropWhile_append, h]
  rfl

theorem peek?_append {text : List Char} {c : Char} (h : peek? flags text = some c)
    (tail : List Char) : peek? flags (text ++ tail) = some c := by
  rw [peek?] at h ⊢
  split
  · next hblank =>
    rw [if_pos hblank] at h
    cases hdrop : text.dropWhile Text.isBlank with
    | nil =>
      simp [hdrop] at h
    | cons x rest =>
      simp only [hdrop, dropWhile_append_of_cons hdrop tail, List.head?_cons, List.tail_cons] at h ⊢
      split
      · next hsign =>
        rw [if_pos hsign] at h
        obtain ⟨others, hothers⟩ := List.head?_eq_some_iff.1 h
        rw [dropWhile_append_of_cons hothers tail, List.head?_cons]
      · next hsign => rwa [if_neg hsign] at h
  · next hblank =>
    rw [if_neg hblank] at h
    rw [List.head?_append, h]
    rfl

/-- Nothing is left where there is no character to look at. -/
theorem skip_eq_nil_of_peek? {text : List Char} (h : peek? flags text = none) :
    skip flags text = [] := by
  rw [peek?] at h
  rw [skip]
  split
  · next hblank =>
    rw [if_pos hblank] at h
    rw [dropGap_eq_dropGap_dropWhile]
    cases hdrop : text.dropWhile Text.isBlank with
    | nil => rfl
    | cons x rest =>
      simp only [hdrop, List.head?_cons, List.tail_cons] at h
      split at h
      · next hsign =>
        cases hsign
        have hrest := List.dropWhile_eq_nil_iff.1 (List.head?_eq_none_iff.1 h)
        exact dropGap_of_forall_isBlank hrest true
      · cases h
  · next hblank =>
    rw [if_neg hblank] at h
    exact List.head?_eq_none_iff.1 h

/-- The character behind a hyphen is looked at before a gap is passed over. -/
theorem extended_rangeBehind? (htail : IsFresh tail) (first : Primitive) (after : List Char) :
    Extended tail (rangeBehind? flags first after) (rangeBehind? flags first (after ++ tail)) := by
  rw [rangeBehind?, rangeBehind?]
  cases hskip : skip flags after with
  | nil => exact .none _
  | cons c others =>
    rw [skip_append hskip]
    by_cases hc : c = '-'
    · subst hc
      simp only
      cases hnext : skip flags others with
      | nil =>
        cases hpeek : peek? flags others with
        | none => exact .none _
        | some x =>
          simp only [peek?_append hpeek]
          exact .ite (fun _ => .forall_bind fun s => .some _ ('-' :: others) tail) fun _ => .none _
      | cons x next =>
        cases hpeek : peek? flags others with
        | none => rw [skip_eq_nil_of_peek? hpeek] at hnext; cases hnext
        | some y =>
          simp only [peek?_append hpeek, skip_append hnext]
          refine .ite (fun _ => .forall_bind fun s => .some _ ('-' :: others) tail) fun _ => ?_
          refine .bind (extended_readPart? htail (x :: next)) fun last rest => ?_
          refine .forall_bind fun low => .forall_bind fun high => ?_
          exact .ite (fun _ => .some _ _ _) fun _ => .none _
    · have hne (others rest : List Char) : c :: others ≠ '-' :: rest :=
        fun e => hc (List.cons.inj e).1
      split
      · next e => cases e
      · next e => exact (hne _ _ e).elim
      · split
        · next e => cases e
        · next e => exact (hne _ _ e).elim
        · exact .forall_bind fun s => .some _ (c :: others) tail

theorem extended_readRange? (htail : IsFresh tail) (text : List Char) :
    Extended tail (readRange? flags text) (readRange? flags (text ++ tail)) :=
  .bind (extended_readPart? htail text) fun first after => extended_rangeBehind? htail first after

theorem extended_openedClass? (negated : Bool) (c : Char) (text tail : List Char) :
    Extended tail (openedClass? flags negated (c :: text))
      (openedClass? flags negated (c :: (text ++ tail))) := by
  cases htake : takeParts flags (· = '-') false (c :: text) with
  | mk hyphens after =>
    cases after with
    | nil =>
      rw [openedClass?, htake]
      cases hyphens <;> exact .none _
    | cons x after =>
      have hmore := takeParts_append htake tail
      rw [List.cons_append] at hmore
      rw [openedClass?, openedClass?, htake, hmore]
      cases hyphens with
      | cons y hyphens => exact .some _ (x :: after) tail
      | nil =>
        by_cases hx : x = ']'
        · subst hx
          cases hskip : skip flags after with
          | nil =>
            simp only [hskip]
            exact .none _
          | cons y others =>
            simp only [hskip, skip_append hskip]
            exact .some _ (y :: others) tail
        · have hne (after rest : List Char) : x :: after ≠ ']' :: rest :=
            fun e => hx (List.cons.inj e).1
          dsimp only
          split
          · next e => cases e
          · next e _ => cases e
          · next e => exact (hne _ _ e).elim
          · split
            · next e => cases e
            · next e _ => cases e
            · next e => exact (hne _ _ e).elim
            · exact .some _ (x :: after) tail

theorem extended_readOpening? (text tail : List Char) :
    Extended tail (readOpening? flags text) (readOpening? flags (text ++ tail)) := by
  have hnil (negated : Bool) : openedClass? flags negated [] = none := rfl
  rw [readOpening?, readOpening?]
  cases hskip : skip flags text with
  | nil => exact .none _
  | cons c others =>
    rw [skip_append hskip]
    by_cases hc : c = '^'
    · subst hc
      rw [circumflex, circumflex]
      cases hnext : skip flags others with
      | nil => exact .none _
      | cons x next =>
        rw [skip_append hnext]
        exact extended_openedClass? true x next tail
    · rw [circumflex_of_ne hc, circumflex_of_ne hc]
      exact extended_openedClass? false c others tail

/-- The step with more text behind it. -/
def BracketStep.extend (tail : List Char) : BracketStep → BracketStep
  | .more levels rest => .more levels (rest ++ tail)
  | .closed s height rest => .closed s height (rest ++ tail)

/-- A step of the first reader is a step of the second one, with the tail behind. -/
def StepExtended (tail : List Char) (x y : Option BracketStep) : Prop :=
  ∀ step, x = some step → y = some (step.extend tail)

theorem StepExtended.ite {c : Prop} [Decidable c] {x x' y y' : Option BracketStep}
    (h : c → StepExtended tail x y) (h' : ¬ c → StepExtended tail x' y') :
    StepExtended tail (if c then x else x') (if c then y else y') := by
  split
  · next hc => exact h hc
  · next hc => exact h' hc

theorem StepExtended.forall_bind {α : Type} {x : Option α} {f g : α → Option BracketStep}
    (h : ∀ a, StepExtended tail (f a) (g a)) : StepExtended tail (x.bind f) (x.bind g) := by
  cases x with
  | none => exact fun _ h => by cases h
  | some a => exact h a

theorem StepExtended.some (step : BracketStep) :
    StepExtended tail (some step) (some (step.extend tail)) := by
  rintro _ ⟨rfl⟩
  rfl

theorem Extended.more {α : Type} {x y : Option (α × List Char)} (h : Extended tail x y)
    (levels : α → List OpenClass) :
    StepExtended tail (x.map fun p => .more (levels p.1) p.2)
      (y.map fun p => .more (levels p.1) p.2) := by
  intro step hstep
  obtain ⟨⟨a, rest⟩, rfl, rfl⟩ := Option.map_eq_some_iff.1 hstep
  rw [h a rest rfl]
  rfl

/-- An operator is a sign written twice, and what begins the tail is no such sign. -/
theorem stepExtended_operator (htail : IsFresh tail) {first : Prop} [Decidable first] {c : Char}
    (hc : c ∉ ['[', '(']) (levels : List OpenClass) (rest : List Char)
    {x y : Option BracketStep} (h : StepExtended tail x y) :
    StepExtended tail
      (if first ∧ rest.head? = Option.some c then Option.some (.more levels (rest.drop 1)) else x)
      (if first ∧ (rest ++ tail).head? = Option.some c then
        Option.some (.more levels ((rest ++ tail).drop 1)) else y) := by
  cases rest with
  | nil =>
    have hfresh : ¬ (first ∧ ([] ++ tail).head? = Option.some c) := fun h => htail.head_ne hc h.2
    have hnil : ¬ (first ∧ ([] : List Char).head? = Option.some c) := fun h => by cases h.2
    rw [if_neg hnil, if_neg hfresh]
    exact h
  | cons d rest => exact .ite (fun _ => .some _) fun _ => h

/-- One part of a class is read in the same way in front of more text. -/
theorem bracketStep?_append (htail : IsFresh tail) (levels : List OpenClass) (text : List Char) :
    StepExtended tail (bracketStep? flags levels text)
      (bracketStep? flags levels (text ++ tail)) := by
  cases levels with
  | nil =>
    rw [bracketStep?]
    exact fun _ h => by cases h
  | cons level outer =>
    cases hskip : skip flags text with
    | nil =>
      simp only [bracketStep?, hskip]
      exact fun _ h => by cases h
    | cons c rest =>
      simp only [bracketStep?, hskip, skip_append hskip]
      refine .ite (fun _ => ?_) fun _ => .ite (fun _ => ?_) fun _ => ?_
      · rw [readNamed?_append htail]
        cases readNamed? rest with
        | none => exact (extended_readOpening? rest tail).more fun inner => inner :: level :: outer
        | some x => exact .forall_bind fun s => .some (.more (level.add s :: outer) x.2.2)
      · refine .forall_bind fun s => ?_
        cases outer with
        | nil => exact .some (.closed s (level.depth + 1) rest)
        | cons parent outer =>
          exact .some (.more (parent.addClass s (level.depth + 1) :: outer) rest)
      · refine stepExtended_operator htail (by decide) _ rest <|
          stepExtended_operator htail (by decide) _ rest <|
          stepExtended_operator htail (by decide) _ rest ?_
        exact (extended_readRange? htail (c :: rest)).more fun s => level.add s :: outer

theorem readLevels?_append (htail : IsFresh tail) {levels : List OpenClass} {text : List Char}
    {s : CharSet} {height : Nat} {rest : List Char}
    (h : readLevels? flags levels text = some (s, height, rest)) :
    readLevels? flags levels (text ++ tail) = some (s, height, rest ++ tail) := by
  fun_induction readLevels? flags levels text with
  | case1 => cases h
  | case2 levels text s height rest hstep =>
    cases h
    rw [readLevels?, bracketStep?_append htail _ _ _ hstep]
    rfl
  | case3 levels text more after hstep hshort ih =>
    rw [readLevels?, bracketStep?_append htail _ _ _ hstep]
    simp only [BracketStep.extend, List.length_append, Nat.add_lt_add_iff_right]
    rw [if_pos hshort, ih h]
  | case4 => cases h

theorem readBracket?_append (htail : IsFresh tail) {text : List Char} {s : CharSet} {height : Nat}
    {rest : List Char} (h : readBracket? flags text = some (s, height, rest)) :
    readBracket? flags (text ++ tail) = some (s, height, rest ++ tail) := by
  rw [readBracket?] at h ⊢
  obtain ⟨⟨level, after⟩, hopen, h⟩ := Option.bind_eq_some_iff.1 h
  rw [extended_readOpening? text tail level after hopen]
  exact readLevels?_append htail h

theorem eq_append_of_readName? {text rest : List Char} {name : String}
    (h : readName? text = some (name, rest)) :
    IsName name.toList ∧ text = name.toList ++ '>' :: rest := by
  have hall : ∀ c ∈ text.takeWhile (· ≠ '>'), c ≠ '>' := fun c hc => by
    simpa using List.mem_takeWhile_imp hc
  have hsplit := List.prefix_iff_eq_append.1 (List.takeWhile_prefix (p := (· ≠ '>')) (l := text))
  rw [readName?] at h
  split at h
  case h_2 => cases h
  next first others x after hname hafter =>
    rw [hafter, hname] at hsplit
    rw [hname] at hall
    have hx : x = '>' := by
      by_contra hx
      have htake : ((first :: others) ++ x :: after).takeWhile (· ≠ '>') =
          (first :: others) ++ (x :: after).takeWhile (· ≠ '>') :=
        List.takeWhile_append_of_pos fun c hc => decide_eq_true (hall c hc)
      rw [hsplit, hname, List.takeWhile_cons, if_pos (decide_eq_true hx)] at htake
      simp at htake
    split at h
    · next hchars =>
      cases h
      rw [Bool.and_eq_true] at hchars
      rw [String.toList_ofList, hname]
      refine ⟨⟨hchars.1, hchars.2, fun hmem => hall _ hmem rfl⟩, ?_⟩
      rw [← hx, hsplit]
    · cases h

theorem extended_readNamedGroup? (s : State) (text tail : List Char) :
    Extended tail (readNamedGroup? s text) (readNamedGroup? s (text ++ tail)) := by
  refine .bind (fun name rest h => ?_) fun name rest => ?_
  · obtain ⟨hname, rfl⟩ := eq_append_of_readName? h
    rw [List.append_assoc, List.cons_append, readName?_append hname, String.ofList_toList]
  · dsimp only
    exact .ite (fun _ => .none _) fun _ => .some _ _ _

theorem readSigns?_append {text : List Char} {signs : List FlagSign} {stop : Char}
    {rest : List Char} (h : readSigns? text = some (signs, stop, rest)) (tail : List Char) :
    readSigns? (text ++ tail) = some (signs, stop, rest ++ tail) := by
  induction text generalizing signs with
  | nil => cases h
  | cons c text ih =>
    rw [readSigns?] at h
    rw [List.cons_append, readSigns?]
    split at h
    · next hc =>
      cases h
      rw [if_pos hc]
    · next hc =>
      rw [if_neg hc]
      split at h
      · next hoff =>
        obtain ⟨⟨others, x, after⟩, hrest, e⟩ := Option.map_eq_some_iff.1 h
        cases e
        rw [if_pos hoff, ih hrest]
        rfl
      · next hoff =>
        rw [if_neg hoff]
        split at h
        · next hflag =>
          obtain ⟨⟨others, x, after⟩, hrest, e⟩ := Option.map_eq_some_iff.1 h
          cases e
          rw [if_pos hflag, ih hrest]
          rfl
        · cases h

theorem extended_readFlagGroup? (s : State) (text tail : List Char) :
    Extended tail (readFlagGroup? s text) (readFlagGroup? s (text ++ tail)) := by
  intro next rest h
  rw [readFlagGroup?] at h ⊢
  obtain ⟨⟨signs, stop, after⟩, hsigns, h⟩ := Option.bind_eq_some_iff.1 h
  rw [readSigns?_append hsigns]
  refine Extended.ite (c := (!signsAllowed signs) = true) (fun _ => .none _) (fun _ => ?_)
    next rest h
  exact .ite (fun _ => .some _ _ _) fun _ => .ite (fun _ => .none _) fun _ => .some _ _ _

theorem extended_readMarked? (s : State) (text tail : List Char) :
    Extended tail (readMarked? s text) (readMarked? s (text ++ tail)) := by
  cases text with
  | nil => exact .none _
  | cons c text =>
    by_cases hp : c = 'P'
    · subst hp
      cases text with
      | nil =>
        rw [show readMarked? s ['P'] = none from readFlagGroup?_p s []]
        exact .none _
      | cons c text =>
        by_cases hangle : c = '<'
        · subst hangle
          exact extended_readNamedGroup? s text tail
        · rw [readMarked?_p hangle]
          exact .none _
    · by_cases hangle : c = '<'
      · subst hangle
        cases text with
        | nil => exact .none _
        | cons c text =>
          by_cases hequals : c = '='
          · subst hequals
            exact .none _
          · by_cases hbang : c = '!'
            · subst hbang
              exact .none _
            · rw [List.cons_append, List.cons_append, readMarked?_angle hequals hbang,
                readMarked?_angle hequals hbang]
              exact extended_readNamedGroup? s (c :: text) tail
      · rw [List.cons_append, readMarked?_of_ne hp hangle, readMarked?_of_ne hp hangle]
        exact extended_readFlagGroup? s (c :: text) tail

/-- What is read in front of a fresh text is read in the same way as without it, or a comment is
left open at its end, which takes up a text of one line. -/
def ExtendedOrOpen {α : Type} (x : Option (α × List Char))
    (y : List Char → Option (α × List Char)) : Prop :=
  ∀ a rest, x = some (a, rest) →
    (∀ tail, IsFresh tail → y tail = some (a, rest ++ tail)) ∨
      rest = [] ∧ ∀ tail, IsFresh tail → '\n' ∉ tail → y tail = some (a, [])

theorem Extended.orOpen {α : Type} {x : Option (α × List Char)}
    {y : List Char → Option (α × List Char)}
    (h : ∀ tail, IsFresh tail → Extended tail x (y tail)) : ExtendedOrOpen x y :=
  fun a rest hx => .inl fun tail htail => h tail htail a rest hx

theorem extendedOrOpen_readGroup? (s : State) (text : List Char) :
    ExtendedOrOpen (readGroup? s text) fun tail => readGroup? s (text ++ tail) := by
  cases hskip : skip s.flags text with
  | nil =>
    intro next rest h
    rw [readGroup?_of_nil hskip] at h
    cases h
    rcases skip_append_of_nil hskip with hmore | hopen
    · refine .inl fun tail htail => ?_
      have hskip := hmore tail htail
      obtain ⟨c, hc, others, rfl⟩ := htail
      exact readGroup?_of_ne hskip fun e => by simp [e] at hc
    · exact .inr ⟨rfl, fun tail _ hline => readGroup?_of_nil (hopen tail hline)⟩
  | cons c others =>
    refine Extended.orOpen fun tail _ => ?_
    have hmore := skip_append hskip tail
    by_cases hc : c = '?'
    · subst hc
      rw [readGroup?_of_mark hskip, readGroup?_of_mark hmore]
      exact extended_readMarked? s others tail
    · rw [readGroup?_of_ne hskip hc, readGroup?_of_ne hmore hc]
      exact Extended.some _ (c :: others) tail

theorem readGreed_append (htail : tail.head? ≠ some '?') (text : List Char) :
    readGreed (text ++ tail) = ((readGreed text).1, (readGreed text).2 ++ tail) := by
  cases text with
  | nil => exact readGreed_of_head htail
  | cons x text =>
    by_cases hx : x = '?'
    · subst hx
      rfl
    · rw [List.cons_append, readGreed_of_head (by simpa using hx),
        readGreed_of_head (by simpa using hx)]
      rfl

theorem readBound?_append {text rest : List Char} {value : Nat} {c : Char}
    (h : readBound? flags text = some (value, c :: rest)) (tail : List Char) :
    readBound? flags (text ++ tail) = some (value, c :: (rest ++ tail)) := by
  rw [readBound?] at h ⊢
  cases hdrop : text.dropWhile Text.isBlank with
  | nil =>
    rw [hdrop] at h
    simp [takeParts] at h
  | cons x others =>
    cases htake : takeParts flags Char.isDigit false (x :: others) with
    | mk digits after =>
      rw [hdrop, htake] at h
      cases after with
      | nil =>
        simp only at h
        split at h <;> cases h
      | cons y after =>
        have hmore := takeParts_append htake tail
        rw [List.cons_append] at hmore
        rw [dropWhile_append_of_cons hdrop, hmore]
        simp only at h ⊢
        split at h
        · cases h
        · next hvalue =>
          obtain ⟨rfl, hrest⟩ := Prod.mk.inj (Option.some.inj h)
          have hafter := dropWhile_append_of_cons hrest tail
          rw [List.cons_append] at hafter
          rw [if_neg hvalue, hafter]

theorem readBound?_nil (flags : Flags) : readBound? flags [] = none := rfl

theorem readMost?_of_ne {least : Nat} {text rest : List Char} {c : Char}
    (h : skip flags text = c :: rest) (hc : c ≠ '\x7d') :
    readMost? flags least text = (readBound? flags (c :: rest)).bind fun x =>
      if x.2.head? = some '\x7d' ∧ least ≤ x.1 then some (least, some x.1, x.2.tail) else none := by
  rw [readMost?, h]
  split
  · next e => exact (hc (List.cons.inj e).1).elim
  · refine congrArg (Option.bind _) (funext fun x => ?_)
    obtain ⟨most, behind⟩ := x
    rcases behind with _ | ⟨y, behind⟩
    · rfl
    by_cases hy : y = '\x7d'
    · subst hy
      simp
    · simp [hy]

theorem readMost?_append {least least' : Nat} {most : Option Nat} {text rest : List Char}
    (h : readMost? flags least text = some (least', most, rest)) (tail : List Char) :
    readMost? flags least (text ++ tail) = some (least', most, rest ++ tail) := by
  cases hskip : skip flags text with
  | nil =>
    simp only [readMost?, hskip, readBound?_nil] at h
    cases h
  | cons c others =>
    have hmore := skip_append hskip tail
    by_cases hc : c = '\x7d'
    · subst hc
      rw [readMost?, hskip] at h
      rw [readMost?, hmore]
      cases h
      rfl
    · rw [readMost?_of_ne hskip hc] at h
      rw [readMost?_of_ne hmore hc]
      obtain ⟨⟨last, behind⟩, hlast, h⟩ := Option.bind_eq_some_iff.1 h
      rcases behind with _ | ⟨y, behind⟩
      · simp at h
      · have hlast := readBound?_append hlast tail
        rw [List.cons_append] at hlast
        rw [hlast, Option.bind_some]
        obtain ⟨hle, e⟩ := Option.ite_none_right_eq_some.1 h
        cases e
        exact if_pos hle

theorem readBounds?_append {text rest : List Char} {least : Nat} {most : Option Nat}
    (h : readBounds? flags text = some (least, most, rest)) (tail : List Char) :
    readBounds? flags (text ++ tail) = some (least, most, rest ++ tail) := by
  rw [readBounds?] at h ⊢
  obtain ⟨⟨first, after⟩, hfirst, h⟩ := Option.bind_eq_some_iff.1 h
  cases hskip : skip flags text with
  | nil =>
    rw [hskip, readBound?_nil] at hfirst
    cases hfirst
  | cons c others =>
    rcases after with _ | ⟨x, after⟩
    · cases h
    have hmore := readBound?_append (hskip ▸ hfirst) tail
    rw [List.cons_append] at hmore
    rw [skip_append hskip, hmore]
    by_cases hx : x = '\x7d'
    · subst hx
      cases h
      rfl
    by_cases hcomma : x = ','
    · subst hcomma
      exact readMost?_append h tail
    · simp [boundsBehind?, hx, hcomma] at h

theorem extendedOrOpen_readCounted? (s : State) (text : List Char) :
    ExtendedOrOpen (readCounted? s text) fun tail => readCounted? s (text ++ tail) := by
  intro next rest h
  rw [readCounted?] at h
  obtain ⟨⟨least, most, after⟩, hbounds, h⟩ := Option.bind_eq_some_iff.1 h
  have hcounted (tail : List Char) : readCounted? s (text ++ tail) =
      (s.repeatLast? least most (readGreed (skip s.flags (after ++ tail))).1).map fun last =>
        (last, (readGreed (skip s.flags (after ++ tail))).2) := by
    rw [readCounted?, readBounds?_append hbounds]
    simp only [Option.bind_eq_bind, Option.bind_some]
    cases s.repeatLast? least most (readGreed (skip s.flags (after ++ tail))).1 <;> rfl
  simp only at h
  cases hskip : skip s.flags after with
  | nil =>
    rw [hskip] at h
    obtain ⟨last, hlast, e⟩ := Option.bind_eq_some_iff.1 h
    have hlast : s.repeatLast? least most true = some last := hlast
    cases e
    rcases skip_append_of_nil hskip with hmore | hopen
    · refine .inl fun tail htail => (hcounted tail).trans ?_
      rw [hmore tail htail, readGreed_of_head (htail.head_ne (by decide)), hlast]
      rfl
    · refine .inr ⟨rfl, fun tail _ hline => (hcounted tail).trans ?_⟩
      rw [hopen tail hline, readGreed_of_head (by simp), hlast]
      rfl
  | cons c others =>
    rw [hskip] at h
    obtain ⟨last, hlast, e⟩ := Option.bind_eq_some_iff.1 h
    cases e
    refine .inl fun tail htail => (hcounted tail).trans ?_
    rw [skip_append hskip, ← List.cons_append, readGreed_append (htail.head_ne (by decide)),
      hlast]
    rfl

theorem ExtendedOrOpen.ite {α : Type} {c : Prop} [Decidable c] {x x' : Option (α × List Char)}
    {y y' : List Char → Option (α × List Char)} (hpos : c → ExtendedOrOpen x y)
    (hneg : ¬ c → ExtendedOrOpen x' y') :
    ExtendedOrOpen (if c then x else x') fun tail => if c then y tail else y' tail := by
  by_cases h : c
  · simpa only [if_pos h] using hpos h
  · simpa only [if_neg h] using hneg h

theorem extended_repetition (htail : IsFresh tail) (s : State) (least : Nat) (most : Option Nat)
    (text : List Char) :
    Extended tail
      ((s.repeatLast? least most (readGreed text).1).map fun s => (s, (readGreed text).2))
      ((s.repeatLast? least most (readGreed (text ++ tail)).1).map fun s =>
        (s, (readGreed (text ++ tail)).2)) := by
  rw [readGreed_append (htail.head_ne (by decide))]
  exact .map

theorem extended_class (htail : IsFresh tail) (s : State) (text : List Char) :
    Extended tail
      ((readBracket? s.flags text).map fun (chars, height, rest) =>
        (s.push ⟨.set chars, height, true⟩, rest))
      ((readBracket? s.flags (text ++ tail)).map fun (chars, height, rest) =>
        (s.push ⟨.set chars, height, true⟩, rest)) := by
  intro next rest h
  obtain ⟨⟨chars, height, after⟩, hbracket, e⟩ := Option.map_eq_some_iff.1 h
  cases e
  rw [readBracket?_append htail hbracket]
  rfl

/-- A step is the same in front of a fresh text, unless a comment is left open. -/
theorem extendedOrOpen_step? (s : State) (text : List Char) :
    ExtendedOrOpen (step? s text) fun tail => step? s (text ++ tail) := by
  cases text with
  | nil => exact Extended.orOpen fun tail _ => Extended.none _
  | cons c text =>
    simp only [List.cons_append, step?]
    refine .ite (fun _ => extendedOrOpen_readGroup? s text) fun _ => ?_
    refine .ite (fun _ => Extended.orOpen fun tail _ => .map) fun _ => ?_
    refine .ite (fun _ => Extended.orOpen fun tail _ => .some _ _ _) fun _ => ?_
    refine .ite (fun _ => Extended.orOpen fun tail htail => extended_class htail s text) fun _ => ?_
    iterate 3
      refine .ite (fun _ => Extended.orOpen fun tail htail =>
        extended_repetition htail s _ _ text) fun _ => ?_
    refine .ite (fun _ => extendedOrOpen_readCounted? s text) fun _ => ?_
    refine .ite (fun _ => Extended.orOpen fun tail htail => ?_) fun _ => ?_
    · refine .bind (extended_readEscape? htail text) fun primitive rest => ?_
      exact .forall_bind fun regex => .some _ _ _
    refine .ite (fun _ => Extended.orOpen fun tail _ => .map) fun _ => ?_
    iterate 2 refine .ite (fun _ => Extended.orOpen fun tail _ => .some _ _ _) fun _ => ?_
    exact Extended.orOpen fun tail _ => .map

/-- Behind a text that can be read the reader goes on with the following text, unless a comment is
left open. -/
theorem read?_append {s s' : State} {text : List Char} (h : read? s text = some s') :
    (∀ tail, IsFresh tail → read? s (text ++ tail) = read? s' tail) ∨
      ∀ tail, IsFresh tail → '\n' ∉ tail → read? s (text ++ tail) = some s' := by
  fun_induction read? s text with
  | case1 s text hskip =>
    cases h
    rcases skip_append_of_nil hskip with hmore | hopen
    · exact .inl fun tail htail => by rw [← read?_skip, hmore tail htail]
    · exact .inr fun tail _ hline => by rw [← read?_skip, hopen tail hline, read?_nil]
  | case2 => cases h
  | case3 s text c rest hskip next after hstep hshort ih =>
    have hnext {tail behind : List Char}
        (hmore : step? s ((c :: rest) ++ tail) = some (next, behind)) :
        read? s (text ++ tail) = read? next behind := by
      rw [read?_eq, skip_append hskip]
      exact congrArg (Option.bind · _) hmore
    rcases extendedOrOpen_step? s (c :: rest) next after hstep with hmore | ⟨rfl, hopen⟩
    · rcases ih h with hrest | hrest
      · exact .inl fun tail htail => (hnext (hmore tail htail)).trans (hrest tail htail)
      · exact .inr fun tail htail hline =>
          (hnext (hmore tail htail)).trans (hrest tail htail hline)
    · exact .inr fun tail htail hline => (hnext (hopen tail htail hline)).trans h
  | case4 => cases h

end Lapse.Regex.Reader
