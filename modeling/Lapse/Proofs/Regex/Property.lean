import Mathlib.Data.List.TakeWhile
import Lapse.Proofs.Text.Find
import Lapse.Regex.Reader.Escape

/-!
# Names of properties

No property is named by a text with a parenthesis in it.
-/
namespace Lapse.Regex

namespace Property

theorem forall_named : ∀ table ∈ [Text.Property.named, Text.Script.named, Text.Script.extended,
    Text.Age.versions, Text.Segment.character, Text.Segment.word, Text.Segment.sentence],
    ∀ row ∈ table, ∀ name ∈ row.1, '(' ∉ name.toList := by
  decide +kernel

theorem forall_categories : ∀ row ∈ categories, ∀ name ∈ row.1, '(' ∉ name.toList := by
  decide +kernel

theorem forall_valued : ∀ row ∈ valued, ∀ name ∈ row.1, '(' ∉ name.toList := by
  decide +kernel

variable {name : List Char}

theorem find?_eq_none {α : Type} {table : List (List String × α)}
    (htable : ∀ row ∈ table, ∀ name ∈ row.1, '(' ∉ name.toList) (h : '(' ∈ name) :
    find? table (String.ofList name) = none := by
  rw [find?, Option.map_eq_none_iff, List.find?_eq_none]
  intro row hrow hcontains
  refine htable row hrow _ (List.contains_iff_mem.1 hcontains) ?_
  rwa [String.toList_ofList]

theorem ne_of_mem (h : '(' ∈ name) {other : String} (hother : '(' ∉ other.toList) :
    String.ofList name ≠ other := by
  rintro rfl
  exact hother (by rwa [String.toList_ofList])

theorem category?_eq_none (h : '(' ∈ name) : category? (String.ofList name) = none := by
  rw [category?, if_neg (ne_of_mem h (by decide)), if_neg (ne_of_mem h (by decide)),
    if_neg (ne_of_mem h (by decide)), find?_eq_none forall_categories h]
  rfl

theorem tabled?_eq_none {table : List (List String × Text.Intervals)}
    (htable : ∀ row ∈ table, ∀ name ∈ row.1, '(' ∉ name.toList) (h : '(' ∈ name) :
    tabled? table (String.ofList name) = none := by
  rw [tabled?, find?_eq_none htable h]
  rfl

theorem script?_eq_none (h : '(' ∈ name) : script? (String.ofList name) = none :=
  tabled?_eq_none (forall_named _ (by simp)) h

theorem scriptExtension?_eq_none (h : '(' ∈ name) :
    scriptExtension? (String.ofList name) = none := by
  rw [scriptExtension?, tabled?_eq_none (forall_named _ (by simp)) h, script?_eq_none h]
  rfl

/-- The versions before the one that is named are then all of them. -/
theorem age?_eq_none (h : '(' ∈ name) : age? (String.ofList name) = none := by
  have hall : ∀ row ∈ Text.Age.versions, (!row.1.contains (String.ofList name)) = true := by
    intro row hrow
    rw [Bool.not_eq_true', Bool.eq_false_iff]
    intro hcontains
    refine forall_named Text.Age.versions (by simp) row hrow _ (List.contains_iff_mem.1 hcontains) ?_
    rwa [String.toList_ofList]
  have htake : Text.Age.versions.takeWhile (fun row => !row.1.contains (String.ofList name)) =
      Text.Age.versions := List.takeWhile_eq_self_iff.2 hall
  simp only [age?, htake, List.getElem?_eq_none (Nat.le_refl _), Option.map_none]

theorem mem_normalize (h : '(' ∈ name) : '(' ∈ normalize name := by
  have hkept {text : List Char} (h : '(' ∈ text) :
      '(' ∈ (text.filter fun c => c ≠ ' ' ∧ c ≠ '_' ∧ c ≠ '-' ∧ c.val < 128).map Char.toLower :=
    List.mem_map.2 ⟨'(', List.mem_filter.2 ⟨h, by decide⟩, rfl⟩
  have hrest (begins : (name.take 2).map Char.toLower = ['i', 's']) : '(' ∈ name.drop 2 := by
    rw [← List.take_append_drop 2 name, List.mem_append] at h
    refine h.resolve_left fun hfront => ?_
    have hmem : Char.toLower '(' ∈ ['i', 's'] := begins ▸ List.mem_map_of_mem hfront
    exact absurd hmem (by decide)
  by_cases begins : (name.take 2).map Char.toLower = ['i', 's']
  · have hmem := hkept (hrest begins)
    simp only [normalize, begins, if_true, true_and]
    split
    · next e =>
      rw [e] at hmem
      exact absurd hmem (by decide)
    · exact hmem
  · simp only [normalize, begins, if_false, false_and]
    exact hkept h

/-- No name of a property has a parenthesis. -/
theorem ofName?_eq_none (h : '(' ∈ name) : ofName? name = none := by
  have hname := mem_normalize h
  rw [ofName?]
  simp only [tabled?_eq_none (forall_named Text.Property.named (by simp)) hname,
    category?_eq_none hname, script?_eq_none hname]
  split <;> rfl

theorem eq_none_of_mem_valued {row : List String × (String → Option CharSet)} (hrow : row ∈ valued)
    (h : '(' ∈ name) : row.2 (String.ofList name) = none := by
  simp only [valued, List.mem_cons, List.not_mem_nil, or_false] at hrow
  rcases hrow with rfl | rfl | rfl | rfl | rfl | rfl | rfl
  · exact category?_eq_none h
  · exact script?_eq_none h
  · exact scriptExtension?_eq_none h
  · exact age?_eq_none h
  all_goals exact tabled?_eq_none (forall_named _ (by simp)) h

theorem ofValue?_eq_none {property value : List Char} (h : '(' ∈ property ∨ '(' ∈ value) :
    ofValue? property value = none := by
  rw [ofValue?]
  rcases h with h | h
  · rw [find?_eq_none forall_valued (mem_normalize h)]
    rfl
  · rw [Option.bind_eq_none_iff]
    intro set? hset
    obtain ⟨row, hrow, rfl⟩ := Option.map_eq_some_iff.1 hset
    exact eq_none_of_mem_valued (List.mem_of_find?_eq_some hrow) (mem_normalize h)

end Property

theorem Reader.propertySet?_eq_none {name : List Char} (h : '(' ∈ name) :
    propertySet? name = none := by
  have hparts {mark front back : List Char} (hmark : '(' ∉ mark)
      (hsplit : Text.splitAt? mark name = some (front, back)) : '(' ∈ front ∨ '(' ∈ back := by
    rw [Text.eq_append_of_splitAt? hsplit, List.mem_append, List.mem_append] at h
    exact h.imp_right fun h => h.resolve_left hmark
  unfold propertySet?
  dsimp only
  split
  · next property value hsplit =>
    refine Property.ofValue?_eq_none ?_
    rcases Option.or_eq_some_iff.1 hsplit with hsplit | ⟨-, hsplit⟩
    · exact hparts (by decide) hsplit
    · rcases Option.or_eq_some_iff.1 hsplit with hsplit | ⟨-, hsplit⟩
      · exact hparts (by decide) hsplit
      · exact hparts (by decide) hsplit
  · exact Property.ofName?_eq_none h

end Lapse.Regex
