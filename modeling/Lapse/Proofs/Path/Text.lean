import Mathlib
import Lapse.Path

/-!
# Paths that are texts

A path whose bytes are UTF-8 is the path of exactly one text, and so is a path that is put together
from such paths.
-/
namespace Lapse.Path

/-- The bytes of the path are UTF-8. -/
def IsText (p : Path) : Prop := p.text?.isSome

instance (p : Path) : Decidable p.IsText := inferInstanceAs (Decidable (_ = _))

theorem ofString_of_text? {p : Path} {s : String} (h : p.text? = some s) : ofString s = p := by
  rw [text?, String.fromUTF8?] at h
  split at h
  · next hvalid =>
    cases h
    rfl
  · cases h

theorem isText_ofString (s : String) : (ofString s).IsText := by
  rw [IsText, text?_ofString]
  rfl

theorem IsText.exists_eq {p : Path} (h : p.IsText) : ∃ s, p = ofString s := by
  obtain ⟨s, hs⟩ := Option.isSome_iff_exists.1 h
  exact ⟨s, (ofString_of_text? hs).symm⟩

/-- Paths that are texts are the paths of some texts. -/
theorem exists_map_ofString {paths : List Path} (h : ∀ p ∈ paths, p.IsText) :
    ∃ texts : List String, paths = texts.map ofString := by
  induction paths with
  | nil => exact ⟨[], rfl⟩
  | cons p paths ih =>
    obtain ⟨hp, hpaths⟩ := List.forall_mem_cons.1 h
    obtain ⟨s, rfl⟩ := hp.exists_eq
    obtain ⟨texts, rfl⟩ := ih hpaths
    exact ⟨s :: texts, rfl⟩

theorem mapM_text?_map_ofString (texts : List String) :
    (texts.map ofString).mapM text? = some texts := by
  induction texts with
  | nil => rfl
  | cons s texts ih =>
    rw [List.map_cons, List.mapM_cons, text?_ofString, ih]
    rfl

theorem bytes_append_ofString (s t : String) :
    (ofString s).bytes ++ (ofString t).bytes = (ofString (s ++ t)).bytes := by
  simp [ofString]

theorem isText_append {p q : Path} (hp : p.IsText) (hq : q.IsText) :
    IsText ⟨p.bytes ++ q.bytes⟩ := by
  obtain ⟨s, rfl⟩ := hp.exists_eq
  obtain ⟨t, rfl⟩ := hq.exists_eq
  rw [bytes_append_ofString]
  exact isText_ofString (s ++ t)

theorem isText_join {p q : Path} (hp : p.IsText) (hq : q.IsText) : (p.join q).IsText := by
  have hslash : IsText ⟨[slash]⟩ := isText_ofString "/"
  rw [join]
  split
  · exact hq
  split
  · exact isText_append hp hq
  · have h := isText_append hp (isText_append hslash hq)
    exact h

end Lapse.Path
