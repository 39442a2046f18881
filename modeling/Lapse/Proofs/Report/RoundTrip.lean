import Mathlib
import Lapse.Proofs.Calendar.RoundTrip
import Lapse.Proofs.Json.RoundTrip
import Lapse.Proofs.Path.Text
import Lapse.Report.Json

/-!
# Reports read back

A report is read back from its JSON text field for field. The counts are those of the report and
are not made anew from the findings.
-/
namespace Lapse

open Calendar (Date Instant)
open Json (IsWhole)

/-- What is written member by member is read member by member. -/
theorem exists_mapM_eq_some {α β : Type} {write : α → Option β} {read : β → Option α}
    {P : β → Prop} {xs : List α}
    (h : ∀ a ∈ xs, ∃ b, write a = some b ∧ P b ∧ read b = some a) :
    ∃ ys, xs.mapM write = some ys ∧ (∀ b ∈ ys, P b) ∧ ys.mapM read = some xs := by
  induction xs with
  | nil => exact ⟨[], rfl, by simp, rfl⟩
  | cons a xs ih =>
    obtain ⟨ha, hxs⟩ := List.forall_mem_cons.1 h
    obtain ⟨b, hwrite, hb, hread⟩ := ha
    obtain ⟨ys, hwrites, hys, hreads⟩ := ih hxs
    refine ⟨b :: ys, ?_, List.forall_mem_cons.2 ⟨hb, hys⟩, ?_⟩
    · rw [List.mapM_cons, hwrite, hwrites]
      rfl
    · rw [List.mapM_cons, hread, hreads]
      rfl

theorem isSome_mapM {α β : Type} {write : α → Option β} {xs : List α}
    (h : ∀ a ∈ xs, (write a).isSome) : (xs.mapM write).isSome := by
  induction xs with
  | nil => rfl
  | cons a xs ih =>
    obtain ⟨ha, hxs⟩ := List.forall_mem_cons.1 h
    obtain ⟨b, hb⟩ := Option.isSome_iff_exists.1 ha
    obtain ⟨ys, hys⟩ := Option.isSome_iff_exists.1 (ih hxs)
    rw [List.mapM_cons, hb, hys]
    rfl

theorem mapM_ofString?_map_string (texts : List String) :
    (texts.map Json.string).mapM (fun j => j.string?.map Path.ofString) =
      some (texts.map Path.ofString) := by
  induction texts with
  | nil => rfl
  | cons text texts ih =>
    rw [List.map_cons, List.mapM_cons, ih]
    rfl

theorem isWhole_count {depth n : Nat} (hn : n < 2 ^ 64) : IsWhole depth (.int n) :=
  .int (by omega) (by omega)

theorem count?_count {n : Nat} (hn : n < 2 ^ 64) : (Json.int n).count? = some n := if_pos hn

theorem isWhole_optional {α : Type} {depth : Nat} {f : α → Json} (h : ∀ a, IsWhole depth (f a))
    (a : Option α) : IsWhole depth (optional f a) := by
  cases a with
  | none => exact .null
  | some a => exact h a

namespace Note

theorem optionalMember?_optional {α : Type} {members : List (String × Json)} {name : String}
    {write : α → String} {read : Json → Option α} {value : Option α}
    (hcount : Json.countMember members name = 1)
    (hmember : Json.member? members name = some (optional (fun a => .string (write a)) value))
    (hread : ∀ a, read (.string (write a)) = some a) :
    optionalMember? members name read = some value := by
  rw [optionalMember?, hcount, hmember]
  cases value with
  | none => rfl
  | some a =>
    show (read (.string (write a))).map some = _
    rw [hread]
    rfl

theorem isWhole_of_mem_members {a : Note} (hline : a.line < 2 ^ 64) {m : String × Json}
    (hm : m ∈ a.members) {depth : Nat} : IsWhole depth m.2 := by
  simp only [members, List.mem_cons, List.not_mem_nil, or_false] at hm
  rcases hm with rfl | rfl | rfl | rfl | rfl | rfl
  · exact .string _
  · exact .string _
  · exact .string _
  · exact isWhole_optional (fun d => .string _) _
  · exact isWhole_count hline
  · exact .string _

end Note

namespace Finding

/-- The members of a finding whose file is a text. -/
def members (f : Finding) (file : String) : List (String × Json) :=
  ("file", .string file) :: f.note.members ++ [("violation", optional .string f.violation)]

theorem ofMembers?_members {f : Finding} (hline : f.note.line < 2 ^ 64) (file : String) :
    Note.ofMembers? (f.members file) = some f.note := by
  have htext {name value : String} (h : Json.member? (f.members file) name = some (.string value)) :
      (Json.member? (f.members file) name).bind Json.string? = some value := by
    rw [h]
    rfl
  have hexpiry : Note.optionalMember? (f.members file) "expiry"
      (fun j => j.string?.bind Date.ofText?) = some f.note.expiry :=
    Note.optionalMember?_optional (by simp [members, Note.members, Json.countMember])
      (by simp [members, Note.members, Json.member?]) Date.ofText?_text
  have hnumber : (Json.member? (f.members file) "line_number").bind Json.count? =
      some f.note.line := by
    have h : Json.member? (f.members file) "line_number" = some (.int f.note.line) := by
      simp [members, Note.members, Json.member?]
    rw [h]
    exact count?_count hline
  have hopener := htext (show Json.member? (f.members file) "comment_prefix" =
    some (.string f.note.opener) by simp [members, Note.members, Json.member?])
  have htag := htext (show Json.member? (f.members file) "tag" =
    some (.string f.note.tag) by simp [members, Note.members, Json.member?])
  have hcontent := htext (show Json.member? (f.members file) "content" =
    some (.string f.note.content) by simp [members, Note.members, Json.member?])
  have hsource := htext (show Json.member? (f.members file) "original_line" =
    some (.string f.note.source) by simp [members, Note.members, Json.member?])
  simp only [Note.ofMembers?, hopener, htag, hcontent, hexpiry, hnumber, hsource,
    Option.bind_eq_bind, Option.bind_some]
  rfl

theorem toJson?_eq {f : Finding} {file : String} (hfile : f.file = Path.ofString file) :
    f.toJson? = some (.object (f.members file)) := by
  rw [toJson?, hfile, Path.text?_ofString]
  rfl

/-- A finding in a file with a text for a name has a JSON form, which is read as the finding. -/
theorem exists_toJson {f : Finding} (hfile : f.file.IsText) (hline : f.note.line < 2 ^ 64) :
    ∃ j, f.toJson? = some j ∧ IsWhole 1 j ∧ ofJson? j = some f := by
  obtain ⟨file, hfile⟩ := hfile.exists_eq
  refine ⟨.object (f.members file), toJson?_eq hfile, .object fun m hm => ?_, ?_⟩
  · simp only [members, List.cons_append, List.mem_cons, List.mem_append, List.not_mem_nil,
      or_false] at hm
    rcases hm with rfl | hm | rfl
    · exact .string file
    · exact Note.isWhole_of_mem_members hline hm
    · exact isWhole_optional .string _
  · have hmember : Json.member? (f.members file) "file" = some (.string file) := by
      simp [members, Note.members, Json.member?]
    have hviolation : Note.optionalMember? (f.members file) "violation" Json.string? =
        some f.violation :=
      @Note.optionalMember?_optional _ _ _ id _ _
        (by simp [members, Note.members, Json.countMember])
        (by simp [members, Note.members, Json.member?]) fun _ => rfl
    rw [ofJson?]
    simp only [Json.object?, Option.bind_eq_bind, Option.bind_some, hmember, Json.string?,
      ofMembers?_members hline, hviolation, ← hfile]
    rfl

end Finding

namespace TagCounts

/-- A tag behind all others is added at the end. -/
theorem adjust_of_forall_lt {counts : TagCounts} {tag : String}
    (h : ∀ c ∈ counts, c.1 < tag) (f : Nat → Nat) :
    counts.adjust tag f = counts ++ [(tag, f 0)] := by
  induction counts with
  | nil => rfl
  | cons c counts ih =>
    obtain ⟨t, n⟩ := c
    obtain ⟨ht, hcounts⟩ := List.forall_mem_cons.1 h
    have hne : t ≠ tag := ne_of_lt ht
    have hnot : ¬ tag < t := lt_asymm ht
    rw [adjust, if_neg hne, if_neg hnot, ih hcounts]
    rfl

theorem readCounts?_append {done counts : TagCounts}
    (hsorted : ((done ++ counts).map (·.1)).Pairwise (· < ·))
    (hcounts : ∀ c ∈ counts, c.2 < 2 ^ 64) :
    (counts.map fun (tag, n) => (tag, Json.int n)).foldlM (fun (counts : TagCounts) (tag, j) => do
      let n ← j.count?
      return counts.adjust tag fun _ => n) done = some (done ++ counts) := by
  induction counts generalizing done with
  | nil => simp
  | cons c counts ih =>
    obtain ⟨tag, n⟩ := c
    obtain ⟨hn, hcounts⟩ := List.forall_mem_cons.1 hcounts
    have hlast : ∀ c ∈ done, c.1 < tag := by
      intro c hc
      rw [List.map_append, List.pairwise_append] at hsorted
      exact hsorted.2.2 c.1 (List.mem_map_of_mem hc) tag (by simp)
    have ih := @ih (done ++ [(tag, n)]) (by simpa using hsorted) hcounts
    rw [List.append_assoc] at ih
    rw [List.map_cons, List.foldlM_cons]
    simp only [count?_count hn, adjust_of_forall_lt hlast, Option.bind_eq_bind, Option.bind_some]
    exact ih

end TagCounts

namespace Report

/-- The numbers of the report fit into 64 bits, its tags ascend, and its time is one of the calendar
with less than a second of nanoseconds. -/
structure IsProper (r : Report) : Prop where
  filesScanned : r.filesScanned < 2 ^ 64
  total : r.total < 2 ^ 64
  violationCount : r.violationCount < 2 ^ 64
  byTag : ∀ c ∈ r.byTag, c.2 < 2 ^ 64
  ascending : (r.byTag.map (·.1)).Pairwise (· < ·)
  lines : ∀ f ∈ r.findings, f.note.line < 2 ^ 64
  inCalendar : r.time.InCalendar
  nanos : r.time.nanos < 1000000000

/-- All paths of the report are texts. -/
structure HasTextPaths (r : Report) : Prop where
  paths : ∀ p ∈ r.paths, p.IsText
  files : ∀ f ∈ r.findings, f.file.IsText

/-- A report whose paths are texts has a JSON text. -/
theorem isSome_jsonText? {r : Report} (htexts : r.HasTextPaths) : r.jsonText?.isSome := by
  obtain ⟨paths, hpaths⟩ := Path.exists_map_ofString htexts.paths
  have hfindings : (r.findings.mapM Finding.toJson?).isSome := by
    refine isSome_mapM fun f hf => ?_
    obtain ⟨file, hfile⟩ := (htexts.files f hf).exists_eq
    rw [Finding.toJson?_eq hfile]
    rfl
  obtain ⟨findings, hwrite⟩ := Option.isSome_iff_exists.1 hfindings
  rw [jsonText?, toJson?, hpaths, Path.mapM_text?_map_ofString, hwrite]
  rfl

theorem fields?_object (paths filesScanned total violationCount byTag findings time : Json) :
    fields? (.object (fieldNames.zip
      [paths, filesScanned, total, violationCount, byTag, findings, time])) =
        some [paths, filesScanned, total, violationCount, byTag, findings, time] := by
  simp [fields?, fieldNames, Json.member?]

/-- The values of the fields, given the texts of the paths and the findings' JSON forms. -/
def values (r : Report) (paths : List String) (findings : List Json) : List Json :=
  [.array (paths.map .string), .int r.filesScanned, .int r.total, .int r.violationCount,
    .object (r.byTag.map fun (tag, n) => (tag, .int n)), .array findings, .string r.time.text]

theorem isWhole_of_mem_values {r : Report} (hproper : r.IsProper) {paths : List String}
    {findings : List Json} (hfindings : ∀ j ∈ findings, IsWhole 1 j) {j : Json}
    (hj : j ∈ r.values paths findings) : IsWhole 2 j := by
  simp only [values, List.mem_cons, List.not_mem_nil, or_false] at hj
  rcases hj with rfl | rfl | rfl | rfl | rfl | rfl | rfl
  · refine .array fun j hj => ?_
    obtain ⟨path, -, rfl⟩ := List.mem_map.1 hj
    exact .string path
  · exact isWhole_count hproper.filesScanned
  · exact isWhole_count hproper.total
  · exact isWhole_count hproper.violationCount
  · refine .object fun m hm => ?_
    obtain ⟨c, hc, rfl⟩ := List.mem_map.1 hm
    exact isWhole_count (hproper.byTag c hc)
  · exact .array hfindings
  · exact .string _

theorem ofJson?_values {r : Report} (hproper : r.IsProper) {paths : List String}
    (hpaths : r.paths = paths.map Path.ofString) {findings : List Json}
    (hfindings : findings.mapM Finding.ofJson? = some r.findings) :
    ofJson? (.object (fieldNames.zip (r.values paths findings))) = some r := by
  have hcounts : readCounts? (r.byTag.map fun (tag, n) => (tag, .int n)) = some r.byTag :=
    @TagCounts.readCounts?_append [] r.byTag hproper.ascending hproper.byTag
  have htime : Instant.ofText? r.time.text = some r.time :=
    Instant.ofText?_text hproper.inCalendar hproper.nanos
  have hstring (text : String) : (Json.string text).string? = some text := rfl
  rw [ofJson?, values, fields?_object]
  simp only [Option.bind_eq_bind, Option.bind_some, Json.array?, Json.object?, hstring,
    mapM_ofString?_map_string, count?_count hproper.filesScanned, count?_count hproper.total,
    count?_count hproper.violationCount, hcounts, hfindings, htime, ← hpaths]
  rfl

theorem exists_toJson {r : Report} (hproper : r.IsProper) (htexts : r.HasTextPaths) :
    ∃ j, r.toJson? = some j ∧ IsWhole 3 j ∧ ofJson? j = some r := by
  obtain ⟨paths, hpaths⟩ := Path.exists_map_ofString htexts.paths
  obtain ⟨findings, hwrite, hwhole, hread⟩ := exists_mapM_eq_some fun f hf =>
    Finding.exists_toJson (htexts.files f hf) (hproper.lines f hf)
  refine ⟨.object (fieldNames.zip (r.values paths findings)), ?_, .object fun m hm => ?_,
    ofJson?_values hproper hpaths hread⟩
  · rw [toJson?, hpaths, Path.mapM_text?_map_ofString, hwrite]
    rfl
  · exact isWhole_of_mem_values hproper hwhole (List.of_mem_zip hm).2

/-- A report whose paths are texts is read back from its JSON text, and what is read is written as
the same text again. -/
theorem ofJsonText?_jsonText {r : Report} (hproper : r.IsProper) (htexts : r.HasTextPaths) :
    ∃ text, r.jsonText? = some text ∧ ofJsonText? text = some r ∧
      (ofJsonText? text).bind jsonText? = some text := by
  obtain ⟨j, hwrite, hwhole, hread⟩ := exists_toJson hproper htexts
  have htext : r.jsonText? = some (String.ofList (Json.pretty 0 j)) := by
    rw [jsonText?, hwrite]
    rfl
  have hreport : ofJsonText? (String.ofList (Json.pretty 0 j)) = some r := by
    rw [ofJsonText?, String.toList_ofList, Json.ofText?_pretty hwhole (by decide)]
    exact hread
  exact ⟨_, htext, hreport, by rw [hreport]; exact htext⟩

/-- A report before 1970 with a note that was due before year zero, and counts that are not those of
its findings. -/
def ancientReport : Report where
  paths := [Path.ofString "src", Path.ofString "é \"x\""]
  filesScanned := 7
  total := 9007199254740991
  violationCount := 0
  byTag := [("FIXME", 3), ("TO\nDO", 0)]
  findings :=
    [{ file := Path.ofString "src/a.rs"
       note := ⟨"//", "FIXME", "\\ \u0001", some ⟨-44, 3, 15, by decide⟩, 12, "// FIXME"⟩
       violation := some "overdue" },
     { file := Path.ofString "b", note := ⟨"#", "TODO", "", none, 1, ""⟩, violation := none }]
  time := ⟨-1, 5⟩

theorem ofJsonText?_ancientReport :
    ∃ text, ancientReport.jsonText? = some text ∧ ofJsonText? text = some ancientReport ∧
      (ofJsonText? text).bind jsonText? = some text := by
  have hproper : ancientReport.IsProper :=
    ⟨by decide, by decide, by decide, by decide, by decide, by decide, by decide, by decide⟩
  have htexts : ancientReport.HasTextPaths := ⟨by decide, by decide⟩
  exact ofJsonText?_jsonText hproper htexts

end Report

end Lapse
