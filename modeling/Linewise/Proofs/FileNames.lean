import Linewise.Proofs.Places

/-! The last name of a path. Joining, making absolute and following a path all keep how its last name ends, so files
whose names end differently lie at different places, whatever their directories are. -/
namespace Linewise

/-- A list of names whose last one ends in this way. -/
def EndsIn (ending : List Char) (names : List String) : Prop :=
  ∃ name, names.getLast? = some name ∧ ending <:+ name.toList

theorem endsIn_append {ending : List Char} {names : List String} (before : List String) (ends : EndsIn ending names) :
    EndsIn ending (before ++ names) := by
  obtain ⟨name, last, suffix⟩ := ends
  exact ⟨name, by simp [List.getLast?_append, last], suffix⟩

theorem not_endsIn_both {names : List String} (log : EndsIn ".log".toList names) (json : EndsIn ".json".toList names) :
    False := by
  obtain ⟨name, last, suffix⟩ := log
  obtain ⟨other, last', suffix'⟩ := json
  obtain rfl : name = other := Option.some.inj (last.symm.trans last')
  have ending := List.IsSuffix.getLast suffix (by decide)
  have ending' := List.IsSuffix.getLast suffix' (by decide)
  exact absurd (ending.trans ending'.symm) (by decide)

namespace Path

theorem segments_plain {text : List Char} (plain : '/' ∉ text) : segments text = [text] := by
  induction text with
  | nil => rfl
  | cons c text ih =>
    simp only [List.mem_cons, not_or] at plain
    rw [segments, if_neg (Ne.symm plain.1), ih plain.2]

/-- What a text ends in, its last segment ends in. -/
theorem exists_last_segment (text : List Char) {ending : List Char} (plain : '/' ∉ ending) :
    ∃ early last, segments (text ++ ending) = early ++ [last] ∧ ending <:+ last := by
  induction text with
  | nil => exact ⟨[], ending, segments_plain plain, List.suffix_refl ending⟩
  | cons c text ih =>
    obtain ⟨early, last, cut, suffix⟩ := ih
    rw [List.cons_append, segments, cut]
    by_cases slash : c = '/'
    · exact ⟨[] :: early, last, by rw [if_pos slash]; rfl, suffix⟩
    · rw [if_neg slash]
      cases early with
      | nil => exact ⟨[], c :: last, rfl, suffix.trans (List.suffix_cons c last)⟩
      | cons first early => exact ⟨(c :: first) :: early, last, rfl, suffix⟩

section

variable {ending : List Char} (plain : '/' ∉ ending) (long : 2 < ending.length)

include long

theorem ne_of_endsIn {names : List String} {name : String} (last : names.getLast? = some name)
    (ends : EndsIn ending names) : name ≠ "" ∧ name ≠ "." ∧ name ≠ ".." := by
  obtain ⟨other, last', suffix⟩ := ends
  obtain rfl : name = other := Option.some.inj (last.symm.trans last')
  have enough : 2 < name.toList.length := Nat.lt_of_lt_of_le long suffix.length_le
  refine ⟨?_, ?_, ?_⟩ <;> rintro rfl <;> exact absurd enough (by decide)

section

include plain

theorem endsIn_namesOf {path : String} (suffix : ending <:+ path.toList) : EndsIn ending (namesOf path) := by
  obtain ⟨text, split⟩ := suffix
  obtain ⟨early, last, cut, suffix⟩ := exists_last_segment text plain
  have enough : 2 < last.length := Nat.lt_of_lt_of_le long suffix.length_le
  have filled : last ≠ [] := by
    rintro rfl
    exact absurd enough (by decide)
  refine ⟨String.ofList last, ?_, by simpa using suffix⟩
  simp [namesOf, ← split, cut, filled]

theorem endsIn_parse {path : String} (suffix : ending <:+ path.toList) : EndsIn ending (parse path).names := by
  have ends := endsIn_namesOf plain long suffix
  obtain ⟨name, last, suffix⟩ := ends
  obtain ⟨early, split⟩ := List.getLast?_eq_some_iff.mp last
  have kept := (ne_of_endsIn long last ⟨name, last, suffix⟩).2.1
  refine ⟨name, ?_, suffix⟩
  simp [parse, split, kept]

theorem endsIn_join (path : Path) {inner : String} (suffix : ending <:+ inner.toList) :
    EndsIn ending (path.join inner).names := by
  have ends := endsIn_parse plain long suffix
  simp only [join]
  split
  · exact endsIn_append path.names ends
  · exact ends

end

theorem endsIn_collapse {names : List String} (ends : EndsIn ending names) : EndsIn ending (collapse names) := by
  obtain ⟨name, last, suffix⟩ := ends
  obtain ⟨early, rfl⟩ := List.getLast?_eq_some_iff.mp last
  have kept := (ne_of_endsIn long last ⟨name, last, suffix⟩).2.2
  refine ⟨name, ?_, suffix⟩
  simp [collapse, List.foldl_append, kept]

theorem endsIn_absolute (directory : List String) {path : Path} (ends : EndsIn ending path.names) :
    EndsIn ending (path.absolute directory).names := by
  simp only [absolute]
  split
  · exact endsIn_collapse long (endsIn_append directory ends)
  · exact endsIn_collapse long ends

omit long in
/-- What the last name ends in, the path as it is written ends in. -/
theorem suffix_render {path : Path} (ends : EndsIn ending path.names) : ending <:+ path.render.toList := by
  obtain ⟨name, last, suffix⟩ := ends
  obtain ⟨early, split⟩ := List.getLast?_eq_some_iff.mp last
  have written : ∃ before, "/".intercalate path.names = before ++ name := by
    rw [split]
    cases early with
    | nil => exact ⟨"", by simp⟩
    | cons first early => exact ⟨_, String.intercalate_append_of_ne_nil (by simp) (by simp)⟩
  obtain ⟨before, written⟩ := written
  have filled : path.names ≠ [] := by simp [split]
  refine suffix.trans ?_
  rw [render, if_neg (fun none => filled none.2), written]
  simp only [String.toList_append]
  exact (List.suffix_append _ _).trans (List.suffix_append _ _)

end

end Path

namespace FileTree

/-- The place of a path ends as the path does. -/
theorem endsIn_place (working : Location) {path : String} {ending : List Char} (plain : '/' ∉ ending)
    (long : 2 < ending.length) (suffix : ending <:+ path.toList) : EndsIn ending (place working path) := by
  obtain ⟨name, last, ends⟩ := Path.endsIn_namesOf plain long suffix
  obtain ⟨-, notSame, notUp⟩ := Path.ne_of_endsIn long last ⟨name, last, ends⟩
  exact ⟨name, getLast?_walk _ notSame notUp last, ends⟩

/-- A file is written at a place whose last name ends as the path does. -/
theorem endsIn_of_writable {tree : FileTree} {path : String} {location : Location} {ending : List Char}
    (plain : '/' ∉ ending) (long : 2 < ending.length) (suffix : ending <:+ path.toList)
    (written : tree.writable path = .ok location) : EndsIn ending location := by
  rw [(location_of_writable written).1]
  exact endsIn_place tree.working plain long suffix

end FileTree

end Linewise
