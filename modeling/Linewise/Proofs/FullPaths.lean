import Linewise.Proofs.FileNames
import Mathlib.Data.List.Basic

/-! Paths as they are written and as full paths. A tidy path is read back from its text, and stands for the same place
as the full path that is made of it without following any link. -/
namespace Linewise

namespace Path

/-- A name that a tidy path can have: it is not empty, does not stand for the directory it is in, and has no slash. -/
structure IsName (name : String) : Prop where
  filled : name ≠ ""
  moves : name ≠ "."
  whole : '/' ∉ name.toList

/-- A path as parsing leaves it. -/
structure Tidy (path : Path) : Prop where
  root : path.root = "" ∨ path.root = "/" ∨ path.root = "//"
  names : ∀ name ∈ path.names, IsName name

theorem not_mem_of_mem_segments {text piece : List Char} (member : piece ∈ segments text) : '/' ∉ piece := by
  induction text generalizing piece with
  | nil =>
    rw [List.mem_singleton.mp member]
    simp
  | cons c rest ih =>
    rw [segments] at member
    by_cases slash : c = '/'
    · rw [if_pos slash, List.mem_cons] at member
      rcases member with rfl | later
      · simp
      · exact ih later
    · rw [if_neg slash] at member
      cases cut : segments rest with
      | nil =>
        rw [cut] at member
        rw [List.mem_singleton.mp member]
        simpa using Ne.symm slash
      | cons first more =>
        rw [cut] at member ih
        rcases List.mem_cons.mp member with rfl | later
        · simpa [Ne.symm slash] using ih (List.mem_cons_self)
        · exact ih (List.mem_cons_of_mem first later)

theorem isName_of_mem_parse {path name : String} (member : name ∈ (parse path).names) : IsName name := by
  obtain ⟨among, moves⟩ := List.mem_filter.mp member
  obtain ⟨piece, cut, rfl⟩ := List.mem_map.mp among
  obtain ⟨piece', filled⟩ := List.mem_filter.mp cut
  refine ⟨?_, by simpa using moves, by simpa using not_mem_of_mem_segments piece'⟩
  intro empty
  have : piece = [] := by simpa using congrArg String.toList empty
  simp [this] at filled

theorem rootOf_cases (path : String) : rootOf path = "" ∨ rootOf path = "/" ∨ rootOf path = "//" := by
  unfold rootOf
  split <;> simp

theorem tidy_parse (path : String) : (parse path).Tidy := ⟨rootOf_cases path, fun _ => isName_of_mem_parse⟩

theorem Tidy.join {path : Path} (tidy : path.Tidy) (inner : String) : (path.join inner).Tidy := by
  unfold Path.join
  simp only
  split
  · refine ⟨tidy.root, ?_⟩
    intro name member
    rcases List.mem_append.mp member with outer | within
    · exact tidy.names name outer
    · exact isName_of_mem_parse within
  · exact tidy_parse inner

/-- A name up to a slash is a segment of its own. -/
theorem segments_slash {text : List Char} (rest : List Char) (whole : '/' ∉ text) :
    segments (text ++ '/' :: rest) = text :: segments rest := by
  induction text with
  | nil => simp [segments]
  | cons c text ih =>
    simp only [List.mem_cons, not_or] at whole
    rw [List.cons_append, segments, if_neg (Ne.symm whole.1), ih whole.2]

theorem segments_intercalate {names : List String} (given : names ≠ []) (whole : ∀ name ∈ names, '/' ∉ name.toList) :
    segments ("/".intercalate names).toList = names.map String.toList := by
  induction names with
  | nil => exact absurd rfl given
  | cons name rest ih =>
    cases rest with
    | nil => simpa using segments_plain (whole name (by simp))
    | cons next more =>
      have later := ih (by simp) (fun other member => whole other (List.mem_cons_of_mem name member))
      have written : ("/".intercalate (name :: next :: more)).toList =
          name.toList ++ '/' :: ("/".intercalate (next :: more)).toList := by
        simp [String.intercalate_cons_cons]
      rw [written, segments_slash _ (whole name (by simp)), later]
      rfl

section

variable {path : Path} (tidy : path.Tidy)

include tidy

/-- The names of a tidy path can be read off its text, with or without the slashes in front. -/
theorem Tidy.names_of_segments :
    ((segments ("/".intercalate path.names).toList).filter (· ≠ [])).map String.ofList = path.names := by
  by_cases none : path.names = []
  · rw [none]
    rfl
  · have filled : ∀ piece ∈ path.names.map String.toList, decide (piece ≠ []) = true := by
      intro piece member
      obtain ⟨name, among, rfl⟩ := List.mem_map.mp member
      simpa using (tidy.names name among).filled
    rw [segments_intercalate none (fun name member => (tidy.names name member).whole), List.filter_eq_self.mpr filled,
      List.map_map]
    simp

theorem Tidy.namesOf_render (given : path.names ≠ []) : namesOf path.render = path.names := by
  have names := tidy.names_of_segments
  rw [render, if_neg (fun none => given none.2), namesOf]
  rcases tidy.root with root | root | root <;> simpa [root, segments] using names

/-- The first name of a tidy path does not start with a slash. -/
theorem Tidy.exists_head (given : path.names ≠ []) :
    ∃ c rest, ("/".intercalate path.names).toList = c :: rest ∧ c ≠ '/' := by
  obtain ⟨name, more, split⟩ := List.exists_cons_of_ne_nil given
  have first := tidy.names name (by simp [split])
  have written : ∃ after, ("/".intercalate path.names).toList = name.toList ++ after := by
    rw [split]
    cases more with
    | nil => exact ⟨[], by simp⟩
    | cons next more => exact ⟨_, by rw [String.intercalate_cons_cons, String.append_assoc, String.toList_append]⟩
  obtain ⟨after, written⟩ := written
  cases letters : name.toList with
  | nil => exact absurd (by simpa using letters) first.filled
  | cons c rest =>
    refine ⟨c, rest ++ after, by rw [written, letters, List.cons_append], ?_⟩
    rintro rfl
    exact first.whole (by simp [letters])

theorem Tidy.rootOf_render (given : path.names ≠ []) : rootOf path.render = path.root := by
  obtain ⟨c, rest, text, other⟩ := tidy.exists_head given
  rw [render, if_neg (fun none => given none.2), rootOf]
  rcases tidy.root with root | root | root
  all_goals
    simp only [root, String.toList_append, text]
    split <;> grind

end

end Path

namespace FileTree

/-- A name that leads one directory down. -/
structure IsPlain (name : String) : Prop extends Path.IsName name where
  down : name ≠ ".."

theorem walk_of_plain (here : Location) {names : List String} (plain : ∀ name ∈ names, IsPlain name) :
    walk here names = here ++ names := by
  induction names generalizing here with
  | nil => simp [walk]
  | cons name rest ih =>
    obtain ⟨first, later⟩ := List.forall_mem_cons.mp plain
    have step : stepFrom here name = here ++ [name] := by simp [stepFrom, first.moves, first.down]
    have rest : walk (here ++ [name]) rest = here ++ [name] ++ rest := ih _ later
    simpa [walk, step] using rest

/-- Taking every `..` back is what walking along the names does. -/
theorem collapse_eq_walk {names : List String} (tidy : ∀ name ∈ names, Path.IsName name) :
    Path.collapse names = walk [] names := by
  apply List.foldl_ext
  intro kept name member
  simp [stepFrom, (tidy name member).moves]

theorem walk_append (here : Location) (early late : List String) :
    walk here (early ++ late) = walk (walk here early) late := by
  simp [walk]

theorem mem_walk {here : Location} {names : List String} {name : String} (member : name ∈ walk here names) :
    name ∈ here ∨ name ∈ names ∧ name ≠ ".." := by
  induction names generalizing here with
  | nil => exact .inl member
  | cons next rest ih =>
    rcases ih member with before | ⟨among, down⟩
    · unfold stepFrom at before
      split at before
      · exact .inl before
      split at before
      · exact .inl (List.dropLast_subset here before)
      · rename_i down
        rcases List.mem_append.mp before with earlier | this
        · exact .inl earlier
        · rw [List.mem_singleton.mp this]
          exact .inr ⟨List.mem_cons_self, down⟩
    · exact .inr ⟨List.mem_cons_of_mem next among, down⟩

section

variable {working : Location} (plain : ∀ name ∈ working, IsPlain name) {path : Path} (tidy : path.Tidy)

include plain tidy

theorem names_absolute :
    (path.absolute working).names = walk (if path.root = "" then working else []) path.names := by
  unfold Path.absolute
  split
  · have both : ∀ name ∈ working ++ path.names, Path.IsName name := by
      intro name member
      rcases List.mem_append.mp member with above | within
      · exact (plain name above).toIsName
      · exact tidy.names name within
    rw [collapse_eq_walk both, walk_append, walk_of_plain [] plain, List.nil_append]
  · exact collapse_eq_walk tidy.names

/-- A full path has a root, and its names lead down all the way. -/
theorem plain_absolute : ∀ name ∈ (path.absolute working).names, IsPlain name := by
  intro name member
  rw [names_absolute plain tidy] at member
  rcases mem_walk member with start | ⟨among, down⟩
  · split at start
    · exact plain name start
    · cases start
  · exact ⟨tidy.names name among, down⟩

theorem tidy_absolute : (path.absolute working).Tidy ∧ (path.absolute working).root ≠ "" := by
  have names : ∀ name ∈ (path.absolute working).names, Path.IsName name :=
    fun name member => (plain_absolute plain tidy name member).toIsName
  by_cases root : path.root = ""
  · have rooted : (path.absolute working).root = "/" := by simp [Path.absolute, root]
    exact ⟨⟨.inr (.inl rooted), names⟩, by simp [rooted]⟩
  · have rooted : (path.absolute working).root = path.root := by simp [Path.absolute, root]
    exact ⟨⟨rooted ▸ tidy.root, names⟩, rooted ▸ root⟩

/-- A path and its full path stand for the same place. -/
theorem place_absolute (given : path.names ≠ []) (given' : (path.absolute working).names ≠ []) :
    place working (path.absolute working).render = place working path.render := by
  obtain ⟨full, rooted⟩ := tidy_absolute plain tidy
  calc place working (path.absolute working).render
    _ = walk [] (path.absolute working).names := by
      rw [place, full.rootOf_render given', full.namesOf_render given', if_neg rooted]
    _ = (path.absolute working).names := by
      rw [walk_of_plain [] (plain_absolute plain tidy), List.nil_append]
    _ = walk (if path.root = "" then working else []) path.names := names_absolute plain tidy
    _ = place working path.render := by rw [place, tidy.rootOf_render given, tidy.namesOf_render given]

end

end FileTree

end Linewise
