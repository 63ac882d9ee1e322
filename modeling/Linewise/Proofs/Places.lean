import Linewise.Proofs.TreeShape

/-! Where a path leads by its names alone. A tree has no links, so a path that leads anywhere leads to the same place
in every tree with that working directory, and making directories adds nothing but places on the way. -/
namespace Linewise.FileTree

/-- One name further from a place. -/
def stepFrom (here : Location) (name : String) : Location :=
  if name = "." then here else if name = ".." then here.dropLast else here ++ [name]

def walk (here : Location) (names : List String) : Location := names.foldl stepFrom here

/-- The place that a path stands for, seen from a working directory. -/
def place (working : Location) (path : String) : Location :=
  walk (if Path.rootOf path = "" then working else []) (Path.namesOf path)

/-- A place on the way to a directory: that of a path made of some of its first names. -/
def OnTheWay (working : Location) (path : Path) (location : Location) : Prop :=
  ∃ early, early <+: path.names ∧ location = place working (Path.mk path.root early).render

/-- A later tree with nothing but new directories, at places of some kind. -/
structure Extends (way : Location → Prop) (tree other : FileTree) : Prop where
  working : other.working = tree.working
  find : ∀ location, other.find? location = tree.find? location ∨
    way location ∧ tree.find? location = none ∧ other.find? location = some .directory

section

variable {way : Location → Prop} {tree other third : FileTree} {path : String} {target : Target}

theorem location_of_follow {here : Location} {names : List String} :
    tree.follow here names = .ok target → target.location = walk here names := by
  fun_induction follow tree here names with
  | case1 here entry found =>
    rintro ⟨⟩
    rfl
  | case4 here rest opened ih =>
    intro followed
    simpa [walk, stepFrom] using ih followed
  | case5 here rest opened _ ih =>
    intro followed
    simpa [walk, stepFrom] using ih followed
  | case7 here name rest opened notSame notUp short present ih =>
    intro followed
    simpa [walk, stepFrom, notSame, notUp] using ih followed
  | case8 here name opened notSame notUp short absent =>
    rintro ⟨⟩
    simp [walk, stepFrom, notSame, notUp, Target.location]
  | case2 | case3 | case6 | case9 => rintro ⟨⟩

/-- Whatever lies around it, a path leads to its place if it leads anywhere. -/
theorem location_of_resolve (resolved : tree.resolve path = .ok target) : target.location = place tree.working path := by
  unfold resolve at resolved
  split at resolved
  · cases resolved
  split at resolved
  · cases resolved
  · exact location_of_follow resolved

theorem location_of_writable {location : Location} (written : tree.writable path = .ok location) :
    location = place tree.working path ∧ tree.find? location ≠ some .directory := by
  obtain ⟨-, -, target, resolved, rfl, plain⟩ := resolve_of_writable written
  obtain ⟨here, followed, -⟩ := follow_of_resolve resolved
  refine ⟨location_of_resolve resolved, ?_⟩
  rw [find?_of_follow followed]
  exact plain

theorem getLast?_walk (here : Location) {names : List String} {name : String} (notSame : name ≠ ".")
    (notUp : name ≠ "..") (last : names.getLast? = some name) : (walk here names).getLast? = some name := by
  obtain ⟨early, rfl⟩ := List.getLast?_eq_some_iff.mp last
  simp [walk, stepFrom, notSame, notUp]

theorem Extends.refl (way : Location → Prop) (tree : FileTree) : Extends way tree tree := ⟨rfl, fun _ => .inl rfl⟩

theorem Extends.trans (first : Extends way tree other) (second : Extends way other third) : Extends way tree third where
  working := second.working.trans first.working
  find := by
    intro location
    rcases first.find location with same | ⟨on, absent, made⟩
    · rw [← same]
      exact second.find location
    · rcases second.find location with same | ⟨-, absent', -⟩
      · exact .inr ⟨on, absent, same.trans made⟩
      · rw [made] at absent'
        cases absent'

theorem extends_makeDirectory (made : tree.makeDirectory path = .ok other) (on : way (place tree.working path)) :
    Extends way tree other := by
  unfold makeDirectory at made
  split at made
  · cases made
  · rename_i location vacant
    cases made
    obtain ⟨here, followed, -⟩ := follow_of_resolve vacant
    have absent : tree.find? location = none := find?_of_follow followed
    have inside : location ≠ [] := ne_nil_of_find? absent (by simp)
    obtain rfl : location = place tree.working path := location_of_resolve vacant
    refine ⟨rfl, ?_⟩
    intro other
    by_cases here : other = place tree.working path
    · subst here
      exact .inr ⟨on, absent, find?_put_self tree _ _ inside⟩
    · exact .inl (find?_put_other tree _ _ _ here)
  · cases made

/-- Making directories from the last name up adds places of the paths that the names make. -/
theorem extends_makeDirectoriesFrom (root : String) (tree : FileTree) (names : List String)
    (on : ∀ early, early <+: names.reverse → way (place tree.working (Path.mk root early).render)) :
    Extends way tree (makeDirectoriesFrom root tree names).1 := by
  induction names with
  | nil =>
    unfold makeDirectoriesFrom
    simp only
    split
    next made => exact extends_makeDirectory made (on [] (List.nil_prefix))
    next => exact .refl way tree
  | cons name above ih =>
    have last := on (above.reverse ++ [name]) (by simp)
    have upper := ih fun early before => on early (before.trans (by simp))
    unfold makeDirectoriesFrom
    simp only
    split
    next made => exact extends_makeDirectory made last
    next =>
      generalize makeDirectoriesFrom root tree above = result at upper
      obtain ⟨between, fault⟩ := result
      cases fault with
      | some fault => exact upper
      | none =>
        simp only
        split
        next made => exact upper.trans (extends_makeDirectory made (upper.working ▸ last))
        next => exact upper
        next => exact upper
    next => exact .refl way tree

theorem extends_makeDirectories (tree : FileTree) (path : Path) :
    Extends (OnTheWay tree.working path) tree (tree.makeDirectories path).1 := by
  unfold makeDirectories
  split
  · exact .refl _ tree
  · apply extends_makeDirectoriesFrom
    intro early before
    exact ⟨early, by simpa using before, rfl⟩

end

end Linewise.FileTree
