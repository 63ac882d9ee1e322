import Linewise.FileTree

/-! Trees that differ only in what some of their files hold. A path leads to the same place in all of them, so what
can be made or written in one can be in the other, and a file that is not among those reads the same. -/
namespace Linewise.FileTree

def Target.location : Target → Location
  | .entry location _ => location
  | .vacant location => location

def Target.held? : Target → Option Entry
  | .entry _ held => some held
  | .vacant _ => none

/-- The same tree, up to what the files at some locations hold. -/
structure Alike (logs : List Location) (tree other : FileTree) : Prop where
  working : other.working = tree.working
  find : ∀ location, other.find? location = tree.find? location ∨
    location ∈ logs ∧ ∃ old new, tree.find? location = some (.file old) ∧ other.find? location = some (.file new)

/-- What a path leads to in two such trees. -/
inductive Parallel (logs : List Location) : Except Refusal Target → Except Refusal Target → Prop
  | refused (refusal : Refusal) : Parallel logs (.error refusal) (.error refusal)
  | vacant (location : Location) : Parallel logs (.ok (.vacant location)) (.ok (.vacant location))
  | same (location : Location) (entry : Entry) :
      Parallel logs (.ok (.entry location entry)) (.ok (.entry location entry))
  | log {location : Location} (member : location ∈ logs) (old new : List UInt8) :
      Parallel logs (.ok (.entry location (.file old))) (.ok (.entry location (.file new)))

section

variable {logs : List Location} {tree other third : FileTree}

theorem Alike.refl (logs : List Location) (tree : FileTree) : Alike logs tree tree := ⟨rfl, fun _ => .inl rfl⟩

theorem Alike.trans (first : Alike logs tree other) (second : Alike logs other third) : Alike logs tree third where
  working := second.working.trans first.working
  find := by
    intro location
    rcases first.find location with same | ⟨member, old, middle, before, between⟩
    · rw [← same]
      exact second.find location
    · rcases second.find location with same | ⟨-, _, new, -, after⟩
      · exact .inr ⟨member, old, middle, before, same.trans between⟩
      · exact .inr ⟨member, old, new, before, after⟩

theorem Alike.kind (alike : Alike logs tree other) (location : Location) :
    (other.find? location).map Entry.isDirectory = (tree.find? location).map Entry.isDirectory := by
  rcases alike.find location with same | ⟨-, old, new, before, after⟩
  · rw [same]
  · rw [before, after]
    rfl

theorem Alike.isDirectory (alike : Alike logs tree other) (location : Location) :
    other.isDirectory location = tree.isDirectory location := by
  have kind := alike.kind location
  unfold FileTree.isDirectory
  cases before : tree.find? location <;> cases after : other.find? location <;> simp_all

theorem Alike.isSome (alike : Alike logs tree other) (location : Location) :
    (other.find? location).isSome = (tree.find? location).isSome := by
  have kind := congrArg Option.isSome (alike.kind location)
  simpa using kind

theorem Alike.put (alike : Alike logs tree other) (location : Location) (entry : Entry) :
    Alike logs (tree.put location entry) (other.put location entry) where
  working := alike.working
  find := by
    intro place
    by_cases here : place = location
    · subst here
      by_cases root : place = []
      · exact .inl (by simp [find?, root])
      · exact .inl (by rw [find?_put_self _ _ _ root, find?_put_self _ _ _ root])
    · rw [find?_put_other _ _ _ _ here, find?_put_other _ _ _ _ here]
      exact alike.find place

theorem ne_nil_of_find? {tree : FileTree} {location : Location} {entry : Option Entry}
    (found : tree.find? location = entry) (other : entry ≠ some .directory) : location ≠ [] := by
  rintro rfl
  exact other found.symm

theorem alike_put_file {location : Location} {old : List UInt8} (found : tree.find? location = some (.file old))
    (member : location ∈ logs) (bytes : List UInt8) : Alike logs tree (tree.put location (.file bytes)) where
  working := rfl
  find := by
    intro place
    by_cases here : place = location
    · subst here
      have inside : place ≠ [] := ne_nil_of_find? found (by simp)
      exact .inr ⟨member, old, bytes, found, find?_put_self tree place _ inside⟩
    · exact .inl (find?_put_other tree location place _ here)

/-- Adding to a file leaves the rest of the tree alone. -/
theorem alike_append (tree : FileTree) {location : Location} (member : location ∈ logs) (bytes : List UInt8) :
    Alike logs tree (tree.append location bytes) := by
  unfold append
  split
  · rename_i old found
    exact alike_put_file found member _
  · exact .refl logs tree

theorem Alike.follow (alike : Alike logs tree other) (here : Location) (names : List String) :
    Parallel logs (tree.follow here names) (other.follow here names) := by
  induction names generalizing here with
  | nil =>
    simp only [FileTree.follow]
    rcases alike.find here with same | ⟨member, old, new, before, after⟩
    · rw [same]
      cases tree.find? here with
      | none => exact .refused .missing
      | some entry => exact .same here entry
    · rw [before, after]
      exact .log member old new
  | cons name rest ih =>
    simp only [FileTree.follow, alike.isDirectory, alike.isSome]
    -- Both trees take the same branch; only the branches that go on need the induction.
    repeat' split
    · exact .refused .notDirectory
    · exact ih here
    · exact ih here.dropLast
    · exact .refused .nameTooLong
    · exact ih (here ++ [name])
    · exact .vacant (here ++ [name])
    · exact .refused .missing

theorem Alike.resolve (alike : Alike logs tree other) (path : String) :
    Parallel logs (tree.resolve path) (other.resolve path) := by
  simp only [FileTree.resolve, alike.working]
  split
  · exact .refused .missing
  · split
    · exact .refused .nameTooLong
    · exact alike.follow _ _

theorem Alike.writable (alike : Alike logs tree other) (path : String) :
    other.writable path = tree.writable path := by
  have parallel := alike.resolve path
  simp only [FileTree.writable]
  generalize tree.resolve path = target at parallel
  generalize other.resolve path = target' at parallel
  cases parallel <;> rfl

/-- A file that is none of those whose content may differ reads the same. -/
theorem Alike.read (alike : Alike logs tree other) {path : String}
    (apart : ∀ location ∈ logs, ∀ entry, tree.resolve path ≠ .ok (.entry location entry)) :
    other.read path = tree.read path := by
  have parallel := alike.resolve path
  simp only [FileTree.read]
  generalize tree.resolve path = target at parallel apart
  generalize other.resolve path = target' at parallel
  cases parallel with
  | log member old new => exact absurd rfl (apart _ member _)
  | refused | vacant | same => rfl

theorem Alike.makeDirectory (alike : Alike logs tree other) (path : String) :
    (∃ location, tree.makeDirectory path = .ok (tree.put location .directory) ∧
      other.makeDirectory path = .ok (other.put location .directory)) ∨
    ∃ refusal, tree.makeDirectory path = .error refusal ∧ other.makeDirectory path = .error refusal := by
  have parallel := alike.resolve path
  simp only [FileTree.makeDirectory]
  generalize tree.resolve path = target at parallel
  generalize other.resolve path = target' at parallel
  cases parallel with
  | vacant location => exact .inl ⟨location, rfl, rfl⟩
  | refused refusal => exact .inr ⟨refusal, rfl, rfl⟩
  | same | log => exact .inr ⟨.present, rfl, rfl⟩

theorem Alike.tolerate (alike : Alike logs tree other) (path : String) (refusal : Refusal) :
    other.tolerate path refusal = tree.tolerate path refusal := by
  have parallel := alike.resolve path
  simp only [FileTree.tolerate]
  generalize tree.resolve path = target at parallel
  generalize other.resolve path = target' at parallel
  cases parallel <;> rfl

/-- Making directories meets the same fault in both trees, or none, and leaves them alike. -/
theorem Alike.makeDirectoriesFrom (alike : Alike logs tree other) (root : String) (names : List String) :
    (FileTree.makeDirectoriesFrom root other names).2 = (FileTree.makeDirectoriesFrom root tree names).2 ∧
      Alike logs (FileTree.makeDirectoriesFrom root tree names).1 (FileTree.makeDirectoriesFrom root other names).1 := by
  induction names with
  | nil =>
    rcases alike.makeDirectory (Path.mk root []).render with ⟨location, made, made'⟩ | ⟨refusal, refused, refused'⟩
    · simp only [FileTree.makeDirectoriesFrom, made, made', true_and]
      exact alike.put location .directory
    · simp only [FileTree.makeDirectoriesFrom, refused, refused']
      exact ⟨alike.tolerate _ refusal, alike⟩
  | cons name above ih =>
    simp only [FileTree.makeDirectoriesFrom]
    generalize (Path.mk root (above.reverse ++ [name])).render = path
    generalize FileTree.makeDirectoriesFrom root tree above = result at ih
    generalize FileTree.makeDirectoriesFrom root other above = result' at ih
    obtain ⟨upper, fault⟩ := result
    obtain ⟨upper', fault'⟩ := result'
    obtain ⟨rfl, alike'⟩ : fault' = fault ∧ Alike logs upper upper' := ih
    rcases alike.makeDirectory path with ⟨location, made, made'⟩ | ⟨refusal, refused, refused'⟩
    · simp only [made, made', true_and]
      exact alike.put location .directory
    · rw [refused, refused']
      cases refusal with
      | missing =>
        cases fault' with
        | some fault => exact ⟨rfl, alike'⟩
        | none =>
          rcases alike'.makeDirectory path with ⟨location, made, made'⟩ | ⟨refusal, refused, refused'⟩
          · simp only [made, made', true_and]
            exact alike'.put location .directory
          · simp only [refused, refused']
            cases refusal with
            | missing => exact ⟨rfl, alike'⟩
            | present | notDirectory | isDirectory | nameTooLong => exact ⟨alike'.tolerate _ _, alike'⟩
      | present | notDirectory | isDirectory | nameTooLong => exact ⟨alike.tolerate _ _, alike⟩

theorem Alike.makeDirectories (alike : Alike logs tree other) (path : Path) :
    (other.makeDirectories path).2 = (tree.makeDirectories path).2 ∧
      Alike logs (tree.makeDirectories path).1 (other.makeDirectories path).1 := by
  simp only [FileTree.makeDirectories]
  split
  · exact ⟨rfl, alike⟩
  · exact alike.makeDirectoriesFrom _ _

end

/-- What a path leads to is what lies there. -/
theorem find?_of_follow {tree : FileTree} {here : Location} {names : List String} {target : Target} :
    tree.follow here names = .ok target → tree.find? target.location = target.held? := by
  fun_induction follow tree here names with
  | case1 here entry found => rintro ⟨⟩; exact found
  | case4 here rest opened ih => exact ih
  | case5 here rest opened _ ih => exact ih
  | case7 here name rest opened notSame notUp short present ih => exact ih
  | case8 here name opened notSame notUp short absent =>
    rintro ⟨⟩
    simpa [Target.location, Target.held?] using absent
  | case2 | case3 | case6 | case9 => rintro ⟨⟩

/-- What is put in a vacant place is found by the path that led there. -/
theorem follow_put_vacant {tree : FileTree} {here location : Location} {names : List String} (entry : Entry)
    (vacant : tree.follow here names = .ok (.vacant location)) :
    (tree.put location entry).follow here names = .ok (.entry location entry) := by
  have absent : tree.find? location = none := find?_of_follow vacant
  have inside : location ≠ [] := ne_nil_of_find? absent (by simp)
  have kept {place : Location} (present : (tree.find? place).isSome) :
      (tree.put location entry).find? place = tree.find? place := by
    refine find?_put_other _ _ _ _ ?_
    rintro rfl
    simp [absent] at present
  induction names generalizing here with
  | nil =>
    cases found : tree.find? here <;> simp [follow, found] at vacant
  | cons name rest ih =>
    cases opened : tree.isDirectory here with
    | false => simp [follow, opened] at vacant
    | true =>
      have present : (tree.find? here).isSome := by
        cases found : tree.find? here <;> simp_all [isDirectory]
      have still : (tree.put location entry).isDirectory here = true := by
        rw [isDirectory, kept present]
        exact opened
      simp only [follow, opened, still, Bool.not_true, Bool.false_eq_true, if_false] at vacant ⊢
      by_cases same : name = "."
      · rw [if_pos same] at vacant ⊢
        exact ih vacant
      rw [if_neg same] at vacant ⊢
      by_cases up : name = ".."
      · rw [if_pos up] at vacant ⊢
        exact ih vacant
      rw [if_neg up] at vacant ⊢
      by_cases long : nameLimit < name.utf8ByteSize
      · rw [if_pos long] at vacant
        cases vacant
      rw [if_neg long] at vacant ⊢
      by_cases deeper : (tree.find? (here ++ [name])).isSome
      · rw [if_pos deeper] at vacant
        rw [kept deeper, if_pos deeper]
        exact ih vacant
      rw [if_neg deeper] at vacant
      by_cases last : rest = []
      · rw [if_pos last] at vacant
        cases vacant
        simp [last, follow, find?_put_self _ _ _ inside]
      · rw [if_neg last] at vacant
        cases vacant

/-- A path to a file leads to what is put over it. -/
theorem follow_put_file {tree : FileTree} {here location : Location} {names : List String} {old : List UInt8}
    (bytes : List UInt8) (followed : tree.follow here names = .ok (.entry location (.file old))) :
    (tree.put location (.file bytes)).follow here names = .ok (.entry location (.file bytes)) := by
  have found : tree.find? location = some (.file old) := find?_of_follow followed
  have inside := ne_nil_of_find? found (by simp)
  -- The new tree is alike, so the path leads to the same place; what lies there is what was put.
  have alike : Alike [location] tree (tree.put location (.file bytes)) := alike_put_file found (by simp) bytes
  have parallel := alike.follow here names
  rw [followed] at parallel
  generalize after : (tree.put location (.file bytes)).follow here names = target at parallel
  cases parallel with
  | same | log =>
    have content := find?_of_follow after
    rw [Target.location, find?_put_self _ _ _ inside] at content
    rw [Option.some.inj content]

/-- A path that leads somewhere does so by its names, and is followed from the same place in any tree with that
working directory. -/
theorem follow_of_resolve {tree : FileTree} {path : String} {target : Target}
    (resolved : tree.resolve path = .ok target) :
    ∃ here, tree.follow here (Path.namesOf path) = .ok target ∧ ∀ other : FileTree, other.working = tree.working →
      other.resolve path = other.follow here (Path.namesOf path) := by
  unfold resolve at resolved
  by_cases empty : path = ""
  · rw [if_pos empty] at resolved
    cases resolved
  rw [if_neg empty] at resolved
  by_cases long : pathLimit ≤ path.utf8ByteSize
  · rw [if_pos long] at resolved
    cases resolved
  rw [if_neg long] at resolved
  refine ⟨_, resolved, ?_⟩
  intro other working
  rw [resolve, if_neg empty, if_neg long, working]

theorem resolve_of_writable {tree : FileTree} {path : String} {location : Location}
    (written : tree.writable path = .ok location) :
    '\x00' ∉ path.toList ∧ endsInSlash path = false ∧
      ∃ target, tree.resolve path = .ok target ∧ target.location = location ∧ target.held? ≠ some .directory := by
  unfold writable unlessNull at written
  split at written
  · cases written
  · rename_i clean
    refine ⟨by simpa using clean, ?_⟩
    cases resolved : tree.resolve path with
    | error refusal => rw [resolved] at written; cases written
    | ok target =>
      rw [resolved] at written
      cases target with
      | vacant place =>
        cases slash : endsInSlash path <;> simp [slash] at written
        exact ⟨rfl, _, rfl, written, by simp [Target.held?]⟩
      | entry place entry =>
        cases entry with
        | directory => cases written
        | file old =>
          cases slash : endsInSlash path <;> simp [slash] at written
          exact ⟨rfl, _, rfl, written, by simp [Target.held?]⟩

/-- A file that has been written is found again. -/
theorem resolve_put_of_writable {tree : FileTree} {path : String} {location : Location} (bytes : List UInt8)
    (written : tree.writable path = .ok location) :
    (tree.put location (.file bytes)).resolve path = .ok (.entry location (.file bytes)) := by
  obtain ⟨-, -, target, resolved, rfl, plain⟩ := resolve_of_writable written
  obtain ⟨here, followed, same⟩ := follow_of_resolve resolved
  rw [same (tree.put target.location (.file bytes)) rfl]
  cases target with
  | vacant location => exact follow_put_vacant (.file bytes) followed
  | entry location entry =>
    cases entry with
    | directory => exact absurd rfl plain
    | file old => exact follow_put_file bytes followed

theorem read_put_of_writable {tree : FileTree} {path : String} {location : Location} (bytes : List UInt8)
    (written : tree.writable path = .ok location) : (tree.put location (.file bytes)).read path = .ok bytes := by
  obtain ⟨clean, slash, -⟩ := resolve_of_writable written
  simp [read, unlessNull, clean, slash, resolve_put_of_writable bytes written]

end Linewise.FileTree
