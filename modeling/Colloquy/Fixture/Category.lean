import Colloquy.Files.Path
import Colloquy.Text.Blank

/-!
# Categories of fixtures

Fixture files are found in a directory at any depth by the end of their names. The category of a
fixture is the path of the directory that holds it, from the directory that was searched; what
lies directly in that one has the empty category.

A request selects the category that it names and all categories below it.
-/

namespace Colloquy.Fixture

/-- The end that the name of every fixture file has. -/
def extension : String := ".test.md"

/-- A fixture file in a directory: the names of the directories that lead to it, the outermost
first, its own name and its content. -/
structure Found where
  folders : List String
  name : String
  content : FileContent

/-- Whether a file of that name is a fixture. -/
def isFixtureName (name : String) : Bool := extension.toList.isSuffixOf name.toList

/-- The fixtures in a directory that `folders` lead to. -/
def foundBelow (folders : List String) : Directory → List Found
  | .nil => []
  | .file name content rest =>
    if isFixtureName name then ⟨folders, name, content⟩ :: foundBelow folders rest
    else foundBelow folders rest
  | .folder name inside rest =>
    foundBelow (folders ++ [name]) inside ++ foundBelow folders rest

namespace Found

/-- The category of a fixture. A backslash in a name separates like a slash. -/
def category (found : Found) : String :=
  String.ofList (("/".intercalate found.folders).toList.map fun c ↦ if c = '\\' then '/' else c)

/-- The names that lead to a fixture, its own name last. -/
def names (found : Found) : List String := found.folders ++ [found.name]

/-- Whether a row of names comes before another or is the same: the first names that differ
decide, and an end comes before any name. -/
def precedes : List String → List String → Bool
  | [], _ => true
  | _ :: _, [] => false
  | a :: as, b :: bs => a < b || (a == b && precedes as bs)

/-- The path of a fixture below the path of the directory that was searched. -/
def path (root : String) (found : Found) : String := found.names.foldl Path.join root

end Found

/-- A category with its fixtures. -/
structure Category where
  name : String
  fixtures : List Found

namespace Category

/-- Put a name into its place in an ascending list, unless it is there already. -/
def insertName (name : String) : List String → List String
  | [] => [name]
  | other :: rest =>
    if name < other then name :: other :: rest
    else if name = other then other :: rest
    else other :: insertName name rest

/-- Every name of the list stays, and the new one is there. -/
theorem mem_insertName {name other : String} {names : List String} :
    other ∈ insertName name names ↔ other = name ∨ other ∈ names := by
  induction names with
  | nil => simp [insertName]
  | cons first rest ih =>
    unfold insertName
    split
    · simp
    · split
      · next h => simp [h]
      · simp only [List.mem_cons, ih]
        exact or_left_comm

/-- The names of the categories of some fixtures, each once, in ascending order. -/
def namesOf (found : List Found) : List String :=
  (found.map Found.category).foldr insertName []

/-- A category is named exactly when some fixture is of that category. -/
theorem mem_namesOf {found : List Found} {name : String} :
    name ∈ namesOf found ↔ ∃ one ∈ found, one.category = name := by
  unfold namesOf
  induction found with
  | nil => simp
  | cons one rest ih => simp [mem_insertName, ih, eq_comm]

/-- The fixtures of a category in ascending order of the names that lead to them. -/
def ofName (found : List Found) (name : String) : Category :=
  ⟨name, (found.filter fun one ↦ one.category = name).mergeSort fun a b ↦
    Found.precedes a.names b.names⟩

/-- The categories of the fixtures in a directory. -/
def ofDirectory (directory : Directory) : List Category :=
  let found := foundBelow [] directory
  (namesOf found).map (ofName found)

/-- What a category is called in reports. -/
def label (name : String) : String := if name = "" then "(root)" else name

/-- A request without the slashes at its ends. -/
def requestCore (request : String) : String :=
  String.ofList (Text.dropEndWhile (· == '/') (request.toList.dropWhile (· == '/')))

/-- Whether a request, without slashes at its ends, selects a category. -/
def isSelectedBy (name request : String) : Bool :=
  name == request || (request ++ "/").toList.isPrefixOf name.toList

/-- The categories that some request selects; all of them when there is no request. -/
def select (categories : List Category) (requests : List String) : List Category :=
  if requests.isEmpty then categories
  else categories.filter fun category ↦
    (requests.map requestCore).any (isSelectedBy category.name)

/-- The requests that select no category, in order. -/
def unmatched (categories : List Category) (requests : List String) : List String :=
  (requests.map requestCore).filter fun request ↦
    !categories.any fun category ↦ isSelectedBy category.name request

end Category
end Colloquy.Fixture
