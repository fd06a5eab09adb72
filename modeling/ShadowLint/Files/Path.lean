/-!
# Paths

A path is a row of components between slashes.  Paths are kept as they are written:
joining puts a slash between two of them where there is none, and the parent of a path is
what is written before its last component.  Empty components and single dots count for
nothing, except for a dot that begins a path.
-/

namespace ShadowLint.Files

/-- A path with a name below it. -/
def join (path name : String) : String :=
  if path.isEmpty || path.toList.getLast? = some '/' then path ++ name
  else path ++ "/" ++ name

/-- Leaves out what counts for nothing at the end of a path; both are written backwards. -/
def dropTrivial : List Char → List Char
  | '/' :: rest => dropTrivial rest
  | ['.'] => []
  | '.' :: '/' :: rest => dropTrivial rest
  | reversed => reversed

/-- Leaves out the last component of a path and the slash before it; both are written
backwards. -/
def dropComponent (reversed : List Char) : List Char :=
  (reversed.dropWhile (· ≠ '/')).drop 1

/-- What a path begins with: the root, the current directory, or neither; and the rest. -/
def splitBase : List Char → List Char × List Char
  | '/' :: rest => (['/'], rest)
  | ['.'] => (['.'], [])
  | '.' :: '/' :: rest => (['.'], '/' :: rest)
  | path => ([], path)

/-- The path before the last component, if there is a component. -/
def parentChars? (path : List Char) : Option (List Char) :=
  let (base, rest) := splitBase path
  match dropTrivial rest.reverse with
  | [] => if base = ['.'] then some [] else none
  | reversed => some (base ++ (dropTrivial (dropComponent reversed)).reverse)

theorem length_dropTrivial_le (reversed : List Char) :
    (dropTrivial reversed).length ≤ reversed.length := by
  fun_induction dropTrivial reversed <;> simp_all <;> omega

theorem length_dropComponent_lt {reversed : List Char} (nonempty : reversed ≠ []) :
    (dropComponent reversed).length < reversed.length := by
  have shorter : (reversed.dropWhile (· ≠ '/')).length ≤ reversed.length :=
    (List.dropWhile_suffix _).length_le
  have positive : 0 < reversed.length := List.length_pos_iff.2 nonempty
  rw [dropComponent, List.length_drop]
  omega

theorem length_splitBase (path : List Char) :
    (splitBase path).1.length + (splitBase path).2.length = path.length := by
  fun_cases splitBase path <;> simp <;> omega

/-- A parent is shorter than its path, so the way up ends. -/
theorem length_parentChars?_lt {path parent : List Char} (found : parentChars? path = some parent) :
    parent.length < path.length := by
  have whole := length_splitBase path
  have short := length_dropTrivial_le (splitBase path).2.reverse
  rw [List.length_reverse] at short
  unfold parentChars? at found
  dsimp only at found
  split at found
  · split at found
    · next dot =>
        cases found
        rw [dot] at whole
        simp at whole ⊢
        omega
    · cases found
  · next nonempty =>
      cases found
      have less := length_dropComponent_lt nonempty
      have trimmed := length_dropTrivial_le (dropComponent (dropTrivial (splitBase path).2.reverse))
      simp only [List.length_append, List.length_reverse]
      omega

/-- The paths from a path up: itself, its parent, and so on. -/
def ancestorChars (path : List Char) : List (List Char) :=
  path :: match _found : parentChars? path with
    | some parent => ancestorChars parent
    | none => []
termination_by path.length
decreasing_by exact length_parentChars?_lt _found

/-- The paths from a path up: itself, its parent, and so on. -/
def ancestors (path : String) : List String :=
  (ancestorChars path.toList).map String.ofList

end ShadowLint.Files
