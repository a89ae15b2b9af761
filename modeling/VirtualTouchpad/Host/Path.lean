/-
# Paths

Paths as texts: the steps that a path takes, its last name and its parent, and
the lock file that belongs to a socket.

A path keeps its spelling.  Slashes at its end and steps to the directory itself
do not count as names, so `a/b/` and `a/b/.` are named `b` too.
-/

namespace VirtualTouchpad.Path

/-- The parts between the slashes. -/
def split : List Char → List (List Char)
  | [] => [[]]
  | c :: rest =>
    if c = '/' then [] :: split rest
    else
      match split rest with
      | [] => [[c]]
      | part :: parts => (c :: part) :: parts

/-- Whether a path starts at the root. -/
def isAbsolute (path : String) : Bool := path.toList.head? == some '/'

/-! ## The last name -/

/-- A backward path from its last name: without slashes at its end and steps to the directory
itself. -/
def trimBackward : List Char → List Char
  | [] => []
  | c :: rest =>
    if c = '/' then trimBackward rest
    else if c = '.' ∧ rest.head? = some '/' then trimBackward rest
    else c :: rest

/-- A path up to its last name: what stands before that name, and the name. -/
def splitLast (path : String) : List Char × List Char :=
  let backward := trimBackward path.toList.reverse
  ((backward.dropWhile (· ≠ '/')).reverse, (backward.takeWhile (· ≠ '/')).reverse)

/-- The last name of a path; steps to a directory itself or up are none. -/
def fileName? (path : String) : Option (List Char) :=
  let name := (splitLast path).2
  if name = [] ∨ name = ['.'] ∨ name = ['.', '.'] then none else some name

/-- The path of the directory that a path lies in; the empty path is the current directory, and
the root has none. -/
def parent? (path : String) : Option String :=
  let (before, name) := splitLast path
  if name = [] then none
  else
    let trimmed := (trimBackward before.reverse).reverse
    some (String.ofList (if trimmed = [] ∧ before.head? = some '/' then ['/'] else trimmed))

/-- A name up to its last dot; a dot at its start is part of it. -/
def stem (name : List Char) : List Char :=
  match (name.reverse.dropWhile (· ≠ '.')).reverse with
  | [] => name
  | dotted => if dotted.length = 1 then name else dotted.dropLast

/-- The lock file of a socket: its path with `lock` for what stands after the last dot of its
name.  A path without a name is its own, and so is what is left of a path that ends in a name like
`..x` without what stands after that dot: it ends in a step up. -/
def lockFile (socket : String) : String :=
  match fileName? socket with
  | none => socket
  | some name =>
    let before := (splitLast socket).1
    let stem := stem name
    if stem = ['.'] ∧ before ++ name = socket.toList then String.ofList (before ++ ['.', '.'])
    else String.ofList (before ++ stem ++ ".lock".toList)

end VirtualTouchpad.Path
