/-
Module: ClassOrder.Path
Purpose: Paths as text. Names are divided by slashes, a single dot means the same directory and
  two dots the directory above. A path can start with a root: a slash, or two slashes with the name
  of another machine.
Main exports: Path.effective, Path.names, Path.splitRoot, Path.isAbsolute, Path.parent,
  Path.append, Path.removeDots
-/

namespace ClassOrder.Path

/-- The part of a path that counts when a file is looked up. A null character ends it. -/
def effective (path : String) : String :=
  String.ofList (path.toList.takeWhile (· != '\x00'))

/-- The names on a path, as text between slashes. -/
def names (path : String) : List String :=
  (path.toList.splitOn '/').map String.ofList

/-- Split the root off a path. The slash after the name of a machine belongs to the root. -/
def splitRoot : List Char → List Char × List Char
  | '/' :: '/' :: first :: rest =>
      if first = '/' then (['/'], '/' :: first :: rest)
      else
        match (first :: rest).span (· != '/') with
        | (machine, []) => ('/' :: '/' :: machine, [])
        | (machine, slash :: others) => ('/' :: '/' :: machine ++ [slash], others)
  | '/' :: rest => (['/'], rest)
  | path => ([], path)

/-- An absolute path has a root that ends with a slash. -/
def isAbsolute (path : String) : Bool :=
  (splitRoot path.toList).1.getLast? == some '/'

/-- A path without the slashes at its end. -/
def dropSlashes (path : List Char) : List Char :=
  (path.reverse.dropWhile (· == '/')).reverse

/-- A path without the name at its end. -/
def dropName (path : List Char) : List Char :=
  (path.reverse.dropWhile (· != '/')).reverse

/-- The directory part of a path: what stands before its last name and the slashes there, but at
least the root. A slash at the end counts as a name of its own, and a path that is a root and
slashes has only what comes before them. -/
def parent (path : String) : String :=
  let (root, rest) := splitRoot path.toList
  String.ofList
    (if rest.all (· == '/') then (if root.getLast? = some '/' then root.dropLast else [])
    else if rest.getLast? = some '/' then root ++ dropSlashes rest
    else root ++ dropSlashes (dropName rest))

/-- A path inside a directory. There is one slash between the two, unless the path starts with
slashes and the directory does not end with one. -/
def append (directory path : String) : String :=
  if directory.toList.getLast? = some '/' then
    directory ++ String.ofList (path.toList.dropWhile (· == '/'))
  else if path.toList.head? = some '/' ∨ directory.isEmpty then directory ++ path
  else directory ++ "/" ++ path

/-- A name that stays in place: the single dot, and the empty name. -/
def staysInPlace (name : String) : Bool :=
  name == "" || name == "."

/-- The same path without names that stay in place. Two dots are kept. -/
def removeDots (path : String) : String :=
  let (root, rest) := splitRoot path.toList
  String.ofList root ++
    String.intercalate "/" ((names (String.ofList rest)).filter fun name => !staysInPlace name)

end ClassOrder.Path
