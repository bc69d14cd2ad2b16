/-
Paths.

* `Path.resolve`: the place a path leads to from the root;
* `Path.clean`: the shortest spelling of a path;
* `Path.join`: a name inside a directory;
* `Path.extension`: the ending of the last name.

Paths are resolved by their spelling alone, and the working directory is the
root.
-/
import RegisterMachine.Bytes

namespace RegisterMachine

/-- A place in a file system: the names on the way to it from the root. -/
abbrev Location := List Bytes

namespace Path

/-- The slash. -/
def separator : UInt8 := 47

/-- The name of the directory itself. -/
def here : Bytes := utf8 "."

/-- The name of the directory above. -/
def above : Bytes := utf8 ".."

/-- The names in a path, without empty ones and without the directory itself. -/
def names (path : Bytes) : List Bytes :=
  (path.splitOn separator).filter fun n => n ≠ [] ∧ n ≠ here

/-- One name further on the way from the root; above the root is the root. -/
def descend (loc : Location) (n : Bytes) : Location :=
  if n = above then loc.dropLast else loc ++ [n]

/-- The place a path leads to. -/
def resolve (path : Bytes) : Location :=
  (names path).foldl descend []

/-- The path of a place. -/
def ofLocation (loc : Location) : Bytes :=
  separator :: Bytes.joined [separator] loc

/-- The path starts at the root. -/
def rooted (path : Bytes) : Bool :=
  path.head? = some separator

/-- One name further in a path whose steps upwards are kept while nothing is
below them. -/
def cleanStep (isRooted : Bool) (done : List Bytes) (n : Bytes) : List Bytes :=
  if n = above then
    if done = [] then (if isRooted then [] else [above])
    else if done.getLast? = some above then done ++ [above]
    else done.dropLast
  else done ++ [n]

/-- The shortest spelling of a path. -/
def clean (path : Bytes) : Bytes :=
  let done := (names path).foldl (cleanStep (rooted path)) []
  let text := Bytes.joined [separator] done
  if rooted path then separator :: text else if text = [] then here else text

/-- The path of a name inside a directory. -/
def join (directory name : Bytes) : Bytes :=
  if directory = [] then clean name else clean (directory ++ separator :: name)

/-- The ending of the last name in a path: what follows its last dot, and
nothing where there is no dot. -/
def extension (path : Bytes) : Bytes :=
  let last := ((path.splitOn separator).getLast?).getD []
  if last.contains 46 then ((last.splitOn 46).getLast?).getD [] else []

/-- The places on the way to `loc` from the root, without the root and with
`loc` itself. -/
def prefixes : Location → List Location
  | [] => []
  | n :: rest => [n] :: (prefixes rest).map (n :: ·)

/-- The directories that `loc` lies in, without the root. -/
def parents (loc : Location) : List Location :=
  (prefixes loc).dropLast

end Path

end RegisterMachine
