/-!
Names of files: the parts between slashes below a root. Empty parts and the parts that stand for the same directory do
not count; a part of two dots leads back, which is followed only where the place itself matters. The stem of a name is
what comes before its last dot, unless that dot begins or ends the name.
-/

namespace Stepwise

set_option autoImplicit false

structure Path where
  /-- The slashes in front: none for a name below the current directory. -/
  root : String
  parts : List String
  deriving DecidableEq, Repr

namespace Path

/-- The root of a name with so many slashes in front. Two slashes are a root of their own. -/
def rootOf : Nat → String
  | 0 => ""
  | 2 => "//"
  | _ => "/"

def counts (part : String) : Bool :=
  part ≠ "" && part ≠ "."

def ofText (text : String) : Path :=
  { root := rootOf (text.toList.takeWhile (· = '/')).length
    parts := (text.splitOn "/").filter counts }

def text (path : Path) : String :=
  if path.root = "" && path.parts.isEmpty then "." else path.root ++ "/".intercalate path.parts

def child (path : Path) (name : String) : Path :=
  { path with parts := path.parts ++ [name] }

def parent (path : Path) : Path :=
  { path with parts := path.parts.dropLast }

def name (path : Path) : String :=
  path.parts.getLast?.getD ""

def stemOf (name : String) : String :=
  let ending := name.toList.reverse.takeWhile (· ≠ '.')
  let before := (name.toList.reverse.dropWhile (· ≠ '.')).drop 1
  if ending.isEmpty || before.isEmpty then name else String.ofList before.reverse

def stem (path : Path) : String :=
  stemOf path.name

/-- Follows one part from a place, which is given by its parts, the last one first. Two dots lead back; there is
nothing behind a root. -/
def follow (root : String) (place : List String) (part : String) : List String :=
  if part ≠ ".." then part :: place
  else
    match place with
    | [] => if root = "" then [part] else []
    | last :: before => if last = ".." then part :: place else before

def settled (path : Path) : Path :=
  { path with parts := (path.parts.foldl (follow path.root) []).reverse }

inductive Obstacle
  /-- The file is where the directory should be. -/
  | fileInPlace
  /-- The way to the directory leads through the file. -/
  | notADirectory
  deriving DecidableEq, Repr

def obstacleFrom (file : Path) (root : String) (place : List String) : List String → Option Obstacle
  | [] => if root = file.root && place.reverse = file.parts then some .fileInPlace else none
  | part :: parts =>
      if root = file.root && place.reverse = file.parts then some .notADirectory
      else obstacleFrom file root (follow root place part) parts

/-- What a file puts in the way of a directory, as far as the names tell. -/
def obstacle? (directory file : Path) : Option Obstacle :=
  obstacleFrom file.settled directory.root [] directory.parts

end Path

end Stepwise
