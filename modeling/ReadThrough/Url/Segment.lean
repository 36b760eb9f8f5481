/-! Segments of a URL's path: those of dots, which move through the path instead of being
part of it, and those that name a drive of a file system. -/

namespace ReadThrough.Url

def isSlash (char : Char) : Bool := char = '/' || char = '\\'

/-- The parts between the slashes of either kind. -/
def segments (path : List Char) : List (List Char) :=
  (path.map fun char => if char = '\\' then '/' else char).splitOn '/'

/-- How many dots a segment consists of, percent-encoded or not; other segments have none. -/
def dots : List Char → Option Nat
  | [] => some 0
  | '.' :: rest => (dots rest).map (· + 1)
  | '%' :: '2' :: 'e' :: rest => (dots rest).map (· + 1)
  | '%' :: '2' :: 'E' :: rest => (dots rest).map (· + 1)
  | _ => none

/-- A letter and a colon or a bar. -/
def isDrive : List Char → Bool
  | [letter, mark] => letter.isAlpha && (mark = ':' || mark = '|')
  | _ => false

/-- Puts a segment behind those taken, of which the last one stands first. Text behind a
drive in the first segment is a segment of its own. -/
def push (taken : List (List Char)) (segment : List Char) : List (List Char) :=
  match taken, segment with
  | [], letter :: ':' :: char :: rest =>
    if letter.isAlpha then [char :: rest, [letter, ':']] else [segment]
  | _, _ => segment :: taken

/-- Whether a path names a drive by its first segment once dots are resolved. Two dots do
not leave a drive. -/
def onDrive (taken : List (List Char)) : List (List Char) → Bool
  | [] => false
  | segment :: rest =>
    match dots segment with
    | some 1 => onDrive taken rest
    | some 2 => onDrive (if taken.head?.any isDrive then taken else taken.tail) rest
    | _ => (taken.isEmpty && isDrive segment) || onDrive (push taken segment) rest

end ReadThrough.Url
