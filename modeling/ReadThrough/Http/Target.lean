/-! Targets of requests: a path, perhaps with a query behind it, or an absolute URL, which
counts by its path alone. -/

namespace ReadThrough.Http

/-- What follows the scheme and the two slashes of an absolute URL. -/
def afterScheme? (target : List Char) : Option (List Char) :=
  let scheme := target.takeWhile fun char =>
    char.isAlphanum || char = '+' || char = '-' || char = '.'
  if scheme.isEmpty then none else [':', '/', '/'].isPrefixOf? (target.drop scheme.length)

/-- The path of a target. An absolute URL without one has the path `/`. -/
def targetPath (target : String) : String :=
  let place := target.toList.takeWhile fun char => char ≠ '?' && char ≠ '#'
  match place with
  | '/' :: _ => String.ofList place
  | ['*'] => "*"
  | _ =>
    match (afterScheme? place).map (·.dropWhile (· ≠ '/')) with
    | none => ""
    | some [] => "/"
    | some path => String.ofList path

/-- The query of a target, which is empty if there is none. -/
def targetQuery (target : String) : List Char :=
  ((target.toList.takeWhile (· ≠ '#')).dropWhile (· ≠ '?')).drop 1

end ReadThrough.Http
