import ReadThrough.Url.Basic

/-! The path that a request for a URL carries. Segments of one or two dots are resolved
before the request is made, and characters that a path may not hold are percent-encoded. -/

namespace ReadThrough.Url

/-- Characters of a path that are written as they are; the set leaves out controls,
blanks, everything outside ASCII, and marks that are used to delimit URLs. -/
def pathByte (byte : UInt8) : Bool :=
  0x20 < byte && byte < 0x7f && !"\"#<>?^`\x7b\x7d".contains (Char.ofUInt8 byte)

def encodeSegment (segment : List Char) : List Char :=
  (Utf8.encode segment).flatMap fun byte =>
    if pathByte byte then [Char.ofUInt8 byte] else Percent.escape byte

/-- Resolves the segments that are left behind those already taken, the last one first. -/
def resolve (taken : List (List Char)) : List (List Char) → List (List Char)
  | [] => taken
  | segment :: rest =>
    let kept := match dots segment with
      | some 1 => taken
      | some 2 => taken.tail
      | _ => encodeSegment segment :: taken
    let closed := dots segment == some 1 || dots segment == some 2
    if rest.isEmpty && closed then [] :: kept else resolve kept rest

/-- The path of a URL whose host is looked up in the network. -/
def requestPath (url : Url) : String :=
  let path := url.rest.takeWhile (!endsPath ·)
  let path := if path.head?.any isSlash then path.tail else path
  String.ofList ('/' :: ['/'].intercalate (resolve [] (segments path)).reverse)

end ReadThrough.Url
