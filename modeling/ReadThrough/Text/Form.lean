import ReadThrough.Text.Percent

/-! The fields of a URL-encoded form: pairs joined by `&`, name and value parted by the
first `=`, blanks written as `+`, all other bytes percent-encoded. Bytes that are no text
are read with replacement characters. -/

namespace ReadThrough.Form

def decodeText (text : List Char) : String :=
  let bytes := (Utf8.encode text).map fun byte => if byte = 0x2b then 0x20 else byte
  String.ofList (Utf8.decodeLossy (Percent.decodeBytes bytes))

/-- A name without `=` has an empty value. -/
def field (pair : List Char) : String × String :=
  (decodeText (pair.takeWhile (· ≠ '=')), decodeText ((pair.dropWhile (· ≠ '=')).drop 1))

/-- The fields of a query; empty pairs are left out. -/
def fields (query : List Char) : List (String × String) :=
  ((query.splitOn '&').filter (!·.isEmpty)).map field

end ReadThrough.Form
