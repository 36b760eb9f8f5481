import ReadThrough.Config.Draft
import ReadThrough.Decimal.Style
import ReadThrough.Json.Token
import ReadThrough.Text.Quoted

/-! Why a document is no configuration. -/

namespace ReadThrough.Config

/-- A value of a document as a message names it. -/
inductive Found where
  | null
  | bool (value : Bool)
  | integer (value : Int)
  | float (value : Float)
  | text (value : String)
  | sequence
  | map

/-- What a place in a document asks for. -/
inductive Wanted where
  | document
  | text
  | sequence
  | count (field : CountField)
deriving Repr, DecidableEq

inductive Error where
  | malformed
  | incomplete
  | invalidType (found : Found) (wanted : Wanted)
  | negative (value : Int) (wanted : Wanted)
  | duplicate (field : Field)

/-- Floats are written with the fewest digits, in place from `10 ^ (-5)` to below `10 ^ 16`,
and with the sign of the exponent behind an `e` elsewhere. -/
def floatStyle : Decimal.Style := { lowest := -5, highest := 16, plus := true }

def Found.ofLiteral : Json.Literal → Found
  | .null => null
  | .bool value => bool value

def Found.ofNumber : Json.Number → Found
  | .natural value => integer value
  | .negative magnitude => integer (-magnitude)
  | .float value => float value

def Found.message : Found → String
  | null => "null"
  | bool value => "boolean `" ++ (if value then "true" else "false") ++ "`"
  | integer value => "integer `" ++ toString value ++ "`"
  | float value => "floating point `" ++ floatStyle.ofFloat value ++ "`"
  | text value => "string " ++ Quoted.quote value
  | sequence => "sequence"
  | map => "map"

def Wanted.message : Wanted → String
  | document => "struct NodeConfig"
  | text => "a string"
  | sequence => "a sequence"
  | count .fetchTimeoutMs => "u64"
  | count _ => "usize"

namespace Error

def ofFault : Json.Fault → Error
  | .malformed => malformed
  | .incomplete => incomplete

/-- A document that is broken has no message of its own. -/
def message? : Error → Option String
  | malformed => none
  | incomplete => none
  | invalidType found wanted =>
    some ("invalid type: " ++ found.message ++ ", expected " ++ wanted.message)
  | negative value wanted =>
    some ("invalid value: " ++ (Found.integer value).message ++ ", expected " ++ wanted.message)
  | duplicate field => some ("duplicate field `" ++ field.name ++ "`")

end Error

end ReadThrough.Config
