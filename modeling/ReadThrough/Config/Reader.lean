import ReadThrough.Config.Error

/-! Reading a configuration document. The reader takes one token at a time: an object may
list any settings in any order, among members of other names that are passed over whatever
they hold; an array lists the settings in their order. -/

namespace ReadThrough.Config

/-- A bracket that is open inside a member that is passed over. -/
inductive Bracket where
  | brace
  | bracket
deriving Repr, DecidableEq

/-- What the reader expects inside such a member. -/
inductive Phase where
  | value
  | firstElement
  | firstName
  | name
  | colon
  | next
deriving Repr, DecidableEq

/-- Where a setting stands: among the members of an object, or in an array with the
settings that may follow. -/
inductive Place where
  | members
  | elements (following : List Field)
deriving Repr, DecidableEq

/-- `peers` are those read so far, the last one first. -/
inductive State where
  | document
  | firstName
  | name (draft : Draft)
  | colon (draft : Draft) (field : Option Field)
  | value (draft : Draft) (place : Place) (field : Field)
  | next (draft : Draft) (place : Place)
  | firstElement
  | firstPeer (draft : Draft) (place : Place)
  | peer (draft : Draft) (place : Place) (peers : List String)
  | nextPeer (draft : Draft) (place : Place) (peers : List String)
  | skipped (draft : Draft) (phase : Phase) (open_ : List Bracket)
  | complete (draft : Draft)

abbrev Outcome := Except Error

def lift {α : Type} (outcome : Except Json.Fault α) : Outcome α := outcome.mapError .ofFault

/-- Refuses a token where a value of another kind is wanted. -/
def refuse {α : Type} (wanted : Wanted) : Json.Token → Outcome α
  | .text value _ => do throw (.invalidType (.text (← lift value)) wanted)
  | .number value _ => do throw (.invalidType (.ofNumber (← lift value)) wanted)
  | .literal value => do throw (.invalidType (.ofLiteral (← lift value)) wanted)
  | .openBracket => .error (.invalidType .sequence wanted)
  | .openBrace => .error (.invalidType .map wanted)
  | _ => .error .malformed

def textValue : Json.Token → Outcome String
  | .text value _ => lift value
  | token => refuse .text token

def countValue (field : CountField) : Json.Token → Outcome Nat
  | .number value _ => do
    match ← lift value with
    | .natural value => return value
    | .negative magnitude => throw (.negative (-magnitude) (.count field))
    | .float value => throw (.invalidType (.float value) (.count field))
  | token => refuse (.count field) token

/-- The name of a member. A setting may be given once. -/
def memberName (draft : Draft) : Json.Token → Outcome State
  | .text name _ => do
    match Field.ofName? (← lift name) with
    | some field => if draft.has field then throw (.duplicate field) else return .colon draft field
    | none => return .colon draft none
  | _ => .error .malformed

/-- The value of a setting. -/
def settingValue (draft : Draft) (place : Place) (field : Field) (token : Json.Token) :
    Outcome State :=
  match field with
  | .text field => do return .next (draft.setText field (← textValue token)) place
  | .count field => do return .next (draft.setCount field (← countValue field token)) place
  | .peers =>
    match token with
    | .openBracket => .ok (.firstPeer draft place)
    | token => refuse .sequence token

/-- A value that is passed over: only its form matters. -/
def passValue (open_ : List Bracket) : Json.Token → Outcome (Phase × List Bracket)
  | .text _ form => do lift form; return (.next, open_)
  | .number _ form => do lift form; return (.next, open_)
  | .literal value => do let _ ← lift value; return (.next, open_)
  | .openBracket => .ok (.firstElement, .bracket :: open_)
  | .openBrace => .ok (.firstName, .brace :: open_)
  | _ => .error .malformed

def passName (open_ : List Bracket) : Json.Token → Outcome (Phase × List Bracket)
  | .text _ form => do lift form; return (.colon, open_)
  | _ => .error .malformed

/-- What may follow a value inside the innermost bracket. -/
def passNext : List Bracket → Json.Token → Outcome (Phase × List Bracket)
  | .brace :: outer, .comma => .ok (.name, .brace :: outer)
  | .bracket :: outer, .comma => .ok (.value, .bracket :: outer)
  | .brace :: outer, .closeBrace => .ok (.next, outer)
  | .bracket :: outer, .closeBracket => .ok (.next, outer)
  | _, _ => .error .malformed

/-- One token of a member that is passed over: the next phase and the open brackets. -/
def passOver (open_ : List Bracket) : Phase → Json.Token → Outcome (Phase × List Bracket)
  | .value, token => passValue open_ token
  | .firstElement, .closeBracket => .ok (.next, open_.tail)
  | .firstElement, token => passValue open_ token
  | .firstName, .closeBrace => .ok (.next, open_.tail)
  | .firstName, token => passName open_ token
  | .name, token => passName open_ token
  | .colon, .colon => .ok (.value, open_)
  | .colon, _ => .error .malformed
  | .next, token => passNext open_ token

/-- A member is over when it needs no more and none of its brackets is open. -/
def afterSkipped (draft : Draft) : Phase × List Bracket → State
  | (.next, []) => .next draft .members
  | (phase, open_) => .skipped draft phase open_

/-- One token. -/
def step : State → Json.Token → Outcome State
  | .document, .openBrace => .ok .firstName
  | .document, .openBracket => .ok .firstElement
  | .document, token => refuse .document token
  | .firstName, .closeBrace => .ok (.complete {})
  | .firstName, token => memberName {} token
  | .name draft, token => memberName draft token
  | .colon draft field, .colon =>
    match field with
    | some field => .ok (.value draft .members field)
    | none => .ok (.skipped draft .value [])
  | .value draft place field, token => settingValue draft place field token
  | .next draft .members, .comma => .ok (.name draft)
  | .next draft .members, .closeBrace => .ok (.complete draft)
  | .next draft (.elements (field :: following)), .comma =>
    .ok (.value draft (.elements following) field)
  | .next draft (.elements _), .closeBracket => .ok (.complete draft)
  | .firstElement, .closeBracket => .ok (.complete {})
  | .firstElement, token =>
    match Field.all with
    | field :: following => settingValue {} (.elements following) field token
    | [] => .error .malformed
  | .firstPeer draft place, .closeBracket => .ok (.next (draft.setPeers []) place)
  | .firstPeer draft place, token => do return .nextPeer draft place [← textValue token]
  | .peer draft place peers, token => do return .nextPeer draft place ((← textValue token) :: peers)
  | .nextPeer draft place peers, .comma => .ok (.peer draft place peers)
  | .nextPeer draft place peers, .closeBracket => .ok (.next (draft.setPeers peers.reverse) place)
  | .skipped draft phase open_, token => do return afterSkipped draft (← passOver open_ phase token)
  | _, _ => .error .malformed

/-- The end of the text. -/
def finish : State → Outcome Config
  | .complete draft => .ok draft.config
  | _ => .error .incomplete

/-- The configuration that a document describes. -/
def read (text : String) : Outcome Config := do
  finish (← (Json.tokens text.toList).foldlM step .document)

end ReadThrough.Config
