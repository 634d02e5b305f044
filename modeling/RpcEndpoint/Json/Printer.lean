import RpcEndpoint.Decimal.Shortest
import RpcEndpoint.Json.Value
import RpcEndpoint.Text.Bytes

/-!
# JSON text

The compact text of a value: no blanks, members in the order in which the object holds them.
-/

namespace RpcEndpoint.Json

/-- Numbers are positional while the leading digit stands for 10^-5 to 10^15. -/
def floatLayout : Decimal.Layout := ⟨-5, 15⟩

/-- The text of a number. A float always shows a point or an exponent, so that it reads back as a
float. -/
def Number.render : Number → String
  | .integer whole => toString whole.value
  | .float value => Decimal.render floatLayout value

/-- One character inside a string: quotes, backslashes and control characters are escaped. -/
def escapeChar (character : Char) : List Char :=
  if character = '\"' then ['\\', '\"']
  else if character = '\\' then ['\\', '\\']
  else if character = '\x08' then ['\\', 'b']
  else if character = '\x0c' then ['\\', 'f']
  else if character = '\n' then ['\\', 'n']
  else if character = '\r' then ['\\', 'r']
  else if character = '\t' then ['\\', 't']
  else if character.toNat < 0x20 then
    ['\\', 'u', '0', '0', Bytes.hexDigit (character.toNat / 16),
      Bytes.hexDigit (character.toNat % 16)]
  else [character]

/-- A text as a JSON string. -/
def renderString (text : String) : String :=
  String.ofList ('\"' :: (text.toList.flatMap escapeChar ++ ['\"']))

mutual

/-- The compact text of a value. -/
def Value.render : Value → String
  | .null => "null"
  | .bool true => "true"
  | .bool false => "false"
  | .number number => number.render
  | .string text => renderString text
  | .array items => "[" ++ renderItems items ++ "]"
  | .object members => "\x7b" ++ renderMembers members ++ "\x7d"

def renderItems : List Value → String
  | [] => ""
  | [item] => item.render
  | item :: next :: rest => item.render ++ "," ++ renderItems (next :: rest)

def renderMembers : List (String × Value) → String
  | [] => ""
  | [(name, value)] => renderString name ++ ":" ++ value.render
  | (name, value) :: next :: rest =>
    renderString name ++ ":" ++ value.render ++ "," ++ renderMembers (next :: rest)

end

/-- The compact text of a value as bytes. -/
def Value.encode (value : Value) : Bytes :=
  encodeText value.render

end RpcEndpoint.Json
