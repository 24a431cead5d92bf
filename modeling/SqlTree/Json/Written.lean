import SqlTree.Json.Basic
import SqlTree.Number.Shortest
import SqlTree.Text.Hex

namespace SqlTree.Json

/-- Positional from 0.00001 to below 10^16; a positive exponent has a sign. -/
def doubleStyle : FloatStyle := ⟨-5, 16, true, .even⟩

def numberText : JsonNumber → String
  | .natural n => Text.integer n.toNat
  | .negative n => Text.integer n.toInt
  | .double x => doubleStyle.write x

/-- Only the quote, the backslash and the controls below the space are escaped. -/
def escapedChar (c : Char) : List Char :=
  if c = '"' then ['\\', '"']
  else if c = '\\' then ['\\', '\\']
  else if c = '\x08' then ['\\', 'b']
  else if c = '\x0c' then ['\\', 'f']
  else if c = '\n' then ['\\', 'n']
  else if c = '\r' then ['\\', 'r']
  else if c = '\t' then ['\\', 't']
  else if c.toNat < 32 then ['\\', 'u'] ++ Text.hexField 4 c.toNat
  else [c]

def stringText (s : String) : String :=
  String.ofList ('"' :: (s.toList.flatMap escapedChar ++ ['"']))

mutual

def text : Json → String
  | null => "null"
  | bool true => "true"
  | bool false => "false"
  | number n => numberText n
  | string s => stringText s
  | array items => "[" ++ itemTexts items ++ "]"
  | object members => "\x7b" ++ memberTexts members ++ "\x7d"

def itemTexts : List Json → String
  | [] => ""
  | [item] => item.text
  | item :: rest => item.text ++ "," ++ itemTexts rest

def memberTexts : List (String × Json) → String
  | [] => ""
  | [(key, value)] => stringText key ++ ":" ++ value.text
  | (key, value) :: rest => stringText key ++ ":" ++ value.text ++ "," ++ memberTexts rest

end

end SqlTree.Json
