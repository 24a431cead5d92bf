import SqlTree.Json.Number
import SqlTree.Text.Hex
import SqlTree.Text.Utf8

/-!
Reading JSON text: the whole text is one value, with blanks around it and its parts, and at most 127
arrays and objects inside one another.
-/

namespace SqlTree.Json

def isSpace (c : Char) : Bool :=
  c == ' ' || c == '\n' || c == '\t' || c == '\r'

def skipSpace (text : List Char) : List Char := text.dropWhile isSpace

def shortEscape? : Char → Option Char
  | '"' => some '"'
  | '\\' => some '\\'
  | '/' => some '/'
  | 'b' => some '\x08'
  | 'f' => some '\x0c'
  | 'n' => some '\n'
  | 'r' => some '\r'
  | 't' => some '\t'
  | _ => none

def readUnit : List Char → Option (Nat × List Char)
  | a :: b :: c :: d :: rest => (Text.readHex? [a, b, c, d]).map (·, rest)
  | _ => none

/-- A high surrogate needs a low one behind it, and a low one a high one before it. -/
def readCodePoint (text : List Char) : Option (Char × List Char) := do
  let (unit, rest) ← readUnit text
  if 0xDC00 ≤ unit ∧ unit ≤ 0xDFFF then none
  else if 0xD800 ≤ unit ∧ unit ≤ 0xDBFF then
    match rest with
    | '\\' :: 'u' :: after =>
        let (low, rest) ← readUnit after
        if 0xDC00 ≤ low ∧ low ≤ 0xDFFF then
          some (Char.ofNat (0x10000 + (unit - 0xD800) * 0x400 + (low - 0xDC00)), rest)
        else none
    | _ => none
  else some (Char.ofNat unit, rest)

def readChars : Nat → List Char → Option (List Char × List Char)
  | 0, _ => none
  | fuel + 1, text =>
      match text with
      | [] => none
      | '"' :: rest => some ([], rest)
      | '\\' :: 'u' :: rest => do
          let (c, after) ← readCodePoint rest
          let (chars, last) ← readChars fuel after
          some (c :: chars, last)
      | '\\' :: c :: rest => do
          let plain ← shortEscape? c
          let (chars, last) ← readChars fuel rest
          some (plain :: chars, last)
      | c :: rest =>
          if c.toNat < 32 ∨ c = '\\' then none
          else (readChars fuel rest).map fun (chars, last) => (c :: chars, last)

def readString : List Char → Option (String × List Char)
  | '"' :: rest => (readChars (rest.length + 1) rest).map fun (chars, last) =>
      (String.ofList chars, last)
  | _ => none

def keyword? (word : List Char) (value : Json) (text : List Char) : Option (Json × List Char) :=
  if text.take word.length = word then some (value, text.drop word.length) else none

mutual

/-- `depth` counts the arrays and objects that may still be opened. -/
def readValue : Nat → Nat → List Char → Option (Json × List Char)
  | 0, _, _ => none
  | fuel + 1, depth, text =>
      match skipSpace text with
      | [] => none
      | '"' :: rest => (readString ('"' :: rest)).map fun (s, last) => (string s, last)
      | '[' :: rest =>
          if depth = 0 then none
          else match skipSpace rest with
            | ']' :: last => some (array [], last)
            | first => (readItems fuel (depth - 1) first).map fun (items, last) => (array items, last)
      | '\x7b' :: rest =>
          if depth = 0 then none
          else match skipSpace rest with
            | '\x7d' :: last => some (object [], last)
            | first =>
                (readMembers fuel (depth - 1) first).map fun (members, last) =>
                  (ofMembers members, last)
      | 'n' :: rest => keyword? ['u', 'l', 'l'] null rest
      | 't' :: rest => keyword? ['r', 'u', 'e'] (bool true) rest
      | 'f' :: rest => keyword? ['a', 'l', 's', 'e'] (bool false) rest
      | first => (readNumber first).map fun (n, last) => (number n, last)

def readItems : Nat → Nat → List Char → Option (List Json × List Char)
  | 0, _, _ => none
  | fuel + 1, depth, text =>
      match readValue fuel depth text with
      | none => none
      | some (item, rest) =>
          match skipSpace rest with
          | ']' :: last => some ([item], last)
          | ',' :: next => (readItems fuel depth next).map fun (items, last) => (item :: items, last)
          | _ => none

def readMembers : Nat → Nat → List Char → Option (List (String × Json) × List Char)
  | 0, _, _ => none
  | fuel + 1, depth, text =>
      match readString (skipSpace text) with
      | none => none
      | some (key, rest) =>
          match skipSpace rest with
          | ':' :: after =>
              match readValue fuel depth after with
              | none => none
              | some (value, rest) =>
                  match skipSpace rest with
                  | '\x7d' :: last => some ([(key, value)], last)
                  | ',' :: next =>
                      (readMembers fuel depth next).map fun (members, last) =>
                        ((key, value) :: members, last)
                  | _ => none
          | _ => none

end

/-- Every step takes a character, two at the most share one. -/
def read? (text : String) : Option Json :=
  let chars := text.toList
  match readValue (2 * chars.length + 2) 127 chars with
  | some (value, rest) => if (skipSpace rest).isEmpty then some value else none
  | none => none

def readBytes? (bytes : List UInt8) : Option Json :=
  (Text.ofUtf8? bytes).bind read?

end SqlTree.Json
