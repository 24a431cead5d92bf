import SqlTree.Bytes.BigEndian
import SqlTree.Text.Hex

namespace SqlTree

structure Uuid where
  bits : BitVec 128
  deriving DecidableEq, Repr

namespace Uuid

def nil : Uuid := ⟨0⟩

def bytes (u : Uuid) : List UInt8 := Bytes.ofNat 16 u.bits.toNat

def ofBytes? (bytes : List UInt8) : Option Uuid :=
  if bytes.length = 16 then some ⟨BitVec.ofNat 128 (Bytes.toNat bytes)⟩ else none

/-- Hyphens stand behind the 8th, 12th, 16th and 20th digit. -/
def hyphenated (digits : List Char) : List Char :=
  digits.take 8 ++ '-' :: (digits.drop 8).take 4 ++ '-' :: (digits.drop 12).take 4 ++
    '-' :: (digits.drop 16).take 4 ++ '-' :: digits.drop 20

def text (u : Uuid) : String :=
  String.ofList (hyphenated (Text.hexField 32 u.bits.toNat))

def readDigits? (digits : List Char) : Option Uuid :=
  if digits.length = 32 then (Text.readHex? digits).map fun n => ⟨BitVec.ofNat 128 n⟩ else none

def readHyphenated? (text : List Char) : Option Uuid :=
  let digits := text.filter (· ≠ '-')
  if text.length = 36 ∧ hyphenated digits = text then readDigits? digits else none

def urnMark : List Char := "urn:uuid:".toList

/-- The mark counts in any letter case, but none of its letters may be one beyond ASCII. -/
def hasUrnMark (text : List Char) : Bool := (text.take 9).map Char.toLower == urnMark

def read? (text : String) : Option Uuid :=
  let chars := text.toList
  match chars.length with
  | 32 => readDigits? chars
  | 36 => readHyphenated? chars
  | 38 =>
      if chars.head? = some '\x7b' ∧ chars.getLast? = some '\x7d' then
        readHyphenated? (chars.drop 1).dropLast
      else none
  | 45 => if hasUrnMark chars then readHyphenated? (chars.drop 9) else none
  | _ => none

end Uuid

end SqlTree
