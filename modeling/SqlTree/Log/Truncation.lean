namespace SqlTree.Log

/-- The longest part from the front that takes at most `room` bytes. -/
def fitting : Nat → List Char → List Char
  | _, [] => []
  | room, c :: rest => if c.utf8Size ≤ room then c :: fitting (room - c.utf8Size) rest else []

/-- Text within the limit stays whole; cut text ends in three dots. -/
def truncated (limit : Option Nat) (text : String) : String :=
  match limit with
  | none => text
  | some most =>
      if text.utf8ByteSize ≤ most then text
      else String.ofList (fitting most text.toList) ++ "..."

end SqlTree.Log
