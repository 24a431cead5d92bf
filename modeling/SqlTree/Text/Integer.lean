namespace SqlTree.Text

def integerChars (n : Int) : List Char :=
  if n < 0 then '-' :: Nat.toDigits 10 n.natAbs else Nat.toDigits 10 n.natAbs

def integer (n : Int) : String := String.ofList (integerChars n)

end SqlTree.Text
