namespace SqlTree.Text

def hexDigit (n : Nat) : Char :=
  if n < 10 then Char.ofNat (48 + n) else Char.ofNat (87 + n)

def hexValue? (c : Char) : Option Nat :=
  let n := c.toNat
  if 48 ≤ n ∧ n ≤ 57 then some (n - 48)
  else if 97 ≤ n ∧ n ≤ 102 then some (n - 87)
  else if 65 ≤ n ∧ n ≤ 70 then some (n - 55)
  else none

def hexField : Nat → Nat → List Char
  | 0, _ => []
  | width + 1, n => hexField width (n / 16) ++ [hexDigit (n % 16)]

def hexNumber (n : Nat) : List Char :=
  hexField (Nat.log2 n / 4 + 1) n

def readHex? (digits : List Char) : Option Nat :=
  digits.foldlM (fun n c => (hexValue? c).map (16 * n + ·)) 0

def hexBytes (bytes : List UInt8) : List Char :=
  bytes.flatMap fun byte => hexField 2 byte.toNat

def readHexBytes? : List Char → Option (List UInt8)
  | [] => some []
  | [_] => none
  | high :: low :: rest => do
      let byte ← readHex? [high, low]
      let bytes ← readHexBytes? rest
      pure (UInt8.ofNat byte :: bytes)

theorem hexValue?_hexDigit : ∀ n < 16, hexValue? (hexDigit n) = some n := by decide

theorem readHex?_hexField (width n : Nat) :
    readHex? (hexField width n) = some (n % Nat.pow 16 width) := by
  induction width generalizing n with
  | zero => simp [hexField, readHex?, Nat.mod_one]
  | succ width ih =>
      have rest := ih (n / 16)
      have digit := hexValue?_hexDigit (n % 16) (Nat.mod_lt _ (by decide))
      simp only [readHex?] at rest ⊢
      simp only [hexField, List.foldlM_append, rest, List.foldlM_cons, List.foldlM_nil, digit]
      simp [Nat.pow_succ', Nat.mod_mul, Nat.add_comm]

end SqlTree.Text
