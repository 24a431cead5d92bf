namespace SqlTree.Bytes

def ofNat : Nat → Nat → List UInt8
  | 0, _ => []
  | width + 1, n => ofNat width (n / 256) ++ [UInt8.ofNat (n % 256)]

def toNat (bytes : List UInt8) : Nat :=
  bytes.foldl (fun n byte => 256 * n + byte.toNat) 0

def ofInt (width : Nat) (n : Int) : List UInt8 :=
  ofNat width (n % Nat.pow 256 width).toNat

/-- A first byte of 128 or more makes the number negative. -/
def toInt (bytes : List UInt8) : Int :=
  let n := toNat bytes
  if 2 * n < Nat.pow 256 bytes.length then n else (n : Int) - Nat.pow 256 bytes.length

theorem length_ofNat (width n : Nat) : (ofNat width n).length = width := by
  induction width generalizing n with
  | zero => rfl
  | succ width ih => simp [ofNat, ih]

theorem toNat_ofNat (width n : Nat) : toNat (ofNat width n) = n % Nat.pow 256 width := by
  induction width generalizing n with
  | zero => simp [ofNat, toNat, Nat.mod_one]
  | succ width ih =>
      have rest := ih (n / 256)
      have byte : (UInt8.ofNat (n % 256)).toNat = n % 256 := by simp
      simp only [toNat] at rest
      simp only [ofNat, toNat, List.foldl_append, rest, List.foldl_cons, List.foldl_nil, byte]
      rw [Nat.pow_eq, Nat.pow_eq, Nat.pow_succ', Nat.mod_mul, Nat.add_comm]

end SqlTree.Bytes
