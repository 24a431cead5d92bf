import Mathlib.Algebra.Group.Int.Defs
import Mathlib.Algebra.Group.Nat.Defs
import Mathlib.Data.List.Basic
import SqlTree.Postgres.Binary
import SqlTree.Postgres.Client
import SqlTree.Proofs.Steps

/-!
Integers as parameters. A parameter of an integer type takes exactly the numbers of that type, and a
column of the type reads them back unchanged, so a list of such parameters comes back as the same
row; a number that the type cannot hold is refused before anything is written. All that is asked of
the library is that it writes and reads numbers in the documented format.
-/

namespace SqlTree

namespace Bytes

variable {width : Nat} {n : Int}

theorem toNat_ofInt (width : Nat) (n : Int) :
    (toNat (ofInt width n) : Int) = n % (256 ^ width : Nat) := by
  have positive : 0 < 256 ^ width := Nat.pow_pos (by decide)
  have low := Int.emod_nonneg n (Int.ofNat_ne_zero.mpr (Nat.ne_of_gt positive))
  have high := Int.emod_lt_of_pos n (Int.ofNat_lt.mpr positive)
  rw [ofInt, toNat_ofNat, Nat.pow_eq, Nat.mod_eq_of_lt (by omega)]
  exact Int.toNat_of_nonneg low

theorem toInt_ofInt (low : -(256 ^ width : Nat) ≤ 2 * n) (high : 2 * n < (256 ^ width : Nat)) :
    toInt (ofInt width n) = n := by
  have unsigned := toNat_ofInt width n
  have length : (ofInt width n).length = width := length_ofNat width _
  rw [toInt, length, Nat.pow_eq]
  by_cases negative : n < 0
  · have wrapped : n % (256 ^ width : Nat) = n + (256 ^ width : Nat) := by
      rw [← Int.add_emod_right, Int.emod_eq_of_lt] <;> omega
    rw [wrapped] at unsigned
    rw [if_neg (by omega), unsigned]
    omega
  · rw [Int.emod_eq_of_lt (Int.not_lt.mp negative) (by omega)] at unsigned
    rw [if_pos (by omega), unsigned]

end Bytes

namespace Postgres

variable {τ α : Type}

/-! ### The library -/

/-- A native type is for one type of parameters, and all its values are appended as these bytes. -/
structure Codec.Writes (c : Codec τ α) (own : ParamType τ) (bytes : α → List UInt8) : Prop where
  accepts : ∀ type, c.accepts type = true ↔ type = own
  write : ∀ v message, (c.write v own).run message = (.ok .no, message ++ bytes v)

def Codec.Reads (c : Codec τ α) (own : ParamType τ) (denotes : List UInt8 → α → Prop) : Prop :=
  ∀ place cell v, denotes cell v → c.read place own (some cell) = .ok (some v)

/-- What is documented of numbers: every native type is for the type that is named after it, of a
fixed width, with the highest byte first and in two's complement. -/
structure Library.Documented (l : Library τ) : Prop where
  int16Writes : l.int16.Writes .int2 fun n => Bytes.ofInt 2 n.toInt
  int32Writes : l.int32.Writes .int4 fun n => Bytes.ofInt 4 n.toInt
  int64Writes : l.int64.Writes .int8 fun n => Bytes.ofInt 8 n.toInt
  uint32Writes : l.uint32.Writes .oid fun n => Bytes.ofNat 4 n.toNat
  singleWrites : l.single.Writes .float4 fun bits => Bytes.ofNat 4 bits.toNat
  doubleWrites : l.double.Writes .float8 fun x => Bytes.ofNat 8 x.bits.toNat
  int16Reads : l.int16.Reads .int2 fun cell n => cell.length = 2 ∧ Bytes.toInt cell = n.toInt
  int32Reads : l.int32.Reads .int4 fun cell n => cell.length = 4 ∧ Bytes.toInt cell = n.toInt
  int64Reads : l.int64.Reads .int8 fun cell n => cell.length = 8 ∧ Bytes.toInt cell = n.toInt
  uint32Reads : l.uint32.Reads .oid fun cell n => cell.length = 4 ∧ Bytes.toNat cell = n.toNat

namespace Codec

variable {c : Codec τ α} {own type : ParamType τ} {bytes : α → List UInt8}

theorem Writes.encode_own (writes : c.Writes own bytes) (v : α) (message : List UInt8) :
    (c.encode v own).run message = (.ok .no, message ++ bytes v) := by
  rw [encode, if_pos ((writes.accepts own).mpr rfl)]
  exact writes.write v message

theorem Writes.encode_other (writes : c.Writes own bytes) (other : type ≠ own) (v : α)
    (message : List UInt8) :
    (c.encode v type).run message = (.error (.wrongType c.name type), message) := by
  rw [encode, if_neg fun accepted => other ((writes.accepts type).mp accepted)]
  rfl

theorem Reads.decode_own {denotes : List UInt8 → α → Prop} (reads : c.Reads own denotes)
    {cell : List UInt8} {v : α} (denoted : denotes cell v) (place : Nat) (make : α → Value) :
    c.decode place make own (some cell) = .ok (make v) := by
  rw [decode, reads place cell v denoted]
  rfl

end Codec

section Narrow

variable {low high : Int} {make : Int → α} {n : Int64} (next : α → Writing τ IsNull)
  (message : List UInt8)

theorem narrow_within (within : low ≤ n.toInt ∧ n.toInt ≤ high) :
    (narrow low high make n >>= next).run message = (next (make n.toInt)).run message :=
  Steps.bind_ok (by rw [narrow, if_pos within]; rfl)

theorem Codec.Writes.encode_narrow {c : Codec τ α} {own : ParamType τ} {bytes : α → List UInt8}
    (writes : c.Writes own bytes) (within : low ≤ n.toInt ∧ n.toInt ≤ high) :
    (narrow low high make n >>= fun v => c.encode v own).run message =
      (.ok .no, message ++ bytes (make n.toInt)) :=
  (narrow_within _ message within).trans (writes.encode_own _ message)

theorem narrow_beyond (beyond : ¬ (low ≤ n.toInt ∧ n.toInt ≤ high)) :
    (narrow low high make n >>= next).run message = (.error .outOfRange, message) :=
  Steps.bind_error (by rw [narrow, if_neg beyond]; rfl)

end Narrow

namespace ParamType

def integerWidth? : ParamType τ → Option Nat
  | int2 => some 2
  | int4 | oid => some 4
  | int8 => some 8
  | _ => none

/-- The whole numbers of a type: signed ones of two, four or eight bytes, or unsigned ones. -/
def Holds (n : Int) : ParamType τ → Prop
  | int2 => -2 ^ 15 ≤ n ∧ n < 2 ^ 15
  | int4 => -2 ^ 31 ≤ n ∧ n < 2 ^ 31
  | int8 => -2 ^ 63 ≤ n ∧ n < 2 ^ 63
  | oid => 0 ≤ n ∧ n < 2 ^ 32
  | _ => False

end ParamType

section Single

variable {l : Library τ} (documented : l.Documented) {type : ParamType τ} {width : Nat} {n : Int64}
  (message : List UInt8)

include documented

theorem encodeInteger_held (integer : type.integerWidth? = some width)
    (held : type.Holds n.toInt) :
    (encodeInteger l n type).run message = (.ok .no, message ++ Bytes.ofInt width n.toInt) := by
  cases type with
  | int2 =>
      obtain rfl := Option.some.inj integer
      obtain ⟨low, high⟩ := held
      rw [encodeInteger, toInt16, documented.int16Writes.encode_narrow _ (by omega),
        Int16.toInt_ofInt_of_le low high]
  | int4 =>
      obtain rfl := Option.some.inj integer
      obtain ⟨low, high⟩ := held
      rw [encodeInteger, toInt32, documented.int32Writes.encode_narrow _ (by omega),
        Int32.toInt_ofInt_of_le low high]
  | int8 =>
      obtain rfl := Option.some.inj integer
      exact documented.int64Writes.encode_own n message
  | oid =>
      obtain rfl := Option.some.inj integer
      obtain ⟨low, high⟩ := held
      have small : n.toInt.toNat % 2 ^ 32 = n.toInt.toNat := Nat.mod_eq_of_lt (by omega)
      have unsigned : n.toInt % Nat.pow 256 4 = n.toInt :=
        Int.emod_eq_of_lt low (Int.lt_of_lt_of_le high (by decide))
      rw [encodeInteger, toUInt32, documented.uint32Writes.encode_narrow _ (by omega),
        UInt32.toNat_ofNat', small, Bytes.ofInt, unsigned]
  | _ => exact nomatch integer

omit documented in
theorem encodeInteger_beyond (integer : type.integerWidth? = some width)
    (beyond : ¬ type.Holds n.toInt) :
    (encodeInteger l n type).run message = (.error .outOfRange, message) := by
  cases type with
  | int2 =>
      simp only [ParamType.Holds] at beyond
      rw [encodeInteger, toInt16, narrow_beyond _ _ (by omega)]
  | int4 =>
      simp only [ParamType.Holds] at beyond
      rw [encodeInteger, toInt32, narrow_beyond _ _ (by omega)]
  | oid =>
      simp only [ParamType.Holds] at beyond
      rw [encodeInteger, toUInt32, narrow_beyond _ _ (by omega)]
  | int8 => exact absurd ⟨n.le_toInt, n.toInt_lt⟩ beyond
  | _ => exact nomatch integer

theorem encodeInteger_other (other : type.integerWidth? = none) (float4 : type ≠ .float4)
    (float8 : type ≠ .float8) :
    (encodeInteger l n type).run message = (.error (.wrongType l.int64.name type), message) := by
  have apart : type ≠ .int8 := by
    rintro rfl
    exact nomatch other
  have whole : encodeInteger l n type = l.int64.encode n type := by
    cases type with
    | float4 => exact absurd rfl float4
    | float8 => exact absurd rfl float8
    | int2 | int4 | oid => exact nomatch other
    | _ => rfl
  rw [whole]
  exact documented.int64Writes.encode_other apart n message

theorem encodeInteger_refused {fault : EncodeFault τ}
    (refused : ((encodeInteger l n type).run message).1 = .error fault) :
    ((encodeInteger l n type).run message).2 = message := by
  cases integer : type.integerWidth? with
  | some width =>
      by_cases held : type.Holds n.toInt
      · rw [encodeInteger_held documented message integer held] at refused
        exact nomatch refused
      · rw [encodeInteger_beyond message integer held]
  | none =>
      by_cases float4 : type = .float4
      · subst float4
        rw [encodeInteger, documented.singleWrites.encode_own] at refused
        exact nomatch refused
      by_cases float8 : type = .float8
      · subst float8
        rw [encodeInteger, documented.doubleWrites.encode_own] at refused
        exact nomatch refused
      rw [encodeInteger_other documented message integer float4 float8]

theorem decodeColumn_ofInt (place : Nat) (integer : type.integerWidth? = some width)
    (held : type.Holds n.toInt) :
    decodeColumn l place type (some (Bytes.ofInt width n.toInt)) = .ok (.int n) := by
  have length : (Bytes.ofInt width n.toInt).length = width := Bytes.length_ofNat width _
  have whole : Value.ofInt n.toInt = .int n := by rw [Value.ofInt, Int64.ofInt_toInt]
  cases type with
  | int2 =>
      obtain rfl := Option.some.inj integer
      obtain ⟨low, high⟩ := held
      have own := Int16.toInt_ofInt_of_le low high
      have denoted : Bytes.toInt (Bytes.ofInt 2 n.toInt) = (Int16.ofInt n.toInt).toInt := by
        rw [own, Bytes.toInt_ofInt] <;> omega
      rw [decodeColumn, documented.int16Reads.decode_own ⟨length, denoted⟩, own, whole]
  | int4 =>
      obtain rfl := Option.some.inj integer
      obtain ⟨low, high⟩ := held
      have own := Int32.toInt_ofInt_of_le low high
      have denoted : Bytes.toInt (Bytes.ofInt 4 n.toInt) = (Int32.ofInt n.toInt).toInt := by
        rw [own, Bytes.toInt_ofInt] <;> omega
      rw [decodeColumn, documented.int32Reads.decode_own ⟨length, denoted⟩, own, whole]
  | int8 =>
      obtain rfl := Option.some.inj integer
      obtain ⟨low, high⟩ := held
      have denoted : Bytes.toInt (Bytes.ofInt 8 n.toInt) = n.toInt := by
        rw [Bytes.toInt_ofInt] <;> omega
      exact documented.int64Reads.decode_own ⟨length, denoted⟩ place Value.int
  | oid =>
      obtain rfl := Option.some.inj integer
      obtain ⟨low, high⟩ := held
      have small : (UInt32.ofNat n.toInt.toNat).toNat = n.toInt.toNat := by
        rw [UInt32.toNat_ofNat', Nat.mod_eq_of_lt (by omega)]
      have unsigned := Bytes.toNat_ofInt 4 n.toInt
      rw [Int.emod_eq_of_lt low (by omega)] at unsigned
      have denoted : Bytes.toNat (Bytes.ofInt 4 n.toInt) = (UInt32.ofNat n.toInt.toNat).toNat := by
        omega
      have back : ((UInt32.ofNat n.toInt.toNat).toNat : Int) = n.toInt := by omega
      rw [decodeColumn, documented.uint32Reads.decode_own ⟨length, denoted⟩, back, whole]
  | _ => exact nomatch integer

/-- An integer is taken exactly if the type holds it, and its column reads it back. -/
theorem integer_read_back (v : Int64) (integer : type.integerWidth? = some width) :
    let written := (encode l (.int v) type).run message
    ((∃ null, written.1 = .ok null) ↔ type.Holds v.toInt) ∧
      (type.Holds v.toInt → written = (.ok .no, message ++ Bytes.ofInt width v.toInt) ∧
        ∀ place, decodeColumn l place type (some (written.2.drop message.length)) =
          .ok (.int v)) ∧
      (¬ type.Holds v.toInt → written = (.error .outOfRange, message)) := by
  intro written
  have beyond (outside : ¬ type.Holds v.toInt) : written = (.error .outOfRange, message) :=
    encodeInteger_beyond message integer outside
  have exact (held : type.Holds v.toInt) :
      written = (.ok .no, message ++ Bytes.ofInt width v.toInt) :=
    encodeInteger_held documented message integer held
  refine ⟨⟨?_, fun held => ⟨.no, congrArg Prod.fst (exact held)⟩⟩, fun held => ⟨exact held, ?_⟩,
    beyond⟩
  · rintro ⟨null, taken⟩
    by_contra outside
    rw [beyond outside] at taken
    exact nomatch taken
  · intro place
    rw [exact held, List.drop_left]
    exact decodeColumn_ofInt documented place integer held

end Single

/-! ### Whole statements and rows -/

section Parameters

variable {l : Library τ} {v : Value} {type : ParamType τ} {message after : List UInt8}
  (place : Nat) (rest : List (Value × ParamType τ))

theorem encode_placed {result : Except (EncodeFault τ) IsNull}
    (run : (encode l v type).run message = (result, after)) :
    ((encode l v type).adapt (place, ·)).run message = (result.mapError (place, ·), after) := by
  rw [ExceptT.run_adapt]
  exact congrArg (fun run => (run.1.mapError (place, ·), run.2)) run

theorem encodeFrom_written (written : (encode l v type).run message = (.ok .no, after))
    {cells : Bound} {last : List UInt8}
    (others : (encodeFrom l (place + 1) rest).run after = (.ok cells, last)) :
    (encodeFrom l place ((v, type) :: rest)).run message =
      (.ok (some (after.drop message.length) :: cells), last) :=
  (Steps.bind_ok (Steps.get_run message)).trans ((Steps.bind_ok (encode_placed place written)).trans
    ((Steps.bind_ok (Steps.get_run after)).trans (Steps.bind_ok others)))

theorem encodeFrom_refused {fault : EncodeFault τ}
    (refused : (encode l v type).run message = (.error fault, after)) :
    (encodeFrom l place ((v, type) :: rest)).run message = (.error (place, fault), after) :=
  (Steps.bind_ok (Steps.get_run message)).trans (Steps.bind_error (encode_placed place refused))

theorem encodeFrom_stopped {null : IsNull} {e : Nat × EncodeFault τ} {last : List UInt8}
    (written : (encode l v type).run message = (.ok null, after))
    (others : (encodeFrom l (place + 1) rest).run after = (.error e, last)) :
    (encodeFrom l place ((v, type) :: rest)).run message = (.error e, last) :=
  (Steps.bind_ok (Steps.get_run message)).trans ((Steps.bind_ok (encode_placed place written)).trans
    ((Steps.bind_ok (Steps.get_run after)).trans (Steps.bind_error others)))

theorem decodeFrom_cons {name : String} {cell : Option (List UInt8)}
    (read : decodeColumn l place type cell = .ok v)
    (others : List ((String × ParamType τ) × Option (List UInt8))) :
    decodeFrom l place (((name, type), cell) :: others) =
      (decodeFrom l (place + 1) others).map (v :: ·) := by
  rw [decodeFrom, read]
  rfl

end Parameters

structure IntegerParam (τ : Type) where
  value : Int64
  column : String
  type : ParamType τ

namespace IntegerParam

def arg (p : IntegerParam τ) : Value := .int p.value

def Held (p : IntegerParam τ) : Prop := p.type.Holds p.value.toInt

def typed (p : IntegerParam τ) : Value × ParamType τ := (p.arg, p.type)

section Lists

variable {l : Library τ} (documented : l.Documented) {params : List (IntegerParam τ)}
  (integers : ∀ p ∈ params, p.type.integerWidth? ≠ none) (place : Nat) (message : List UInt8)

include documented integers

/-- Arguments that their types hold reach the server, and come back as the row that they are. -/
theorem row_read_back (held : ∀ p ∈ params, p.Held) :
    ∃ cells after, (encodeFrom l place (params.map typed)).run message = (.ok cells, after) ∧
      decodeFrom l place ((params.map fun p => (p.column, p.type)).zip cells) =
        .ok (params.map arg) := by
  induction params generalizing place message with
  | nil => exact ⟨[], message, rfl, rfl⟩
  | cons p rest ih =>
      obtain ⟨integer, integers⟩ := List.forall_mem_cons.mp integers
      obtain ⟨own, others⟩ := List.forall_mem_cons.mp held
      obtain ⟨width, integer⟩ := Option.ne_none_iff_exists'.mp integer
      obtain ⟨-, exact, -⟩ := integer_read_back documented message p.value integer
      obtain ⟨written, read⟩ := exact own
      obtain ⟨cells, after, sent, row⟩ := ih integers (place + 1)
        (message ++ Bytes.ofInt width p.value.toInt) others
      rw [written] at read
      refine ⟨_, after, encodeFrom_written place _ written sent, ?_⟩
      rw [List.map_cons, List.map_cons, List.zip_cons_cons, decodeFrom_cons place (read place), row]
      rfl

/-- One argument that its type does not hold keeps the statement from the server. -/
theorem row_refused (beyond : ¬ ∀ p ∈ params, p.Held) :
    ∃ last after, (encodeFrom l place (params.map typed)).run message =
      (.error (last, .outOfRange), after) := by
  induction params generalizing place message with
  | nil => exact absurd (List.forall_mem_nil _) beyond
  | cons p rest ih =>
      obtain ⟨integer, integers⟩ := List.forall_mem_cons.mp integers
      obtain ⟨width, integer⟩ := Option.ne_none_iff_exists'.mp integer
      obtain ⟨-, exact, refused⟩ := integer_read_back documented message p.value integer
      by_cases own : p.Held
      · have others : ¬ ∀ p ∈ rest, p.Held := fun others =>
          beyond (List.forall_mem_cons.mpr ⟨own, others⟩)
        obtain ⟨last, after, stopped⟩ := ih integers (place + 1)
          (message ++ Bytes.ofInt width p.value.toInt) others
        exact ⟨last, after, encodeFrom_stopped place _ (exact own).1 stopped⟩
      · exact ⟨place, message, encodeFrom_refused place _ (refused own)⟩

end Lists

end IntegerParam

/-- With a library that writes and reads numbers in the documented format, an integer is a parameter
of an integer type exactly if the type holds it. It is then appended to the message in the width of
the type, and a column of the type reads it back. Refused, or of no use to the type at all, it
leaves the message as it is. So a list of such arguments reaches the server exactly if each type
holds its own, and comes back as the row that it is. -/
theorem integers_exact_or_refused {τ : Type} (l : Library τ) (documented : l.Documented) :
    (∀ (v : Int64) (type : ParamType τ) (message : List UInt8),
      let written := (encode l (.int v) type).run message
      (∀ width, type.integerWidth? = some width →
        ((∃ null, written.1 = .ok null) ↔ type.Holds v.toInt) ∧
        (type.Holds v.toInt → written = (.ok .no, message ++ Bytes.ofInt width v.toInt) ∧
          ∀ place, decodeColumn l place type (some (written.2.drop message.length)) =
            .ok (.int v)) ∧
        (¬ type.Holds v.toInt → written = (.error .outOfRange, message))) ∧
      (type.integerWidth? = none → type ≠ .float4 → type ≠ .float8 →
        written = (.error (.wrongType l.int64.name type), message)) ∧
      ∀ fault, written.1 = .error fault → written.2 = message) ∧
    ∀ (params : List (IntegerParam τ)) (message : List UInt8),
      (∀ p ∈ params, p.type.integerWidth? ≠ none) →
      ((∀ p ∈ params, p.Held) → ∃ cells after,
        (encodeFrom l 0 (params.map (·.typed))).run message = (.ok cells, after) ∧
        decodeRow l (params.map fun p => (p.column, p.type)) cells = .ok (params.map (·.arg))) ∧
      ((¬ ∀ p ∈ params, p.Held) → ∃ place after,
        (encodeFrom l 0 (params.map (·.typed))).run message =
          (.error (place, .outOfRange), after)) := by
  refine ⟨fun v type message => ⟨fun width integer => ?_, ?_, ?_⟩,
    fun params message integers => ⟨?_, ?_⟩⟩
  · exact integer_read_back documented message v integer
  · exact encodeInteger_other documented message
  · exact fun fault refused => encodeInteger_refused documented message refused
  · exact IntegerParam.row_read_back documented integers 0 message
  · exact IntegerParam.row_refused documented integers 0 message

/-! ### The binary format -/

namespace Binary

variable {detail name : String} {own : ParamType Builtin}
  {bytes : ParamType Builtin → α → List UInt8}
  {value? : ParamType Builtin → List UInt8 → Option α}

theorem codec_writes : (codec detail name (· == own) bytes value?).Writes own (bytes own) where
  accepts type := by simp [codec]
  write v message := rfl

theorem codec_reads {denotes : List UInt8 → α → Prop}
    (read : ∀ cell v, denotes cell v → value? own cell = some v) :
    (codec detail name (· == own) bytes value?).Reads own denotes := by
  intro place cell v denoted
  simp [codec, read cell v denoted]

theorem fixed_eq {width : Nat} {make : List UInt8 → α} {cell : List UInt8}
    (length : cell.length = width) : fixed width make cell = some (make cell) := if_pos length

theorem library_documented (detail : String) : (library detail).Documented where
  int16Writes := codec_writes
  int32Writes := codec_writes
  int64Writes := codec_writes
  uint32Writes := codec_writes
  singleWrites := codec_writes
  doubleWrites := codec_writes
  int16Reads := codec_reads fun cell n ⟨length, denoted⟩ => by
    rw [fixed_eq length, denoted, Int16.ofInt_toInt]
  int32Reads := codec_reads fun cell n ⟨length, denoted⟩ => by
    rw [fixed_eq length, denoted, Int32.ofInt_toInt]
  int64Reads := codec_reads fun cell n ⟨length, denoted⟩ => by
    rw [fixed_eq length, denoted, Int64.ofInt_toInt]
  uint32Reads := codec_reads fun cell n ⟨length, denoted⟩ => by
    rw [fixed_eq length, denoted, UInt32.ofNat_toNat]

end Binary

/-- The ends of the ranges, and the first number beyond the last. -/
theorem integers_exact_or_refused_ends :
    let l := Binary.library "refused"
    let ends : List (IntegerParam Builtin) := [⟨-32768, "low", .int2⟩, ⟨2147483647, "high", .int4⟩,
      ⟨-9223372036854775808, "least", .int8⟩, ⟨4294967295, "row", .oid⟩]
    l.Documented ∧ (∀ p ∈ ends, p.type.integerWidth? ≠ none) ∧ (∀ p ∈ ends, p.Held) ∧
      (∃ cells after, (encodeFrom l 0 (ends.map (·.typed))).run [1] = (.ok cells, after) ∧
        decodeRow l (ends.map fun p => (p.column, p.type)) cells = .ok (ends.map (·.arg))) ∧
      (encode l (.int (-2)) .int2).run [1] = (.ok .no, [1, 255, 254]) ∧
      (encode l (.int 4294967296) .oid).run [1] = (.error .outOfRange, [1]) ∧
      (encode l (.int 7) (.other .text)).run [1] =
        (.error (.wrongType "i64" (.other .text)), [1]) := by
  intro l ends
  have documented : l.Documented := Binary.library_documented "refused"
  have integers : ∀ p ∈ ends, p.type.integerWidth? ≠ none := by decide
  have held : ∀ p ∈ ends, p.Held := by
    simp only [ends, List.forall_mem_cons, IntegerParam.Held, ParamType.Holds]
    exact ⟨by decide, by decide, by decide, by decide, List.forall_mem_nil _⟩
  have beyond : ¬ (ParamType.oid : ParamType Builtin).Holds (Int64.toInt 4294967296) := by
    simp only [ParamType.Holds]
    decide
  have within : (ParamType.int2 : ParamType Builtin).Holds (Int64.toInt (-2)) := by
    simp only [ParamType.Holds]
    decide
  obtain ⟨single, rows⟩ := integers_exact_or_refused l documented
  obtain ⟨small, -, -⟩ := single (-2) .int2 [1]
  obtain ⟨large, -, -⟩ := single 4294967296 .oid [1]
  obtain ⟨-, other, -⟩ := single 7 (.other .text) [1]
  exact ⟨documented, integers, held, (rows ends [1] integers).1 held, ((small 2 rfl).2.1 within).1,
    (large 4 rfl).2.2 beyond, other rfl nofun nofun⟩

end Postgres

end SqlTree
