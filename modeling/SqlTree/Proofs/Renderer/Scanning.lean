import SqlTree.Proofs.Renderer.Marks
import Mathlib.Data.List.Basic

/-!
Reading placeholders back from a text: the numbers behind its dollar signs, and the text with a
question mark for each of them. Both are right on marks whose texts hold no signs of placeholders,
if no number is followed by another digit.
-/

namespace SqlTree

namespace Text

def opensWithDigit (text : List Char) : Bool := text.head?.any Char.isDigit

def Unsigned (text : List Char) : Prop := '$' ∉ text ∧ '?' ∉ text

instance (text : List Char) : Decidable (Unsigned text) :=
  inferInstanceAs (Decidable ('$' ∉ text ∧ '?' ∉ text))

/-- The numbers behind the dollar signs, each as many digits long as there are. -/
def numbersIn : List Char → List Nat
  | [] => []
  | c :: rest =>
      if c = '$' && opensWithDigit rest then
        Nat.ofDigitChars 10 (rest.takeWhile Char.isDigit) 0 :: numbersIn rest
      else numbersIn rest

/-- The text with a question mark for each dollar sign and the digits behind it; `inside` tells
whether those digits are being read. -/
def questioned (inside : Bool) : List Char → List Char
  | [] => []
  | c :: rest =>
      if inside && c.isDigit then questioned true rest
      else if c = '$' && opensWithDigit rest then '?' :: questioned true rest
      else c :: questioned false rest

theorem Unsigned.of_subset {part text : List Char} (unsigned : Unsigned text)
    (within : ∀ c ∈ part, c ∈ text) : Unsigned part :=
  ⟨fun member => unsigned.1 (within _ member), fun member => unsigned.2 (within _ member)⟩

theorem Unsigned.append {text more : List Char} (first : Unsigned text) (second : Unsigned more) :
    Unsigned (text ++ more) := by
  simp only [Unsigned, List.mem_append, not_or]
  exact ⟨⟨first.1, second.1⟩, ⟨first.2, second.2⟩⟩

theorem opensWithDigit_append {text : List Char} (some : text ≠ []) (rest : List Char) :
    opensWithDigit (text ++ rest) = opensWithDigit text := by
  cases text with
  | nil => contradiction
  | cons c text => rfl

theorem numbersIn_append {text : List Char} (unsigned : '$' ∉ text) (rest : List Char) :
    numbersIn (text ++ rest) = numbersIn rest := by
  induction text with
  | nil => rfl
  | cons c text ih =>
      obtain ⟨first, others⟩ := not_or.mp (mt List.mem_cons.mpr unsigned)
      rw [List.cons_append, numbersIn, ih others]
      simp [Ne.symm first]

theorem questioned_append {text : List Char} (unsigned : '$' ∉ text) (rest : List Char) :
    questioned false (text ++ rest) = text ++ questioned false rest := by
  induction text with
  | nil => rfl
  | cons c text ih =>
      obtain ⟨first, others⟩ := not_or.mp (mt List.mem_cons.mpr unsigned)
      rw [List.cons_append, questioned, ih others]
      simp [Ne.symm first]

theorem questioned_digits {digits : List Char} (all : ∀ c ∈ digits, c.isDigit = true)
    (rest : List Char) : questioned true (digits ++ rest) = questioned true rest := by
  induction digits with
  | nil => rfl
  | cons c digits ih =>
      have first := all c List.mem_cons_self
      have others := ih fun x member => all x (List.mem_cons_of_mem c member)
      rw [List.cons_append, questioned, others]
      simp [first]

theorem questioned_of_not_digit {rest : List Char} (ends : opensWithDigit rest = false) :
    questioned true rest = questioned false rest := by
  cases rest with
  | nil => rfl
  | cons c rest =>
      have other : c.isDigit = false := by simpa [opensWithDigit] using ends
      simp [questioned, other]

theorem takeWhile_digits {digits rest : List Char} (all : ∀ c ∈ digits, c.isDigit = true)
    (ends : opensWithDigit rest = false) : (digits ++ rest).takeWhile Char.isDigit = digits := by
  have stops : rest.takeWhile Char.isDigit = [] := by
    cases rest with
    | nil => rfl
    | cons c rest =>
        have other : c.isDigit = false := by simpa [opensWithDigit] using ends
        simp [other]
  rw [List.takeWhile_append_of_pos all, stops, List.append_nil]

section Decimal

variable (n : Nat)

theorem isDigit_of_mem_toDigits {c : Char} (member : c ∈ Nat.toDigits 10 n) : c.isDigit = true :=
  Nat.isDigit_of_mem_toDigits (by decide) (by decide) member

theorem opensWithDigit_toDigits (rest : List Char) :
    opensWithDigit (Nat.toDigits 10 n ++ rest) = true := by
  rw [opensWithDigit_append Nat.toDigits_ne_nil]
  obtain ⟨c, digits, written⟩ := List.exists_cons_of_ne_nil (Nat.toDigits_ne_nil (n := n) (b := 10))
  have first := isDigit_of_mem_toDigits n (c := c) (by simp [written])
  simp [opensWithDigit, written, first]

theorem not_mem_toDigits {sign : Char} (other : sign.isDigit = false) :
    sign ∉ Nat.toDigits 10 n := by
  intro member
  rw [isDigit_of_mem_toDigits n member] at other
  exact nomatch other

theorem numbersIn_number {rest : List Char} (ends : opensWithDigit rest = false) :
    numbersIn ('$' :: (Nat.toDigits 10 n ++ rest)) = n :: numbersIn rest := by
  have digits := takeWhile_digits (fun c => isDigit_of_mem_toDigits n (c := c)) ends
  simp only [numbersIn, opensWithDigit_toDigits, digits, Nat.ofDigitChars_ten_toDigits,
    numbersIn_append (not_mem_toDigits n (by decide : '$'.isDigit = false))]
  rfl

theorem questioned_number {rest : List Char} (ends : opensWithDigit rest = false) :
    questioned false ('$' :: (Nat.toDigits 10 n ++ rest)) = '?' :: questioned false rest := by
  have digits := questioned_digits (fun c => isDigit_of_mem_toDigits n (c := c)) rest
  simp only [questioned, opensWithDigit_toDigits, digits, questioned_of_not_digit ends]
  rfl

end Decimal

end Text

namespace Mark

def unsigned : Mark → Prop
  | text s => Text.Unsigned s.toList
  | anonymous | numbered _ => True

/-- No placeholder is followed by a digit. -/
def Unextended : List Mark → Prop
  | [] => True
  | .text _ :: rest => Unextended rest
  | .anonymous :: rest | .numbered _ :: rest =>
      Text.opensWithDigit (sql rest).toList = false ∧ Unextended rest

def anonymized : Mark → Mark
  | text s => text s
  | anonymous | numbered _ => anonymous

theorem toList_sql_cons (m : Mark) (rest : List Mark) :
    (sql (m :: rest)).toList = m.written.toList ++ (sql rest).toList := by
  rw [sql, String.toList_append]

theorem toList_written_numbered (n : Nat) :
    (numbered n).written.toList = '$' :: Nat.toDigits 10 n := by
  rw [written, String.toList_append, Nat.toList_repr]
  rfl

/-- The numbers read from the text are those that were written. -/
theorem numbersIn_sql (marks : List Mark) (clean : ∀ m ∈ marks, m.unsigned)
    (unextended : Unextended marks) : Text.numbersIn (sql marks).toList = numbers marks := by
  induction marks with
  | nil => rfl
  | cons m rest ih =>
      obtain ⟨own, others⟩ := List.forall_mem_cons.mp clean
      rw [toList_sql_cons]
      cases m with
      | text s =>
          rw [written, Text.numbersIn_append own.1, ih others unextended, numbers_text]
      | anonymous =>
          have unsigned : '$' ∉ anonymous.written.toList := by decide
          rw [Text.numbersIn_append unsigned, ih others unextended.2, numbers_anonymous]
      | numbered n =>
          rw [toList_written_numbered, List.cons_append, Text.numbersIn_number n unextended.1,
            ih others unextended.2, numbers_numbered]

theorem questioned_sql (marks : List Mark) (clean : ∀ m ∈ marks, m.unsigned)
    (unextended : Unextended marks) :
    Text.questioned false (sql marks).toList = (sql (marks.map anonymized)).toList := by
  induction marks with
  | nil => rfl
  | cons m rest ih =>
      obtain ⟨own, others⟩ := List.forall_mem_cons.mp clean
      rw [toList_sql_cons, List.map_cons, toList_sql_cons]
      cases m with
      | text s => rw [written, Text.questioned_append own.1, ih others unextended]; rfl
      | anonymous =>
          have unsigned : '$' ∉ anonymous.written.toList := by decide
          rw [Text.questioned_append unsigned, ih others unextended.2]
          rfl
      | numbered n =>
          rw [toList_written_numbered, List.cons_append, Text.questioned_number n unextended.1,
            ih others unextended.2]
          simp [anonymized, written]

theorem count_question_sql (marks : List Mark) (clean : ∀ m ∈ marks, m.unsigned) :
    (sql marks).toList.count '?' = marks.count anonymous := by
  induction marks with
  | nil => rfl
  | cons m rest ih =>
      obtain ⟨own, others⟩ := List.forall_mem_cons.mp clean
      rw [toList_sql_cons, List.count_append, ih others, List.count_cons]
      cases m with
      | text s => simp [written, List.count_eq_zero.mpr own.2]
      | anonymous => simp [written, Nat.add_comm]
      | numbered n =>
          have none : (Nat.toDigits 10 n).count '?' = 0 :=
            List.count_eq_zero.mpr (Text.not_mem_toDigits n (by decide))
          simp [toList_written_numbered, none]

end Mark

namespace Renderer

/-- Apart from the signs of placeholders any two renderers write the same. -/
theorem marks_anonymized (r positional : Renderer) (pieces : List Piece)
    (unnumbered : positional.dialect.numbered = false) :
    (r.marks pieces).map Mark.anonymized = positional.marks pieces := by
  induction pieces generalizing r positional with
  | nil => rfl
  | cons p rest ih =>
      have others := ih (r.put p) (positional.put p) (by rw [put_dialect, unnumbered])
      rw [marks, marks, List.map_cons, others, positional.positional_mark unnumbered]
      cases p with
      | text s => rfl
      | value v => simp only [mark]; split <;> rfl
      | shared name v => simp only [mark]; split <;> rfl

end Renderer

end SqlTree
