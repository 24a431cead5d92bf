import SqlTree.Proofs.Renderer.Scanning
import SqlTree.Tree.Clauses

namespace SqlTree

namespace Piece

def unsigned : Piece → Prop
  | text s => Text.Unsigned s.toList
  | value _ | shared .. => True

def opensWithDigit : List Piece → Bool
  | [] => false
  | .text s :: rest =>
      Text.opensWithDigit s.toList || s.toList.isEmpty && opensWithDigit rest
  | .value _ :: _ | .shared .. :: _ => false

def Unextended : List Piece → Prop
  | [] => True
  | .text _ :: rest => Unextended rest
  | .value _ :: rest | .shared .. :: rest => opensWithDigit rest = false ∧ Unextended rest

theorem opensWithDigit_append {a b : List Piece} (first : opensWithDigit a = false)
    (second : opensWithDigit b = false) : opensWithDigit (a ++ b) = false := by
  induction a with
  | nil => exact second
  | cons p rest ih =>
      cases p with
      | text s =>
          simp only [opensWithDigit, Bool.or_eq_false_iff, Bool.and_eq_false_iff] at first
          simp only [List.cons_append, opensWithDigit, Bool.or_eq_false_iff,
            Bool.and_eq_false_iff]
          exact ⟨first.1, first.2.imp id ih⟩
      | value v => rfl
      | shared name v => rfl

theorem Unextended.append {a b : List Piece} (first : Unextended a) (second : Unextended b)
    (detached : opensWithDigit b = false) : Unextended (a ++ b) := by
  induction a with
  | nil => exact second
  | cons p rest ih =>
      cases p with
      | text s => exact ih first
      | value v => exact ⟨opensWithDigit_append first.1 detached, ih first.2⟩
      | shared name v => exact ⟨opensWithDigit_append first.1 detached, ih first.2⟩

end Piece

namespace Renderer

variable (r : Renderer)

theorem marks_unsigned (pieces : List Piece) (clean : ∀ p ∈ pieces, p.unsigned) :
    ∀ m ∈ r.marks pieces, m.unsigned := by
  induction pieces generalizing r with
  | nil => exact List.forall_mem_nil _
  | cons p rest ih =>
      obtain ⟨own, others⟩ := List.forall_mem_cons.mp clean
      refine List.forall_mem_cons.mpr ⟨?_, ih (r.put p) others⟩
      cases p with
      | text s => exact own
      | value v => simp only [mark]; split <;> trivial
      | shared name v => simp only [mark]; split <;> trivial

theorem opensWithDigit_marks (pieces : List Piece) :
    Text.opensWithDigit (Mark.sql (r.marks pieces)).toList = Piece.opensWithDigit pieces := by
  induction pieces generalizing r with
  | nil => rfl
  | cons p rest ih =>
      rw [marks, Mark.toList_sql_cons]
      cases p with
      | text s =>
          simp only [mark, Mark.written, Piece.opensWithDigit]
          cases written : s.toList with
          | nil => exact ih (r.put (.text s))
          | cons c chars => simp [Text.opensWithDigit]
      | value v =>
          simp only [mark]
          split
          · rw [Mark.toList_written_numbered]
            rfl
          · rfl
      | shared name v =>
          simp only [mark]
          split
          · rw [Mark.toList_written_numbered]
            rfl
          · rfl

theorem marks_unextended_iff (pieces : List Piece) :
    Mark.Unextended (r.marks pieces) ↔ Piece.Unextended pieces := by
  induction pieces generalizing r with
  | nil => exact Iff.rfl
  | cons p rest ih =>
      cases p with
      | text s => exact ih (r.put (.text s))
      | value v =>
          rw [Piece.Unextended, ← opensWithDigit_marks (r.put (.value v)) rest,
            ← ih (r.put (.value v))]
          simp only [marks, mark]
          split <;> exact Iff.rfl
      | shared name v =>
          rw [Piece.Unextended, ← opensWithDigit_marks (r.put (.shared name v)) rest,
            ← ih (r.put (.shared name v))]
          simp only [marks, mark]
          split <;> exact Iff.rfl

end Renderer

namespace Ident

theorem mem_doubled {quote c : Char} {name : List Char} (member : c ∈ doubled quote name) :
    c ∈ name := by
  induction name with
  | nil => exact member
  | cons first rest ih =>
      simp only [doubled] at member
      split at member
      · next same =>
        rcases List.mem_cons.mp member with rfl | again
        · simp [same]
        · rcases List.mem_cons.mp again with rfl | later
          · simp [same]
          · exact List.mem_cons_of_mem first (ih later)
      · rcases List.mem_cons.mp member with rfl | later
        · exact List.mem_cons_self
        · exact List.mem_cons_of_mem first (ih later)

theorem unsigned_quoted {quote : Char} {name : List Char} (sign : Text.Unsigned [quote])
    (unsigned : Text.Unsigned name) : Text.Unsigned (quoted quote name) :=
  sign.append ((unsigned.of_subset fun _ => mem_doubled).append sign)

theorem write_unsigned {d : Dialect} {name written : String} (ok : write d name = .ok written)
    (unsigned : Text.Unsigned name.toList) : Text.Unsigned written.toList := by
  simp only [write] at ok
  split at ok
  · exact nomatch ok
  · split at ok
    · exact nomatch ok
    · split at ok
      · obtain rfl := Except.ok.inj ok
        exact unsigned
      · obtain rfl := Except.ok.inj ok
        rw [String.toList_ofList]
        exact unsigned_quoted (by cases d <;> decide) unsigned

theorem not_isDigit_of_isLead {c : Char} (lead : isLead c = true) : c.isDigit = false := by
  rw [isLead, Bool.or_eq_true, beq_iff_eq] at lead
  rcases lead with rfl | letter
  · rfl
  · change (decide (65 ≤ c.val ∧ c.val ≤ 90) || (decide (97 ≤ c.val) && decide (c.val ≤ 122))) = true
      at letter
    simp only [Bool.or_eq_true, Bool.and_eq_true, decide_eq_true_eq,
      UInt32.le_iff_toNat_le] at letter
    change (65 ≤ c.toNat ∧ c.toNat ≤ 90) ∨ (97 ≤ c.toNat ∧ c.toNat ≤ 122) at letter
    rw [Bool.eq_false_iff, Ne, Char.isDigit_iff_toNat]
    change ¬(48 ≤ c.toNat ∧ c.toNat ≤ 57)
    omega

theorem write_detached {d : Dialect} {name written : String} (ok : write d name = .ok written) :
    Text.opensWithDigit written.toList = false ∧ written.toList ≠ [] := by
  simp only [write] at ok
  split at ok
  · exact nomatch ok
  · split at ok
    · exact nomatch ok
    · split at ok
      · next plain =>
        obtain rfl := Except.ok.inj ok
        cases chars : name.toList with
        | nil => simp [chars, isPlain] at plain
        | cons c rest =>
            simp only [chars, isPlain, Bool.and_eq_true] at plain
            exact ⟨by simp [Text.opensWithDigit, not_isDigit_of_isLead plain.1], by simp⟩
      · obtain rfl := Except.ok.inj ok
        rw [String.toList_ofList]
        refine ⟨?_, by simp [quoted]⟩
        cases d <;> rfl

end Ident

namespace Text

theorem integer_unsigned (n : Int) : Unsigned (integer n).toList := by
  have digits : Unsigned (Nat.toDigits 10 n.natAbs) :=
    ⟨not_mem_toDigits _ (by decide), not_mem_toDigits _ (by decide)⟩
  have sign : Unsigned ['-'] := by decide
  rw [integer, String.toList_ofList, integerChars]
  split
  · exact sign.append digits
  · exact digits

theorem mem_of_mem_trim {c : Char} {text : List Char} (member : c ∈ trim text) : c ∈ text := by
  simp only [trim, trimEnd, trimStart, List.mem_reverse] at member
  have inner := (List.dropWhile_sublist _).subset member
  exact (List.dropWhile_sublist _).subset (List.mem_reverse.mp inner)

end Text

theorem JoinKind.keyword_unsigned {keyword : String} (unsigned : Text.Unsigned keyword.toList) :
    Text.Unsigned ((custom keyword).keyword ++ " ").toList := by
  rw [String.toList_append]
  refine Text.Unsigned.append ?_ (by decide)
  simp only [JoinKind.keyword]
  split
  · decide
  · rw [String.toList_ofList]
    exact unsigned.of_subset fun _ => Text.mem_of_mem_trim
namespace Script

/-- No slot is followed by a digit or another slot. -/
def slotsApart : List Char → Bool
  | [] => true
  | c :: rest =>
      (c != '?' || rest.head?.all fun next => !next.isDigit && next != '?') && slotsApart rest

def Unsigned (s : Script) : Prop := ∀ p ∈ s.pieces, p.unsigned

def Unextended (s : Script) : Prop := Piece.Unextended s.pieces

/-- A script that may stand behind a placeholder. -/
def Detached (s : Script) : Prop := s.Unextended ∧ Piece.opensWithDigit s.pieces = false

theorem Unsigned.append {a b : Script} (first : a.Unsigned) (second : b.Unsigned) :
    (a ++ b).Unsigned := by
  rw [Unsigned, pieces_append]
  split
  · exact List.forall_mem_append.mpr ⟨first, second⟩
  · exact first

theorem unsigned_text {text : String} (unsigned : Text.Unsigned text.toList) :
    (Script.text text).Unsigned :=
  List.forall_mem_singleton.mpr unsigned

theorem Unextended.append {a b : Script} (first : a.Unextended) (second : b.Detached) :
    (a ++ b).Unextended := by
  rw [Unextended, pieces_append]
  split
  · exact Piece.Unextended.append first second.1 second.2
  · exact first

theorem Detached.append {a b : Script} (first : a.Detached) (second : b.Detached) :
    (a ++ b).Detached := by
  refine ⟨first.1.append second, ?_⟩
  rw [pieces_append]
  split
  · exact Piece.opensWithDigit_append first.2 second.2
  · exact first.2

theorem detached_text {text : String} (detached : Text.opensWithDigit text.toList = false) :
    (Script.text text).Detached :=
  ⟨trivial, by simp [Script.text, ofPiece, Piece.opensWithDigit, detached]⟩

theorem detached_behind {text : String} {s : Script}
    (detached : Text.opensWithDigit text.toList = false) (some : text.toList ≠ [])
    (inner : s.Unextended) : (Script.text text ++ s).Detached := by
  have pieces : (Script.text text ++ s).pieces = .text text :: s.pieces := rfl
  refine ⟨?_, ?_⟩
  · rw [Unextended, pieces]
    exact inner
  · rw [pieces]
    simp only [Piece.opensWithDigit, detached, Bool.false_or, Bool.and_eq_false_iff]
    exact .inl (by simpa using some)

theorem length_slotTexts (format : List Char) :
    (slotTexts format).length = format.count '?' + 1 := by
  induction format with
  | nil => rfl
  | cons c rest ih =>
      by_cases slot : c = '?'
      · simp [slotTexts, slot, ih]
      · obtain ⟨first, others, split, whole⟩ := slotTexts_cons slot rest
        rw [split] at ih
        simp [whole, slot, ← ih]

theorem slotTexts_unsigned (format : List Char) (noDollar : '$' ∉ format) :
    ∀ text ∈ slotTexts format, Text.Unsigned text := by
  induction format with
  | nil => simp [slotTexts, Text.Unsigned]
  | cons c rest ih =>
      obtain ⟨plain, others⟩ := not_or.mp (mt List.mem_cons.mpr noDollar)
      have inner := ih others
      by_cases slot : c = '?'
      · simp only [slotTexts, slot, if_pos]
        exact List.forall_mem_cons.mpr ⟨by decide, inner⟩
      · obtain ⟨first, others, split, whole⟩ := slotTexts_cons slot rest
        rw [split] at inner
        rw [whole]
        obtain ⟨head, tail⟩ := List.forall_mem_cons.mp inner
        have own : Text.Unsigned [c] := by simp [Text.Unsigned, plain, Ne.symm slot]
        exact List.forall_mem_cons.mpr ⟨own.append head, tail⟩

/-- Texts behind slots: none starts with a digit, and none but the last is empty. -/
def Spaced : List (List Char) → Prop
  | [] => True
  | text :: rest => Text.opensWithDigit text = false ∧ (rest ≠ [] → text ≠ []) ∧ Spaced rest

theorem slotTexts_spaced (format : List Char) (apart : slotsApart format = true) :
    Spaced (slotTexts format).tail ∧
      ((format.head?.all fun c => !c.isDigit && c != '?') = true → Spaced (slotTexts format)) := by
  induction format with
  | nil => exact ⟨trivial, fun _ => ⟨rfl, by simp, trivial⟩⟩
  | cons c rest ih =>
      simp only [slotsApart, Bool.and_eq_true, Bool.or_eq_true] at apart
      obtain ⟨behind, whole⟩ := ih apart.2
      by_cases slot : c = '?'
      · have next := whole (apart.1.resolve_left (by simp [slot]))
        refine ⟨by simpa [slotTexts, slot] using next, fun free => ?_⟩
        simp [slot] at free
      · obtain ⟨first, others, split, joined⟩ := slotTexts_cons slot rest
        rw [split] at behind
        rw [joined]
        refine ⟨behind, fun free => ⟨?_, fun _ => List.cons_ne_nil _ _, behind⟩⟩
        simp only [List.head?_cons, Option.all_some, Bool.and_eq_true] at free
        simpa [Text.opensWithDigit] using free.1

theorem fill_unsigned (texts : List (List Char)) (operands : List Script)
    (enough : texts.length ≤ operands.length + 1) (clean : ∀ text ∈ texts, Text.Unsigned text)
    (each : ∀ s ∈ operands, s.Unsigned) : (fill texts operands).Unsigned := by
  fun_induction fill texts operands with
  | case1 => exact List.forall_mem_nil _
  | case2 last =>
      exact unsigned_text (by rw [String.toList_ofList]; exact clean last List.mem_cons_self)
  | case3 first rest more ih =>
      have none : rest = [] := by simpa using enough
      exact absurd none more
  | case4 first rest operand operands more ih =>
      obtain ⟨own, others⟩ := List.forall_mem_cons.mp clean
      obtain ⟨head, tail⟩ := List.forall_mem_cons.mp each
      have rest := ih (by simpa using enough) others tail
      exact ((unsigned_text (by rw [String.toList_ofList]; exact own)).append head).append rest

theorem fill_detached (texts : List (List Char)) (operands : List Script) (spaced : Spaced texts)
    (each : ∀ s ∈ operands, s.Unextended) : (fill texts operands).Detached := by
  fun_induction fill texts operands with
  | case1 => exact ⟨trivial, rfl⟩
  | case2 last => exact detached_text (by rw [String.toList_ofList]; exact spaced.1)
  | case3 first rest more ih =>
      have own : (Script.text (String.ofList first)).Detached :=
        detached_text (by rw [String.toList_ofList]; exact spaced.1)
      exact (own.append (detached_text rfl)).append (ih spaced.2.2 each)
  | case4 first rest operand operands more ih =>
      obtain ⟨head, tail⟩ := List.forall_mem_cons.mp each
      have own : (Script.text (String.ofList first) ++ operand).Detached :=
        detached_behind (by rw [String.toList_ofList]; exact spaced.1)
          (by rw [String.toList_ofList]; exact spaced.2.1 more) head
      exact own.append (ih spaced.2.2 tail)

theorem ident_unsigned {d : Dialect} {name : String} (unsigned : Text.Unsigned name.toList) :
    (Script.ident d name).Unsigned := by
  rw [Script.ident]
  cases written : Ident.write d name with
  | ok text => exact unsigned_text (Ident.write_unsigned written unsigned)
  | error refusal => exact List.forall_mem_nil _

theorem ident_detached (d : Dialect) (name : String) : (Script.ident d name).Detached := by
  rw [Script.ident]
  cases written : Ident.write d name with
  | ok text => exact detached_text (Ident.write_detached written).1
  | error refusal => exact ⟨trivial, rfl⟩

theorem require_unsigned (condition : Bool) (fault : Fault) :
    (Script.require condition fault).Unsigned := by
  cases condition <;> exact List.forall_mem_nil _

theorem require_detached (condition : Bool) (fault : Fault) :
    (Script.require condition fault).Detached := by
  cases condition <;> exact ⟨trivial, rfl⟩

theorem template_unsigned {format : String} {operands : List Script}
    (noDollar : '$' ∉ format.toList) (enough : format.toList.count '?' ≤ operands.length)
    (each : ∀ s ∈ operands, s.Unsigned) : (Script.template format operands).Unsigned := by
  refine Unsigned.append (fill_unsigned _ operands ?_ (slotTexts_unsigned _ noDollar) each)
    (require_unsigned _ _)
  rw [length_slotTexts]
  omega

theorem template_unextended {format : String} {operands : List Script}
    (apart : slotsApart format.toList = true) (each : ∀ s ∈ operands, s.Unextended) :
    (Script.template format operands).Unextended := by
  refine Unextended.append ?_ (require_detached _ _)
  have spaced := (slotTexts_spaced format.toList apart).1
  -- only what stands behind the first slot has to be detached
  generalize slotTexts format.toList = texts at spaced ⊢
  rcases texts with _ | ⟨first, _ | ⟨second, rest⟩⟩
  · trivial
  · trivial
  · have more : second :: rest ≠ [] := List.cons_ne_nil _ _
    cases operands with
    | nil =>
        have own : (Script.text (String.ofList first) ++ Script.text "?").Unextended := trivial
        exact own.append (fill_detached _ [] spaced each)
    | cons operand operands =>
        obtain ⟨head, tail⟩ := List.forall_mem_cons.mp each
        have own : (Script.text (String.ofList first) ++ operand).Unextended := head
        exact own.append (fill_detached _ operands spaced tail)

end Script

end SqlTree
