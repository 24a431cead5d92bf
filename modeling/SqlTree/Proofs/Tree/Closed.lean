import Mathlib
import SqlTree.Proofs.Text.Items
import SqlTree.Proofs.Tree.Layout
import SqlTree.Proofs.Tree.Signs

/-!
Statements that close what they open. Identifiers, values and the syntax itself always do; so what
is written for a tree does, if its templates and the keywords of its joins do, and if no operand
stands within the quotes of a template.
-/

namespace SqlTree

namespace Text

def slotsOutside (p : Place) : List Char → Bool
  | [] => true
  | c :: rest => (c != '?' || p.quote.isNone) && slotsOutside (p.next c) rest

def Solid (text : List Char) : Prop :=
  ∃ front c, text = front ++ [c] ∧ isBlank c = false ∧ c ≠ '*'

variable {text : List Char}

theorem Solid.behind (front : List Char) (solid : Solid text) : Solid (front ++ text) := by
  obtain ⟨init, c, rfl, own⟩ := solid
  exact ⟨front ++ init, c, (List.append_assoc ..).symm, own⟩

theorem Solid.not_starred (solid : Solid text) : ¬Starred text := by
  obtain ⟨init, c, rfl, filled, other⟩ := solid
  exact not_starred_of_last filled other

theorem plain_toDigits (n : Nat) : Plain (Nat.toDigits 10 n) := by
  intro c member special
  have digit := isDigit_of_mem_toDigits n member
  simp only [List.mem_cons, List.not_mem_nil, or_false] at special
  rcases special with rfl | rfl | rfl | rfl | rfl | rfl <;> exact absurd digit (by decide)

theorem plain_integer (n : Int) : Plain (integer n).toList := by
  rw [integer, String.toList_ofList, integerChars]
  split
  · exact List.forall_mem_cons.mpr ⟨by decide, plain_toDigits _⟩
  · exact plain_toDigits _

theorem read?_of_openParens {depth opened : Nat}
    (unquoted : ∀ c ∈ text, c ∉ ['?', '$', '\'', '"', '\x60'])
    (opens : openParens depth text = some opened) :
    (⟨none, depth⟩ : Place).read? text = some ⟨none, opened⟩ := by
  induction text generalizing depth with
  | nil =>
      obtain rfl := Option.some.inj opens
      rfl
  | cons c rest ih =>
      obtain ⟨own, others⟩ := List.forall_mem_cons.mp unquoted
      simp only [List.mem_cons, List.not_mem_nil, or_false, not_or] at own
      unfold openParens at opens
      rw [Place.read?]
      by_cases enters : c = '('
      · subst enters
        rw [if_neg (fun closes => absurd closes.2 (by decide))]
        exact ih others opens
      · by_cases leaves : c = ')'
        · subst leaves
          cases depth with
          | zero => exact absurd opens.symm (Option.some_ne_none _)
          | succ depth => exact ih others opens
        · have stays : (⟨none, depth⟩ : Place).next c = ⟨none, depth⟩ := by
            simp [Place.next, own, enters, leaves]
          rw [if_neg enters, if_neg leaves] at opens
          rw [if_neg (fun closes => leaves closes.2), stays]
          exact ih others opens

theorem read?_of_isSyntax {opened : Nat} {k : String} (plain : isSyntax opened k = true) :
    Place.outer.read? k.toList = some (Place.outer.raise opened) := by
  simp only [isSyntax, Bool.and_eq_true, List.all_eq_true, decide_eq_true_eq, beq_iff_eq] at plain
  have reads := read?_of_openParens plain.1.1 plain.2
  rwa [Place.raise, Place.outer, Nat.zero_add]

end Text

namespace Ident

theorem isTail_of_isLead {c : Char} (lead : isLead c = true) : isTail c = true := by
  simp only [isLead, isTail, Char.isAlphanum, Bool.or_eq_true] at lead ⊢
  exact lead.imp_right .inl

theorem not_isBlank_of_isTail {c : Char} (tail : isTail c = true) : Text.isBlank c = false := by
  simp only [isTail, Char.isAlphanum, Char.isAlpha, Char.isUpper, Char.isLower, Char.isDigit,
    Bool.or_eq_true, beq_iff_eq, Bool.and_eq_true, decide_eq_true_eq, ge_iff_le,
    UInt32.le_iff_toNat_le] at tail
  rcases tail with rfl | tail
  · rfl
  · have value : c.val.toNat = c.toNat := rfl
    rw [value] at tail
    simp only [Text.isBlank, Bool.or_eq_false_iff, Bool.and_eq_false_iff, decide_eq_false_iff_not,
      beq_eq_false_iff_ne]
    simp at tail
    omega

theorem plain_of_isTail {name : List Char} (tails : ∀ c ∈ name, isTail c = true) :
    Text.Plain name := by
  intro c member special
  have tail := tails c member
  simp only [List.mem_cons, List.not_mem_nil, or_false] at special
  rcases special with rfl | rfl | rfl | rfl | rfl | rfl <;> exact absurd tail (by decide)

theorem isTail_of_isPlain {name : List Char} (plain : isPlain name = true) :
    ∀ c ∈ name, isTail c = true := by
  cases name with
  | nil => exact List.forall_mem_nil _
  | cons c rest =>
      rw [isPlain, Bool.and_eq_true, List.all_eq_true] at plain
      exact List.forall_mem_cons.mpr ⟨isTail_of_isLead plain.1, plain.2⟩

theorem write_ok {d : Dialect} {name written : String} (ok : write d name = .ok written) :
    Text.Closed written.toList ∧ Text.Single .outer written.toList ∧ Text.Solid written.toList := by
  unfold write at ok
  simp only at ok
  split at ok
  · exact nomatch ok
  case isFalse filled =>
    split at ok
    · exact nomatch ok
    · split at ok
      case isTrue plain =>
        obtain rfl := Except.ok.inj ok
        have tails := isTail_of_isPlain plain
        have bare := plain_of_isTail tails
        have last := List.dropLast_append_getLast (l := name.toList) (by simpa using filled)
        have tail := tails _ (List.getLast_mem (by simpa using filled))
        refine ⟨bare.closed, bare.single, _, _, last.symm, not_isBlank_of_isTail tail, ?_⟩
        intro star
        rw [star] at tail
        exact absurd tail (by decide)
      case isFalse =>
        obtain rfl := Except.ok.inj ok
        have isQuote : d.quote = '\'' ∨ d.quote = '"' ∨ d.quote = '\x60' := by
          cases d <;> decide
        obtain ⟨closed, single⟩ := Text.quoted_ok isQuote name.toList
        rw [String.toList_ofList]
        refine ⟨closed, single, d.quote :: doubled d.quote name.toList, d.quote, rfl, ?_⟩
        cases d <;> decide

end Ident

namespace Mark

theorem anonymous_plain :
    Text.Plain anonymous.written.toList ∧ Text.Solid anonymous.written.toList :=
  ⟨by decide, [], '?', rfl, by decide, by decide⟩

theorem numbered_plain (n : Nat) :
    Text.Plain (numbered n).written.toList ∧ Text.Solid (numbered n).written.toList := by
  have filled : Nat.toDigits 10 n ≠ [] := Nat.toDigits_ne_nil
  have last := List.dropLast_append_getLast filled
  have digit := Text.isDigit_of_mem_toDigits n (List.getLast_mem filled)
  rw [toList_written_numbered]
  constructor
  · exact List.forall_mem_cons.mpr ⟨by decide, Text.plain_toDigits n⟩
  · apply Text.Solid.behind ['$']
    refine ⟨_, _, last.symm, ?_, ?_⟩
    · apply Ident.not_isBlank_of_isTail
      simp [Ident.isTail, Char.isAlphanum, digit]
    · intro star
      rw [star] at digit
      exact absurd digit (by decide)

end Mark

namespace Script

def Closed (s : Script) : Prop := s.fault = none → ∀ r : Renderer, Text.Closed (r.written s)

theorem Closed.append {a b : Script} (first : a.Closed) (second : b.Closed) : (a ++ b).Closed := by
  intro ok r
  obtain ⟨left, right⟩ := append_isOk ok
  rw [r.written_append left]
  exact (first left r).append (second right _)

theorem closed_text {k : String} (closed : Text.Closed k.toList) : (Script.text k).Closed := by
  intro _ r
  rwa [r.written_text]

theorem closed_failure (fault : Fault) : (Script.failure fault).Closed := fun none => nomatch none

theorem Closed.enclosed {k : String} {s : Script} (opens : isSyntax 1 k = true) (inner : s.Closed) :
    (Script.text k ++ s ++ .text ")").Closed := by
  intro ok r
  have left := (append_isOk ok).1
  rw [r.written_append_text left, r.written_text_append]
  exact (inner (append_isOk left).2 r).enclosed (Text.read?_of_isSyntax opens) rfl

theorem written_mark (r : Renderer) (p : Piece) :
    r.written (ofPiece p) = (r.mark p).written.toList := by
  simp [Renderer.written, ofPiece, Renderer.marks, Mark.sql]

theorem written_value (r : Renderer) (v : Value) :
    Text.Plain (r.written (ofPiece (.value v))) ∧ Text.Solid (r.written (ofPiece (.value v))) := by
  rw [written_mark, Renderer.mark]
  split
  · exact Mark.numbered_plain _
  · exact Mark.anonymous_plain

theorem written_shared (r : Renderer) (name : String) (v : Value) :
    Text.Plain (r.written (ofPiece (.shared name v))) ∧
      Text.Solid (r.written (ofPiece (.shared name v))) := by
  rw [written_mark, Renderer.mark]
  split
  · exact Mark.numbered_plain _
  · exact Mark.anonymous_plain

theorem closed_ident (d : Dialect) (name : String) : (Script.ident d name).Closed := by
  rw [Script.ident]
  cases written : Ident.write d name with
  | error refusal => exact closed_failure _
  | ok text => exact closed_text (Ident.write_ok written).1

section Fill

variable (rest : List Char)

theorem fill_slot (operand : Script) (operands : List Script) :
    fill (slotTexts ('?' :: rest)) (operand :: operands) =
      .text "" ++ operand ++ fill (slotTexts rest) operands := by
  obtain ⟨first, others, texts⟩ := List.exists_cons_of_ne_nil (slotTexts_ne_nil rest)
  rw [slotTexts, if_pos rfl, texts]
  rfl

theorem fill_open :
    fill (slotTexts ('?' :: rest)) [] = .text "" ++ .text "?" ++ fill (slotTexts rest) [] := by
  obtain ⟨first, others, texts⟩ := List.exists_cons_of_ne_nil (slotTexts_ne_nil rest)
  rw [slotTexts, if_pos rfl, texts]
  rfl

variable {c : Char} (other : c ≠ '?') (operands : List Script)

include other

theorem fill_char : ∃ (first : List Char) (behind : Script),
    fill (slotTexts rest) operands = .text (String.ofList first) ++ behind ∧
      fill (slotTexts (c :: rest)) operands = .text (String.ofList (c :: first)) ++ behind := by
  obtain ⟨first, others, texts, whole⟩ := slotTexts_cons other rest
  rw [texts, whole]
  cases others with
  | nil => exact ⟨first, .empty, (append_empty _).symm, (append_empty _).symm⟩
  | cons second others =>
      cases operands with
      | nil =>
          exact ⟨first, .text "?" ++ fill (second :: others) [], append_assoc .., append_assoc ..⟩
      | cons operand operands =>
          exact ⟨first, operand ++ fill (second :: others) operands, append_assoc ..,
            append_assoc ..⟩

theorem fault_fill_char :
    (fill (slotTexts (c :: rest)) operands).fault = (fill (slotTexts rest) operands).fault := by
  obtain ⟨first, behind, short, long⟩ := fill_char rest other operands
  rw [short, long, fault_append, fault_append]
  rfl

theorem written_fill_char (r : Renderer) :
    r.written (fill (slotTexts (c :: rest)) operands) =
      c :: r.written (fill (slotTexts rest) operands) := by
  obtain ⟨first, behind, short, long⟩ := fill_char rest other operands
  rw [short, long, r.written_text_append, r.written_text_append, String.toList_ofList,
    String.toList_ofList, List.cons_append]

end Fill

theorem written_fill_open (rest : List Char) (r : Renderer) :
    r.written (fill (slotTexts ('?' :: rest)) []) = '?' :: r.written (fill (slotTexts rest) []) := by
  rw [fill_open, append_assoc, r.written_text_append, r.written_text_append]
  rfl

theorem template_nil (format : String) :
    template format [] = fill (slotTexts format.toList) [] := by
  have unused : require (0 - ((slotTexts format.toList).length - 1) == 0)
      (.malformed (.template format) (.unusedOperands (0 - ((slotTexts format.toList).length - 1)))) =
        .empty := by
    rw [Nat.zero_sub]
    rfl
  rw [template, List.length_nil, unused, append_empty]

theorem Closed.read? {s : Script} (closed : s.Closed) (ok : s.fault = none) (r : Renderer)
    {p : Place} (outside : p.quote = none) : p.read? (r.written s) = some p := by
  have raised : p = Place.outer.raise p.depth := by
    rcases p with ⟨quote, depth⟩
    obtain rfl : quote = none := outside
    rw [Place.raise, Place.outer, Nat.zero_add]
  rw [raised]
  exact Place.read?_raise (closed ok r) p.depth

theorem read?_fill {p q : Place} {format : List Char} {operands : List Script}
    (reads : p.read? format = some q)
    (outside : operands = [] ∨ Text.slotsOutside p format = true)
    (each : ∀ s ∈ operands, s.Closed) (ok : (fill (slotTexts format) operands).fault = none)
    (r : Renderer) : p.read? (r.written (fill (slotTexts format) operands)) = some q := by
  induction format generalizing p operands r with
  | nil => rwa [slotTexts, fill, r.written_text, String.toList_ofList]
  | cons c rest ih =>
      rw [Place.read?] at reads
      split at reads
      · exact absurd reads.symm (Option.some_ne_none _)
      case isFalse opened =>
        by_cases slot : c = '?'
        · subst slot
          cases operands with
          | nil =>
              rw [fill_open] at ok
              rw [written_fill_open, Place.read?, if_neg opened]
              exact ih reads (.inl rfl) each (append_isOk ok).2 r
          | cons operand operands =>
              obtain ⟨own, others⟩ := List.forall_mem_cons.mp each
              have inside : Text.slotsOutside p ('?' :: rest) = true := by simpa using outside
              simp only [Text.slotsOutside, bne_self_eq_false, Bool.false_or, Bool.and_eq_true,
                Option.isNone_iff_eq_none] at inside
              have stays : p.next '?' = p := by simp [Place.next, inside.1]
              rw [stays] at reads inside
              rw [fill_slot] at ok ⊢
              obtain ⟨okFront, okRest⟩ := append_isOk ok
              have front : p.read? (r.written (.text "" ++ operand)) = some p := by
                rw [r.written_text_append]
                exact own.read? (append_isOk okFront).2 r inside.1
              rw [r.written_append okFront, Place.read?_append, front]
              exact ih reads (.inr inside.2) others okRest _
        · have inside : operands = [] ∨ Text.slotsOutside (p.next c) rest = true :=
            outside.imp_right fun slots => (Bool.and_eq_true_iff.mp slots).2
          rw [fault_fill_char rest slot] at ok
          rw [written_fill_char rest slot, Place.read?, if_neg opened]
          exact ih reads inside each ok r

theorem closed_template {format : String} {operands : List Script}
    (closed : Text.Closed format.toList)
    (outside : operands.length = 0 ∨ Text.slotsOutside .outer format.toList = true)
    (each : ∀ s ∈ operands, s.Closed) : (Script.template format operands).Closed := by
  apply Closed.append
  · intro ok r
    exact read?_fill closed (outside.imp_left List.length_eq_zero_iff.mp) each ok r
  · unfold require
    split
    · exact fun _ _ => rfl
    · exact closed_failure _

end Script

/-- Templates and keywords of joins close what they open, and operands stand outside of quotes. -/
def TextRule.closed : TextRule where
  keyword keyword := Text.Closed (JoinKind.custom keyword).keyword.toList
  template format operands := Text.Closed format.toList ∧
    (operands = 0 ∨ Text.slotsOutside .outer format.toList = true)

theorem closed_layout (d : Dialect) : Layout d .closed Script.Closed Script.Closed where
  of_tail closed := closed
  append := Script.Closed.append
  tail_append := Script.Closed.append
  empty _ _ := rfl
  failure fault := Script.closed_failure fault
  syntax_text plain := Script.closed_text (Text.read?_of_isSyntax plain)
  behind plain inner := (Script.closed_text (Text.read?_of_isSyntax plain)).append inner
  enclosed plain inner := inner.enclosed plain
  integer n := Script.closed_text (Text.plain_integer n.toInt).closed
  ident _ := Script.closed_ident d _
  value v _ r := (Script.written_value r v).1.closed
  shared {name v} _ _ r := (Script.written_shared r name v).1.closed
  template allowed each := Script.closed_template allowed.1 allowed.2 each
  keyword allowed := by
    apply Script.closed_text
    rw [String.toList_append]
    exact Text.Closed.append allowed rfl

end SqlTree
