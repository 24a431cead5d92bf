import SqlTree.Proofs.Renderer.Written
import SqlTree.Tree.Clauses

namespace SqlTree

namespace Text

def commaSeparated (items : List (List Char)) : List Char := ", ".toList.intercalate items

def tuple (items : List (List Char)) : List Char := '(' :: (commaSeparated items ++ [')'])

end Text

namespace Script

theorem fault_append_iff {a b : Script} :
    (a ++ b).fault = none ↔ a.fault = none ∧ b.fault = none := by
  rw [fault_append, Option.or_eq_none_iff]

theorem fault_parens_iff {s : Script} : (parens s).fault = none ↔ s.fault = none := by
  rw [parens, fault_append_iff, fault_append_iff]
  exact ⟨fun both => both.1.2, fun ok => ⟨⟨rfl, ok⟩, rfl⟩⟩

theorem fault_separated_iff {separator : String} {list : List Script} :
    (separated separator list).fault = none ↔ ∀ s ∈ list, s.fault = none :=
  ⟨separated_isOk, separated_fault⟩

theorem fault_ident_iff {d : Dialect} {name : String} :
    (ident d name).fault = none ↔ (Ident.write d name).isOk = true := by
  rw [ident]
  cases Ident.write d name with
  | ok text => exact iff_of_true rfl rfl
  | error refusal => exact iff_of_false (Option.some_ne_none _) Bool.false_ne_true

theorem fault_require_iff {condition : Bool} {fault : Fault} :
    (require condition fault).fault = none ↔ condition = true := by
  cases condition with
  | true => exact iff_of_true rfl rfl
  | false => exact iff_of_false (Option.some_ne_none _) Bool.false_ne_true

theorem fault_of_parens {s : Script} (ok : (parens s).fault = none) : s.fault = none :=
  fault_parens_iff.mp ok

end Script

namespace Renderer

def grid (r : Renderer) : List (List Script) → List (List (List Char))
  | [] => []
  | row :: rest => r.writtenEach row :: (r.writeEach row).grid rest

theorem written_parens (r : Renderer) {s : Script} (ok : s.fault = none) :
    r.written (.parens s) = '(' :: (r.written s ++ [')']) := by
  have opened : (Script.text "(" ++ s).fault = none := by
    rw [Script.fault_append, ok]
    rfl
  rw [Script.parens, written_append_text r opened, written_text_append]
  rfl

theorem write_parens (r : Renderer) {s : Script} (ok : s.fault = none) :
    (r.write (.parens s)).untexted = (r.write s).untexted := by
  have opened : (Script.text "(" ++ s).fault = none := by
    rw [Script.fault_append, ok]
    rfl
  rw [Script.parens, write_append r opened, write_append r rfl, write_text, write_text,
    untexted_push]
  exact write_untexted (untexted_push r "(") s

end Renderer

end SqlTree
