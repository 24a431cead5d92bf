import SqlTree.Proofs.Condition.Meaning
import SqlTree.Proofs.Tree.Items
import SqlTree.Proofs.Tree.Parts

namespace SqlTree

mutual

/-- Nothing but slots, each filled by an expression that is blank in turn. -/
def Expr.blank : Expr → Bool
  | .template format operands =>
      format.toList.all (· == '?') && decide (format.toList.length ≤ operands.length) &&
        Field.allBlank operands
  | _ => false

def Field.blank : Field → Bool
  | ⟨expr, _, _, _⟩ => expr.blank

def Field.allBlank : List Field → Bool
  | [] => true
  | f :: rest => f.blank && Field.allBlank rest

end

def Predicate.blank : Predicate → Bool
  | holds field => field.blank
  | _ => false

theorem Field.allBlank_eq_all (fields : List Field) : allBlank fields = fields.all blank := by
  induction fields with
  | nil => rfl
  | cons f rest ih => simp [allBlank, ih]

theorem Text.Solid.ne_nil {text : List Char} (solid : Solid text) : text ≠ [] := by
  obtain ⟨front, c, rfl, -, -⟩ := solid
  exact List.append_ne_nil_of_right_ne_nil front (List.cons_ne_nil c [])

namespace Script

variable {d : Dialect} {name : String}

theorem written_column_ne_nil {bare : List String} {qualifier : String}
    (ok : (Script.column d bare qualifier name).fault = none) (r : Renderer) :
    r.written (.column d bare qualifier name) ≠ [] :=
  ((solid_ident d name).behind _ ok r).ne_nil

theorem written_proposed_ne_nil (ok : (Script.proposed d name).fault = none) (r : Renderer) :
    r.written (.proposed d name) ≠ [] := by
  have behind (ok : (.text "EXCLUDED." ++ Script.ident d name).fault = none) :
      r.written (.text "EXCLUDED." ++ Script.ident d name) ≠ [] :=
    ((solid_ident d name).behind _ ok r).ne_nil
  cases d with
  | sqlite => exact behind ok
  | postgres => exact behind ok
  | mysql =>
      have front := (append_isOk ok).1
      have whole : r.written (.proposed .mysql name) =
          r.written (.text "VALUES(" ++ Script.ident .mysql name) ++ ")".toList :=
        r.written_append_text front ")"
      rw [whole]
      exact List.append_ne_nil_of_right_ne_nil _ (by decide)

theorem written_fill_eq_nil_iff {α : Type} {script : α → Script} {blank : α → Bool}
    {format : List Char} {operands : List α}
    (each : ∀ x ∈ operands, ∀ r : Renderer, r.written (script x) = [] ↔ blank x = true)
    (ok : (fill (slotTexts format) (operands.map script)).fault = none)
    (slotted : operands.length ≤ format.count '?') (r : Renderer) :
    r.written (fill (slotTexts format) (operands.map script)) = [] ↔
      (∀ c ∈ format, c = '?') ∧ format.length ≤ operands.length ∧
        ∀ x ∈ operands, blank x = true := by
  induction format generalizing operands r with
  | nil =>
      obtain rfl : operands = [] := List.eq_nil_of_length_eq_zero (Nat.le_zero.mp slotted)
      rw [List.map_nil, written_fill_nil]
      simp
  | cons c rest ih =>
      by_cases slot : c = '?'
      · subst slot
        cases operands with
        | nil =>
            rw [List.map_nil, written_fill_open]
            simp
        | cons x more =>
            obtain ⟨own, others⟩ := List.forall_mem_cons.mp each
            rw [List.count_cons_self, List.length_cons] at slotted
            rw [List.map_cons, fill_slot] at ok ⊢
            obtain ⟨front, behind⟩ := append_isOk ok
            have later := ih others behind (Nat.le_of_succ_le_succ slotted)
              (r.write (.text "" ++ script x))
            rw [r.written_append front, r.written_text_append, List.append_eq_nil_iff, later]
            simp [own r, and_left_comm]
      · rw [written_fill_char rest slot]
        simp [slot]

end Script

variable {d : Dialect}

mutual

theorem Expr.written_eq_nil_iff : ∀ (e : Expr) (bare : List String),
    (e.script d bare).fault = none → ∀ r : Renderer,
      r.written (e.script d bare) = [] ↔ e.blank = true
  | .column table tableAlias name type, bare => by
      intro ok r
      exact iff_of_false (Script.written_column_ne_nil ok r) Bool.false_ne_true
  | .proposed name, bare => by
      intro ok r
      exact iff_of_false (Script.written_proposed_ne_nil ok r) Bool.false_ne_true
  | .value v, bare => by
      intro _ r
      exact iff_of_false (Script.written_value r v).2.ne_nil Bool.false_ne_true
  | .shared name v, bare => by
      intro _ r
      exact iff_of_false (Script.written_shared r name v).2.ne_nil Bool.false_ne_true
  | .template format operands, bare => by
      intro ok r
      rw [Expr.script, Field.scripts_eq_map] at ok ⊢
      obtain ⟨slotted, written⟩ := Script.template_isOk ok
      obtain ⟨filled, used⟩ := Script.append_isOk ok
      have each : ∀ f ∈ operands, ∀ r : Renderer,
          r.written (f.script d bare) = [] ↔ f.blank = true := fun f member =>
        Field.each_written_eq_nil_iff operands bare f member
          (written _ (List.mem_map_of_mem member))
      rw [List.length_map] at slotted
      have slots := Script.written_fill_eq_nil_iff each filled slotted r
      have checked := Script.fault_require_iff.mp used
      rw [Script.template, Script.require, if_pos checked, Script.append_empty, slots]
      simp [Expr.blank, Field.allBlank_eq_all, and_assoc]
  | .scalar query, bare => by
      intro ok r
      have inside := Script.fault_of_parens ok
      rw [Expr.script, r.written_parens inside]
      simp [Expr.blank]

theorem Field.written_eq_nil_iff : ∀ (f : Field) (bare : List String),
    (f.script d bare).fault = none → ∀ r : Renderer,
      r.written (f.script d bare) = [] ↔ f.blank = true
  | ⟨expr, _, _, _⟩, bare => Expr.written_eq_nil_iff expr bare

theorem Field.each_written_eq_nil_iff : ∀ (fields : List Field) (bare : List String),
    ∀ f ∈ fields, (f.script d bare).fault = none → ∀ r : Renderer,
      r.written (f.script d bare) = [] ↔ f.blank = true
  | [], _ => List.forall_mem_nil _
  | f :: rest, bare =>
      List.forall_mem_cons.mpr
        ⟨Field.written_eq_nil_iff f bare, Field.each_written_eq_nil_iff rest bare⟩

end

end SqlTree
