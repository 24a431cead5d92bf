import SqlTree.Proofs.Tree.Closed

namespace SqlTree

def Text.Item (text : List Char) : Prop := Single .outer text ∧ ¬Starred text

def Expr.hasOperands : Expr → Bool
  | .template _ operands => !operands.isEmpty
  | _ => false

namespace Script

def Single (s : Script) : Prop := s.fault = none → ∀ r : Renderer, Text.Single .outer (r.written s)

def Item (s : Script) : Prop := s.fault = none → ∀ r : Renderer, Text.Item (r.written s)

def Solid (s : Script) : Prop := s.fault = none → ∀ r : Renderer, Text.Solid (r.written s)

theorem Single.append {a b : Script} (closed : a.Closed) (first : a.Single) (second : b.Single) :
    (a ++ b).Single := by
  intro ok r
  obtain ⟨left, right⟩ := append_isOk ok
  rw [r.written_append left]
  exact (closed left r).single_append (first left r) (second right _)

theorem Solid.behind (a : Script) {b : Script} (solid : b.Solid) : (a ++ b).Solid := by
  intro ok r
  obtain ⟨left, right⟩ := append_isOk ok
  rw [r.written_append left]
  exact (solid right _).behind _

theorem Item.of_solid {s : Script} (single : s.Single) (solid : s.Solid) : s.Item :=
  fun ok r => ⟨single ok r, (solid ok r).not_starred⟩

theorem single_text {k : String} (plain : Text.Plain k.toList) : (Script.text k).Single := by
  intro _ r
  rw [r.written_text]
  exact plain.single

section Names

variable (d : Dialect) (bare : List String) (qualifier name : String)

theorem single_ident : (Script.ident d name).Single := by
  rw [Script.ident]
  cases written : Ident.write d name with
  | error refusal => exact fun none => absurd none (Option.some_ne_none _)
  | ok text =>
      intro _ r
      rw [r.written_text]
      exact (Ident.write_ok written).2.1

theorem solid_ident : (Script.ident d name).Solid := by
  rw [Script.ident]
  cases written : Ident.write d name with
  | error refusal => exact fun none => absurd none (Option.some_ne_none _)
  | ok text =>
      intro _ r
      rw [r.written_text]
      exact (Ident.write_ok written).2.2

theorem item_column : (Script.column d bare qualifier name).Item := by
  have dotted : (Script.ident d qualifier ++ .text ".").Single :=
    .append (closed_ident d qualifier) (single_ident d qualifier) (single_text (by decide))
  have closed : (Script.ident d qualifier ++ .text ".").Closed :=
    (closed_ident d qualifier).append (closed_text rfl)
  apply Item.of_solid
  · rw [column, onlyIf]
    split
    · exact .append closed dotted (single_ident d name)
    · exact single_ident d name
  · exact (solid_ident d name).behind _

theorem item_enclosed (front : List Char) {k : String} {s : Script}
    (opens : k.toList = front ++ ['(']) (plain : Text.Plain front) (inner : s.Closed) :
    (.text k ++ s ++ .text ")").Item := by
  intro ok r
  have left := (append_isOk ok).1
  have closed := inner (append_isOk left).2 r
  have written : r.written (.text k ++ s ++ .text ")") = front ++ '(' :: (r.written s ++ [')']) := by
    rw [r.written_append_text left, r.written_text_append, opens]
    simp
  rw [written]
  refine ⟨plain.closed.single_append plain.single closed.single_parens, ?_⟩
  exact Text.Solid.not_starred (.behind front ⟨'(' :: r.written s, ')', rfl, by decide, by decide⟩)

theorem item_proposed : (Script.proposed d name).Item := by
  have closed := closed_ident d name
  have behind : (.text "EXCLUDED." ++ Script.ident d name).Item :=
    .of_solid (.append (closed_text rfl) (single_text (by decide)) (single_ident d name))
      ((solid_ident d name).behind _)
  cases d with
  | sqlite => exact behind
  | postgres => exact behind
  | mysql => exact item_enclosed "VALUES".toList rfl (by decide) closed

end Names

theorem item_value (v : Value) : (ofPiece (.value v)).Item := by
  intro _ r
  obtain ⟨plain, solid⟩ := written_value r v
  exact ⟨plain.single, solid.not_starred⟩

theorem item_shared (name : String) (v : Value) : (ofPiece (.shared name v)).Item := by
  intro _ r
  obtain ⟨plain, solid⟩ := written_shared r name v
  exact ⟨plain.single, solid.not_starred⟩

theorem written_fill_nil (r : Renderer) (format : List Char) :
    r.written (fill (slotTexts format) []) = format := by
  induction format with
  | nil => rw [slotTexts, fill, r.written_text, String.toList_ofList]
  | cons c rest ih =>
      by_cases slot : c = '?'
      · rw [slot, written_fill_open, ih]
      · rw [written_fill_char rest slot, ih]

theorem written_raw (r : Renderer) (format : String) :
    r.written (template format []) = format.toList := by
  rw [template_nil, written_fill_nil]

theorem Item.aliased {s : Script} (closed : s.Closed) (item : s.Item) (d : Dialect)
    (asName : Option String) : (s ++ .asClause d asName).Item := by
  cases asName with
  | none =>
      rw [asClause, append_empty]
      exact item
  | some name =>
      have single : s.Single := fun ok r => (item ok r).1
      apply Item.of_solid
      · exact .append closed single
          (.append (closed_text rfl) (single_text (by decide)) (single_ident d name))
      · exact ((solid_ident d name).behind _).behind _

end Script

theorem Expr.item_of_known {d : Dialect} {bare : List String} {e : Expr}
    (each : e.Each TextRule.closed.everywhere) (known : e.hasUnknownWidth = false)
    (plain : e.hasOperands = false) : (e.script d bare).Item := by
  cases e with
  | column table tableAlias name type => exact Script.item_column d bare _ name
  | proposed name => exact Script.item_proposed d name
  | value v => exact Script.item_value v
  | shared name v => exact Script.item_shared name v
  | template format operands =>
      obtain rfl : operands = [] := by simpa [hasOperands] using plain
      intro _ r
      rw [Expr.script, Field.scripts, Script.written_raw]
      exact Text.single_of_known known
  | scalar query =>
      have closed := (closed_layout d).query query each.2
      rw [Expr.script, Script.parens]
      exact Script.item_enclosed [] rfl (by decide) closed

theorem Field.item_of_known {d : Dialect} {bare : List String} {f : Field}
    (each : f.Each TextRule.closed.everywhere) (known : f.expr.hasUnknownWidth = false)
    (plain : f.expr.hasOperands = false) : (f.script d bare ++ .asClause d f.asName).Item := by
  have fits := (closed_layout d).hereditary.of_field f each
  rcases f with ⟨expr, asName, direction, nulls⟩
  exact (Expr.item_of_known each.2 known plain).aliased (fits.script bare) d asName

end SqlTree
