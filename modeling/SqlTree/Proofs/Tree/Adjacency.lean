import SqlTree.Proofs.Renderer.Written
import SqlTree.Proofs.Tree.Legible

/-!
What stands right behind placeholders. SQL itself and names never put a digit there, so only a
template can: it writes the text behind a slot as it is, and its operands fill slots with whatever
they start with.
-/

namespace SqlTree

/-- What an expression writes, as far as it matters to a placeholder in front of it. -/
inductive Glyph where
  | letter (c : Char)
  | placeholder
  /-- a name or a subquery, which has no digit in front and no placeholder at its end -/
  | block
  deriving DecidableEq, Repr

namespace Glyph

def opensWithDigit : List Glyph → Bool
  | letter c :: _ => c.isDigit
  | _ => false

def apart : List Glyph → Bool
  | [] => true
  | placeholder :: rest => !opensWithDigit rest && apart rest
  | letter _ :: rest | block :: rest => apart rest

def fill : List (List Char) → List (List Glyph) → List Glyph
  | [], _ => []
  | [last], _ => last.map letter
  | first :: rest, [] => first.map letter ++ letter '?' :: fill rest []
  | first :: rest, operand :: operands => first.map letter ++ operand ++ fill rest operands

theorem opensWithDigit_letters (chars : List Char) (later : List Glyph) :
    opensWithDigit (chars.map letter ++ later) =
      (Text.opensWithDigit chars || chars.isEmpty && opensWithDigit later) := by
  cases chars with
  | nil => rfl
  | cons c rest => exact (Bool.or_false _).symm

theorem apart_letters (chars : List Char) (later : List Glyph) :
    apart (chars.map letter ++ later) = apart later := by
  induction chars with
  | nil => rfl
  | cons c rest ih => exact ih

end Glyph

mutual

def Expr.glyphs : Expr → List Glyph
  | .column .. | .proposed _ | .scalar _ => [.block]
  | .value _ | .shared .. => [.placeholder]
  | .template format operands =>
      Glyph.fill (Script.slotTexts format.toList) (Field.glyphsOf operands)

def Field.glyphs : Field → List Glyph
  | ⟨expr, _, _, _⟩ => expr.glyphs

def Field.glyphsOf : List Field → List (List Glyph)
  | [] => []
  | f :: rest => f.glyphs :: Field.glyphsOf rest

end

theorem Field.glyphs_eq (f : Field) : f.glyphs = f.expr.glyphs := by
  cases f with
  | mk => rw [Field.glyphs]

theorem Field.glyphsOf_eq_map (fields : List Field) :
    Field.glyphsOf fields = fields.map Field.glyphs := by
  induction fields with
  | nil => rfl
  | cons f rest ih => rw [Field.glyphsOf, ih, List.map_cons]

/-- No template puts a digit right behind a placeholder. -/
def NodeProperty.apart : NodeProperty where
  expr e := Glyph.apart e.glyphs = true

def Query.Apart (q : Query) : Prop := q.Each .apart

namespace Piece

theorem Unextended.right {a b : List Piece} (whole : Unextended (a ++ b)) : Unextended b := by
  induction a with
  | nil => exact whole
  | cons p rest ih =>
      cases p with
      | text s => exact ih whole
      | value v => exact ih whole.2
      | shared name v => exact ih whole.2

end Piece

/-- Pieces that are outlined by glyphs start alike, and keep their placeholders apart from digits
only if the glyphs do; if what is hidden in the blocks is `clean`, they do so exactly then. -/
structure Outlines (clean : Prop) (glyphs : List Glyph) (pieces : List Piece) : Prop where
  opens : Piece.opensWithDigit pieces = Glyph.opensWithDigit glyphs
  apart : Piece.Unextended pieces → Glyph.apart glyphs = true
  unextended : clean → Glyph.apart glyphs = true → Piece.Unextended pieces

namespace Script

def Outlined (clean : Prop) (glyphs : List Glyph) (s : Script) : Prop :=
  s.fault = none → ∀ later rest, Outlines clean later rest →
    Outlines clean (glyphs ++ later) (s.pieces ++ rest)

/-- Where the script is written, it shields what stands before it from what stands behind. -/
structure Shielding (clean : Prop) (s : Script) : Prop where
  opens : s.fault = none → ∀ rest, Piece.opensWithDigit (s.pieces ++ rest) = false
  unextended : clean → s.fault = none → ∀ rest, Piece.Unextended rest →
    Piece.Unextended (s.pieces ++ rest)

variable {clean : Prop}

namespace Outlined

variable {a b : Script} {g h : List Glyph}

theorem append (first : Outlined clean g a) (second : Outlined clean h b) :
    Outlined clean (g ++ h) (a ++ b) := by
  intro ok later rest known
  obtain ⟨front, behind⟩ := append_isOk ok
  rw [pieces_append_of_ok front, List.append_assoc, List.append_assoc]
  exact first front _ _ (second behind _ _ known)

theorem whole (outlined : Outlined clean g a) (ok : a.fault = none) :
    Outlines clean g a.pieces := by
  have alone := outlined ok [] [] ⟨rfl, fun _ => rfl, fun _ _ => trivial⟩
  rwa [List.append_nil, List.append_nil] at alone

end Outlined

theorem outlined_text (k : String) : Outlined clean (k.toList.map .letter) (text k) := by
  intro _ later rest known
  constructor
  · rw [Glyph.opensWithDigit_letters, ← known.opens]
    rfl
  · intro unextended
    rw [Glyph.apart_letters]
    exact known.apart unextended
  · intro hidden apart
    rw [Glyph.apart_letters] at apart
    exact known.unextended hidden apart

theorem outlined_require (condition : Bool) (fault : Fault) :
    Outlined clean [] (require condition fault) := by
  intro ok later rest known
  cases condition with
  | true => exact known
  | false => exact nomatch ok

theorem outlined_placeholder {p : Piece} (slot : p.slot?.isSome = true) :
    Outlined clean [.placeholder] (ofPiece p) := by
  intro _ later rest known
  have glyphs : Glyph.apart (.placeholder :: later) = true ↔
      Glyph.opensWithDigit later = false ∧ Glyph.apart later = true := by
    rw [Glyph.apart, Bool.and_eq_true, Bool.not_eq_true']
  have pieces : Piece.Unextended (p :: rest) ↔
      Piece.opensWithDigit rest = false ∧ Piece.Unextended rest := by
    cases p with
    | text s => exact nomatch slot
    | value v => exact Iff.rfl
    | shared name v => exact Iff.rfl
  constructor
  · cases p with
    | text s => exact nomatch slot
    | value v => rfl
    | shared name v => rfl
  · intro unextended
    obtain ⟨opens, others⟩ := pieces.mp unextended
    exact glyphs.mpr ⟨known.opens.symm.trans opens, known.apart others⟩
  · intro hidden apart
    obtain ⟨opens, others⟩ := glyphs.mp apart
    exact pieces.mpr ⟨known.opens.trans opens, known.unextended hidden others⟩

namespace Shielding

variable {a b s : Script}

theorem outlined (shielding : Shielding clean s) : Outlined clean [.block] s := by
  intro ok later rest known
  constructor
  · exact shielding.opens ok rest
  · intro unextended
    exact known.apart unextended.right
  · intro hidden apart
    exact shielding.unextended hidden ok rest (known.unextended hidden apart)

theorem append (first : Shielding clean a) (second : Shielding clean b) :
    Shielding clean (a ++ b) where
  opens ok rest := by
    obtain ⟨front, behind⟩ := append_isOk ok
    rw [pieces_append_of_ok front, List.append_assoc]
    exact first.opens front _
  unextended hidden ok rest known := by
    obtain ⟨front, behind⟩ := append_isOk ok
    rw [pieces_append_of_ok front, List.append_assoc]
    exact first.unextended hidden front _ (second.unextended hidden behind rest known)

theorem text {k : String} (detached : Text.opensWithDigit k.toList = false)
    (some : k.toList ≠ []) : Shielding clean (text k) where
  opens _ rest := by
    have filled : k.toList.isEmpty = false := List.isEmpty_eq_false_iff.mpr some
    simp [Script.text, ofPiece, Piece.opensWithDigit, detached, filled]
  unextended _ _ _ known := known

theorem ident (d : Dialect) (name : String) : Shielding clean (ident d name) := by
  rw [Script.ident]
  cases written : Ident.write d name with
  | ok k =>
      obtain ⟨detached, some⟩ := Ident.write_detached written
      exact .text detached some
  | error refusal =>
      have failed : (failure (.identifier refusal)).fault ≠ none := Option.some_ne_none _
      exact ⟨fun ok => absurd ok failed, fun _ ok => absurd ok failed⟩

theorem parens (inner : clean → s.fault = none → s.Unextended) : Shielding clean (parens s) where
  opens ok rest := by
    obtain ⟨front, -⟩ := append_isOk ok
    rw [Script.parens, pieces_append_of_ok front]
    rfl
  unextended hidden ok rest known := by
    obtain ⟨front, -⟩ := append_isOk ok
    have pieces : (Script.parens s).pieces ++ rest =
        .text "(" :: (s.pieces ++ .text ")" :: rest) := by
      rw [Script.parens, pieces_append_of_ok front, List.append_assoc]
      rfl
    rw [pieces]
    exact Piece.Unextended.append (inner hidden (append_isOk front).2) known rfl

theorem column (d : Dialect) (bare : List String) (qualifier name : String) :
    Shielding clean (column d bare qualifier name) := by
  rw [Script.column]
  cases decide (qualifier ≠ "") && !bare.contains qualifier with
  | true => exact ((ident d qualifier).append (.text rfl (by decide))).append (ident d name)
  | false => exact ident d name

theorem proposed (d : Dialect) (name : String) : Shielding clean (proposed d name) := by
  cases d with
  | mysql => exact (append (.text rfl (by decide)) (ident _ name)).append (.text rfl (by decide))
  | sqlite => exact append (.text rfl (by decide)) (ident _ name)
  | postgres => exact append (.text rfl (by decide)) (ident _ name)

end Shielding

theorem outlined_fill {α : Type} {glyphs : α → List Glyph} {script : α → Script}
    (texts : List (List Char)) (operands : List α)
    (each : ∀ x ∈ operands, Outlined clean (glyphs x) (script x)) :
    Outlined clean (Glyph.fill texts (operands.map glyphs)) (fill texts (operands.map script)) := by
  have written (chars : List Char) :
      Outlined clean (chars.map .letter) (text (String.ofList chars)) := by
    have outlined : Outlined clean _ _ := outlined_text (String.ofList chars)
    rwa [String.toList_ofList] at outlined
  induction texts generalizing operands with
  | nil => exact fun _ _ _ known => known
  | cons first rest ih =>
      cases rest with
      | nil =>
          cases operands with
          | nil => exact written first
          | cons x others => exact written first
      | cons second rest =>
          cases operands with
          | nil =>
              have slot := (written first).append (outlined_text "?")
              have later := slot.append (ih [] (List.forall_mem_nil _))
              rwa [List.append_assoc] at later
          | cons x others =>
              obtain ⟨own, more⟩ := List.forall_mem_cons.mp each
              exact ((written first).append own).append (ih others more)

theorem outlined_template {d : Dialect} {bare : List String} (format : String)
    (operands : List Field)
    (each : ∀ f ∈ operands, Outlined clean f.glyphs (f.script d bare)) :
    Outlined clean (Expr.template format operands).glyphs
      ((Expr.template format operands).script d bare) := by
  have filled := outlined_fill (slotTexts format.toList) operands each
  rw [Expr.glyphs, Expr.script, Field.glyphsOf_eq_map, Field.scripts_eq_map]
  rw [← List.append_nil (Glyph.fill _ _)]
  exact filled.append (outlined_require _ _)

end Script

section Expressions

variable (d : Dialect) (bare : List String)

theorem Expr.outlined_column {clean : Prop} (table tableAlias name : String) (type : ColumnType) :
    Script.Outlined clean (Expr.column table tableAlias name type).glyphs
      ((Expr.column table tableAlias name type).script d bare) := by
  rw [Expr.glyphs, Expr.script]
  exact (Script.Shielding.column d bare _ name).outlined

theorem Expr.outlined_proposed {clean : Prop} (name : String) :
    Script.Outlined clean (Expr.proposed name).glyphs ((Expr.proposed name).script d bare) := by
  rw [Expr.glyphs, Expr.script]
  exact (Script.Shielding.proposed d name).outlined

theorem Expr.outlined_scalar {clean : Prop} {query : Query}
    (inner : clean → (query.script d).fault = none → (query.script d).Unextended) :
    Script.Outlined clean (Expr.scalar query).glyphs ((Expr.scalar query).script d bare) := by
  rw [Expr.glyphs, Expr.script]
  exact (Script.Shielding.parens inner).outlined

mutual

theorem Expr.outlined : ∀ e : Expr, Script.Outlined False e.glyphs (e.script d bare)
  | .column table tableAlias name type => Expr.outlined_column d bare table tableAlias name type
  | .proposed name => Expr.outlined_proposed d bare name
  | .value _ => Script.outlined_placeholder rfl
  | .shared .. => Script.outlined_placeholder rfl
  | .template format operands =>
      Script.outlined_template format operands (Field.outlinedEach operands)
  | .scalar _ => Expr.outlined_scalar d bare fun hidden => hidden.elim

theorem Field.outlined : ∀ f : Field, Script.Outlined False f.glyphs (f.script d bare)
  | ⟨expr, _, _, _⟩ => expr.outlined

theorem Field.outlinedEach :
    ∀ fields : List Field, ∀ f ∈ fields, Script.Outlined False f.glyphs (f.script d bare)
  | [] => List.forall_mem_nil _
  | f :: rest => List.forall_mem_cons.mpr ⟨f.outlined, Field.outlinedEach rest⟩

end

end Expressions

/-! ### Statements -/

theorem Frame.whenWritten {d : Dialect} {t : TextRule} {P T : Script → Prop} (F : Frame d t P T) :
    Frame d t (fun s => s.fault = none → P s) fun s => s.fault = none → T s where
  of_tail tail ok := F.of_tail (tail ok)
  append first second ok :=
    have ⟨front, behind⟩ := Script.append_isOk ok
    F.append (first front) (second behind)
  tail_append first second ok :=
    have ⟨front, behind⟩ := Script.append_isOk ok
    F.tail_append (first front) (second behind)
  empty _ := F.empty
  failure fault _ := F.failure fault
  syntax_text plain _ := F.syntax_text plain
  behind plain inner ok := F.behind plain (inner (Script.append_isOk ok).2)
  enclosed plain inner ok :=
    F.enclosed plain (inner (Script.append_isOk (Script.append_isOk ok).1).2)
  integer n _ := F.integer n
  ident named _ := F.ident named
  value v _ := F.value v
  shared allowed _ := F.shared allowed
  keyword allowed _ := F.keyword allowed

theorem TextRule.impliedBy (rule : NodeProperty) : TextRule.ImpliedBy {} rule where
  field _ _ _ _ := trivial
  source s _ := by
    cases s with
    | table t => exact ⟨fun _ _ => trivial, trivial, fun _ _ => trivial⟩
    | subquery query name => trivial
    | cte name asName => exact ⟨trivial, fun _ _ => trivial⟩
  cte _ _ := ⟨trivial, fun _ _ => trivial, fun _ _ => trivial⟩
  join j _ := by
    cases h : j.kind <;> trivial
  insert _ _ := ⟨fun _ _ => trivial, trivial, fun _ _ => trivial⟩
  update _ _ := ⟨fun _ _ => trivial, trivial, fun _ _ => trivial⟩
  delete _ _ := ⟨fun _ _ => trivial, trivial, fun _ _ => trivial⟩

def Glyph.property (d : Dialect) : NodeProperty :=
  Frame.property d {} (fun e => ∀ bare, Script.Outlined True e.glyphs (e.script d bare))
    (fun s => s.fault = none → s.Unextended) fun s => s.fault = none → s.Detached

theorem outlined_operands {d : Dialect} (bare : List String) (format : String)
    {operands : List Field} (each : ∀ f ∈ operands, (Glyph.property d).field f) :
    Script.Outlined True (Expr.template format operands).glyphs
      ((Expr.template format operands).script d bare) := by
  apply Script.outlined_template
  intro f member
  rw [Field.glyphs_eq, Field.script_eq]
  exact (each f member).known bare

theorem apart_hereditary (d : Dialect) : NodeProperty.apart.Hereditary (Glyph.property d) :=
  let frame := (unextended_frame d {}).whenWritten
  frame.hereditary (TextRule.impliedBy _)
    { column := fun table tableAlias name type _ =>
        ⟨⟨trivial, trivial, trivial⟩,
          fun bare => Expr.outlined_column d bare table tableAlias name type,
          frame.script_column ⟨trivial, trivial, trivial⟩⟩
      proposed := fun name _ =>
        ⟨trivial, fun bare => Expr.outlined_proposed d bare name, frame.script_proposed trivial⟩
      value := fun v _ =>
        ⟨trivial, fun _ => Script.outlined_placeholder rfl, frame.script_value v⟩
      shared := fun _ _ _ =>
        ⟨trivial, fun _ => Script.outlined_placeholder rfl, frame.script_shared trivial⟩
      template := fun format _ apart each =>
        ⟨trivial, fun bare => outlined_operands bare format each, fun bare ok =>
          ((outlined_operands bare format each).whole ok).unextended trivial apart⟩
      scalar := fun query _ inner =>
        have written := Frame.query_fits query inner
        ⟨trivial, fun bare => Expr.outlined_scalar d bare fun _ ok => (written ok).1,
          frame.script_scalar written⟩ }

theorem Query.Apart.unextended {q : Query} (apart : q.Apart) {d : Dialect}
    (ok : (q.script d).fault = none) : (q.script d).Unextended :=
  (Frame.query_fits q ((apart_hereditary d).of_query q apart) ok).1

/-- That is exactly what a template needs, if its operands are apart. -/
theorem Expr.template_unextended_iff {d : Dialect} {bare : List String} {format : String}
    {operands : List Field} (each : Field.EachOf .apart operands)
    (ok : ((Expr.template format operands).script d bare).fault = none) :
    ((Expr.template format operands).script d bare).Unextended ↔
      Glyph.apart (Expr.template format operands).glyphs = true := by
  constructor
  · exact ((Expr.outlined d bare _).whole ok).apart
  · have known := (apart_hereditary d).of_fields operands each
    exact ((outlined_operands bare format known).whole ok).unextended trivial

end SqlTree
