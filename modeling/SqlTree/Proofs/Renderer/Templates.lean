import SqlTree.Proofs.Renderer.Splicing
import SqlTree.Proofs.Renderer.Written
import SqlTree.Proofs.Tree.Signs

/-!
Templates. A template is split at its question marks before anything is put into it. Then one
operand after the other is written into its slot, each behind all that stands there by then; what it
writes is not looked at again, whatever signs it holds.
-/

namespace SqlTree

namespace Script

/-- The texts around the slots are what the format is split into at its question marks. -/
theorem slotTexts_eq_splitOn (format : List Char) : slotTexts format = format.splitOn '?' := by
  induction format with
  | nil => simp [slotTexts, List.splitOn_nil]
  | cons c rest ih =>
      rw [List.splitOn_eq_splitOnP, List.splitOnP_cons_eq_if_modifyHead,
        ← List.splitOn_eq_splitOnP, ← ih]
      by_cases slot : c = '?'
      · rw [slotTexts, if_pos slot, if_pos (beq_iff_eq.mpr slot)]
      · obtain ⟨first, others, split, whole⟩ := slotTexts_cons slot rest
        rw [whole, split, if_neg (mt beq_iff_eq.mp slot)]
        rfl

section Slots

variable (first next : List Char) (rest : List (List Char))

theorem fill_unfilled : fill (first :: next :: rest) [] =
    text (String.ofList first) ++ text "?" ++ fill (next :: rest) [] := rfl

theorem fill_filled (operand : Script) (others : List Script) :
    fill (first :: next :: rest) (operand :: others) =
      text (String.ofList first) ++ operand ++ fill (next :: rest) others := rfl

end Slots

theorem fault_fill_eq (first : List Char) (behind : List (List Char)) (operands : List Script) :
    (fill (first :: behind) operands).fault = (operands.take behind.length).findSome? fault := by
  induction behind generalizing first operands with
  | nil => rfl
  | cons next rest ih =>
      cases operands with
      | nil =>
          rw [fill_unfilled, fault_append, fault_append, ih, List.take_nil, List.take_nil]
          rfl
      | cons operand others =>
          rw [fill_filled, fault_append, fault_append, ih, List.length_cons, List.take_succ_cons,
            List.findSome?_cons]
          cases operand.fault <;> rfl

/-- A template fails with the first fault among its operands up to the last slot, or else for the
operands that are left behind it. -/
theorem fault_template_eq {format : String} {first : List Char} {behind : List (List Char)}
    (split : format.toList.splitOn '?' = first :: behind) (operands : List Script) :
    (template format operands).fault =
      ((operands.take behind.length).findSome? fault).or
        (if operands.length ≤ behind.length then none
          else some (.malformed (.template format)
            (.unusedOperands (operands.length - behind.length)))) := by
  have unused : operands.length - behind.length = 0 ↔ operands.length ≤ behind.length :=
    Nat.sub_eq_zero_iff_le
  rw [template, slotTexts_eq_splitOn, split, fault_append, fault_fill_eq, List.length_cons,
    Nat.add_sub_cancel, require]
  simp only [beq_iff_eq, unused]
  split <;> rfl

end Script

namespace Renderer

def fillSlot (bare : List String) (operands : List Field) (r : Renderer) (slot : List Char × Nat) :
    Renderer :=
  (match operands[slot.2]? with
    | some operand => (r.append (.field operand bare)).1
    | none => r.push "?").push (String.ofList slot.1)

theorem write_required (r : Renderer) {condition : Bool} {fault : Fault}
    (met : (Script.require condition fault).fault = none) :
    r.write (.require condition fault) = r := by
  cases condition with
  | false => exact nomatch met
  | true => rfl

theorem write_fill (bare : List String) (operands : List Field) (r : Renderer) (first : List Char)
    (behind : List (List Char)) (start : Nat)
    (ok : (Script.fill (first :: behind)
      ((operands.drop start).map (·.script r.dialect bare))).fault = none) :
    r.write (.fill (first :: behind) ((operands.drop start).map (·.script r.dialect bare))) =
      (behind.zipIdx start).foldl (fillSlot bare operands) (r.push (String.ofList first)) := by
  -- what is left of the slots and of the operands stays in step by `start`
  induction behind generalizing r first start with
  | nil => rfl
  | cons next rest ih =>
      rw [List.zipIdx_cons, List.foldl_cons, fillSlot]
      simp only [append_field]
      cases found : operands[start]? with
      | none =>
          have past := List.getElem?_eq_none_iff.mp found
          have here := List.drop_eq_nil_of_le past
          have beyond := List.drop_eq_nil_of_le (Nat.le_succ_of_le past)
          rw [here, List.map_nil, Script.fill_unfilled] at ok
          rw [here, List.map_nil, Script.fill_unfilled, write_append r rfl]
          have later := ih ((r.push (String.ofList first)).push "?") next (start + 1)
          rw [beyond] at later
          exact later (Script.append_isOk ok).2
      | some operand =>
          obtain ⟨bound, rfl⟩ := List.getElem?_eq_some_iff.mp found
          rw [List.drop_eq_getElem_cons bound, List.map_cons, Script.fill_filled] at ok
          rw [List.drop_eq_getElem_cons bound, List.map_cons, Script.fill_filled]
          obtain ⟨front, others⟩ := Script.append_isOk ok
          have dialect := (r.push (String.ofList first)).write_dialect
            (operands[start].script r.dialect bare)
          have later := ih ((r.push (String.ofList first)).write
            (operands[start].script r.dialect bare)) next (start + 1)
          rw [dialect] at later
          rw [write_append r front, write_append r rfl]
          exact later others

section Fields

variable (r : Renderer) (bare : List String) {format : String} (operands : List Field)
  {first : List Char} {behind : List (List Char)}

theorem script_template : (Field.template format operands).script r.dialect bare =
    .template format (operands.map (·.script r.dialect bare)) := by
  rw [Field.script_eq, ← Field.scripts_eq_map]
  rfl

variable (split : format.toList.splitOn '?' = first :: behind)

include split

theorem fault_append_template : (r.append (.field (.template format operands) bare)).2 =
    ((operands.take behind.length).findSome? fun o => (o.script r.dialect bare).fault).or
      (if operands.length ≤ behind.length then none
        else some (.malformed (.template format)
          (.unusedOperands (operands.length - behind.length)))) := by
  rw [append_field, script_template, Script.fault_template_eq split, List.length_map, ← List.map_take,
    List.findSome?_map]
  rfl

theorem append_template_isOk : (r.append (.field (.template format operands) bare)).2 = none ↔
    operands.length ≤ behind.length ∧ ∀ o ∈ operands.take behind.length, ∀ s : Renderer,
      s.dialect = r.dialect → (s.append (.field o bare)).2 = none := by
  have fits : (if operands.length ≤ behind.length then none
      else some (Fault.malformed (.template format)
        (.unusedOperands (operands.length - behind.length)))) = none ↔
      operands.length ≤ behind.length := by
    split <;> simp_all
  rw [r.fault_append_template bare operands split, Option.or_eq_none_iff,
    List.findSome?_eq_none_iff, fits, and_comm]
  refine and_congr_right fun _ => forall₂_congr fun o _ => ?_
  simp only [append_field]
  constructor
  · intro own s same
    rw [same]
    exact own
  · exact fun every => every r rfl

theorem append_template (ok : (r.append (.field (.template format operands) bare)).2 = none) :
    (r.append (.field (.template format operands) bare)).1 =
      behind.zipIdx.foldl (fillSlot bare operands) (r.push (String.ofList first)) := by
  have whole : (Script.template format (operands.map (·.script r.dialect bare))).fault = none := by
    rw [append_field] at ok
    rw [← script_template]
    exact ok
  rw [append_field]
  rw [Script.template, Script.slotTexts_eq_splitOn, split] at whole
  rw [script_template, Script.template, Script.slotTexts_eq_splitOn, split]
  obtain ⟨filled, used⟩ := Script.append_isOk whole
  rw [write_append r filled, write_required _ used]
  exact r.write_fill bare operands first behind 0 filled

end Fields

/-- A template is written by its split at the question marks, on any renderer and with any
qualifiers left out. It succeeds exactly if it has a slot for every operand and each of these is
written wherever it is put. Then it writes the first text, and for every slot the operand of its
number, or a question mark behind the last operand, and the text behind the slot, one after the
other. If it fails, the first fault of an operand up to the last slot comes before that of operands
left over. -/
theorem template_fills_slots (r : Renderer) (bare : List String) (format : String)
    (operands : List Field) :
    ∃ first behind, format.toList.splitOn '?' = first :: behind ∧
      let appended := r.append (.field (.template format operands) bare)
      let used := operands.take behind.length
      (appended.2 = none ↔ operands.length ≤ behind.length ∧
        ∀ o ∈ used, ∀ s : Renderer, s.dialect = r.dialect →
          (s.append (.field o bare)).2 = none) ∧
      (appended.2 = none → appended.1 =
        behind.zipIdx.foldl (fillSlot bare operands) (r.push (String.ofList first))) ∧
      appended.2 = (used.findSome? fun o => (o.script r.dialect bare).fault).or
        (if operands.length ≤ behind.length then none
          else some (.malformed (.template format)
            (.unusedOperands (operands.length - behind.length)))) := by
  have some := List.splitOn_ne_nil '?' format.toList
  obtain ⟨first, behind, split⟩ := List.exists_cons_of_ne_nil some
  exact ⟨first, behind, split, r.append_template_isOk bare operands split,
    r.append_template bare operands split, r.fault_append_template bare operands split⟩

/-- A question mark that an operand writes is no slot, and a slot without an operand stays one. -/
theorem template_fills_slots_once :
    let t := Field.template "é(?, ?, ?)" [.raw "a ? b", .value (.int 2)]
    let r := (new .postgres).bind (.int 1)
    (r.append (.field t [])).2 = none ∧
      (r.append (.field t [])).1.sql = "$1é(a ? b, $2, ?)" ∧
      (r.append (.field t [])).1.args = [.int 1, .int 2] := by
  intro t r
  obtain ⟨first, behind, split, -, written, -⟩ :=
    template_fills_slots r [] "é(?, ?, ?)" [.raw "a ? b", .value (.int 2)]
  have texts : "é(?, ?, ?)".toList.splitOn '?' = [['é', '('], [',', ' '], [',', ' '], [')']] := by
    decide +kernel
  rw [texts] at split
  obtain ⟨rfl, rfl⟩ := List.cons.inj split
  have ok : (r.append (.field t [])).2 = none := by decide +kernel
  refine ⟨ok, ?_, ?_⟩
  · rw [written ok]
    decide +kernel
  · rw [written ok]
    rfl

end Renderer

end SqlTree
