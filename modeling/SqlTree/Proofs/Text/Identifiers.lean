import Mathlib.Data.List.Basic
import SqlTree.Renderer

namespace SqlTree

namespace Ident

/-- Reads a name up to the first quote that is not doubled, and what stands behind that quote. -/
def readQuoted? (quote : Char) : List Char → Option (List Char × List Char)
  | [] => none
  | [c] => if c = quote then some ([], []) else none
  | c :: next :: rest =>
      if c ≠ quote then
        (readQuoted? quote (next :: rest)).map fun (name, behind) => (c :: name, behind)
      else if next = quote then
        (readQuoted? quote rest).map fun (name, behind) => (quote :: name, behind)
      else some ([], next :: rest)

/-- Reads the identifier at the front of a text, quoted or else as long as it goes on. -/
def read? (d : Dialect) : List Char → Option (List Char × List Char)
  | [] => none
  | c :: rest =>
      if c = d.quote then readQuoted? d.quote rest
      else if isLead c then some (c :: rest.takeWhile isTail, rest.dropWhile isTail)
      else none

/-- What follows does not continue an identifier: no quote behind a quoted one, and no character of
names behind a bare one. -/
def EndsAt (d : Dialect) (written rest : List Char) : Prop :=
  ∀ c ∈ rest.head?, if written.head? = some d.quote then c ≠ d.quote else isTail c = false

variable {d : Dialect} {name written : String} {rest : List Char}

theorem readQuoted?_doubled {quote : Char} (name : List Char) (ends : ∀ c ∈ rest.head?, c ≠ quote) :
    readQuoted? quote (doubled quote name ++ quote :: rest) = some (name, rest) := by
  induction name with
  | nil =>
      cases rest with
      | nil => simp [doubled, readQuoted?]
      | cons c others =>
          have other : c ≠ quote := ends c rfl
          simp [doubled, readQuoted?, other]
  | cons c name ih =>
      by_cases same : c = quote
      · subst same
        simp [doubled, readQuoted?, ih]
      · obtain ⟨next, others, front⟩ :=
          List.exists_cons_of_ne_nil (List.append_ne_nil_of_right_ne_nil (doubled quote name)
            (List.cons_ne_nil quote rest))
        rw [doubled, if_neg same, List.cons_append, front, readQuoted?, if_pos same, ← front, ih]
        rfl

theorem ne_quote_of_isLead (d : Dialect) {c : Char} (lead : isLead c = true) : c ≠ d.quote := by
  rintro rfl
  cases d <;> exact absurd lead (by decide)

theorem read?_plain (d : Dialect) {name : List Char} (plain : isPlain name = true)
    (ends : ∀ c ∈ rest.head?, isTail c = false) : read? d (name ++ rest) = some (name, rest) := by
  cases name with
  | nil => exact nomatch plain
  | cons c name =>
      simp only [isPlain, Bool.and_eq_true, List.all_eq_true] at plain
      obtain ⟨lead, tail⟩ := plain
      have stops : rest.takeWhile isTail = [] ∧ rest.dropWhile isTail = rest := by
        cases rest with
        | nil => exact ⟨rfl, rfl⟩
        | cons next others =>
            have other : isTail next = false := ends next rfl
            simp [other]
      rw [List.cons_append, read?, if_neg (ne_quote_of_isLead d lead), if_pos lead,
        List.takeWhile_append_of_pos tail, List.dropWhile_append_of_pos tail, stops.1, stops.2,
        List.append_nil]

theorem isOk_write (d : Dialect) (name : String) :
    (write d name).isOk = true ↔ name ≠ "" ∧ '\x00' ∉ name.toList := by
  have empty : name.toList = [] ↔ name = "" := String.toList_eq_nil_iff
  unfold write
  simp only [List.isEmpty_iff, List.contains_eq_mem, decide_eq_true_eq, empty]
  split
  case isTrue missing => simp [missing, Except.isOk, Except.toBool]
  case isFalse given =>
    split
    case isTrue nul => simp [given, nul, Except.isOk, Except.toBool]
    case isFalse clean =>
      split <;> simp [given, clean, Except.isOk, Except.toBool]

/-- What is written is read as the name wherever it ends. -/
theorem read?_write (ok : write d name = .ok written) (ends : EndsAt d written.toList rest) :
    read? d (written.toList ++ rest) = some (name.toList, rest) := by
  unfold write at ok
  simp only at ok
  split at ok
  · exact nomatch ok
  · split at ok
    · exact nomatch ok
    · split at ok
      case isTrue plain =>
        obtain rfl := Except.ok.inj ok
        apply read?_plain d plain
        intro c first
        have bare : name.toList.head? ≠ some d.quote := by
          cases chars : name.toList with
          | nil => exact (Option.some_ne_none _).symm
          | cons lead others =>
              rw [chars, isPlain, Bool.and_eq_true] at plain
              exact fun starts => ne_quote_of_isLead d plain.1 (Option.some.inj starts)
        have allowed := ends c first
        rwa [if_neg bare] at allowed
      case isFalse =>
        obtain rfl := Except.ok.inj ok
        rw [String.toList_ofList, quoted] at ends ⊢
        rw [List.cons_append, List.append_assoc, read?, if_pos rfl]
        apply readQuoted?_doubled
        intro c first
        have allowed := ends c first
        rwa [List.head?_cons, if_pos rfl] at allowed

/-- A name is written unless it is empty or holds a NUL, and a name that is not written leaves the
text as it was. What is written for a name is read as that name and nothing behind it, in front of
any text that does not continue it; so it is written for no other name. -/
theorem written_read_back (d : Dialect) (name : String) :
    ((write d name).isOk = true ↔ name ≠ "" ∧ '\x00' ∉ name.toList) ∧
      (∀ refusal, write d name = .error refusal → ∀ r : Renderer, r.write (.ident d name) = r) ∧
      ∀ written, write d name = .ok written →
        (∀ r : Renderer, r.write (.ident d name) = r.push written) ∧
        (∀ rest, EndsAt d written.toList rest →
          read? d (written.toList ++ rest) = some (name.toList, rest)) ∧
        ∀ other, write d other = .ok written → other = name := by
  refine ⟨isOk_write d name, ?_, ?_⟩
  · intro refusal refused r
    rw [Script.ident, refused]
    rfl
  · intro written ok
    refine ⟨?_, fun rest ends => read?_write ok ends, ?_⟩
    · intro r
      rw [Script.ident, ok]
      rfl
    · intro other same
      have ends : EndsAt d written.toList [] := fun _ none => nomatch none
      have one := read?_write ok ends
      have two := read?_write same ends
      have chars : other.toList = name.toList := by
        rw [one] at two
        exact (congrArg Prod.fst (Option.some.inj two)).symm
      exact String.toList_injective chars

/-- Quotes at the start, in a row in the middle and at the end, and a dot behind the identifier. -/
theorem written_read_back_quotes :
    let name := "\"a\"\"b\""
    let written := "\"\"\"a\"\"\"\"b\"\"\""
    write .postgres name = .ok written ∧ EndsAt .postgres written.toList ".id".toList ∧
      read? .postgres (written ++ ".id").toList = some (name.toList, ".id".toList) := by
  have ok : write .postgres "\"a\"\"b\"" = .ok "\"\"\"a\"\"\"\"b\"\"\"" := by decide +kernel
  have ends : EndsAt .postgres "\"\"\"a\"\"\"\"b\"\"\"".toList ".id".toList := by
    intro c first
    obtain rfl : '.' = c := Option.some.inj first
    decide
  refine ⟨ok, ends, ?_⟩
  rw [String.toList_append]
  exact ((written_read_back .postgres "\"a\"\"b\"").2.2 _ ok).2.1 _ ends

end Ident

end SqlTree
