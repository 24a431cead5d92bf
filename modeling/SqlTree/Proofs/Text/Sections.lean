import SqlTree.Proofs.Text.Items

/-!
Commas at the top level. The search for one passes over a quoted section and over a section in
parentheses as a whole, whatever stands in them, and is then where it was before. So it finds no
comma in a text put together from such sections, and the first one behind it.
-/

namespace SqlTree.Text

/-- A text put together from characters that open and close nothing, quoted sections and sections
in parentheses. Commas may stand between them in parentheses, and elsewhere if `commas` holds. -/
inductive Sections : Bool → List Char → Prop where
  | nil {commas : Bool} : Sections commas []
  | plain {commas : Bool} {c : Char} {rest : List Char}
      (unmarked : c ∉ ['\'', '"', '\x60', '(', ')', ',']) (more : Sections commas rest) :
      Sections commas (c :: rest)
  | comma {rest : List Char} (more : Sections true rest) : Sections true (',' :: rest)
  | quoted {commas : Bool} {q : Char} {rest : List Char} (body : List Char)
      (isQuote : q ∈ ['\'', '"', '\x60']) (unclosed : q ∉ body) (more : Sections commas rest) :
      Sections commas (q :: (body ++ q :: rest))
  | parens {commas : Bool} {inner rest : List Char} (nested : Sections true inner)
      (more : Sections commas rest) : Sections commas ('(' :: (inner ++ ')' :: rest))

section Scan

variable {c q : Char} (depth : Nat) (rest : List Char)

theorem scanComma_plain (unmarked : c ∉ ['\'', '"', '\x60', '(', ')', ',']) :
    scanComma none depth (c :: rest) = scanComma none depth rest := by
  simp only [List.mem_cons, List.not_mem_nil, or_false, not_or] at unmarked
  have same : (⟨none, depth⟩ : Place).next c = ⟨none, depth⟩ := by simp [Place.next, unmarked]
  rw [scanComma_cons ⟨none, depth⟩, same]
  simp [unmarked]

theorem scanComma_comma (inside : depth ≠ 0) :
    scanComma none depth (',' :: rest) = scanComma none depth rest := by
  have deeper : (⟨none, depth⟩ : Place) ≠ .outer := fun same => inside (congrArg Place.depth same)
  rw [scanComma_cons ⟨none, depth⟩, decide_eq_false fun splits => deeper splits.2]
  rfl

theorem scanComma_open : scanComma none depth ('(' :: rest) = scanComma none (depth + 1) rest :=
  scanComma_cons ⟨none, depth⟩ '(' rest

theorem scanComma_close : scanComma none (depth + 1) (')' :: rest) = scanComma none depth rest :=
  scanComma_cons ⟨none, depth + 1⟩ ')' rest

theorem scanComma_quote (isQuote : q ∈ ['\'', '"', '\x60']) :
    scanComma none depth (q :: rest) = scanComma (some q) depth rest := by
  simp only [List.mem_cons, List.not_mem_nil, or_false] at isQuote
  rw [scanComma.eq_def]
  simp only [isQuote, if_true]

/-- Within a quotation only its own quote counts. -/
theorem scanComma_quotation {body : List Char} (unclosed : q ∉ body) :
    scanComma (some q) depth (body ++ q :: rest) = scanComma none depth rest := by
  induction body with
  | nil => simp [scanComma]
  | cons c body ih =>
      obtain ⟨other, others⟩ := not_or.mp (mt List.mem_cons.mpr unclosed)
      rw [List.cons_append, scanComma, if_neg (Ne.symm other)]
      exact ih others

end Scan

/-- Behind whole sections the search is where it was before them. -/
theorem Sections.scanComma {commas : Bool} {text : List Char} (sections : Sections commas text)
    (depth : Nat) (inside : commas = true → depth ≠ 0) (rest : List Char) :
    scanComma none depth (text ++ rest) = scanComma none depth rest := by
  induction sections generalizing depth rest with
  | nil => rfl
  | plain unmarked _ ih => rw [List.cons_append, scanComma_plain _ _ unmarked, ih depth inside]
  | comma _ ih => rw [List.cons_append, scanComma_comma _ _ (inside rfl), ih depth inside]
  | quoted body isQuote unclosed _ ih =>
      rw [List.cons_append, List.append_assoc, List.cons_append, scanComma_quote _ _ isQuote,
        scanComma_quotation _ _ unclosed, ih depth inside]
  | parens _ _ within after =>
      rw [List.cons_append, List.append_assoc, List.cons_append, scanComma_open,
        within (depth + 1) fun _ => Nat.succ_ne_zero depth, scanComma_close, after depth inside]

/-- In a text put together from sections with no comma between them, none is found at the top
level, and a comma right behind it is one at the top level, whatever follows. -/
theorem top_level_comma_found {s : String} (sections : Sections false s.toList) :
    hasTopLevelComma s = false ∧ ∀ t : String, hasTopLevelComma (s ++ "," ++ t) = true := by
  have passed := sections.scanComma 0 (fun none => nomatch none)
  constructor
  · have whole := passed []
    rw [List.append_nil] at whole
    exact whole
  · intro t
    calc
      hasTopLevelComma (s ++ "," ++ t) = scanComma none 0 (s.toList ++ ',' :: t.toList) := by
        simp [hasTopLevelComma]
      _ = scanComma none 0 (',' :: t.toList) := passed _
      _ = true := rfl

/-- A quotation that holds commas, parentheses and other quotes, and a doubled quote, in a call with
two arguments. -/
theorem top_level_comma_found_nested :
    Sections false "f('a),\"(''', (x, y))".toList ∧
      hasTopLevelComma "f('a),\"(''', (x, y))" = false ∧
      hasTopLevelComma ("f('a),\"(''', (x, y))" ++ "," ++ " 'b") = true := by
  have call : Sections false "f('a),\"(''', (x, y))".toList := by
    have pair : Sections true "x, y".toList :=
      .plain (by decide) (.comma (.plain (by decide) (.plain (by decide) .nil)))
    have arguments : Sections true "'a),\"(''', (x, y)".toList :=
      .quoted (q := '\'') "a),\"(".toList (by decide) (by decide)
        (.quoted (q := '\'') [] (by decide) (by decide)
          (.comma (.plain (by decide) (.parens pair .nil))))
    exact .plain (by decide) (.parens arguments .nil)
  obtain ⟨none, found⟩ := top_level_comma_found call
  exact ⟨call, none, found " 'b"⟩

end SqlTree.Text
