import SqlTree.Ident
import SqlTree.Proofs.Renderer.Lists
import SqlTree.Text.Blank
import SqlTree.Tree.Width

/-!
Splitting a text at the commas outside quotes and parentheses. Texts that close what they open can
be put together without a change to how each of them is split, and between parentheses they are one
item.
-/

namespace SqlTree

/-- Where a reader of SQL stands: behind a quote that is open, or outside of quotes, and between so
many parentheses. -/
structure Place where
  quote : Option Char
  depth : Nat
  deriving DecidableEq, Repr

namespace Place

def outer : Place := ⟨none, 0⟩

/-- The place behind one more character. A parenthesis that closes none is passed over. -/
def next (p : Place) (c : Char) : Place :=
  match p.quote with
  | some q => ⟨if c = q then none else some q, p.depth⟩
  | none =>
      if c = '\'' ∨ c = '"' ∨ c = '\x60' then ⟨some c, p.depth⟩
      else if c = '(' then ⟨none, p.depth + 1⟩
      else if c = ')' then ⟨none, p.depth - 1⟩
      else p

def after (p : Place) (text : List Char) : Place := text.foldl next p

def read? (p : Place) : List Char → Option Place
  | [] => some p
  | c :: rest => if p = outer ∧ c = ')' then none else (p.next c).read? rest

def raise (p : Place) (k : Nat) : Place := ⟨p.quote, p.depth + k⟩

variable {p q : Place} {text : List Char}

theorem read?_append (p : Place) (a b : List Char) :
    p.read? (a ++ b) = (p.read? a).bind (·.read? b) := by
  induction a generalizing p with
  | nil => rfl
  | cons c a ih =>
      rw [List.cons_append, read?, read?]
      split
      · rfl
      · exact ih (p.next c)

theorem after_of_read? (reads : p.read? text = some q) : p.after text = q := by
  induction text generalizing p with
  | nil => exact Option.some.inj reads
  | cons c rest ih =>
      rw [read?] at reads
      split at reads
      · exact nomatch reads
      · exact ih reads

theorem next_raise {c : Char} (opened : ¬(p = outer ∧ c = ')')) (k : Nat) :
    (p.raise k).next c = (p.next c).raise k := by
  rcases p with ⟨_ | quote, depth⟩
  · by_cases quotes : c = '\'' ∨ c = '"' ∨ c = '\x60'
    · simp [next, raise, quotes]
    · by_cases opens : c = '('
      · simp [next, raise, opens]
        omega
      · by_cases closes : c = ')'
        · have deep : depth ≠ 0 := fun none => opened ⟨by rw [none, outer], closes⟩
          simp [next, raise, closes]
          omega
        · simp [next, raise, quotes, opens, closes]
  · simp [next, raise]

theorem eq_outer_of_raise {k : Nat} (lowest : p.raise k = outer) : p = outer ∧ k = 0 := by
  rcases p with ⟨quote, depth⟩
  obtain ⟨rfl, none⟩ := Place.mk.injEq .. ▸ lowest
  obtain ⟨rfl, rfl⟩ := Nat.add_eq_zero_iff.mp none
  exact ⟨rfl, rfl⟩

theorem read?_raise (reads : p.read? text = some q) (k : Nat) :
    (p.raise k).read? text = some (q.raise k) := by
  induction text generalizing p with
  | nil =>
      obtain rfl := Option.some.inj reads
      rfl
  | cons c rest ih =>
      rw [read?] at reads ⊢
      split at reads
      · exact nomatch reads
      case isFalse opened =>
        have stays : ¬(p.raise k = outer ∧ c = ')') :=
          fun closes => opened ⟨(eq_outer_of_raise closes.1).1, closes.2⟩
        rw [if_neg stays, next_raise opened]
        exact ih reads

end Place

namespace Text

/-- The parts of a text between the commas at the outermost place. -/
def items (p : Place) : List Char → List (List Char)
  | [] => [[]]
  | c :: rest =>
      if c = ',' ∧ p = .outer then [] :: items p rest
      else (items (p.next c) rest).modifyHead (c :: ·)

def Single (p : Place) (text : List Char) : Prop := items p text = [text]

def Closed (text : List Char) : Prop := Place.outer.read? text = some .outer

instance (p : Place) (text : List Char) : Decidable (Single p text) :=
  inferInstanceAs (Decidable (items p text = [text]))

instance (text : List Char) : Decidable (Closed text) :=
  inferInstanceAs (Decidable (Place.outer.read? text = some .outer))

variable {p : Place} {a b text : List Char}

theorem single_nil (p : Place) : Single p [] := rfl

theorem items_ne_nil (p : Place) (text : List Char) : items p text ≠ [] := by
  induction text generalizing p with
  | nil => exact List.cons_ne_nil _ _
  | cons c rest ih =>
      rw [items]
      split
      · exact List.cons_ne_nil _ _
      · simpa using ih (p.next c)

theorem single_cons_iff {c : Char} :
    Single p (c :: text) ↔ ¬(c = ',' ∧ p = .outer) ∧ Single (p.next c) text := by
  rw [Single, Single, items]
  split
  case isTrue splits => simp [splits]
  case isFalse stays =>
    rw [and_iff_right stays]
    cases parts : items (p.next c) text with
    | nil => exact absurd parts (items_ne_nil _ _)
    | cons first rest => simp

theorem items_append (single : Single p a) (b : List Char) :
    items p (a ++ b) = (items (p.after a) b).modifyHead (a ++ ·) := by
  induction a generalizing p with
  | nil =>
      cases parts : items p b with
      | nil => exact absurd parts (items_ne_nil _ _)
      | cons first rest => simp [Place.after, parts]
  | cons c a ih =>
      obtain ⟨stays, rest⟩ := single_cons_iff.mp single
      rw [List.cons_append, items, if_neg stays, ih rest, List.modifyHead_modifyHead]
      rfl

theorem Single.append (first : Single p a) (second : Single (p.after a) b) : Single p (a ++ b) := by
  rw [Single, items_append first, second]
  rfl

theorem single_of_read? {q : Place} (reads : p.read? text = some q) (k : Nat) :
    Single (p.raise (k + 1)) text := by
  induction text generalizing p with
  | nil => exact single_nil _
  | cons c rest ih =>
      rw [Place.read?] at reads
      split at reads
      · exact nomatch reads
      case isFalse opened =>
        have inner : p.raise (k + 1) ≠ .outer :=
          fun lowest => Nat.succ_ne_zero k (Place.eq_outer_of_raise lowest).2
        apply single_cons_iff.mpr
        rw [Place.next_raise opened]
        exact ⟨fun splits => inner splits.2, ih reads⟩

namespace Closed

theorem append (first : Closed a) (second : Closed b) : Closed (a ++ b) := by
  rw [Closed, Place.read?_append, first]
  exact second

theorem after (closed : Closed text) : Place.outer.after text = .outer :=
  Place.after_of_read? closed

theorem enclosed {front back : List Char}
    (opens : Place.outer.read? front = some (Place.outer.raise 1)) (inner : Closed text)
    (closes : (Place.outer.raise 1).read? back = some .outer) :
    Closed (front ++ text ++ back) := by
  rw [Closed, Place.read?_append, Place.read?_append, opens, Option.bind_some,
    Place.read?_raise inner 1]
  exact closes

theorem single_parens (inner : Closed text) : Single .outer ('(' :: (text ++ [')'])) := by
  have between : Single (Place.outer.raise 1) text := single_of_read? inner 0
  have closes : (Place.outer.raise 1).after text = Place.outer.raise 1 :=
    Place.after_of_read? (Place.read?_raise inner 1)
  have last : Single ((Place.outer.raise 1).after text) [')'] := by
    rw [closes]
    rfl
  exact single_cons_iff.mpr ⟨by decide, between.append last⟩

theorem single_append (closed : Closed a) (first : Single .outer a) (second : Single .outer b) :
    Single .outer (a ++ b) := by
  apply first.append
  rw [closed.after]
  exact second

end Closed

def Plain (text : List Char) : Prop := ∀ c ∈ text, c ∉ ['\'', '"', '\x60', '(', ')', ',']

instance (text : List Char) : Decidable (Plain text) :=
  List.decidableBAll (· ∉ ['\'', '"', '\x60', '(', ')', ',']) text

theorem Plain.read? (plain : Plain text) (p : Place) (outside : p.quote = none) :
    p.read? text = some p := by
  induction text with
  | nil => rfl
  | cons c rest ih =>
      obtain ⟨own, others⟩ := List.forall_mem_cons.mp plain
      simp only [List.mem_cons, List.not_mem_nil, or_false, not_or] at own
      have same : p.next c = p := by simp [Place.next, outside, own]
      rw [Place.read?, same, if_neg (fun closes => own.2.2.2.2.1 closes.2)]
      exact ih others

theorem Plain.closed (plain : Plain text) : Closed text := plain.read? .outer rfl

theorem Plain.single (plain : Plain text) : Single .outer text := by
  induction text with
  | nil => exact single_nil _
  | cons c rest ih =>
      obtain ⟨own, others⟩ := List.forall_mem_cons.mp plain
      simp only [List.mem_cons, List.not_mem_nil, or_false, not_or] at own
      have same : Place.outer.next c = .outer := by simp [Place.next, Place.outer, own]
      rw [single_cons_iff, same]
      exact ⟨fun comma => own.2.2.2.2.2 comma.1, ih others⟩

theorem scanComma_cons (p : Place) (c : Char) (rest : List Char) :
    scanComma p.quote p.depth (c :: rest) =
      (decide (c = ',' ∧ p = .outer) || scanComma (p.next c).quote (p.next c).depth rest) := by
  rcases p with ⟨_ | quote, depth⟩
  · by_cases quotes : c = '\'' ∨ c = '"' ∨ c = '\x60'
    · have other : c ≠ ',' := by
        rintro rfl
        exact absurd quotes (by decide)
      simp [scanComma, Place.next, quotes, other]
    · by_cases opens : c = '('
      · simp [scanComma, Place.next, opens]
      · by_cases closes : c = ')'
        · simp [scanComma, Place.next, closes]
        · by_cases comma : c = ',' ∧ depth = 0
          · simp [scanComma, Place.outer, comma]
          · simp [scanComma, Place.next, Place.outer, quotes, opens, closes, comma]
  · simp [scanComma, Place.next, Place.outer]

theorem single_of_scanComma (unfound : scanComma p.quote p.depth text = false) : Single p text := by
  induction text generalizing p with
  | nil => exact single_nil _
  | cons c rest ih =>
      rw [scanComma_cons, Bool.or_eq_false_iff, decide_eq_false_iff_not] at unfound
      exact single_cons_iff.mpr ⟨unfound.1, ih unfound.2⟩

section Quoted

variable {quote : Char} (isQuote : quote = '\'' ∨ quote = '"' ∨ quote = '\x60')

include isQuote

theorem doubled_ok (name : List Char) :
    (⟨some quote, 0⟩ : Place).read? (Ident.doubled quote name ++ [quote]) = some .outer ∧
      Single ⟨some quote, 0⟩ (Ident.doubled quote name ++ [quote]) := by
  have closes : (⟨some quote, 0⟩ : Place).next quote = .outer := by simp [Place.next, Place.outer]
  have opens : Place.outer.next quote = ⟨some quote, 0⟩ := by
    simp [Place.next, Place.outer, isQuote]
  have within : (⟨some quote, 0⟩ : Place) ≠ .outer := fun same => nomatch same
  have other : quote ≠ ')' ∧ quote ≠ ',' := by rcases isQuote with rfl | rfl | rfl <;> decide
  induction name with
  | nil =>
      simp [Ident.doubled, Place.read?, single_cons_iff, single_nil, closes, within]
  | cons c rest ih =>
      obtain ⟨reads, single⟩ := ih
      by_cases same : c = quote
      · simp [Ident.doubled, Place.read?, single_cons_iff, same, closes, opens, within, other,
          reads, single]
      · have stays : (⟨some quote, 0⟩ : Place).next c = ⟨some quote, 0⟩ := by
          simp [Place.next, same]
        simp [Ident.doubled, Place.read?, single_cons_iff, same, stays, within, reads, single]

theorem quoted_ok (name : List Char) :
    Closed (Ident.quoted quote name) ∧ Single .outer (Ident.quoted quote name) := by
  have opens : Place.outer.next quote = ⟨some quote, 0⟩ := by
    simp [Place.next, Place.outer, isQuote]
  have other : quote ≠ ')' ∧ quote ≠ ',' := by rcases isQuote with rfl | rfl | rfl <;> decide
  obtain ⟨reads, single⟩ := doubled_ok isQuote name
  constructor
  · rw [Closed, Ident.quoted, Place.read?, if_neg (fun closes => other.1 closes.2), opens]
    exact reads
  · rw [Ident.quoted, single_cons_iff, opens]
    exact ⟨fun splits => other.2 splits.1, single⟩

end Quoted

/-- Texts that are not split are the items of the list that they make, each but the first behind a
blank. -/
theorem items_commaSeparated {first : List Char} {rest : List (List Char)}
    (closed : ∀ t ∈ first :: rest, Closed t) (single : ∀ t ∈ first :: rest, Single .outer t) :
    items .outer (commaSeparated (first :: rest)) = first :: rest.map (' ' :: ·) := by
  induction rest generalizing first with
  | nil =>
      rw [commaSeparated, List.intercalate_singleton]
      exact single first List.mem_cons_self
  | cons second rest ih =>
      obtain ⟨ownClosed, othersClosed⟩ := List.forall_mem_cons.mp closed
      obtain ⟨ownSingle, othersSingle⟩ := List.forall_mem_cons.mp single
      have others := ih othersClosed othersSingle
      have list : commaSeparated (first :: second :: rest) =
          first ++ ',' :: ' ' :: commaSeparated (second :: rest) := by
        simp [commaSeparated]
      have blank : Place.outer.next ' ' = .outer := rfl
      rw [list, items_append ownSingle, ownClosed.after, items, if_pos ⟨rfl, rfl⟩, items,
        if_neg (by decide), blank, others]
      simp

def Starred (item : List Char) : Prop := trim item = ['*'] ∨ ['.', '*'] <:+ trim item

theorem starred_blank_cons : Starred (' ' :: text) ↔ Starred text := by
  have same : trim (' ' :: text) = trim text := rfl
  rw [Starred, Starred, same]

theorem trim_suffix_trimEnd (text : List Char) : trim text <:+ trimEnd text := by
  obtain ⟨blanks, whole⟩ : trimStart text <:+ text := List.dropWhile_suffix isBlank
  have reversed : text.reverse = (trimStart text).reverse ++ blanks.reverse := by
    rw [← List.reverse_append, whole]
  rw [trim, trimEnd, trimEnd, List.reverse_suffix, reversed]
  change (trimStart text).reverse.dropWhile isBlank <+:
    ((trimStart text).reverse ++ blanks.reverse).dropWhile isBlank
  rw [List.dropWhile_append]
  split
  case isTrue empty =>
    rw [List.isEmpty_iff.mp empty]
    exact List.nil_prefix
  case isFalse => exact List.prefix_append _ _

theorem not_starred_of_last {c : Char} (solid : isBlank c = false) (other : c ≠ '*') :
    ¬Starred (text ++ [c]) := by
  intro starred
  have kept : trimEnd (text ++ [c]) = text ++ [c] := by
    simp [trimEnd, trimStart, solid]
  have star : ['*'] <:+ trim (text ++ [c]) := by
    rcases starred with alone | behind
    · exact alone ▸ List.suffix_rfl
    · exact (List.suffix_append ['.'] ['*']).trans behind
  have last := star.trans (trim_suffix_trimEnd _)
  rw [kept] at last
  obtain ⟨front, same⟩ := last
  exact other (List.singleton_inj.mp (List.append_inj' same rfl).2).symm

theorem single_of_known {format : String}
    (known : (Expr.template format []).hasUnknownWidth = false) :
    Single .outer format.toList ∧ ¬Starred format.toList := by
  simp only [Expr.hasUnknownWidth, Bool.or_eq_false_iff, beq_eq_false_iff_ne, ne_eq] at known
  obtain ⟨⟨alone, behind⟩, unfound⟩ := known
  refine ⟨single_of_scanComma unfound, ?_⟩
  rintro (star | dotted)
  · exact alone star
  · apply behind
    have ends := List.reverse_prefix.mpr (dotted.trans (trim_suffix_trimEnd _))
    exact (List.prefix_iff_eq_take.mp ends).symm

end Text

end SqlTree
