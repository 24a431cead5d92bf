import SqlTree.Proofs.Renderer.Lists
import SqlTree.Proofs.Text.Occurrences
import SqlTree.Proofs.Tree.WithLists
import SqlTree.Tree.Script

/-!
The WITH lists that a text shows. Each of them stands at a place of its own, and the text has
`RECURSIVE` right behind the `WITH` of those that need it and nowhere else. Texts that follow one
another keep this unless the word stands across the border; scripts whose syntax begins or ends with
other characters never let it.
-/

namespace SqlTree

def Text.recursive : List Char := "RECURSIVE".toList

/-- A WITH list and the place at which a text shows it. -/
structure WithHead where
  ctes : List Cte
  place : Nat

namespace WithHead

def isRecursive (h : WithHead) : Bool := h.ctes.any Cte.isRecursive

def opening (recursive : Bool) : List Char :=
  "WITH ".toList ++ if recursive then "RECURSIVE ".toList else []

def StandsIn (d : Dialect) (text : List Char) (h : WithHead) : Prop :=
  ∃ r : Renderer, r.dialect = d ∧ opening h.isRecursive ++
    Text.commaSeparated (r.writtenEach (Cte.scripts d h.ctes)) ++ [' '] <+: text.drop h.place

def later (n : Nat) (h : WithHead) : WithHead := ⟨h.ctes, h.place + n⟩

def words (heads : List WithHead) : List Nat :=
  (heads.filter (·.isRecursive)).map (·.place + "WITH ".length)

theorem words_cons (h : WithHead) (rest : List WithHead) :
    words (h :: rest) =
      (if h.isRecursive then [h.place + "WITH ".length] else []) ++ words rest := by
  rw [words, List.filter_cons]
  split <;> rfl

theorem words_append (heads others : List WithHead) :
    words (heads ++ others) = words heads ++ words others := by
  rw [words, List.filter_append, List.map_append, words, words]

theorem words_later (n : Nat) (heads : List WithHead) :
    words (heads.map (later n)) = (words heads).map (· + n) := by
  rw [words, words, List.filter_map, List.map_map, List.map_map]
  exact List.map_congr_left fun h _ => Nat.add_right_comm _ _ _

end WithHead

/-- The heads stand in the text, one behind the other, and it has `RECURSIVE` behind the `WITH` of
those that are recursive and nowhere else. -/
structure Text.Heads (d : Dialect) (heads : List WithHead) (text : List Char) : Prop where
  standing : ∀ h ∈ heads, h.StandsIn d text
  ordered : heads.Pairwise (·.place < ·.place)
  words : occurrences recursive text = WithHead.words heads

/-- The text shows these WITH lists, in some order. -/
def Text.Shows (d : Dialect) (lists : List (List Cte)) (text : List Char) : Prop :=
  ∃ heads, (heads.map WithHead.ctes).Perm lists ∧ Heads d heads text

section Texts

variable {d : Dialect} {a b : List Char} {first second : List (List Cte)}

namespace WithHead

theorem StandsIn.append {h : WithHead} (stands : h.StandsIn d a) (b : List Char) :
    h.StandsIn d (a ++ b) := by
  obtain ⟨r, same, whole⟩ := stands
  refine ⟨r, same, whole.trans ?_⟩
  rw [List.drop_append]
  exact List.prefix_append _ _

theorem StandsIn.behind {h : WithHead} (stands : h.StandsIn d b) (a : List Char) :
    (h.later a.length).StandsIn d (a ++ b) := by
  obtain ⟨r, same, whole⟩ := stands
  refine ⟨r, same, ?_⟩
  show _ <+: (a ++ b).drop (h.place + a.length)
  rw [Nat.add_comm, ← List.drop_drop, List.drop_left]
  exact whole

theorem StandsIn.place_lt {h : WithHead} (stands : h.StandsIn d a) : h.place < a.length := by
  obtain ⟨r, -, whole⟩ := stands
  by_contra beyond
  rw [List.drop_eq_nil_of_le (Nat.le_of_not_lt beyond)] at whole
  simp at whole

end WithHead

namespace Text

theorem Shows.perm (shown : Shows d first a) (same : first.Perm second) : Shows d second a := by
  obtain ⟨heads, lists, whole⟩ := shown
  exact ⟨heads, lists.trans same, whole⟩

theorem shows_of_no_word (none : occurrences recursive a = []) : Shows d [] a :=
  ⟨[], .refl _, List.forall_mem_nil _, .nil, none⟩

theorem Heads.append {heads others : List WithHead} (left : Heads d heads a)
    (right : Heads d others b) (apart : Apart recursive a b) :
    Heads d (heads ++ others.map (.later a.length)) (a ++ b) where
  standing := by
    intro h member
    rcases List.mem_append.mp member with old | new
    · exact (left.standing h old).append b
    · obtain ⟨own, among, rfl⟩ := List.mem_map.mp new
      exact (right.standing own among).behind a
  ordered := by
    rw [List.pairwise_append, List.pairwise_map]
    refine ⟨left.ordered, right.ordered.imp fun less => Nat.add_lt_add_right less _, ?_⟩
    intro h old other new
    obtain ⟨own, -, rfl⟩ := List.mem_map.mp new
    exact Nat.lt_of_lt_of_le (left.standing h old).place_lt (Nat.le_add_left _ _)
  words := by
    rw [occurrences_append apart, left.words, right.words, WithHead.words_append,
      WithHead.words_later]

theorem Shows.append (left : Shows d first a) (right : Shows d second b)
    (apart : Apart recursive a b) : Shows d (first ++ second) (a ++ b) := by
  obtain ⟨heads, lists, stand⟩ := left
  obtain ⟨others, more, follow⟩ := right
  refine ⟨_, ?_, stand.append follow apart⟩
  rw [List.map_append, List.map_map]
  exact lists.append more

theorem Shows.opened {r : Renderer} (dialect : r.dialect = d) {ctes : List Cte}
    {lists : List (List Cte)}
    (inner : Shows d lists (commaSeparated (r.writtenEach (Cte.scripts d ctes)))) :
    Shows d (ctes :: lists) (WithHead.opening (ctes.any Cte.isRecursive) ++
      commaSeparated (r.writtenEach (Cte.scripts d ctes)) ++ [' ']) := by
  obtain ⟨heads, same, stand⟩ := inner
  have front : occurrences recursive (WithHead.opening (ctes.any Cte.isRecursive)) =
      if ctes.any Cte.isRecursive then ["WITH ".length] else [] := by
    cases ctes.any Cte.isRecursive <;> decide
  have sign : ∀ c ∈ some ' ', c ∉ recursive := by
    rintro c ⟨⟩
    decide
  have filled : 0 < (WithHead.opening (ctes.any Cte.isRecursive)).length := by
    cases ctes.any Cte.isRecursive <;> decide
  have into : Apart recursive (WithHead.opening (ctes.any Cte.isRecursive))
      (commaSeparated (r.writtenEach (Cte.scripts d ctes))) := by
    have blank : (WithHead.opening (ctes.any Cte.isRecursive)).getLast? = some ' ' := by
      cases ctes.any Cte.isRecursive <;> decide
    exact Apart.of_last (blank ▸ sign)
  have out : Apart recursive (WithHead.opening (ctes.any Cte.isRecursive) ++
      commaSeparated (r.writtenEach (Cte.scripts d ctes))) [' '] := Apart.of_head sign
  generalize opened : WithHead.opening (ctes.any Cte.isRecursive) = opening
    at front filled into out ⊢
  refine ⟨⟨ctes, 0⟩ :: heads.map (.later opening.length), ?_, ?_, ?_, ?_⟩
  · rw [List.map_cons, List.map_map]
    exact same.cons ctes
  · refine List.forall_mem_cons.mpr ⟨⟨r, dialect, ?_⟩, List.forall_mem_map.mpr fun h among => ?_⟩
    · rw [WithHead.isRecursive, opened]
      exact List.prefix_rfl
    · exact ((stand.standing h among).behind opening).append [' ']
  · rw [List.pairwise_cons, List.forall_mem_map, List.pairwise_map]
    exact ⟨fun h _ => Nat.lt_of_lt_of_le filled (Nat.le_add_left _ _),
      stand.ordered.imp fun less => Nat.add_lt_add_right less _⟩
  · have blank : occurrences recursive [' '] = [] := by decide
    rw [occurrences_append out, occurrences_append into, front, blank, stand.words, List.map_nil,
      List.append_nil, ← WithHead.words_later, WithHead.words_cons]
    rfl

end Text

end Texts

/-! ### Scripts -/

/-- Text of SQL itself that may stand before anything: it does not have the word, and ends in no
character of it. -/
def isFront (text : String) : Bool :=
  Text.occurrences Text.recursive text.toList == [] &&
    text.toList.getLast?.any (· ∉ Text.recursive)

def isBack (text : String) : Bool :=
  Text.occurrences Text.recursive text.toList == [] && text.toList.head?.any (· ∉ Text.recursive)

def isBetween (text : String) : Bool := isBack text && isFront text

namespace Script

def Shows (d : Dialect) (lists : List (List Cte)) (s : Script) : Prop :=
  s.fault = none → ∀ r : Renderer, r.dialect = d → Text.Shows d lists (r.written s)

def Begins (s : Script) : Prop :=
  s.fault = none → ∀ r : Renderer, ∀ c ∈ (r.written s).head?, c ∉ Text.recursive

def Ends (s : Script) : Prop :=
  s.fault = none → ∀ r : Renderer, ∀ c ∈ (r.written s).getLast?, c ∉ Text.recursive

structure Follows (d : Dialect) (lists : List (List Cte)) (s : Script) : Prop where
  shown : s.Shows d lists
  begins : s.Begins

/-- A check: without a fault it is nothing at all. -/
def Silent (s : Script) : Prop := s.fault = none → s = empty

variable {d : Dialect} {a b s : Script} {lists first second : List (List Cte)} {k : String}

theorem Shows.join (left : a.Shows d first) (right : b.Shows d second)
    (border : a.fault = none → b.fault = none → ∀ r : Renderer,
      Text.Apart Text.recursive (r.written a) ((r.write a).written b)) :
    (a ++ b).Shows d (first ++ second) := by
  intro ok r same
  obtain ⟨own, other⟩ := append_isOk ok
  rw [r.written_append own]
  exact (left own r same).append (right other _ ((r.write_dialect a).trans same))
    (border own other r)

theorem Ends.join (ends : a.Ends) (left : a.Shows d first) (right : b.Shows d second) :
    (a ++ b).Shows d (first ++ second) := left.join right fun own _ r => .of_last (ends own r)

theorem Shows.append (left : a.Shows d first) (right : b.Follows d second) :
    (a ++ b).Shows d (first ++ second) :=
  left.join right.shown fun _ other _ => .of_head (right.begins other _)

theorem Shows.followed (left : a.Shows d lists) (right : b.Follows d []) :
    (a ++ b).Shows d lists := by
  have whole := left.append right
  rwa [List.append_nil] at whole

theorem Begins.append (left : a.Begins) (right : b.Begins) : (a ++ b).Begins := by
  intro ok r c first
  obtain ⟨own, other⟩ := append_isOk ok
  rw [r.written_append own, List.head?_append] at first
  cases empty : (r.written a).head? with
  | none =>
      rw [empty] at first
      exact right other _ c first
  | some x =>
      rw [empty] at first
      exact left own r c (empty ▸ first)

theorem Follows.append (left : a.Follows d first) (right : b.Follows d second) :
    (a ++ b).Follows d (first ++ second) :=
  ⟨left.shown.append right, left.begins.append right.begins⟩

theorem Follows.followed (left : a.Follows d lists) (right : b.Follows d []) :
    (a ++ b).Follows d lists := ⟨left.shown.followed right, left.begins.append right.begins⟩

theorem Shows.perm (shown : s.Shows d first) (same : first.Perm second) : s.Shows d second :=
  fun ok r dialect => (shown ok r dialect).perm same

theorem Follows.perm (follows : s.Follows d first) (same : first.Perm second) :
    s.Follows d second := ⟨follows.shown.perm same, follows.begins⟩

section Checks

theorem silent_require (condition : Bool) (fault : Fault) : (require condition fault).Silent := by
  intro ok
  cases condition with
  | true => rfl
  | false => exact nomatch ok

theorem silent_failure (fault : Fault) : (failure fault).Silent := fun ok => nomatch ok

theorem Silent.append (left : a.Silent) (right : b.Silent) : (a ++ b).Silent := by
  intro ok
  obtain ⟨own, other⟩ := append_isOk ok
  rw [left own, right other]
  rfl

theorem Silent.follows (silent : s.Silent) : s.Follows d [] := by
  constructor
  · intro ok r _
    rw [silent ok]
    exact Text.shows_of_no_word rfl
  · intro ok r c first
    rw [silent ok] at first
    exact nomatch first

theorem Silent.before (silent : a.Silent) (shown : b.Shows d lists) : (a ++ b).Shows d lists := by
  intro ok r same
  have none := silent (append_isOk ok).1
  subst none
  exact shown ok r same

theorem Silent.before_ends (silent : a.Silent) (ends : b.Ends) : (a ++ b).Ends := by
  intro ok
  have none := silent (append_isOk ok).1
  subst none
  exact ends ok

end Checks

theorem follows_empty : empty.Follows d [] := Silent.follows fun _ => rfl

theorem follows_failure (fault : Fault) : (failure fault).Follows d lists :=
  ⟨fun ok => (nomatch ok), fun ok => (nomatch ok)⟩

theorem Follows.onlyIf (condition : Bool) (follows : s.Follows d []) :
    (onlyIf condition s).Follows d [] := by
  cases condition with
  | false => exact follows_empty
  | true => exact follows

section Syntax

theorem shows_text (none : Text.occurrences Text.recursive k.toList = []) :
    (text k).Shows d [] := by
  intro _ r _
  rw [r.written_text]
  exact Text.shows_of_no_word none

theorem follows_text (back : isBack k = true) : (text k).Follows d [] := by
  obtain ⟨none, first⟩ := Bool.and_eq_true_iff.mp back
  refine ⟨shows_text (beq_iff_eq.mp none), fun _ r c begins => ?_⟩
  rw [r.written_text] at begins
  rw [Option.mem_def.mp begins, Option.any_some, decide_eq_true_eq] at first
  exact first

theorem Shows.behind (front : isFront k = true) (shown : s.Shows d lists) :
    (text k ++ s).Shows d lists := by
  obtain ⟨none, last⟩ := Bool.and_eq_true_iff.mp front
  refine Ends.join (fun _ r c ends => ?_) (shows_text (beq_iff_eq.mp none)) shown
  rw [r.written_text] at ends
  rw [Option.mem_def.mp ends, Option.any_some, decide_eq_true_eq] at last
  exact last

theorem Ends.infix_text (ends : a.Ends) (left : a.Shows d first) (front : isFront k = true)
    (right : b.Shows d second) : (a ++ text k ++ b).Shows d (first ++ second) := by
  rw [append_assoc]
  exact ends.join left (right.behind front)

theorem Shows.beyond (between : isBetween k = true) (shown : s.Shows d lists) :
    (text k ++ s).Follows d lists := by
  obtain ⟨back, front⟩ := Bool.and_eq_true_iff.mp between
  refine ⟨shown.behind front, ?_⟩
  intro ok r c first
  obtain ⟨-, filled⟩ := Bool.and_eq_true_iff.mp back
  rw [r.written_text_append, List.head?_append] at first
  cases begins : k.toList.head? with
  | none => simp [begins] at filled
  | some x =>
      rw [begins] at first
      have written : c ∈ (r.written (text k)).head? := by
        rw [r.written_text, begins]
        exact first
      exact (follows_text (d := d) back).begins rfl r c written

theorem Shows.enclosed (front : isFront k = true) (shown : s.Shows d lists) :
    (text k ++ s ++ text ")").Shows d lists :=
  (shown.behind front).followed (follows_text (by decide))

theorem Shows.enclosed_beyond (between : isBetween k = true) (shown : s.Shows d lists) :
    (text k ++ s ++ text ")").Follows d lists :=
  (shown.beyond between).followed (follows_text (by decide))

theorem Shows.parens (shown : s.Shows d lists) : (parens s).Follows d lists :=
  shown.enclosed_beyond (by decide)

theorem Shows.infix_text (left : a.Shows d first) (between : isBetween k = true)
    (right : b.Shows d second) : (a ++ text k ++ b).Shows d (first ++ second) := by
  rw [append_assoc]
  exact left.append (right.beyond between)

theorem Follows.infix_text (left : a.Follows d first) (between : isBetween k = true)
    (right : b.Shows d second) : (a ++ text k ++ b).Follows d (first ++ second) := by
  rw [append_assoc]
  exact left.append (right.beyond between)

end Syntax

/-! ### Lists of scripts -/

section Lists

variable {α : Type} {f : α → Script} {g : α → List (List Cte)} {list : List α}

theorem Shows.separated (between : isBetween k = true) (each : ∀ x ∈ list, (f x).Shows d (g x)) :
    (separated k (list.map f)).Shows d (list.flatMap g) := by
  induction list with
  | nil => exact follows_empty.shown
  | cons x rest ih =>
      obtain ⟨own, others⟩ := List.forall_mem_cons.mp each
      cases rest with
      | nil =>
          rw [List.flatMap_cons, List.flatMap_nil, List.append_nil]
          exact own
      | cons next rest => exact own.infix_text between (ih others)

theorem Shows.listClause (between : isBetween k = true) (each : ∀ x ∈ list, (f x).Shows d (g x)) :
    (listClause k (list.map f)).Follows d (list.flatMap g) := by
  cases list with
  | nil => exact follows_empty
  | cons x rest => exact (Shows.separated (by decide) each).beyond between

theorem Shows.group (op : Connective) (outermost : Bool) (each : ∀ x ∈ list, (f x).Shows d (g x)) :
    (group op outermost (list.map f)).Shows d (list.flatMap g) := by
  have between : isBetween op.separator = true := by cases op <;> decide
  match list, each with
  | [], _ => exact follows_empty.shown
  | [x], each =>
      rw [List.flatMap_cons, List.flatMap_nil, List.append_nil]
      exact each x List.mem_cons_self
  | x :: next :: rest, each =>
      cases outermost with
      | true => exact Shows.separated between each
      | false => exact (Shows.separated between each).parens.shown

theorem Shows.conditions (between : isBetween k = true) (each : ∀ x ∈ list, (f x).Shows d (g x)) :
    (conditions k (list.map f)).Follows d (list.flatMap g) := by
  cases list with
  | nil => exact follows_empty
  | cons x rest => exact (Shows.group .and true each).beyond between

theorem Shows.joinsClause (each : ∀ x ∈ list, (f x).Shows d (g x)) :
    (joinsClause (list.map f)).Follows d (list.flatMap g) := by
  cases list with
  | nil => exact follows_empty
  | cons x rest => exact (Shows.separated (by decide) each).beyond (by decide)

end Lists

theorem written_withClause {ctes : List Cte} (filled : ctes ≠ [])
    (ok : (withClause ctes (Cte.scripts d ctes)).fault = none) (r : Renderer) :
    r.written (withClause ctes (Cte.scripts d ctes)) =
      WithHead.opening (ctes.any Cte.isRecursive) ++
        Text.commaSeparated (r.writtenEach (Cte.scripts d ctes)) ++ [' '] := by
  have some : (!ctes.isEmpty) = true := by simpa using filled
  rw [withClause, onlyIf, if_pos some] at ok ⊢
  obtain ⟨front, defined⟩ := append_isOk (append_isOk ok).1
  have opened : r.written (text "WITH " ++ onlyIf (ctes.any Cte.isRecursive) (text "RECURSIVE ")) =
      WithHead.opening (ctes.any Cte.isRecursive) := by
    cases ctes.any Cte.isRecursive <;>
      simp [WithHead.opening, r.written_text_append, onlyIf]
  have alike : (r.write (text "WITH " ++
      onlyIf (ctes.any Cte.isRecursive) (text "RECURSIVE "))).untexted = r.untexted := by
    cases ctes.any Cte.isRecursive <;> rfl
  rw [r.written_append_text (append_isOk ok).1, r.written_append front, opened,
    Renderer.written_congr alike, r.written_separated ", " (separated_isOk defined)]
  rfl

/-- A WITH list, and the lists in its definitions. -/
theorem Shows.withClause {ctes : List Cte} (each : ∀ c ∈ ctes, (c.script d).Shows d c.withLists) :
    (withClause ctes (Cte.scripts d ctes)).Shows d (Cte.ownLists ctes ++ Cte.withListsOf ctes) := by
  by_cases blank : ctes = []
  · subst blank
    exact follows_empty.shown
  · intro ok r same
    have some : (!ctes.isEmpty) = true := by simpa using blank
    have definitions :
        (Script.separated ", " (Cte.scripts d ctes)).Shows d (Cte.withListsOf ctes) := by
      rw [Cte.scripts_eq_map, Cte.withListsOf_eq]
      exact Shows.separated (by decide) each
    have defined : (Script.separated ", " (Cte.scripts d ctes)).fault = none := by
      rw [Script.withClause, onlyIf, if_pos some] at ok
      exact (append_isOk (append_isOk ok).1).2
    have inner := definitions defined r same
    rw [r.written_separated ", " (separated_isOk defined)] at inner
    have own : Cte.ownLists ctes = [ctes] := if_neg (by simpa using blank)
    rw [written_withClause blank ok, own]
    exact inner.opened same

theorem ends_withClause (ctes : List Cte) : (withClause ctes (Cte.scripts d ctes)).Ends := by
  intro ok r c last
  by_cases blank : ctes = []
  · subst blank
    exact nomatch last
  · rw [written_withClause blank ok, List.getLast?_concat, Option.mem_some_iff] at last
    subst last
    decide

end Script

end SqlTree
