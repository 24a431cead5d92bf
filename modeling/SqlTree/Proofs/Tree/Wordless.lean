import SqlTree.Proofs.Renderer.WithHeads
import SqlTree.Proofs.Tree.Closed
import SqlTree.Proofs.Tree.Parts

/-!
Texts without the word `RECURSIVE`. Written identifiers and join keywords have it only if their
names do. A template without it can still be completed to it, by what fills its slots; one that
cannot shows just the WITH lists of its operands.
-/

namespace SqlTree

namespace Text

def Wordless (text : List Char) : Prop := ¬ recursive <:+: text

instance : DecidablePred Wordless := fun text =>
  inferInstanceAs (Decidable (¬ recursive <:+: text))

theorem occurrences_of_wordless {text : List Char} (wordless : Wordless text) :
    occurrences recursive text = [] := (occurrences_eq_nil_iff (by decide) text).mpr wordless

theorem wordless_of_not_mem {text : List Char} (other : 'R' ∉ text) : Wordless text :=
  fun within => other (within.subset (by decide))

theorem Wordless.of_part {text whole : List Char} (wordless : Wordless whole)
    (part : text <:+: whole) : Wordless text := fun within => wordless (within.trans part)

/-- Text beside the filled slots of a template that cannot be completed to the word: before a slot
it ends in no beginning of the word, behind one it begins with no end of it, and between two it is
no middle of it. -/
structure SlotsKeep (texts : List (List Char)) (filled : Nat) : Prop where
  before : ∀ text ∈ texts.take filled, ∀ u v, u ++ v = recursive → u ≠ [] → ¬ u <:+ text
  behind : ∀ text ∈ texts.tail.take filled, ∀ u v, u ++ v = recursive → v ≠ [] → ¬ v <+: text
  between : ∀ text ∈ texts.tail.take (filled - 1), ∀ u v, u ++ text ++ v = recursive →
    u = [] ∨ v = []

/-- Spaces, brackets and operators around the slots keep the word from them. -/
theorem SlotsKeep.of_borders {texts : List (List Char)} {filled : Nat}
    (before : ∀ text ∈ texts.take filled, text.getLast?.all (· ∉ recursive))
    (behind : ∀ text ∈ texts.tail.take filled, text.head?.all (· ∉ recursive))
    (apart : ∀ text ∈ texts.tail.take (filled - 1), text ≠ []) : SlotsKeep texts filled where
  before := by
    rintro text member u v whole some ⟨front, rfl⟩
    have other := before _ member
    rw [List.getLast?_append, List.getLast?_eq_some_getLast some, Option.some_or, Option.all_some,
      decide_eq_true_eq] at other
    exact other (whole ▸ List.mem_append_left v (List.getLast_mem some))
  behind := by
    rintro text member u v whole some ⟨rest, rfl⟩
    have other := behind _ member
    rw [List.head?_append, List.head?_eq_some_head some, Option.some_or, Option.all_some,
      decide_eq_true_eq] at other
    exact other (whole ▸ List.mem_append_right u (List.head_mem some))
  between := by
    intro text member u v whole
    have some := apart text member
    have other := behind text (List.take_subset_take_left _ (Nat.sub_le filled 1) member)
    rw [List.head?_eq_some_head some, Option.all_some, decide_eq_true_eq] at other
    refine absurd ?_ other
    rw [← whole]
    exact List.mem_append_left v (List.mem_append_right u (List.head_mem some))

end Text

namespace TextRule

def withoutWord : TextRule where
  name n := Text.Wordless n.toList
  keyword k := Text.Wordless k.toList
  template format _ := Text.Wordless format.toList

/-- Nor can a template be completed to it, by what fills its slots. -/
def wordless : TextRule where
  name := withoutWord.name
  keyword := withoutWord.keyword
  template format operands := withoutWord.template format operands ∧
    Text.SlotsKeep (Script.slotTexts format.toList) operands

end TextRule

/-! ### Identifiers and join keywords -/

namespace Ident

theorem prefix_of_prefix_doubled {quote : Char} {word name : List Char} (other : quote ∉ word)
    (begins : word <+: doubled quote name) : word <+: name := by
  induction name generalizing word with
  | nil => exact begins
  | cons c rest ih =>
      cases word with
      | nil => exact List.nil_prefix
      | cons w word =>
          obtain ⟨first, others⟩ := not_or.mp (mt List.mem_cons.mpr other)
          rw [doubled] at begins
          split at begins
          · exact absurd (List.cons_prefix_cons.mp begins).1.symm first
          · obtain ⟨rfl, behind⟩ := List.cons_prefix_cons.mp begins
            exact List.cons_prefix_cons.mpr ⟨rfl, ih others behind⟩

theorem infix_of_infix_doubled {quote : Char} {word name : List Char} (other : quote ∉ word)
    (some : word ≠ []) (within : word <:+: doubled quote name) : word <:+: name := by
  have quoteless {rest : List Char} : ¬ word <+: quote :: rest := by
    intro begins
    obtain ⟨w, others, rfl⟩ := List.exists_cons_of_ne_nil some
    exact other ((List.cons_prefix_cons.mp begins).1 ▸ List.mem_cons_self)
  induction name with
  | nil => exact within
  | cons c rest ih =>
      rw [doubled] at within
      split at within
      · rcases List.infix_cons_iff.mp within with begins | within
        · exact absurd begins quoteless
        · rcases List.infix_cons_iff.mp within with begins | within
          · exact absurd begins quoteless
          · exact List.infix_cons (ih within)
      · rcases List.infix_cons_iff.mp within with begins | within
        · rename_i different
          have kept : doubled quote (c :: rest) = c :: doubled quote rest := if_neg different
          exact (prefix_of_prefix_doubled other (kept ▸ begins)).isInfix
        · exact List.infix_cons (ih within)

theorem wordless_of_write {d : Dialect} {name written : String} (ok : write d name = .ok written)
    (wordless : Text.Wordless name.toList) : Text.Wordless written.toList := by
  have quote : d.quote ∉ Text.recursive := by cases d <;> decide
  unfold write at ok
  simp only at ok
  split at ok
  · exact nomatch ok
  split at ok
  · exact nomatch ok
  split at ok
  · rw [← Except.ok.inj ok]
    exact wordless
  · rw [← Except.ok.inj ok, String.toList_ofList, quoted]
    have inner : Text.Wordless (doubled d.quote name.toList) := fun within =>
      wordless (infix_of_infix_doubled quote (by decide) within)
    have sign : Text.occurrences Text.recursive [d.quote] = [] := by cases d <;> decide
    have left : Text.Apart Text.recursive [d.quote] (doubled d.quote name.toList ++ [d.quote]) :=
      .of_last (by simpa using quote)
    have right : Text.Apart Text.recursive (doubled d.quote name.toList) [d.quote] :=
      .of_head (by simpa using quote)
    refine (Text.occurrences_eq_nil_iff (by decide) _).mp ?_
    rw [← List.singleton_append, Text.occurrences_append left, Text.occurrences_append right, sign,
      Text.occurrences_of_wordless inner]
    rfl

end Ident

theorem Text.trim_within (text : List Char) : trim text <:+: text := by
  have inner : trim text <+: trimStart text := by
    rw [trim, trimEnd, trimStart, ← List.reverse_suffix, List.reverse_reverse]
    exact List.dropWhile_suffix _
  exact inner.isInfix.trans (List.dropWhile_suffix _).isInfix

namespace Script

variable {d : Dialect}

theorem shows_wordless {s : Script} (wordless : s.fault = none → ∀ r : Renderer,
    Text.Wordless (r.written s)) : s.Shows d [] :=
  fun ok r _ => Text.shows_of_no_word (Text.occurrences_of_wordless (wordless ok r))

theorem shows_ident (name : String) (wordless : Text.Wordless name.toList) :
    (ident d name).Shows d [] := by
  unfold ident
  split
  case h_1 written ok =>
    apply shows_text
    exact Text.occurrences_of_wordless (Ident.wordless_of_write ok wordless)
  case h_2 => exact (silent_failure _).follows.shown

theorem wordless_keyword {keyword : String} (wordless : Text.Wordless keyword.toList) :
    Text.Wordless (JoinKind.custom keyword).keyword.toList := by
  simp only [JoinKind.keyword]
  split
  · exact (Text.occurrences_eq_nil_iff (by decide) _).mp (by decide)
  · rw [String.toList_ofList]
    exact wordless.of_part (Text.trim_within _)

theorem isFront_word {word : String} (wordless : Text.Wordless word.toList) :
    isFront (word ++ " ") = true := by
  have blank : Text.occurrences Text.recursive [' '] = [] := by decide
  have apart : ∀ c ∈ [' '].head?, c ∉ Text.recursive := by
    rintro c ⟨⟩
    decide
  have whole : (word ++ " ").toList = word.toList ++ [' '] := by
    rw [String.toList_append]
    rfl
  rw [isFront, whole, Text.occurrences_append (.of_head apart),
    Text.occurrences_of_wordless wordless, blank, List.getLast?_concat, List.map_nil]
  decide

theorem shows_integer (n : Int64) : (integer n).Shows d [] := by
  refine shows_text (Text.occurrences_of_wordless (Text.wordless_of_not_mem ?_))
  rw [Text.integer, String.toList_ofList, Text.integerChars]
  have digits : 'R' ∉ Nat.toDigits 10 n.toInt.natAbs := Text.not_mem_toDigits _ rfl
  split
  · exact not_or.mpr ⟨by decide, digits⟩ ∘ List.mem_cons.mp
  · exact digits

theorem mark_wordless (r : Renderer) (p : Piece) (sign : p.slot?.isSome = true) :
    Text.Wordless (r.mark p).written.toList := by
  have numbered (n : Nat) : 'R' ∉ (Mark.numbered n).written.toList := by
    rw [Mark.written, String.toList_append, Nat.toList_repr]
    exact not_or.mpr ⟨by decide, Text.not_mem_toDigits n rfl⟩ ∘ List.mem_append.mp
  have anonymous : 'R' ∉ Mark.anonymous.written.toList := by decide
  apply Text.wordless_of_not_mem
  cases p with
  | text s => exact absurd sign Bool.false_ne_true
  | value v =>
      rw [Renderer.mark]
      split
      · exact numbered _
      · exact anonymous
  | shared name v =>
      rw [Renderer.mark]
      split
      · exact numbered _
      · exact anonymous

theorem shows_slot (p : Piece) (sign : p.slot?.isSome = true) : (ofPiece p).Shows d [] := by
  refine shows_wordless fun _ r => ?_
  rw [written_mark]
  exact mark_wordless r p sign

end Script

/-! ### Templates -/

namespace Text

/-- No end of the word, with something before it, begins the text. -/
def Receives (text : List Char) : Prop :=
  ∀ u v, u ++ v = recursive → u ≠ [] → v ≠ [] → ¬ v <+: text

theorem receives_append {text rest : List Char}
    (noEnd : ∀ u v, u ++ v = recursive → v ≠ [] → ¬ v <+: text)
    (noMiddle : ∀ u v, u ++ text ++ v = recursive → u = [] ∨ v = []) : Receives (text ++ rest) := by
  rintro u v whole before behind ⟨more, begins⟩
  rcases List.append_eq_append_iff.mp begins with ⟨w, rfl, -⟩ | ⟨w, rfl, -⟩
  · exact noEnd u v whole behind (List.prefix_append v w)
  · rcases noMiddle u w (by rw [List.append_assoc, whole]) with none | none
    · exact before none
    · rw [none, List.append_nil] at whole behind
      exact noEnd u text whole behind List.prefix_rfl

theorem receives_of_noEnd {text : List Char}
    (noEnd : ∀ u v, u ++ v = recursive → v ≠ [] → ¬ v <+: text) : Receives text :=
  fun u v whole _ => noEnd u v whole

theorem receives_unfilled {text rest : List Char}
    (noEnd : ∀ u v, u ++ v = recursive → v ≠ [] → ¬ v <+: text) :
    Receives (text ++ '?' :: rest) := by
  rintro u v whole - behind ⟨more, begins⟩
  rcases List.append_eq_append_iff.mp begins with ⟨w, rfl, -⟩ | ⟨w, rfl, slot⟩
  · exact noEnd u v whole behind (List.prefix_append v w)
  · cases w with
    | nil =>
        rw [List.append_nil] at whole behind
        exact noEnd u text whole behind List.prefix_rfl
    | cons c w =>
        rw [List.cons_append] at slot
        have sign : '?' ∈ recursive := by
          rw [← whole, (List.cons.inj slot).1]
          simp
        exact absurd sign (by decide)

theorem Receives.apart {b : List Char} (receives : Receives b) (a : List Char) :
    Apart recursive a b := fun u v whole before behind _ => receives u v whole before behind

end Text

namespace Script

variable {d : Dialect} {α : Type} {f : α → Script} {g : α → List (List Cte)}

theorem slotTexts_parts {format : List Char} {first : List Char} {others : List (List Char)}
    (split : slotTexts format = first :: others) :
    first <+: format ∧ ∀ text ∈ others, text <:+: format := by
  induction format generalizing first others with
  | nil =>
      obtain ⟨rfl, rfl⟩ := List.cons.inj split
      exact ⟨List.prefix_rfl, List.forall_mem_nil _⟩
  | cons c rest ih =>
      by_cases slot : c = '?'
      · obtain ⟨next, more, inner⟩ := List.exists_cons_of_ne_nil (slotTexts_ne_nil rest)
        rw [slotTexts, if_pos slot, inner] at split
        obtain ⟨rfl, rfl⟩ := List.cons.inj split
        obtain ⟨begins, parts⟩ := ih inner
        exact ⟨List.nil_prefix, List.forall_mem_cons.mpr ⟨List.infix_cons begins.isInfix,
          fun text member => List.infix_cons (parts text member)⟩⟩
      · obtain ⟨next, more, inner, whole⟩ := slotTexts_cons slot rest
        rw [whole] at split
        obtain ⟨rfl, rfl⟩ := List.cons.inj split
        obtain ⟨begins, parts⟩ := ih inner
        exact ⟨List.cons_prefix_cons.mpr ⟨rfl, begins⟩,
          fun text member => List.infix_cons (parts text member)⟩

theorem slotTexts_wordless {format : List Char} (wordless : Text.Wordless format) :
    ∀ text ∈ slotTexts format, Text.Wordless text := by
  obtain ⟨first, others, split⟩ := List.exists_cons_of_ne_nil (slotTexts_ne_nil format)
  obtain ⟨begins, parts⟩ := slotTexts_parts split
  rw [split, List.forall_mem_cons]
  exact ⟨wordless.of_part begins.isInfix, fun text member => wordless.of_part (parts text member)⟩

theorem shows_chars {text : List Char} (wordless : Text.Wordless text) :
    (Script.text (String.ofList text)).Shows d [] := by
  apply shows_text
  rw [String.toList_ofList]
  exact Text.occurrences_of_wordless wordless

theorem Shows.slotted {s : Script} {lists : List (List Cte)} {text : List Char}
    (shown : s.Shows d lists) (wordless : Text.Wordless text)
    (before : ∀ u v, u ++ v = Text.recursive → u ≠ [] → ¬ u <:+ text) :
    (Script.text (String.ofList text) ++ s).Shows d lists := by
  refine (shows_chars wordless).join shown fun _ _ r => ?_
  rw [r.written_text, String.toList_ofList]
  exact fun u v whole some _ ends _ => before u v whole some ends

theorem shows_unfilled {texts : List (List Char)} (wordless : ∀ text ∈ texts, Text.Wordless text) :
    (fill texts []).Shows d [] := by
  induction texts with
  | nil => exact follows_empty.shown
  | cons text rest ih =>
      obtain ⟨own, others⟩ := List.forall_mem_cons.mp wordless
      cases rest with
      | nil => exact shows_chars own
      | cons next more => exact (shows_chars own).infix_text (k := "?") (by decide) (ih others)

/-- The texts behind the first slot, with the operands that fill the others: the lists of the
operands are shown, and whatever fills the first slot, the word does not stand across its end. -/
theorem shows_fill {texts : List (List Char)} {list : List α}
    (each : ∀ x ∈ list, (f x).Shows d (g x)) (enough : list.length < texts.length)
    (wordless : ∀ text ∈ texts, Text.Wordless text)
    (before : ∀ text ∈ texts.take list.length, ∀ u v, u ++ v = Text.recursive → u ≠ [] →
      ¬ u <:+ text)
    (behind : ∀ text ∈ texts.take (list.length + 1), ∀ u v, u ++ v = Text.recursive → v ≠ [] →
      ¬ v <+: text)
    (between : ∀ text ∈ texts.take list.length, ∀ u v, u ++ text ++ v = Text.recursive →
      u = [] ∨ v = []) :
    (fill texts (list.map f)).Shows d (list.flatMap g) ∧
      ((fill texts (list.map f)).fault = none → ∀ r : Renderer,
        Text.Receives (r.written (fill texts (list.map f)))) := by
  induction texts generalizing list with
  | nil => exact absurd enough (Nat.not_lt_zero _)
  | cons text rest ih =>
      obtain ⟨own, others⟩ := List.forall_mem_cons.mp wordless
      have noEnd := behind text (by simp)
      cases list with
      | nil =>
          refine ⟨shows_unfilled wordless, fun _ r => ?_⟩
          cases rest with
          | nil =>
              rw [List.map_nil, fill, r.written_text, String.toList_ofList]
              exact Text.receives_of_noEnd noEnd
          | cons next texts =>
              rw [List.map_nil, fill, append_assoc, r.written_text_append, String.toList_ofList,
                Renderer.written_text_append]
              · exact Text.receives_unfilled noEnd
              · exact List.cons_ne_nil next texts
      | cons x more =>
          cases rest with
          | nil => exact absurd enough (by simp)
          | cons next texts =>
              obtain ⟨shown, receives⟩ := ih (List.forall_mem_cons.mp each).2
                (Nat.lt_of_succ_lt_succ enough) others
                (fun t member => before t (List.mem_cons_of_mem text member))
                (fun t member => behind t (List.mem_cons_of_mem text member))
                (fun t member => between t (List.mem_cons_of_mem text member))
              have filled := (each x List.mem_cons_self).slotted own
                (before text List.mem_cons_self)
              constructor
              · exact filled.join shown fun _ ok r => (receives ok _).apart _
              · intro ok r
                rw [List.map_cons, fill, append_assoc, r.written_text_append, String.toList_ofList]
                · exact Text.receives_append noEnd (between text List.mem_cons_self)
                · exact List.cons_ne_nil next texts

theorem shows_template (format : String) {list : List α} (each : ∀ x ∈ list, (f x).Shows d (g x))
    (wordless : Text.Wordless format.toList)
    (keep : Text.SlotsKeep (slotTexts format.toList) list.length) :
    (template format (list.map f)).Shows d (list.flatMap g) := by
  intro ok
  have enough := (template_isOk ok).1
  rw [List.length_map] at enough
  have slots := length_slotTexts format.toList
  have texts := slotTexts_wordless wordless
  suffices filled : (fill (slotTexts format.toList) (list.map f)).Shows d (list.flatMap g) from
    filled.followed (silent_require _ _).follows ok
  obtain ⟨first, rest, split⟩ := List.exists_cons_of_ne_nil (slotTexts_ne_nil format.toList)
  rw [split] at texts keep slots ⊢
  cases list with
  | nil => exact shows_unfilled texts
  | cons x more =>
      cases rest with
      | nil =>
          simp only [List.length_cons, List.length_nil] at enough slots
          omega
      | cons next others =>
          obtain ⟨own, behind⟩ := List.forall_mem_cons.mp texts
          obtain ⟨operand, operands⟩ := List.forall_mem_cons.mp each
          simp only [List.length_cons] at enough slots
          obtain ⟨shown, receives⟩ := shows_fill operands (by simp only [List.length_cons]; omega)
            behind (fun t member => keep.before t (List.mem_cons_of_mem first member)) keep.behind
            keep.between
          have filled := operand.slotted own (keep.before first List.mem_cons_self)
          exact filled.join shown fun _ ok r => (receives ok _).apart _

/-! Nothing less keeps the word from the slots: else it takes no more than texts that are parts of
the word to complete the template to it. -/

def texts (operands : List (List Char)) : List Script :=
  operands.map fun operand => text (String.ofList operand)

variable {r : Renderer}

theorem written_fill_cons (t next o : List Char) (rest operands : List (List Char)) :
    r.written (fill (t :: next :: rest) (texts (o :: operands))) =
      t ++ o ++ r.written (fill (next :: rest) (texts operands)) := by
  rw [texts, List.map_cons, fill, append_assoc, r.written_text_append, r.written_text_append,
    String.toList_ofList, String.toList_ofList, List.append_assoc]
  · rfl
  · exact List.cons_ne_nil next rest

theorem prefix_fill (t : List Char) (rest : List (List Char)) (operands : List Script) :
    t <+: r.written (fill (t :: rest) operands) := by
  cases rest with
  | nil => rw [fill, r.written_text, String.toList_ofList]
  | cons next more =>
      cases operands with
      | nil =>
          rw [fill, append_assoc, r.written_text_append, String.toList_ofList]
          · exact List.prefix_append _ _
          · exact List.cons_ne_nil next more
      | cons operand operands =>
          rw [fill, append_assoc, r.written_text_append, String.toList_ofList]
          · exact List.prefix_append _ _
          · exact List.cons_ne_nil next more

theorem slotsKeep_of_fill {list : List (List Char)} {filled : Nat} (enough : filled < list.length)
    (kept : ∀ operands : List (List Char), operands.length = filled →
      (∀ o ∈ operands, Text.Wordless o) → Text.Wordless (r.written (fill list (texts operands)))) :
    Text.SlotsKeep list filled := by
  have short {part : List Char} (less : part.length < Text.recursive.length) :
      Text.Wordless part := fun within => absurd within.length_le (Nat.not_le_of_lt less)
  have empties (k : Nat) : ∀ o ∈ List.replicate k ([] : List Char), Text.Wordless o := by
    intro o member
    rw [List.eq_of_mem_replicate member]
    decide
  induction filled generalizing list with
  | zero => exact ⟨List.forall_mem_nil _, List.forall_mem_nil _, List.forall_mem_nil _⟩
  | succ n ih =>
      obtain ⟨t, next, rest, rfl⟩ : ∃ t next rest, list = t :: next :: rest := by
        match list, enough with
        | t :: next :: rest, _ => exact ⟨t, next, rest, rfl⟩
        | [_], enough => exact absurd enough (by simp)
      have around {o : List Char} (less : o.length < Text.recursive.length)
          {operands : List (List Char)} (length : operands.length = n)
          (each : ∀ o ∈ operands, Text.Wordless o) :
          Text.Wordless (t ++ o ++ r.written (fill (next :: rest) (texts operands))) := by
        rw [← written_fill_cons]
        exact kept (o :: operands) (congrArg (· + 1) length)
          (List.forall_mem_cons.mpr ⟨short less, each⟩)
      have inner : Text.SlotsKeep (next :: rest) n :=
        ih (Nat.lt_of_succ_lt_succ enough) fun operands length each =>
          (around (o := []) (by decide) length each).of_part (List.suffix_append _ _).isInfix
      constructor
      · rw [List.take_succ_cons, List.forall_mem_cons]
        refine ⟨?_, inner.before⟩
        rintro u v whole some ⟨front, rfl⟩
        have less : v.length < Text.recursive.length := by
          have filled := List.length_pos_of_ne_nil some
          rw [← whole, List.length_append]
          omega
        refine around less List.length_replicate (empties n) ?_
        rw [← whole, List.append_assoc front]
        exact List.infix_append _ _ _
      · rw [List.tail_cons, List.take_succ_cons, List.forall_mem_cons]
        refine ⟨?_, inner.behind⟩
        rintro u v whole some ⟨more, rfl⟩
        have less : u.length < Text.recursive.length := by
          have filled := List.length_pos_of_ne_nil some
          rw [← whole, List.length_append]
          omega
        refine around less List.length_replicate (empties n) ?_
        obtain ⟨others, written⟩ := prefix_fill (r := r) (v ++ more) rest
          (texts (List.replicate n []))
        rw [← written, ← whole]
        exact ⟨t, more ++ others, by simp only [List.append_assoc]⟩
      · cases n with
        | zero => exact List.forall_mem_nil _
        | succ m =>
            rw [List.tail_cons, Nat.add_sub_cancel, List.take_succ_cons, List.forall_mem_cons]
            refine ⟨?_, inner.between⟩
            intro u v whole
            by_contra both
            obtain ⟨before, behind⟩ := not_or.mp both
            have first := List.length_pos_of_ne_nil before
            have last := List.length_pos_of_ne_nil behind
            have total := congrArg List.length whole
            rw [List.length_append, List.length_append] at total
            have some : 0 < rest.length := by
              simp only [List.length_cons] at enough
              omega
            obtain ⟨third, more, rfl⟩ := List.exists_cons_of_length_pos some
            have filling : ∀ o ∈ v :: List.replicate m [], Text.Wordless o :=
              List.forall_mem_cons.mpr ⟨short (by omega), empties m⟩
            have outside := around (o := u) (by omega) (by simp) filling
            rw [written_fill_cons] at outside
            refine outside ⟨t, r.written (fill (third :: more) (texts (List.replicate m []))), ?_⟩
            rw [← whole]
            simp only [List.append_assoc]

theorem template_texts {format : String} {operands : List (List Char)}
    (fits : operands.length ≤ format.toList.count '?') :
    template format (texts operands) = fill (slotTexts format.toList) (texts operands) := by
  have slots := length_slotTexts format.toList
  have used : (texts operands).length - ((slotTexts format.toList).length - 1) = 0 := by
    rw [texts, List.length_map]
    omega
  rw [template, used]
  exact append_empty _

/-- Whatever texts without the word fill its slots, a template is not completed to it, exactly if it
keeps the word from them. -/
theorem slotsKeep_iff {format : String} (wordless : Text.Wordless format.toList) {filled : Nat}
    (fits : filled ≤ format.toList.count '?') :
    Text.SlotsKeep (slotTexts format.toList) filled ↔
      ∀ operands : List (List Char), operands.length = filled →
        (∀ o ∈ operands, Text.Wordless o) →
        Text.Wordless (r.written (template format (texts operands))) := by
  constructor
  · rintro keep operands rfl each
    have ok : (template format (texts operands)).fault = none := by
      rw [template_texts fits, Option.eq_none_iff_forall_ne_some]
      intro fault found
      obtain ⟨s, member, broken⟩ := fault_fill _ _ fault found
      obtain ⟨o, -, rfl⟩ := List.mem_map.mp member
      exact nomatch broken
    obtain ⟨heads, none, stand⟩ := shows_template (d := r.dialect) (g := fun _ => []) format
      (fun o member => shows_chars (each o member)) wordless keep ok r rfl
    rw [List.flatMap_eq_nil_iff.mpr fun _ _ => rfl, List.perm_nil, List.map_eq_nil_iff] at none
    refine (Text.occurrences_eq_nil_iff (by decide) _).mp ?_
    rw [texts, stand.words, none]
    rfl
  · intro kept
    refine slotsKeep_of_fill (r := r) ?_ fun operands length each => ?_
    · rw [length_slotTexts]
      exact Nat.lt_succ_of_le fits
    · have whole := kept operands length each
      rwa [template_texts (length.trans_le fits)] at whole

end Script

end SqlTree
