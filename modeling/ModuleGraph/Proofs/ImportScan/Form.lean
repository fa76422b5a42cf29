/-
This file shows which texts each form of an import is found at. What stands in front of the first
quote decides, blanks left aside.
-/

import Mathlib.Data.List.TakeWhile
import ModuleGraph.ImportScan

namespace ModuleGraph.ImportScan

section Openings

/-- What stands in front of the first quote, without the blanks. -/
def opening (text : List Char) : List Char :=
  (text.takeWhile fun char => !isQuote char).filter fun char => !isBlank char

/-- A text that no quote stands in. -/
def IsUnquoted (text : List Char) : Prop :=
  ∀ char ∈ text, isQuote char = false

theorem isUnquoted_iff {text : List Char} : IsUnquoted text ↔ '\'' ∉ text ∧ '"' ∉ text := by
  constructor
  · intro unquoted
    constructor
    · exact fun member => absurd (unquoted _ member) (by decide)
    · exact fun member => absurd (unquoted _ member) (by decide)
  · rintro ⟨single, double⟩ char member
    rw [isQuote, Bool.or_eq_false_iff, beq_eq_false_iff_ne, beq_eq_false_iff_ne]
    constructor
    · rintro rfl
      exact single member
    · rintro rfl
      exact double member

theorem opening_append {front : List Char} (unquoted : IsUnquoted front) (rest : List Char) :
    opening (front ++ rest) = (front.filter fun char => !isBlank char) ++ opening rest := by
  have passed : ∀ char ∈ front, (!isQuote char) = true := by
    intro char member
    rw [unquoted char member]
    rfl
  rw [opening, List.takeWhile_append_of_pos passed, List.filter_append, opening]

theorem opening_quote {quote : Char} (quoted : isQuote quote = true) (rest : List Char) :
    opening (quote :: rest) = [] := by
  rw [opening, List.takeWhile_cons, quoted]
  rfl

/-- Blanks do not count. -/
theorem filter_blanks {blanks : List Char} (blank : ∀ char ∈ blanks, isBlank char = true) :
    (blanks.filter fun char => !isBlank char) = [] := by
  refine List.filter_eq_nil_iff.mpr fun char member => ?_
  rw [blank char member]
  exact Bool.false_ne_true

/-- The white space of ASCII. -/
def blankChars : List Char :=
  ['\t', '\n', '\x0b', '\x0c', '\r', ' ']

theorem mem_blankChars {char : Char} (blank : isBlank char = true) : char ∈ blankChars := by
  rw [isBlank, Bool.or_eq_true, Bool.and_eq_true, beq_iff_eq, decide_eq_true_eq,
    decide_eq_true_eq] at blank
  rcases blank with rfl | ⟨low, high⟩
  · decide
  · have code : char = Char.ofNat char.toNat := (Char.ofNat_toNat char).symm
    have each : char.toNat = 9 ∨ char.toNat = 10 ∨ char.toNat = 11 ∨ char.toNat = 12 ∨
        char.toNat = 13 := by omega
    rcases each with equal | equal | equal | equal | equal <;> rw [code, equal] <;> decide

theorem isQuote_of_isBlank {char : Char} (blank : isBlank char = true) : isQuote char = false := by
  have each : blankChars.all (fun char => !isQuote char) = true := by decide
  simpa using List.all_eq_true.mp each char (mem_blankChars blank)

theorem isWordChar_of_isBlank {char : Char} (blank : isBlank char = true) :
    isWordChar char = false := by
  have each : blankChars.all (fun char => !isWordChar char) = true := by decide
  simpa using List.all_eq_true.mp each char (mem_blankChars blank)

theorem opening_blanks_append {blanks : List Char}
    (blank : ∀ char ∈ blanks, isBlank char = true) (rest : List Char) :
    opening (blanks ++ rest) = opening rest := by
  rw [opening_append fun char member => isQuote_of_isBlank (blank char member),
    filter_blanks blank, List.nil_append]

end Openings

section Inversions

variable {form : Form} {text : List Char} {reference : Reference}

theorem opening_of_quoted (found : quoted text = some reference) :
    opening text = [] := by
  cases text with
  | nil => cases found
  | cons quote rest =>
      refine opening_quote ?_ rest
      rw [quoted] at found
      split at found
      · rename_i accepted
        rw [Bool.and_eq_true, Bool.and_eq_true] at accepted
        exact accepted.1.1
      · cases found

theorem opening_of_afterBlanks (found : afterBlanks form text = some reference) :
    ∃ rest inner, form rest = some inner ∧ opening text = opening rest := by
  obtain ⟨inner, accepted, -⟩ := Option.map_eq_some_iff.mp found
  have blank : ∀ char ∈ text.takeWhile isBlank, isBlank char = true := fun _ member =>
    List.mem_takeWhile_imp member
  refine ⟨_, inner, accepted, ?_⟩
  have parts := opening_blanks_append blank (text.dropWhile isBlank)
  rwa [List.takeWhile_append_dropWhile] at parts

theorem exists_of_afterWord {word : String} (found : afterWord word form text = some reference) :
    ∃ rest inner, text = word.toList ++ rest ∧ form rest = some inner := by
  rw [afterWord] at found
  split at found
  · rename_i starts
    obtain ⟨rest, rfl⟩ := List.isPrefixOf_iff_prefix.mp starts
    obtain ⟨inner, accepted, -⟩ := Option.map_eq_some_iff.mp found
    rw [← String.length_toList, List.drop_left] at accepted
    exact ⟨rest, inner, rfl, accepted⟩
  · cases found

/-- The characters of a word that a form starts with: neither quotes nor blanks. -/
def IsPlain (word : List Char) : Prop :=
  ∀ char ∈ word, isQuote char = false ∧ isBlank char = false

instance (word : List Char) : Decidable (IsPlain word) :=
  List.decidableBAll _ word

theorem opening_plain_append {word : List Char} (plain : IsPlain word) (rest : List Char) :
    opening (word ++ rest) = word ++ opening rest := by
  rw [opening_append fun char member => (plain char member).1]
  congr 1
  refine List.filter_eq_self.mpr fun char member => ?_
  rw [(plain char member).2]
  rfl

/-- A word with nothing but blanks between it and a quoted specifier. -/
theorem opening_of_word {word : String} (plain : IsPlain word.toList)
    (found : afterWord word (afterBlanks quoted) text = some reference) :
    opening text = word.toList := by
  obtain ⟨rest, inner, rfl, accepted⟩ := exists_of_afterWord found
  obtain ⟨behind, last, specifier, same⟩ := opening_of_afterBlanks accepted
  rw [opening_plain_append plain, same, opening_of_quoted specifier, List.append_nil]

/-- A clause reaches to a `from` that a quoted specifier follows. -/
theorem suffix_opening_of_clause {before : Nat} {last : Char}
    (found : clause before last text = some reference) : "from".toList <:+ opening text := by
  induction text generalizing before last with
  | nil => cases found
  | cons char rest ih =>
      rw [clause] at found
      split at found
      · rename_i source
        split at source
        · cases source
        · exact ⟨[], (opening_of_word (by decide) source).symm⟩
      · split at found
        · rename_i inside
          have unquoted : IsUnquoted [char] := by
            intro other member
            rw [List.mem_singleton.mp member]
            rw [isClauseChar, Bool.and_eq_true, Bool.not_eq_true'] at inside
            exact inside.1
          have whole := opening_append unquoted rest
          rw [List.singleton_append] at whole
          rw [whole]
          exact (ih found).trans (List.suffix_append _ _)
        · cases found

theorem suffix_opening_of_clauseAfter {keyword : String} (plain : IsPlain keyword.toList)
    (found : clauseAfter keyword text = some reference) : "from".toList <:+ opening text := by
  obtain ⟨rest, inner, rfl, accepted⟩ := exists_of_afterWord found
  rw [opening_plain_append plain]
  split at accepted
  · cases accepted
  · exact (suffix_opening_of_clause accepted).trans (List.suffix_append _ _)

theorem opening_of_argument (found : argument text = some reference) :
    opening text = ['('] := by
  unfold argument at found
  split at found
  · rename_i rest
    obtain ⟨inner, accepted, -⟩ := Option.bind_eq_some_iff.mp found
    obtain ⟨behind, last, specifier, same⟩ := opening_of_afterBlanks accepted
    have whole : opening (['('] ++ rest) = ['('] ++ opening rest :=
      opening_plain_append (by decide) rest
    rw [same, opening_of_quoted specifier, List.append_nil] at whole
    exact whole
  · cases found

theorem opening_of_call {function : String} (plain : IsPlain function.toList)
    (found : call function text = some reference) :
    opening text = function.toList ++ ['('] := by
  obtain ⟨rest, inner, rfl, accepted⟩ := exists_of_afterWord found
  obtain ⟨behind, last, specifier, same⟩ := opening_of_afterBlanks accepted
  rw [opening_plain_append plain, same, opening_of_argument specifier]

end Inversions

section Literals

/-- The characters that specifiers are written in. -/
def isSpecifierChar (char : Char) : Bool :=
  char.isAlphanum || ['@', '.', '_', '-', '/', ':'].contains char

/-- A specifier between two quotes of one kind. -/
structure Literal where
  quote : Char
  specifier : List Char
  isQuote : isQuote quote = true
  nonempty : specifier ≠ []
  valid : ∀ char ∈ specifier, isSpecifierChar char = true

namespace Literal

variable (literal : Literal)

def text : List Char :=
  literal.quote :: (literal.specifier ++ [literal.quote])

theorem text_append (rest : List Char) :
    literal.text ++ rest =
      literal.quote :: (literal.specifier ++ literal.quote :: rest) := by
  simp [text]

theorem not_mem_specifier {char : Char} (foreign : isSpecifierChar char = false) :
    char ∉ literal.specifier := by
  intro member
  rw [literal.valid char member] at foreign
  cases foreign

theorem unquoted : IsUnquoted literal.specifier :=
  isUnquoted_iff.mpr
    ⟨literal.not_mem_specifier (by decide), literal.not_mem_specifier (by decide)⟩

theorem quote_eq : literal.quote = '\'' ∨ literal.quote = '"' := by
  have quoted := literal.isQuote
  rwa [ImportScan.isQuote, Bool.or_eq_true, beq_iff_eq, beq_iff_eq] at quoted

theorem isBlank_quote : isBlank literal.quote = false := by
  rcases literal.quote_eq with quote | quote <;> rw [quote] <;> decide

theorem isWordChar_quote : isWordChar literal.quote = false := by
  rcases literal.quote_eq with quote | quote <;> rw [quote] <;> decide

theorem quote_ne {char : Char} (foreign : ImportScan.isQuote char = false) :
    literal.quote ≠ char := by
  rintro rfl
  rw [literal.isQuote] at foreign
  cases foreign

theorem opening_append (rest : List Char) : opening (literal.text ++ rest) = [] := by
  rw [text_append]
  exact opening_quote literal.isQuote _

theorem quoted_append (rest : List Char) :
    quoted (literal.text ++ rest) = some ⟨1, literal.specifier, 1⟩ := by
  have passed : ∀ char ∈ literal.specifier, (!ImportScan.isQuote char) = true := by
    intro char member
    rw [literal.unquoted char member]
    rfl
  have whole : ((literal.specifier ++ literal.quote :: rest).takeWhile fun char =>
      !ImportScan.isQuote char) = literal.specifier := by
    rw [List.takeWhile_append_of_pos passed, List.takeWhile_cons, literal.isQuote]
    exact List.append_nil literal.specifier
  rw [text_append, quoted, whole]
  refine if_pos ?_
  simp [literal.isQuote, literal.nonempty]

end Literal

end Literals

section Acceptance

variable {form : Form} {front behind : List Char} {literal : Literal}

/-- The form reaches from `front` over the literal to the end of `behind`, whatever follows. -/
def Finds (form : Form) (front : List Char) (literal : Literal) (behind : List Char) : Prop :=
  ∀ rest, form (front ++ (literal.text ++ (behind ++ rest))) =
    some ⟨front.length + 1, literal.specifier, behind.length + 1⟩

theorem finds_quoted (literal : Literal) : Finds quoted [] literal [] :=
  fun rest => literal.quoted_append rest

theorem Finds.afterBlanks {blanks : List Char} (finds : Finds form front literal behind)
    (blank : ∀ char ∈ blanks, isBlank char = true)
    (bare : ∀ char ∈ front, isBlank char = false) :
    Finds (afterBlanks form) (blanks ++ front) literal behind := by
  intro rest
  have stop : (front ++ (literal.text ++ (behind ++ rest))).takeWhile isBlank = [] := by
    cases front with
    | nil => simp [Literal.text, literal.isBlank_quote]
    | cons char front => simp [bare char (List.mem_cons_self ..)]
  have kept : (front ++ (literal.text ++ (behind ++ rest))).dropWhile isBlank =
      front ++ (literal.text ++ (behind ++ rest)) := by
    have parts := List.takeWhile_append_dropWhile (p := isBlank)
      (l := front ++ (literal.text ++ (behind ++ rest)))
    rwa [stop, List.nil_append] at parts
  rw [List.append_assoc, ImportScan.afterBlanks, List.dropWhile_append_of_pos blank,
    List.takeWhile_append_of_pos blank, stop, kept, finds rest]
  simp only [Option.map_some, Reference.shift, List.length_append, List.length_nil]
  congr 2
  omega

theorem Finds.afterWord (finds : Finds form front literal behind) (word : String) :
    Finds (afterWord word form) (word.toList ++ front) literal behind := by
  intro rest
  rw [List.append_assoc, ImportScan.afterWord,
    if_pos (List.isPrefixOf_iff_prefix.mpr (List.prefix_append _ _)), ← String.length_toList,
    List.drop_left, finds rest]
  simp only [Option.map_some, Reference.shift, List.length_append]
  congr 2
  omega

theorem finds_word (word : String) {blanks : List Char}
    (blank : ∀ char ∈ blanks, isBlank char = true) (literal : Literal) :
    Finds (afterWord word (afterBlanks quoted)) (word.toList ++ blanks) literal [] := by
  have specifier := (finds_quoted literal).afterBlanks blank (fun _ member => nomatch member)
  rw [List.append_nil] at specifier
  exact specifier.afterWord word

theorem isBlank_nil : ∀ char ∈ ([] : List Char), isBlank char = true :=
  fun _ absurd => nomatch absurd

theorem finds_argument (literal : Literal) : Finds argument ['('] literal [')'] := by
  intro rest
  have specifier := (finds_quoted literal).afterBlanks isBlank_nil
    (fun _ absurd => nomatch absurd) (')' :: rest)
  have length : 1 + literal.specifier.length + 1 = literal.text.length := by
    simp [Literal.text]
    omega
  simp only [List.nil_append, List.length_nil, Nat.zero_add] at specifier
  rw [List.singleton_append, List.singleton_append, argument, specifier]
  simp only [Option.bind_eq_bind, Option.bind_some, Reference.length, length, List.drop_left]
  rfl

theorem finds_call (function : String) (literal : Literal) :
    Finds (call function) (function.toList ++ ['(']) literal [')'] := by
  have bare : ∀ char ∈ ['('], isBlank char = false := List.forall_mem_singleton.mpr (by decide)
  have spaced := (finds_argument literal).afterBlanks isBlank_nil bare
  exact spaced.afterWord function

/-- No `from` within a clause has a quote behind it, blanks left aside. -/
theorem source_eq_none {bindings source : List Char} {char : Char}
    (unquoted : IsUnquoted (char :: bindings)) (behind : opening source = "from".toList) :
    afterWord "from" (afterBlanks quoted) (char :: bindings ++ source) = none := by
  rw [Option.eq_none_iff_forall_ne_some]
  intro reference found
  have whole := opening_of_word (by decide) found
  rw [opening_append unquoted, behind, List.append_left_eq_self] at whole
  obtain ⟨rest, inner, starts, -⟩ := exists_of_afterWord found
  have first : char = 'f' := (List.cons.inj starts).1
  have kept : char ∈ (char :: bindings).filter fun char => !isBlank char := by
    rw [first, List.mem_filter]
    exact ⟨List.mem_cons_self .., by decide⟩
  rw [whole] at kept
  cases kept

/-- What a clause binds reaches to the last `from` before the specifier. -/
theorem clause_append {bindings blanks : List Char}
    (inside : ∀ char ∈ bindings, isClauseChar char = true) {last : Char}
    (apart : ∀ char ∈ (last :: bindings).getLast?, isWordChar char = false)
    (blank : ∀ char ∈ blanks, isBlank char = true) (literal : Literal) (before : Nat)
    (rest : List Char) :
    clause before last (bindings ++ ("from".toList ++ blanks ++ (literal.text ++ rest))) =
      some ⟨before + bindings.length + ("from".toList ++ blanks).length + 1,
        literal.specifier, 1⟩ := by
  have source := finds_word "from" blank literal rest
  rw [List.nil_append] at source
  induction bindings generalizing before last with
  | nil =>
      have word : ¬ isWordChar last = true := by
        rw [apart last rfl]
        exact Bool.false_ne_true
      have first : "from".toList ++ blanks ++ (literal.text ++ rest) =
          'f' :: ("rom".toList ++ blanks ++ (literal.text ++ rest)) := rfl
      rw [List.nil_append, first, clause, if_neg word, ← first, source]
      simp only [Reference.shift, List.length_nil, List.length_append]
      congr 2
      omega
  | cons char bindings ih =>
      have unquoted : IsUnquoted (char :: bindings) := by
        intro other member
        have plain := inside other member
        rw [isClauseChar, Bool.and_eq_true, Bool.not_eq_true'] at plain
        exact plain.1
      have behind : opening ("from".toList ++ blanks ++ (literal.text ++ rest)) =
          "from".toList := by
        rw [List.append_assoc, opening_plain_append (by decide), opening_blanks_append blank,
          literal.opening_append, List.append_nil]
      have none := source_eq_none unquoted behind
      have inner : ∀ other ∈ (char :: bindings).getLast?, isWordChar other = false := by
        simpa using apart
      have others := ih (fun other member => inside other (List.mem_cons_of_mem _ member)) inner
        (before + 1)
      rw [List.cons_append] at none ⊢
      rw [clause, none, ite_self]
      dsimp only
      rw [if_pos (inside char (List.mem_cons_self ..)), others, List.length_cons]
      congr 2
      omega

theorem finds_clauseAfter (keyword : String) {bindings blanks : List Char}
    (inside : ∀ char ∈ bindings, isClauseChar char = true)
    (first : ∃ char ∈ bindings.head?, isWordChar char = false)
    (last : ∃ char ∈ bindings.getLast?, isWordChar char = false)
    (blank : ∀ char ∈ blanks, isBlank char = true) (literal : Literal) :
    Finds (clauseAfter keyword) (keyword.toList ++ (bindings ++ ("from".toList ++ blanks)))
      literal [] := by
  obtain ⟨char, head, word⟩ := first
  obtain ⟨final, tail, separate⟩ := last
  have apart : ∀ char ∈ (' ' :: bindings).getLast?, isWordChar char = false := by
    intro other member
    rw [List.getLast?_cons, Option.mem_def.mp tail] at member
    cases member
    exact separate
  have inner : Finds (fun rest => if (rest.head?.map isWordChar).getD true then none
      else clause 0 ' ' rest) (bindings ++ ("from".toList ++ blanks)) literal [] := by
    intro rest
    have found := clause_append inside apart blank literal 0 rest
    have start : (bindings ++ ("from".toList ++ blanks ++ (literal.text ++ rest))).head? =
        some char := by
      rw [List.head?_append, Option.mem_def.mp head]
      rfl
    dsimp only
    rw [List.append_assoc, List.nil_append, start, Option.map_some, word, Option.getD_some,
      if_neg Bool.false_ne_true, found]
    simp only [List.length_append, List.length_nil]
    congr 2
    omega
  exact inner.afterWord keyword

/-- The words that a clause may stand behind. -/
inductive Keyword where
  | importing
  | exporting
  deriving DecidableEq, Repr

def Keyword.word : Keyword → String
  | importing => "import"
  | exporting => "export"

theorem finds_fromClause (keyword : Keyword) {bindings blanks : List Char}
    (inside : ∀ char ∈ bindings, isClauseChar char = true)
    (first : ∃ char ∈ bindings.head?, isWordChar char = false)
    (last : ∃ char ∈ bindings.getLast?, isWordChar char = false)
    (blank : ∀ char ∈ blanks, isBlank char = true) (literal : Literal) :
    Finds fromClause (keyword.word.toList ++ (bindings ++ ("from".toList ++ blanks)))
      literal [] := by
  intro rest
  have found := finds_clauseAfter keyword.word inside first last blank literal rest
  rw [fromClause]
  cases keyword with
  | importing =>
      change (clauseAfter "import" _).or _ = _
      rw [Keyword.word] at found ⊢
      rw [found, Option.some_or]
  | exporting =>
      have other (text : List Char) : clauseAfter "import" ("export".toList ++ text) = none := rfl
      rw [Keyword.word] at found ⊢
      rw [found, List.append_assoc, other, Option.none_or]

end Acceptance

end ModuleGraph.ImportScan
