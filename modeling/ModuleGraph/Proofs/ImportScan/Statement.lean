/-
This file writes out the statements that import a module, and shows what each form finds in them.
-/

import ModuleGraph.Proofs.ImportScan.Occurrences

namespace ModuleGraph.ImportScan

section Shapes

/-- The forms that are looked for. -/
inductive Shape where
  | clause
  | bare
  | dynamic
  | require
  deriving DecidableEq, Repr

namespace Shape

def entry : Shape → Site × Form × ResolveKind
  | clause => (.line, fromClause, .importStatement)
  | bare => (.line, sideEffect, .importStatement)
  | dynamic => (.word, call "import", .dynamicImport)
  | require => (.word, call "require", .requireCall)

def site (shape : Shape) : Site :=
  shape.entry.1

def form (shape : Shape) : Form :=
  shape.entry.2.1

def kind (shape : Shape) : ResolveKind :=
  shape.entry.2.2

def all : List Shape :=
  [clause, bare, dynamic, require]

theorem forms_eq : forms = all.map entry :=
  rfl

theorem nodup_all : all.Nodup := by
  decide

theorem mem_all (shape : Shape) : shape ∈ all := by
  cases shape <;> decide

/-- What stands in front of the quote, blanks left aside. -/
def marker : Shape → String
  | clause => "from"
  | bare => "import"
  | dynamic => "import("
  | require => "require("

variable {shape : Shape} {text : List Char} {reference : Reference}

theorem marker_suffix (found : shape.form text = some reference) :
    shape.marker.toList <:+ opening text := by
  cases shape with
  | clause =>
      rcases Option.or_eq_some_iff.mp found with importing | ⟨-, exporting⟩
      · exact suffix_opening_of_clauseAfter (by decide) importing
      · exact suffix_opening_of_clauseAfter (by decide) exporting
  | bare =>
      rw [opening_of_word (by decide) found]
      exact List.suffix_rfl
  | dynamic =>
      rw [opening_of_call (by decide) found]
      exact List.suffix_rfl
  | require =>
      rw [opening_of_call (by decide) found]
      exact List.suffix_rfl

/-- No marker ends another, so a text has one of them at most. -/
theorem eq_of_marker_suffix {other : Shape} {whole : List Char}
    (left : shape.marker.toList <:+ whole) (right : other.marker.toList <:+ whole) :
    shape = other := by
  have apart : ∀ first second : Shape,
      first.marker.toList <:+ second.marker.toList → first = second := by
    intro first second
    cases first <;> cases second <;> decide
  rcases List.suffix_or_suffix_of_suffix left right with suffix | suffix
  · exact apart _ _ suffix
  · exact (apart _ _ suffix).symm

/-- The words that forms start with. -/
def words : List String :=
  ["import", "export", "require"]

theorem exists_word (found : shape.form text = some reference) :
    ∃ word ∈ words, ∃ rest, text = word.toList ++ rest := by
  have starts {word : String} {inner : Form} (member : word ∈ words)
      (accepted : afterWord word inner text = some reference) :
      ∃ word ∈ words, ∃ rest, text = word.toList ++ rest := by
    obtain ⟨rest, _, equal, -⟩ := exists_of_afterWord accepted
    exact ⟨word, member, rest, equal⟩
  cases shape with
  | clause =>
      rcases Option.or_eq_some_iff.mp found with importing | ⟨-, exporting⟩
      · exact starts (by decide) importing
      · exact starts (by decide) exporting
  | bare => exact starts (by decide) found
  | dynamic => exact starts (by decide) found
  | require => exact starts (by decide) found

theorem isWordChar_of_form {char : Char} (found : shape.form (char :: text) = some reference) :
    isWordChar char = true := by
  obtain ⟨word, member, rest, equal⟩ := exists_word found
  have first : ∀ word ∈ words, word.toList.head?.any isWordChar = true := by decide
  have letter := first word member
  cases chars : word.toList with
  | nil =>
      rw [chars] at letter
      cases letter
  | cons head tail =>
      rw [chars] at letter equal
      rw [(List.cons.inj equal).1]
      exact letter

/-- What holds no word characters holds no form. -/
theorem quiet_of_not_isWordChar {place : Place} {front : List Char}
    (foreign : ∀ char ∈ front, isWordChar char = false) (rest : List Char) :
    Quiet shape.site shape.form place front rest := by
  refine quiet_of_not_found fun before char behind split reference found => ?_
  have word := isWordChar_of_form found
  rw [foreign char (by rw [split]; simp)] at word
  cases word

/-- A text in front of a quote holds no form unless it ends in the marker of the form. -/
theorem quiet_of_unmarked {place : Place} {front rest : List Char} (unquoted : IsUnquoted front)
    (quoted : opening rest = [])
    (unmarked : ¬ shape.marker.toList <:+ front.filter fun char => !isBlank char) :
    Quiet shape.site shape.form place front rest := by
  refine quiet_of_not_found fun before char behind split reference found => ?_
  have inner : char :: behind <:+ front := ⟨before, split.symm⟩
  have plain : IsUnquoted (char :: behind) := fun other member =>
    unquoted other (inner.subset member)
  have suffix := marker_suffix found
  rw [← List.cons_append, opening_append plain, quoted, List.append_nil] at suffix
  exact unmarked (suffix.trans (inner.filter _))

end Shape

/-- Within a line that has begun, no form is found that needs a new line. -/
theorem quiet_of_stale {form : Form} {place : Place} {front : List Char}
    (stale : place.fresh = false) (single : '\n' ∉ front) (rest : List Char) :
    Quiet .line form place front rest := by
  intro before char behind split allowed
  have early : '\n' ∉ before := fun member => single (by rw [split]; simp [member])
  have fresh : (place.after before).fresh = true := allowed
  rw [Place.fresh_after_of_stale stale early] at fresh
  cases fresh

end Shapes

section Statements

/-- The characters of names. -/
def isNameChar (char : Char) : Bool :=
  isWordChar char || char == '$'

structure Name where
  chars : List Char
  nonempty : chars ≠ []
  valid : ∀ char ∈ chars, isNameChar char = true

/-- A declaration of the name, up to its value. -/
def Name.declaration (name : Name) : List Char :=
  "const ".toList ++ (name.chars ++ " = ".toList)

theorem Name.declaration_eq (name : Name) :
    name.declaration = "const ".toList ++ (name.chars ++ " = ".toList) :=
  rfl

/-- The characters of what a clause binds. -/
def isBindingChar (char : Char) : Bool :=
  isNameChar char || [' ', '\n', ',', '{', '}', '*'].contains char

/-- What an import or export binds, with white space on both sides. -/
structure Clause where
  before : List Char
  bindings : List Char
  after : List Char
  isBlank_before : ∀ char ∈ before, isBlank char = true
  isBlank_after : ∀ char ∈ after, isBlank char = true
  apart_before : before ≠ []
  apart_after : after ≠ []
  nonempty : bindings ≠ []
  valid : ∀ char ∈ bindings, isBindingChar char = true

namespace Clause

def text (clause : Clause) : List Char :=
  clause.before ++ (clause.bindings ++ clause.after)

end Clause

/-- What stands in front of the specifier of a statement. -/
inductive Lead where
  | clause (keyword : Keyword) (bound : Clause)
  | bare
  | dynamic (name : Name)
  | require (name : Name)

namespace Lead

def shape : Lead → Shape
  | clause _ _ => .clause
  | bare => .bare
  | dynamic _ => .dynamic
  | require _ => .require

/-- What stands in front of the form: a call is the value of a name. -/
def binding : Lead → List Char
  | clause _ _ => []
  | bare => []
  | dynamic name => name.declaration
  | require name => name.declaration

/-- The word that the form starts with. -/
def word : Lead → String
  | clause keyword _ => keyword.word
  | bare => "import"
  | dynamic _ => "import"
  | require _ => "require"

/-- What stands between that word and the quote. -/
def gap : Lead → List Char
  | clause _ bound => bound.text ++ ("from".toList ++ [' '])
  | bare => [' ']
  | dynamic _ => ['(']
  | require _ => ['(']

/-- The part of the form in front of the quote. -/
def start (lead : Lead) : List Char :=
  lead.word.toList ++ lead.gap

/-- The part of the form behind the quote. -/
def close : Lead → List Char
  | clause _ _ => []
  | bare => []
  | dynamic _ => [')']
  | require _ => [')']

def text (lead : Lead) : List Char :=
  lead.binding ++ lead.start

end Lead

/-- A statement that imports a module, with or without a semicolon. -/
structure Statement where
  lead : Lead
  literal : Literal
  ended : Bool

namespace Statement

def semicolon (statement : Statement) : List Char :=
  if statement.ended then [';'] else []

def text (statement : Statement) : List Char :=
  statement.lead.text ++
    (statement.literal.text ++ (statement.lead.close ++ statement.semicolon))

def shape (statement : Statement) : Shape :=
  statement.lead.shape

/-- What the statement imports. -/
def written (statement : Statement) : Import :=
  ⟨String.ofList statement.literal.specifier, statement.shape.kind⟩

end Statement

section Leads

namespace Lead

/-- The characters in front of a quote. -/
def isLeadChar (char : Char) : Bool :=
  isBindingChar char || isBlank char || char == '(' || char == '='

theorem isLeadChar_of_isBlank {char : Char} (blank : isBlank char = true) :
    isLeadChar char = true := by
  simp [isLeadChar, blank]

theorem isLeadChar_of_isBindingChar {char : Char} (valid : isBindingChar char = true) :
    isLeadChar char = true := by
  simp [isLeadChar, valid]

theorem isLeadChar_of_isNameChar {char : Char} (valid : isNameChar char = true) :
    isLeadChar char = true := by
  simp [isLeadChar, isBindingChar, valid]

theorem word_mem_words (lead : Lead) : lead.word ∈ Shape.words := by
  have importing : "import" ∈ Shape.words := by decide
  have exporting : "export" ∈ Shape.words := by decide
  have requiring : "require" ∈ Shape.words := by decide
  cases lead with
  | clause keyword bound =>
      cases keyword with
      | importing => exact importing
      | exporting => exact exporting
  | bare => exact importing
  | dynamic name => exact importing
  | require name => exact requiring

theorem isLeadChar_declaration (name : Name) :
    ∀ char ∈ name.declaration, isLeadChar char = true := by
  simp only [Name.declaration_eq, List.forall_mem_append]
  refine ⟨List.all_eq_true.mp (by decide), fun char member => ?_,
    List.all_eq_true.mp (by decide)⟩
  exact isLeadChar_of_isNameChar (name.valid char member)

theorem isLeadChar_binding (lead : Lead) : ∀ char ∈ lead.binding, isLeadChar char = true := by
  cases lead with
  | clause keyword bound => exact List.forall_mem_nil _
  | bare => exact List.forall_mem_nil _
  | dynamic name => exact isLeadChar_declaration name
  | require name => exact isLeadChar_declaration name

theorem isLeadChar_gap (lead : Lead) : ∀ char ∈ lead.gap, isLeadChar char = true := by
  cases lead with
  | clause keyword bound =>
      simp only [gap, Clause.text, List.forall_mem_append]
      refine ⟨⟨?_, ?_, ?_⟩, List.all_eq_true.mp (by decide), List.all_eq_true.mp (by decide)⟩
      · exact fun char member => isLeadChar_of_isBlank (bound.isBlank_before char member)
      · exact fun char member => isLeadChar_of_isBindingChar (bound.valid char member)
      · exact fun char member => isLeadChar_of_isBlank (bound.isBlank_after char member)
  | bare => exact List.forall_mem_singleton.mpr (by decide)
  | dynamic name => exact List.forall_mem_singleton.mpr (by decide)
  | require name => exact List.forall_mem_singleton.mpr (by decide)

theorem isLeadChar_text (lead : Lead) : ∀ char ∈ lead.text, isLeadChar char = true := by
  have words : ∀ word ∈ Shape.words, word.toList.all isLeadChar = true := by decide
  have word := List.all_eq_true.mp (words _ (word_mem_words lead))
  simp only [text, start, List.forall_mem_append]
  exact ⟨isLeadChar_binding lead, word, isLeadChar_gap lead⟩

theorem not_mem_text (lead : Lead) {char : Char} (foreign : isLeadChar char = false) :
    char ∉ lead.text := by
  intro member
  rw [isLeadChar_text lead char member] at foreign
  cases foreign

theorem isUnquoted_text (lead : Lead) : IsUnquoted lead.text :=
  isUnquoted_iff.mpr ⟨lead.not_mem_text (by decide), lead.not_mem_text (by decide)⟩

/-- The marker is what a form has last in front of its quote. -/
theorem marker_suffix_text (lead : Lead) :
    lead.shape.marker.toList <:+ lead.text.filter fun char => !isBlank char := by
  have ending (front last : List Char) (split : lead.text = front ++ last)
      (marked : (last.filter fun char => !isBlank char) = lead.shape.marker.toList) :
      lead.shape.marker.toList <:+ lead.text.filter fun char => !isBlank char := by
    rw [split, List.filter_append, marked]
    exact List.suffix_append _ _
  have closing : (("from".toList ++ [' ']).filter fun char => !isBlank char) = "from".toList ∧
      (("import".toList ++ [' ']).filter fun char => !isBlank char) = "import".toList ∧
      (("import".toList ++ ['(']).filter fun char => !isBlank char) = "import(".toList ∧
      (("require".toList ++ ['(']).filter fun char => !isBlank char) = "require(".toList := by
    decide
  cases lead with
  | clause keyword bound =>
      have parts : text (clause keyword bound) =
          keyword.word.toList ++ (bound.text ++ ("from".toList ++ [' '])) := rfl
      rw [← List.append_assoc] at parts
      exact ending _ _ parts closing.1
  | bare => exact ending [] ("import".toList ++ [' ']) rfl closing.2.1
  | dynamic name =>
      exact ending (binding (dynamic name)) ("import".toList ++ ['(']) rfl closing.2.2.1
  | require name =>
      exact ending (binding (require name)) ("require".toList ++ ['(']) rfl closing.2.2.2

theorem isClauseChar_of_isLeadChar {char : Char} (valid : isLeadChar char = true) :
    isClauseChar char = true := by
  have different {other : Char} (foreign : isLeadChar other = false) : char ≠ other := by
    rintro rfl
    rw [valid] at foreign
    cases foreign
  have single : char ≠ '\'' := different (by decide)
  have double : char ≠ '"' := different (by decide)
  have semicolon : char ≠ ';' := different (by decide)
  simp [isClauseChar, isQuote, single, double, semicolon]

theorem finds_start (lead : Lead) (literal : Literal) :
    Finds lead.shape.form lead.start literal lead.close := by
  have space : ∀ char ∈ [' '], isBlank char = true := List.forall_mem_singleton.mpr rfl
  cases lead with
  | clause keyword bound =>
      refine finds_fromClause keyword (fun char member => ?_) ?_ ?_ space literal
      · refine isClauseChar_of_isLeadChar (isLeadChar_text (.clause keyword bound) char ?_)
        exact List.mem_append_right _
          (List.mem_append_right _ (List.mem_append_left _ member))
      · obtain ⟨char, others, split⟩ := List.exists_cons_of_ne_nil bound.apart_before
        refine ⟨char, by rw [Clause.text, split]; rfl, ?_⟩
        exact isWordChar_of_isBlank (bound.isBlank_before char (by simp [split]))
      · obtain ⟨others, char, split⟩ :=
          (List.eq_nil_or_concat bound.after).resolve_left bound.apart_after
        refine ⟨char, by simp [Clause.text, split], ?_⟩
        exact isWordChar_of_isBlank (bound.isBlank_after char (by simp [split]))
  | bare => exact finds_word "import" space literal
  | dynamic name => exact finds_call "import" literal
  | require name => exact finds_call "require" literal

/-- A call is found no earlier than where it starts. -/
theorem quiet_of_call (function : String) (plain : IsPlain function.toList) {shape : Shape}
    (form : shape.form = call function) {front rest : List Char} (unquoted : IsUnquoted front)
    (quoted : opening rest = []) (place : Place) :
    Quiet shape.site shape.form place front (function.toList ++ ['('] ++ rest) := by
  refine quiet_of_not_found fun before char behind split reference found => ?_
  have inner : IsUnquoted (char :: behind) := fun other member =>
    unquoted other (by rw [split]; exact List.mem_append_right _ member)
  have starts := Shape.isWordChar_of_form found
  -- Only blanks could stand between this place and the call, but a form starts with a word.
  rw [form, ← List.cons_append] at found
  have whole := opening_of_call plain found
  have plain' : IsPlain (function.toList ++ ['(']) := by
    simp only [IsPlain, List.forall_mem_append]
    exact ⟨plain, List.forall_mem_singleton.mpr (by decide)⟩
  rw [opening_append inner, opening_plain_append plain', quoted, List.append_nil,
    List.append_left_eq_self] at whole
  have blank := List.filter_eq_nil_iff.mp whole char (List.mem_cons_self ..)
  rw [Bool.not_eq_true, Bool.not_eq_false'] at blank
  rw [isWordChar_of_isBlank blank] at starts
  cases starts

theorem quiet_binding (lead : Lead) (place : Place) {rest : List Char}
    (quoted : opening rest = []) :
    Quiet lead.shape.site lead.shape.form place lead.binding (lead.start ++ rest) := by
  have unquoted : IsUnquoted lead.binding := fun char member =>
    isUnquoted_text lead char (List.mem_append_left _ member)
  cases lead with
  | clause keyword bound => exact quiet_nil
  | bare => exact quiet_nil
  | dynamic name => exact quiet_of_call "import" (by decide) rfl unquoted quoted place
  | require name => exact quiet_of_call "require" (by decide) rfl unquoted quoted place

/-- A word may start where a declaration has its value. -/
theorem allows_declaration (name : Name) (place : Place) :
    (place.after name.declaration).allows .word = true := by
  have last : name.declaration = ("const ".toList ++ (name.chars ++ " =".toList)) ++ [' '] := by
    rw [Name.declaration_eq, List.append_assoc, List.append_assoc]
    rfl
  rw [last, Place.after_append]
  rfl

/-- The form may start where the binding ends. -/
theorem allows_binding (lead : Lead) {place : Place} (isOpen : place.IsOpen) :
    (place.after lead.binding).allows lead.shape.site = true := by
  cases lead with
  | clause keyword bound => exact isOpen .line
  | bare => exact isOpen .line
  | dynamic name => exact allows_declaration name place
  | require name => exact allows_declaration name place

end Lead

end Leads

section Search

variable {place : Place} {shape : Shape}

namespace Statement

theorem isWordChar_semicolon (statement : Statement) :
    ∀ char ∈ statement.semicolon, isWordChar char = false := by
  unfold semicolon
  split
  · exact List.forall_mem_singleton.mpr (by decide)
  · exact List.forall_mem_nil _

/-- The form of a statement is found in it once. -/
theorem occurrences_own (statement : Statement) (isOpen : place.IsOpen) (position : Nat)
    (rest : List Char) :
    occurrences statement.shape.site statement.shape.form 0 position place
        (statement.text ++ rest) =
      (position + (statement.lead.text.length + 1), statement.literal.specifier) ::
        occurrences statement.shape.site statement.shape.form 0
          (position + statement.text.length) (place.after statement.text) rest := by
  have whole : statement.text = statement.lead.binding ++
      (statement.lead.start ++ (statement.literal.text ++ statement.lead.close) ++
        statement.semicolon) := by
    simp only [text, Lead.text, List.append_assoc]
  have parts : statement.text ++ rest = statement.lead.binding ++ (statement.lead.start ++
      (statement.literal.text ++ (statement.lead.close ++ (statement.semicolon ++ rest)))) := by
    simp only [text, Lead.text, List.append_assoc]
  have quiet := statement.lead.quiet_binding place
    (statement.literal.opening_append (statement.lead.close ++ (statement.semicolon ++ rest)))
  have ending (place : Place) : Quiet statement.lead.shape.site statement.lead.shape.form place
      statement.semicolon rest :=
    Shape.quiet_of_not_isWordChar statement.isWordChar_semicolon rest
  rw [parts, shape, occurrences_of_quiet quiet,
    occurrences_of_finds (statement.lead.finds_start statement.literal)
      (statement.lead.allows_binding isOpen), occurrences_of_quiet (ending _)]
  simp only [whole, Place.after_append, List.length_append, Lead.text, Nat.add_assoc]

/-- What follows the first quote of a statement. -/
def tail (statement : Statement) : List Char :=
  statement.literal.specifier ++
    (statement.literal.quote :: (statement.lead.close ++ statement.semicolon))

theorem text_eq (statement : Statement) :
    statement.text = statement.lead.text ++ ([statement.literal.quote] ++ statement.tail) := by
  simp only [text, Literal.text, tail, List.cons_append, List.nil_append, List.append_assoc]

/-- The characters behind that quote. -/
def isTailChar (char : Char) : Bool :=
  isSpecifierChar char || isQuote char || char == ')' || char == ';'

theorem isTailChar_tail (statement : Statement) :
    ∀ char ∈ statement.tail, isTailChar char = true := by
  simp only [tail, List.forall_mem_append, List.forall_mem_cons]
  refine ⟨fun char member => ?_, ?_, ?_, ?_⟩
  · simp [isTailChar, statement.literal.valid char member]
  · simp [isTailChar, statement.literal.isQuote]
  · cases statement.lead <;> simp [Lead.close, isTailChar]
  · unfold semicolon
    split
    · exact List.forall_mem_singleton.mpr (by decide)
    · exact List.forall_mem_nil _

theorem not_mem_tail (statement : Statement) {char : Char} (foreign : isTailChar char = false) :
    char ∉ statement.tail := by
  intro member
  rw [isTailChar_tail statement char member] at foreign
  cases foreign

/-- No call stands within a specifier, which has no parentheses. -/
theorem quiet_tail (statement : Statement) (stale : place.fresh = false) (rest : List Char) :
    Quiet shape.site shape.form place statement.tail rest := by
  cases site : shape.site with
  | line => exact quiet_of_stale stale (statement.not_mem_tail (by decide)) rest
  | word =>
      rw [← site]
      have parenthesis : '(' ∈ shape.marker.toList := by
        cases shape with
        | clause => cases site
        | bare => cases site
        | dynamic => decide
        | require => decide
      have close : ∀ char ∈ statement.lead.close, isWordChar char = false := by
        cases statement.lead <;> simp [Lead.close, isWordChar]
      refine Quiet.append (Shape.quiet_of_unmarked statement.literal.unquoted ?_ ?_)
        (Shape.quiet_of_not_isWordChar ?_ rest)
      · exact opening_quote statement.literal.isQuote _
      · intro marked
        have closed : '(' ∉ statement.literal.specifier :=
          statement.literal.not_mem_specifier (by decide)
        exact closed (List.mem_filter.mp (marked.subset parenthesis)).1
      · simp only [List.forall_mem_cons, List.forall_mem_append]
        exact ⟨statement.literal.isWordChar_quote, close, statement.isWordChar_semicolon⟩

/-- No other form is found in a statement. -/
theorem quiet_text (statement : Statement) (different : shape ≠ statement.shape) (place : Place)
    (rest : List Char) : Quiet shape.site shape.form place statement.text rest := by
  rw [text_eq]
  refine Quiet.append (Shape.quiet_of_unmarked statement.lead.isUnquoted_text ?_ ?_)
    (Quiet.append (Shape.quiet_of_not_isWordChar ?_ _) (statement.quiet_tail ?_ rest))
  · exact opening_quote statement.literal.isQuote _
  · exact fun marked =>
      different (Shape.eq_of_marker_suffix marked statement.lead.marker_suffix_text)
  · simp [statement.literal.isWordChar_quote]
  · have newline : statement.literal.quote ≠ '\n' := statement.literal.quote_ne (by decide)
    simp [Place.after, Place.step, newline, statement.literal.isBlank_quote]

theorem occurrences_other (statement : Statement) (different : shape ≠ statement.shape)
    (position : Nat) (rest : List Char) :
    occurrences shape.site shape.form 0 position place (statement.text ++ rest) =
      occurrences shape.site shape.form 0 (position + statement.text.length)
        (place.after statement.text) rest :=
  occurrences_of_quiet (statement.quiet_text different place rest) position

end Statement

end Search

end Statements

end ModuleGraph.ImportScan
