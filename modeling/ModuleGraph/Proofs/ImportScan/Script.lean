/-
This file shows what is found in a script that is made of import statements and comments.
-/

import ModuleGraph.Proofs.ImportScan.Comments
import ModuleGraph.Proofs.ImportScan.Marks

namespace ModuleGraph.ImportScan

section Statements

namespace Statement

variable (statement : Statement)

/-- No block comment opens in a statement: its slashes stand behind its first quote, and its stars
in front of it. -/
theorem cleared {rest : List Char} (apart : rest.head? ≠ some '*') :
    Cleared (statement.text ++ rest) statement.text rest := by
  have slash : '/' ∉ statement.lead.text := statement.lead.not_mem_text (by decide)
  have quote : statement.literal.quote ≠ '*' := statement.literal.quote_ne (by decide)
  have star : '*' ∉ [statement.literal.quote] ++ statement.tail := by
    have tail : '*' ∉ statement.tail := statement.not_mem_tail (by decide)
    simp [tail, Ne.symm quote]
  have back : Cleared ([statement.literal.quote] ++ statement.tail ++ rest)
      ([statement.literal.quote] ++ statement.tail) rest :=
    .of_shut (fun part => star (part.subset (by simp))) apart
  have front : Cleared
      (statement.lead.text ++ ([statement.literal.quote] ++ statement.tail ++ rest))
      statement.lead.text ([statement.literal.quote] ++ statement.tail ++ rest) :=
    .of_shut (fun part => slash (part.subset (List.mem_cons_self ..))) (by simp [quote])
  have whole := front.append back
  rwa [← List.append_assoc, ← text_eq] at whole

/-- Nor does a line of a statement start with a comment. -/
theorem withoutLines_text_append {blanks : List Char}
    (blank : ∀ char ∈ blanks, isBlank char = true) (rest : List Char) :
    withoutLines true (blanks ++ (statement.text ++ rest)) =
      blanks ++ (statement.text ++ withoutLines false rest) := by
  have slash : '/' ∉ blanks ++ statement.lead.text := by
    rw [List.mem_append, not_or]
    refine ⟨fun member => ?_, statement.lead.not_mem_text (by decide)⟩
    exact absurd (blank _ member) (by decide)
  have whole (more : List Char) : blanks ++ (statement.text ++ more) =
      (blanks ++ statement.lead.text) ++
        statement.literal.quote :: (statement.tail ++ more) := by
    rw [text_eq]
    simp only [List.append_assoc, List.cons_append, List.nil_append]
  rw [whole, whole, withoutLines_append slash statement.literal.isBlank_quote
    (statement.literal.quote_ne (by decide)),
    withoutLines_line (statement.not_mem_tail (by decide))]

end Statement

end Statements

section Lines

/-- A line of a script. The text of a block comment may hold newlines, and so may a statement. -/
inductive Line where
  | code (statement : Statement)
  | comment (text : List Char) (single : '\n' ∉ text)
  | block (text : List Char) (inside : ¬ ['*', '/'] <:+: text)

namespace Line

def text : Line → List Char
  | code statement => statement.text
  | comment text _ => '/' :: '/' :: text
  | block text _ => '/' :: '*' :: (text ++ ['*', '/'])

def statement? : Line → Option Statement
  | code statement => some statement
  | comment _ _ => none
  | block _ _ => none

end Line

/-- The lines of a script, and a last one if it is not ended by a newline. -/
structure Script where
  lines : List Line
  last : Option Line

namespace Script

def text (script : Script) : List Char :=
  (script.lines.flatMap fun line => line.text ++ ['\n']) ++ (script.last.map Line.text).getD []

def source (script : Script) : String :=
  String.ofList script.text

def all (script : Script) : List Line :=
  script.lines ++ script.last.toList

def statements (script : Script) : List Statement :=
  script.all.filterMap Line.statement?

/-- The script without the lines that are comments. -/
def withoutComments (script : Script) : Script :=
  ⟨script.lines.filter fun line => line.statement?.isSome,
    script.last.filter fun line => line.statement?.isSome⟩

theorem all_withoutComments (script : Script) :
    script.withoutComments.all = script.all.filter fun line => line.statement?.isSome := by
  obtain ⟨lines, last⟩ := script
  rw [all, all, List.filter_append]
  cases last with
  | none => rfl
  | some line =>
      congr 1
      cases line <;> rfl

theorem statements_withoutComments (script : Script) :
    script.withoutComments.statements = script.statements := by
  rw [statements, all_withoutComments, List.filterMap_filter, statements]
  refine List.filterMap_congr fun line _ => ?_
  cases line <;> rfl

end Script

/-- Lines that leave one statement or none in a script, where `rest` is behind them. Lines without a
statement leave at most a line comment: a block comment that opens in them ends in them, or
nowhere. -/
inductive Settles (rest : List Char) : Script → Prop
  | code (statement : Statement) : Settles rest ⟨[], some (.code statement)⟩
  | block {text : List Char} (inside : ¬ ['*', '/'] <:+: text) :
      Settles rest ⟨[], some (.block text inside)⟩
  | comments {front : List Line} {line : Line} {left : List Char}
      (none : ∀ other ∈ Script.all ⟨front, some line⟩, other.statement? = none)
      (single : '\n' ∉ left)
      (cleared : Cleared (Script.text ⟨front, some line⟩ ++ rest) ('/' :: '/' :: left) rest) :
      Settles rest ⟨front, some line⟩

/-- A script falls into such groups of lines. -/
inductive Script.IsClosed : Script → Prop
  | done : IsClosed ⟨[], none⟩
  | last {group : Script} (settles : Settles [] group) : IsClosed group
  | more {front lines : List Line} {line : Line} {last : Option Line}
      (settles : Settles ('\n' :: Script.text ⟨lines, last⟩) ⟨front, some line⟩)
      (closed : IsClosed ⟨lines, last⟩) : IsClosed ⟨front ++ line :: lines, last⟩

/-- What spells out statements behind the blanks that stand in front of it. -/
def Leaves (remaining : List Char) (statements : List Statement) : Prop :=
  ∀ blanks : List Char, (∀ char ∈ blanks, isBlank char = true) →
    Spells (withoutLines true (blanks ++ remaining)) statements

theorem leaves_nil : Leaves [] [] := by
  intro blanks blank
  have kept := Spells.done.blanks blank
  rw [List.append_nil] at kept
  rwa [List.append_nil, withoutLines_blanks blank]

/-- What a group of lines without its block comments leaves in front of a newline, or at the end. -/
theorem Settles.exists_cleared {group : Script} {rest : List Char} (settles : Settles rest group)
    (apart : rest.head? ≠ some '*') :
    ∃ left, Cleared (group.text ++ rest) left rest ∧ Leaves left group.statements ∧
      ∀ {remaining : List Char} {statements : List Statement}, Leaves remaining statements →
        Leaves (left ++ '\n' :: remaining) (group.statements ++ statements) := by
  cases settles with
  | code statement =>
      refine ⟨statement.text, statement.cleared apart, ?_, ?_⟩
      · intro blanks blank
        have kept := statement.withoutLines_text_append blank []
        rw [withoutLines_nil, List.append_nil] at kept
        rw [kept]
        exact (Spells.last statement).blanks blank
      · intro remaining statements leaves blanks blank
        rw [statement.withoutLines_text_append blank, withoutLines_stale]
        exact (Spells.line statement (leaves [] isBlank_nil)).blanks blank
  | @block text inside =>
      refine ⟨[], ?_, leaves_nil, ?_⟩
      · have cleared : Cleared _ [] rest := .block inside .done
        simpa [Script.text, Line.text] using cleared
      · intro remaining statements leaves blanks blank
        have more : ∀ char ∈ blanks ++ ['\n'], isBlank char = true := by
          simp only [List.forall_mem_append]
          exact ⟨blank, List.forall_mem_singleton.mpr rfl⟩
        have next := leaves _ more
        rw [List.append_assoc] at next
        exact next
  | @comments front line left none single cleared =>
      have empty : Script.statements ⟨front, some line⟩ = [] := List.filterMap_eq_nil_iff.mpr none
      refine ⟨_, cleared, ?_, ?_⟩
      · intro blanks blank
        have gone := withoutLines_comment blank single (.inl rfl)
        rw [withoutLines_nil, List.append_nil] at gone
        rw [gone, empty]
        exact .done
      · intro remaining statements leaves blanks blank
        have ends : ('\n' :: remaining).head? = some '\n' := rfl
        rw [List.cons_append, List.cons_append, withoutLines_comment blank single (.inr ends),
          withoutLines_stale, empty]
        exact .blank rfl (leaves [] isBlank_nil)

namespace Script

theorem text_group (front lines : List Line) (line : Line) (last : Option Line) :
    text ⟨front ++ line :: lines, last⟩ =
      text ⟨front, some line⟩ ++ '\n' :: text ⟨lines, last⟩ := by
  simp [text]

theorem statements_group (front lines : List Line) (line : Line) (last : Option Line) :
    statements ⟨front ++ line :: lines, last⟩ =
      statements ⟨front, some line⟩ ++ statements ⟨lines, last⟩ := by
  rw [statements, statements, statements, ← List.filterMap_append]
  simp [all]

theorem IsClosed.exists_cleared {script : Script} (closed : script.IsClosed) :
    ∃ remaining, Cleared script.text remaining [] ∧ Leaves remaining script.statements := by
  induction closed with
  | done => exact ⟨[], .done, leaves_nil⟩
  | @last group settles =>
      obtain ⟨left, cleared, leaves, -⟩ := settles.exists_cleared (by simp)
      rw [List.append_nil] at cleared
      exact ⟨left, cleared, leaves⟩
  | @more front lines line last settles closed ih =>
      obtain ⟨remaining, cleared, leaves⟩ := ih
      obtain ⟨left, own, -, onward⟩ := settles.exists_cleared (by simp)
      have newline : Cleared ('\n' :: text ⟨lines, last⟩) ('\n' :: remaining) [] := by
        refine .char (fun opens => ?_) cleared
        exact absurd (List.cons_prefix_cons.mp opens).1 (by decide)
      rw [text_group, statements_group]
      exact ⟨left ++ '\n' :: remaining, own.append newline, onward leaves⟩

theorem IsClosed.spells_withoutComments {script : Script} (closed : script.IsClosed) :
    Spells (ImportScan.withoutComments script.source.toList) script.statements := by
  obtain ⟨remaining, cleared, leaves⟩ := closed.exists_cleared
  rw [source, String.toList_ofList, ImportScan.withoutComments, cleared.withoutBlocks_eq]
  exact leaves [] isBlank_nil

/-- A script without lines that are comments is closed. -/
theorem isClosed_of_isSome {lines : List Line} {last : Option Line}
    (code : ∀ line ∈ all ⟨lines, last⟩, line.statement?.isSome) : IsClosed ⟨lines, last⟩ := by
  have settles (rest : List Char) {line : Line} (held : line.statement?.isSome) :
      Settles rest ⟨[], some line⟩ := by
    cases line with
    | code statement => exact .code statement
    | comment text single => cases held
    | block text inside => cases held
  induction lines with
  | nil =>
      cases last with
      | none => exact .done
      | some line => exact .last (settles [] (code line (List.mem_singleton_self line)))
  | cons line lines ih =>
      exact .more (settles _ (code line (List.mem_cons_self ..)))
        (ih fun other member => code other (List.mem_cons_of_mem _ member))

end Script

/-- The imports of a script are those of its statements, and of each specifier the first one. -/
theorem scan_statements (statements : List Statement) :
    scan (String.ofList (statements.flatMap fun statement => statement.text ++ ['\n'])) =
      firsts Import.specifier [] (statements.map Statement.written) := by
  have source : (Script.mk (statements.map Line.code) none).source =
      String.ofList (statements.flatMap fun statement => statement.text ++ ['\n']) := by
    rw [Script.source, Script.text, List.flatMap_map]
    simp [Line.text]
  have same : (Script.mk (statements.map Line.code) none).statements = statements := by
    rw [Script.statements, Script.all]
    simp [List.filterMap_map, Function.comp_def, Line.statement?]
  have closed : (Script.mk (statements.map Line.code) none).IsClosed := by
    refine Script.isClosed_of_isSome fun line member => ?_
    simp only [Script.all, Option.toList_none, List.append_nil, List.mem_map] at member
    obtain ⟨statement, -, rfl⟩ := member
    rfl
  have spells := closed.spells_withoutComments
  rw [same] at spells
  rw [← source]
  exact spells.scan_eq

example : scan "import \x7b\n  from,\n  require,\n\x7d from './many';\n" =
    [⟨"./many", .importStatement⟩] := by
  decide +kernel

/-- Comments hide no import and add none, if no block comment that opens in a line comment ends
behind a statement. -/
theorem scan_withoutComments {script : Script} (closed : script.IsClosed) :
    scan script.source = scan script.withoutComments.source ∧
      scan script.source =
        firsts Import.specifier [] (script.statements.map Statement.written) := by
  have code : script.withoutComments.IsClosed := by
    refine Script.isClosed_of_isSome fun line member => ?_
    have kept : line ∈ script.all.filter fun line => line.statement?.isSome :=
      script.all_withoutComments ▸ member
    exact (List.mem_filter.mp kept).2
  have found := closed.spells_withoutComments.scan_eq
  have bare := code.spells_withoutComments.scan_eq
  rw [Script.statements_withoutComments] at bare
  exact ⟨found.trans bare.symm, found⟩

/-- `import a from './a'`. -/
def plainImport : Statement where
  lead := .clause .importing
    { before := [' ']
      bindings := ['a']
      after := [' ']
      isBlank_before := List.forall_mem_singleton.mpr rfl
      isBlank_after := List.forall_mem_singleton.mpr rfl
      apart_before := by decide
      apart_after := by decide
      nonempty := by decide
      valid := List.forall_mem_singleton.mpr (by decide) }
  literal := ⟨'\'', "./a".toList, by decide, by decide, List.all_eq_true.mp (by decide)⟩
  ended := false

/-- Comments of both kinds, with imports in them that are none: a block comment behind the slashes
of two lines, slashes in a block comment, and a pattern that opens a block comment without an
end. -/
def commented : Script :=
  ⟨[.comment " import './b'".toList (by decide), .code plainImport,
    .comment " /* import './c'".toList (by decide), .comment " import './d' */".toList (by decide),
    .block " // import './e'\n".toList (by decide +kernel),
    .comment " lib/*.js".toList (by decide)], some (.code plainImport)⟩

theorem commented_scan :
    commented.IsClosed ∧ scan commented.source = [⟨"./a", .importStatement⟩] := by
  have plain (rest : List Char) : Settles ('\n' :: rest)
      ⟨[], some (.comment " import './b'".toList (by decide))⟩ :=
    .comments (by decide) (by decide) (.of_shut (by decide +kernel) (by simp))
  have spanning (rest : List Char) : Settles ('\n' :: rest)
      ⟨[.comment " /* import './c'".toList (by decide)],
        some (.comment " import './d' */".toList (by decide))⟩ := by
    have inside : ¬ ['*', '/'] <:+: " import './c'\n// import './d' ".toList := by decide +kernel
    exact .comments (by decide) (by decide) (.char (shut_of_ne (by decide))
      (.char (shut_of_ne (by decide)) (.char (shut_of_ne (by decide)) (.block inside .done))))
  have endless : Settles ('\n' :: plainImport.text)
      ⟨[], some (.comment " lib/*.js".toList (by decide))⟩ := by
    have front :
        Cleared ("// lib".toList ++ '/' :: '*' :: (".js".toList ++ '\n' :: plainImport.text))
          "// lib".toList _ := .of_shut (by decide +kernel) (by decide)
    exact .comments (by decide) (by decide) (front.append (.endless (by decide +kernel)))
  have closed : commented.IsClosed :=
    @Script.IsClosed.more [] _ _ _ (plain _) <|
    @Script.IsClosed.more [] _ _ _ (.code plainImport) <|
    @Script.IsClosed.more [_] _ _ _ (spanning _) <|
    @Script.IsClosed.more [] _ _ _ (.block _) <|
    @Script.IsClosed.more [] _ _ _ endless <|
    .last (.code plainImport)
  refine ⟨closed, ?_⟩
  rw [(scan_withoutComments closed).2]
  decide +kernel

/-- A line comment with a block comment opening in it, which ends behind an import. -/
def swallowing : Script :=
  ⟨[.comment " scripts/*.js".toList (by decide), .code plainImport,
    .block " end ".toList (by decide)], none⟩

theorem swallowing_scan :
    scan swallowing.source = [] ∧
      scan swallowing.withoutComments.source = [⟨"./a", .importStatement⟩] := by
  decide +kernel

end Lines

end ModuleGraph.ImportScan
