/-
This file shows that the written form of a URL starts with a letter, which tells it from a rooted
path.
-/

import ModuleGraph.Proofs.Path
import ModuleGraph.Url.Parse

namespace ModuleGraph.Url

/-- A text that is an absolute URL. -/
def IsUrl (text : String) : Prop :=
  ∃ url, parse text = .ok url

theorem canonical?_eq_some_iff {text normal : String} :
    canonical? text = some normal ↔ ∃ url, parse text = .ok url ∧ url.toText = normal := by
  rw [canonical?]
  cases parse text with
  | ok url => simp [Except.toOption]
  | error error => simp [Except.toOption]

theorem canonical?_of_parse {text : String} {url : Url} (parsed : parse text = .ok url) :
    canonical? text = some url.toText :=
  canonical?_eq_some_iff.mpr ⟨url, parsed, rfl⟩

theorem canonical?_eq_none_iff {text : String} : canonical? text = none ↔ ¬ IsUrl text := by
  rw [canonical?, IsUrl]
  cases parse text with
  | ok url => simp [Except.toOption]
  | error error => simp [Except.toOption]

/-- Whatever URL a reading gives has the scheme. -/
def HasScheme (scheme : String) (reading : Except ParseError Url) : Prop :=
  ∀ url, reading = .ok url → url.scheme = scheme

section Schemes

variable {scheme : String} {α : Type} {first second : Except ParseError α}
  {next : α → Except ParseError Url} {condition : Prop} [Decidable condition]

theorem hasScheme_ok {url : Url} (same : url.scheme = scheme) : HasScheme scheme (.ok url) := by
  rintro _ ⟨⟩
  exact same

/-- The last step of a reading makes its URL. -/
theorem hasScheme_bind (each : ∀ value, HasScheme scheme (next value)) :
    HasScheme scheme (first >>= next) := by
  cases first with
  | error error => exact nofun
  | ok value => exact each value

theorem hasScheme_choice (each : ∀ value, HasScheme scheme (next value)) :
    HasScheme scheme (if condition then first >>= next else second >>= next) := by
  split
  · exact hasScheme_bind each
  · exact hasScheme_bind each

/-- A check that a reading makes on its way has no part in the URL. -/
theorem hasScheme_guard {check : Except ParseError Unit} {next : Unit → Except ParseError Url}
    (passed : HasScheme scheme (next ())) :
    HasScheme scheme (if condition then check >>= next else next ()) := by
  split
  · exact hasScheme_bind fun _ => passed
  · exact passed

theorem hasScheme_parseAuthority (scheme : String) (text : List Char) :
    HasScheme scheme (parseAuthority scheme text) := by
  unfold parseAuthority
  refine hasScheme_bind fun ⟨user, rest⟩ => hasScheme_guard <| hasScheme_choice fun host =>
    hasScheme_guard ?_
  have ends (port : Option Nat × List Char) : HasScheme scheme
      (if isSpecial scheme || (port.2.head?.map fun char => !isPathEnd char).getD false then
        .ok (withPath scheme (some ⟨user.1, user.2, host, port.1⟩) []
          (dropSeparator (isSpecial scheme) port.2))
      else .ok ⟨scheme, some ⟨user.1, user.2, host, port.1⟩, .segmented [],
        (parseTail (isSpecial scheme) port.2).1, (parseTail (isSpecial scheme) port.2).2⟩) := by
    split
    · exact hasScheme_ok rfl
    · exact hasScheme_ok rfl
  dsimp only
  split
  · exact hasScheme_bind fun port => hasScheme_guard (ends port)
  · exact hasScheme_bind fun port => hasScheme_guard (ends port)

theorem hasScheme_parseFileHost (text : List Char) : HasScheme "file" (parseFileHost text) := by
  unfold parseFileHost
  dsimp only
  split
  · exact hasScheme_ok rfl
  refine hasScheme_choice fun host => ?_
  split
  · exact hasScheme_ok rfl
  · exact hasScheme_ok rfl

theorem hasScheme_parseFile (text : List Char) : HasScheme "file" (parseFile none text) := by
  unfold parseFile
  dsimp only
  split
  · split
    · exact hasScheme_parseFileHost _
    · exact hasScheme_ok rfl
  · exact hasScheme_ok rfl

theorem hasScheme_parseAfterScheme (scheme : String) (text : List Char) :
    HasScheme scheme (parseAfterScheme none scheme text) := by
  unfold parseAfterScheme
  split
  · exact hasScheme_parseAuthority scheme _
  split
  · exact hasScheme_parseAuthority scheme _
  · exact hasScheme_ok rfl
  · exact hasScheme_ok rfl

end Schemes

/-- A URL has the scheme that its text starts with. -/
theorem takeScheme?_of_parse {text : String} {url : Url} (parsed : parse text = .ok url) :
    ∃ rest, takeScheme? (trimEdges text.toList) = some (url.scheme, rest) := by
  unfold parse parseWith at parsed
  dsimp only at parsed
  split at parsed
  · rename_i scheme rest taken
    refine ⟨rest, ?_⟩
    rw [taken]
    split at parsed
    · rename_i file
      rw [hasScheme_parseFile rest url parsed, eq_of_beq file]
    · rw [hasScheme_parseAfterScheme scheme _ url parsed]
  · cases parsed

/-- A letter in small form is no slash. -/
theorem toLower_ne_slash {letter : Char} (alphabetic : letter.isAlpha = true) :
    letter.toLower ≠ '/' := by
  intro equal
  have code : letter.toLower.val.toNat = 47 := by
    rw [equal]
    rfl
  have range : (65 ≤ letter.val.toNat ∧ letter.val.toNat ≤ 90) ∨
      (97 ≤ letter.val.toNat ∧ letter.val.toNat ≤ 122) := by
    delta Char.isAlpha Char.isUpper Char.isLower at alphabetic
    simpa [UInt32.le_iff_toNat_le] using alphabetic
  delta Char.toLower at code
  split at code
  · rw [UInt32.toNat_add] at code
    simp only [Char.reduceVal, UInt32.reduceSub, UInt32.reduceToNat] at code
    omega
  · omega

/-- A scheme starts with a letter. -/
theorem exists_letter_of_takeScheme? {text rest : List Char} {scheme : String}
    (taken : takeScheme? text = some (scheme, rest)) :
    ∃ letter : Char, letter.isAlpha = true ∧
      ∃ letters, scheme.toList = letter.toLower :: letters := by
  unfold takeScheme? at taken
  dsimp only at taken
  generalize dropBreaks (text.takeWhile fun char => isSchemeChar char || isBreak char) = front
    at taken
  split at taken
  · rename_i starts
    split at taken
    · cases taken
      cases front with
      | nil => cases starts
      | cons letter letters => exact ⟨letter, starts, letters.map Char.toLower, by simp⟩
    · cases taken
  · cases taken

/-- The written form of a URL is no rooted path. -/
theorem isRooted_of_canonical? {text normal : String} (canonical : canonical? text = some normal) :
    Path.isRooted normal = false := by
  obtain ⟨url, parsed, rfl⟩ := canonical?_eq_some_iff.mp canonical
  obtain ⟨rest, taken⟩ := takeScheme?_of_parse parsed
  obtain ⟨letter, alphabetic, letters, scheme⟩ := exists_letter_of_takeScheme? taken
  have different := toLower_ne_slash alphabetic
  simp [Path.isRooted, toText, scheme, different]

section Heads

variable {text : String} {first : Char} {rest : List Char}

/-- A first character that is no blank stays the first. -/
theorem exists_trimEdges_cons (inside : isEdge first = false) (rest : List Char) :
    ∃ more, trimEdges (first :: rest) = first :: more := by
  have kept : ¬ isEdge first = true := by simp [inside]
  refine ⟨(rest.reverse.dropWhile isEdge).reverse, ?_⟩
  rw [trimEdges, List.dropWhile_cons_of_neg kept, List.reverse_cons, List.dropWhile_append,
    List.dropWhile_cons_of_neg kept]
  split
  · rename_i blank
    simp [List.isEmpty_iff.mp blank]
  · simp

/-- A scheme starts with a letter. -/
theorem takeScheme?_cons_of_not_isAlpha (inside : isEdge first = false)
    (other : first.isAlpha = false) : takeScheme? (first :: rest) = none := by
  have unbroken : isBreak first = false := by
    refine Bool.eq_false_iff.mpr fun broken => ?_
    simp only [isBreak, Bool.or_eq_true, beq_iff_eq] at broken
    rcases broken with (rfl | rfl) | rfl <;> exact absurd inside (by decide)
  have starts : ((dropBreaks ((first :: rest).takeWhile fun char =>
      isSchemeChar char || isBreak char)).head?.map Char.isAlpha).getD false = false := by
    rw [List.takeWhile_cons]
    split
    · simp [dropBreaks, unbroken, other]
    · rfl
  rw [takeScheme?]
  simp only [starts, Bool.false_eq_true, if_false]

/-- A text that starts with neither a letter nor a blank is no URL. -/
theorem exists_parse_eq_error (head : text.toList.head? = some first)
    (inside : isEdge first = false) (other : first.isAlpha = false) :
    ∃ error, parse text = .error error := by
  obtain ⟨rest, spelled⟩ := List.head?_eq_some_iff.mp head
  obtain ⟨more, trimmed⟩ := exists_trimEdges_cons inside rest
  refine ⟨.noBase, ?_⟩
  rw [parse, parseWith, spelled, trimmed, takeScheme?_cons_of_not_isAlpha inside other]

/-- The normal form of a path is no URL. -/
theorem exists_parse_normalize (path : String) :
    ∃ error, parse (Path.normalize path) = .error error := by
  rcases (Path.isNormalForm_normalize path).head? with slash | dot
  · exact exists_parse_eq_error slash (by decide) (by decide)
  · exact exists_parse_eq_error dot (by decide) (by decide)

end Heads

end ModuleGraph.Url
