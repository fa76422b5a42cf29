/-
This file follows the search for one form through a text: past what it is not found in, and over
what it is found in.
-/

import ModuleGraph.Proofs.ImportScan.Form

namespace ModuleGraph.ImportScan

section Places

namespace Place

/-- The place behind a text. -/
def after (place : Place) (text : List Char) : Place :=
  text.foldl step place

theorem after_append (place : Place) (first second : List Char) :
    place.after (first ++ second) = (place.after first).after second :=
  List.foldl_append

/-- Any form may start here. -/
def IsOpen (place : Place) : Prop :=
  ∀ site, place.allows site = true

theorem isOpen_start : start.IsOpen := by
  intro site
  cases site <;> rfl

theorem isOpen_newline (place : Place) : (place.step '\n').IsOpen := by
  intro site
  cases site <;> rfl

theorem IsOpen.blank {place : Place} (isOpen : place.IsOpen) {char : Char}
    (blank : isBlank char = true) : (place.step char).IsOpen := by
  have fresh : place.fresh = true := isOpen .line
  intro site
  cases site with
  | line => simp [allows, step, fresh, blank]
  | word => simp [allows, step, isWordChar_of_isBlank blank]

/-- A line that has begun goes on until it ends. -/
theorem fresh_after_of_stale {place : Place} (stale : place.fresh = false) {text : List Char}
    (single : '\n' ∉ text) : (place.after text).fresh = false := by
  induction text generalizing place with
  | nil => exact stale
  | cons char text ih =>
      rw [List.mem_cons, not_or] at single
      refine ih ?_ single.2
      simp [step, stale, Ne.symm single.1]

end Place

end Places

section Quiet

/-- The form starts nowhere in `front`, which `rest` follows. -/
def Quiet (site : Site) (form : Form) (place : Place) (front rest : List Char) : Prop :=
  ∀ before char behind, front = before ++ char :: behind →
    (place.after before).allows site = true → form (char :: (behind ++ rest)) = none

variable {site : Site} {form : Form} {place : Place} {front rest : List Char}

theorem quiet_nil : Quiet site form place [] rest := by
  intro before char behind split
  simp at split

/-- A part is quiet if the form accepts nothing that starts in it. -/
theorem quiet_of_not_found (absent : ∀ before char behind, front = before ++ char :: behind →
    ∀ reference, form (char :: (behind ++ rest)) ≠ some reference) :
    Quiet site form place front rest :=
  fun before char behind split _ =>
    Option.eq_none_iff_forall_ne_some.mpr (absent before char behind split)

theorem Quiet.append {middle : List Char} (first : Quiet site form place front (middle ++ rest))
    (second : Quiet site form (place.after front) middle rest) :
    Quiet site form place (front ++ middle) rest := by
  intro before char behind split allowed
  rcases List.append_eq_append_iff.mp split with ⟨more, rfl, inner⟩ | ⟨more, rfl, inner⟩
  · rw [Place.after_append] at allowed
    exact second more char behind inner allowed
  · cases more with
    | nil =>
        rw [List.append_nil] at first second
        exact second [] char behind inner.symm allowed
    | cons head more =>
        obtain ⟨rfl, rfl⟩ := List.cons.inj inner
        have none := first before char more rfl allowed
        rwa [← List.append_assoc] at none

theorem occurrences_of_quiet (quiet : Quiet site form place front rest) (position : Nat) :
    occurrences site form 0 position place (front ++ rest) =
      occurrences site form 0 (position + front.length) (place.after front) rest := by
  induction front generalizing place position with
  | nil => rfl
  | cons char front ih =>
      have here : (if place.allows site then form (char :: (front ++ rest)) else none) = none := by
        split
        · rename_i allowed
          exact quiet [] char front rfl allowed
        · rfl
      have there : Quiet site form (place.step char) front rest := by
        intro before other behind split allowed
        exact quiet (char :: before) other behind (by rw [split]; rfl) allowed
      rw [List.cons_append, occurrences, here]
      dsimp only
      rw [ih there, List.length_cons, Nat.add_assoc, Nat.add_comm 1]
      rfl

theorem occurrences_skip (position : Nat) :
    occurrences site form front.length position place (front ++ rest) =
      occurrences site form 0 (position + front.length) (place.after front) rest := by
  induction front generalizing place position with
  | nil => rfl
  | cons char front ih =>
      rw [List.cons_append, List.length_cons, occurrences, ih, Nat.add_assoc, Nat.add_comm 1]
      rfl

/-- A form that is found is passed over as a whole. -/
theorem occurrences_of_found {reference : Reference} (allowed : place.allows site = true)
    (found : form (front ++ rest) = some reference) (length : reference.length = front.length)
    (nonempty : front ≠ []) (position : Nat) :
    occurrences site form 0 position place (front ++ rest) =
      (position + reference.before, reference.specifier) ::
        occurrences site form 0 (position + front.length) (place.after front) rest := by
  obtain ⟨char, others, rfl⟩ := List.exists_cons_of_ne_nil nonempty
  have behind : reference.length - 1 = others.length := by
    rw [length]
    rfl
  rw [List.cons_append] at found ⊢
  rw [occurrences, if_pos allowed, found]
  dsimp only
  rw [behind, occurrences_skip, List.length_cons, Nat.add_assoc, Nat.add_comm 1]
  rfl

/-- A form that is found at the start of a text is followed by whatever the rest of it holds. -/
theorem occurrences_of_finds {literal : Literal} {behind : List Char}
    (finds : Finds form front literal behind) (allowed : place.allows site = true)
    (position : Nat) :
    occurrences site form 0 position place (front ++ (literal.text ++ (behind ++ rest))) =
      (position + (front.length + 1), literal.specifier) ::
        occurrences site form 0 (position + (front ++ (literal.text ++ behind)).length)
          (place.after (front ++ (literal.text ++ behind))) rest := by
  have found := finds rest
  have whole : front ++ (literal.text ++ (behind ++ rest)) =
      (front ++ (literal.text ++ behind)) ++ rest := by
    simp only [List.append_assoc]
  have length : Reference.length ⟨front.length + 1, literal.specifier, behind.length + 1⟩ =
      (front ++ (literal.text ++ behind)).length := by
    simp only [Reference.length, Literal.text, List.length_append, List.length_cons,
      List.length_nil]
    omega
  have nonempty : front ++ (literal.text ++ behind) ≠ [] := by
    simp [Literal.text]
  rw [whole] at found ⊢
  exact occurrences_of_found allowed found length nonempty position

end Quiet

end ModuleGraph.ImportScan
