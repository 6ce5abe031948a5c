import DebugBridge.Text.Blank

/-!
# Parts of texts

What the functions on texts find, said without them: a text is what is left of it and NULs, it
begins with blanks and a word, or it falls into pieces at a separator.
-/

namespace DebugBridge.Text

section Nuls

variable (chars : List Char)

/-- Nothing but NULs is left out. -/
theorem exists_nuls :
    ∃ count, chars = dropTrailingNuls chars ++ List.replicate count '\x00' := by
  have nuls : chars.reverse.takeWhile (· == '\x00') =
      List.replicate (chars.reverse.takeWhile (· == '\x00')).length '\x00' := by
    rw [List.eq_replicate_iff]
    refine ⟨rfl, fun char member => ?_⟩
    have all_nuls := List.all_eq_true.mp List.all_takeWhile char member
    exact beq_iff_eq.mp all_nuls
  refine ⟨(chars.reverse.takeWhile (· == '\x00')).length, ?_⟩
  apply List.reverse_inj.mp
  rw [List.reverse_append, List.reverse_replicate, ← nuls, dropTrailingNuls, List.reverse_reverse,
    List.takeWhile_append_dropWhile]

/-- What is left does not end with a NUL. -/
theorem getLast?_dropTrailingNuls : (dropTrailingNuls chars).getLast? ≠ some '\x00' := by
  intro ends
  have first := List.head?_dropWhile_not (· == '\x00') chars.reverse
  rw [dropTrailingNuls, List.getLast?_reverse] at ends
  rw [ends] at first
  contradiction

variable {chars}

/-- NULs behind a text make no difference to what is left of it. -/
theorem dropTrailingNuls_append_nuls (chars : List Char) (count : Nat) :
    dropTrailingNuls (chars ++ List.replicate count '\x00') = dropTrailingNuls chars := by
  have nuls : ∀ char ∈ List.replicate count '\x00', (char == '\x00') = true := by
    intro char member
    rw [List.eq_of_mem_replicate member]
    rfl
  rw [dropTrailingNuls, List.reverse_append, List.reverse_replicate,
    List.dropWhile_append_of_pos nuls, dropTrailingNuls]

/-- Without a NUL at the end nothing is dropped. -/
theorem dropTrailingNuls_of_plain (plain : chars.getLast? ≠ some '\x00') :
    dropTrailingNuls chars = chars := by
  have stop : chars.reverse.dropWhile (· == '\x00') = chars.reverse := by
    cases reversed : chars.reverse with
    | nil => rfl
    | cons char rest =>
      rw [← List.head?_reverse, reversed, List.head?_cons, Ne, Option.some.injEq] at plain
      exact List.dropWhile_cons_of_neg (by simpa using plain)
  rw [dropTrailingNuls, stop, List.reverse_reverse]

/-- NULs behind a text that does not end with one are left out. -/
theorem dropTrailingNuls_append (plain : chars.getLast? ≠ some '\x00') (count : Nat) :
    dropTrailingNuls (chars ++ List.replicate count '\x00') = chars := by
  rw [dropTrailingNuls_append_nuls, dropTrailingNuls_of_plain plain]

/-- Exactly the NULs at the end are left out. -/
theorem dropTrailingNuls_eq_iff {plain : List Char} :
    dropTrailingNuls chars = plain ↔
      (∃ count, chars = plain ++ List.replicate count '\x00') ∧ plain.getLast? ≠ some '\x00' := by
  constructor
  · rintro rfl
    exact ⟨exists_nuls chars, getLast?_dropTrailingNuls chars⟩
  · rintro ⟨⟨count, rfl⟩, plain⟩
    exact dropTrailingNuls_append plain count

end Nuls

/-- A text begins with blanks, perhaps none, and a word, behind which it ends or has a blank. -/
structure Begins (chars blanks word rest : List Char) : Prop where
  whole : chars = blanks ++ (word ++ rest)
  blank : ∀ char ∈ blanks, isBlank char = true
  some_word : word ≠ []
  solid : ∀ char ∈ word, isBlank char = false
  ends : ∀ char ∈ rest.head?, isBlank char = true

section Word

variable {chars blanks word rest : List Char}

/-- The word that a text begins with is its first word. -/
theorem Begins.firstWord?_eq (begins : Begins chars blanks word rest) :
    firstWord? chars = some word := by
  obtain ⟨rfl, blank, some_word, solid, ends⟩ := begins
  have skipped : (blanks ++ (word ++ rest)).dropWhile isBlank = word ++ rest := by
    rw [List.dropWhile_append_of_pos blank]
    cases word with
    | nil => contradiction
    | cons char word =>
      have first := solid char List.mem_cons_self
      exact List.dropWhile_cons_of_neg (by simp [first])
  have taken : (word ++ rest).takeWhile (fun char => !isBlank char) = word := by
    have not_blank : ∀ char ∈ word, (!isBlank char) = true := by
      intro char member
      rw [solid char member]
      rfl
    rw [List.takeWhile_append_of_pos not_blank]
    cases rest with
    | nil => rw [List.takeWhile_nil, List.append_nil]
    | cons char rest =>
      have stop := ends char rfl
      rw [List.takeWhile_cons_of_neg (by simp [stop]), List.append_nil]
  unfold firstWord?
  rw [skipped, taken]
  cases word with
  | nil => contradiction
  | cons char word => rfl

/-- The first word stands between blanks at the front and the next blank or the end. -/
theorem exists_begins (found : firstWord? chars = some word) :
    ∃ blanks rest, Begins chars blanks word rest := by
  obtain ⟨taken, some_word⟩ :
      (chars.dropWhile isBlank).takeWhile (fun char => !isBlank char) = word ∧ word ≠ [] := by
    unfold firstWord? at found
    split at found
    · contradiction
    · next some_word =>
      obtain rfl := Option.some.inj found
      exact ⟨rfl, some_word⟩
  have whole := @List.takeWhile_append_dropWhile _ (fun char => !isBlank char)
    (chars.dropWhile isBlank)
  rw [taken] at whole
  refine ⟨chars.takeWhile isBlank,
    (chars.dropWhile isBlank).dropWhile (fun char => !isBlank char), ?_, ?_, some_word, ?_, ?_⟩
  · rw [whole, List.takeWhile_append_dropWhile]
  · exact List.all_eq_true.mp List.all_takeWhile
  · intro char member
    rw [← taken] at member
    have solid := List.all_eq_true.mp List.all_takeWhile char member
    simpa using solid
  · intro char first
    have stops := List.head?_dropWhile_not (fun char => !isBlank char) (chars.dropWhile isBlank)
    rw [Option.mem_def.mp first] at stops
    simpa using stops

end Word

/-- A text falls into these pieces at a separator, which stands between them and in none of them. -/
structure FallsInto (separator : Char) (chars : List Char) (pieces : List (List Char)) : Prop where
  some_pieces : pieces ≠ []
  free : ∀ piece ∈ pieces, separator ∉ piece
  joined : [separator].intercalate pieces = chars

variable {separator : Char} {chars : List Char} {pieces : List (List Char)}

/-- A separator at the end has an empty piece behind it. -/
theorem FallsInto.append_separator (falls : FallsInto separator chars pieces) :
    FallsInto separator (chars ++ [separator]) (pieces ++ [[]]) := by
  obtain ⟨some_pieces, free, rfl⟩ := falls
  refine ⟨by simp, ?_, ?_⟩
  · intro piece member
    rcases List.mem_append.mp member with inside | last
    · exact free piece inside
    · rw [List.mem_singleton.mp last]
      exact List.not_mem_nil
  · clear free
    induction pieces with
    | nil => contradiction
    | cons piece pieces ih =>
      cases pieces with
      | nil => simp
      | cons next pieces =>
        have behind := ih (by simp)
        rw [List.cons_append] at behind
        rw [List.cons_append, List.cons_append, List.intercalate_cons_cons, behind,
          List.intercalate_cons_cons, List.append_assoc _ _ [separator]]

/-- Text without a separator behind a text goes to its last piece. -/
theorem FallsInto.append {front : List (List Char)} {last more : List Char}
    (falls : FallsInto separator chars (front ++ [last])) (more_free : separator ∉ more) :
    FallsInto separator (chars ++ more) (front ++ [last ++ more]) := by
  obtain ⟨-, free, rfl⟩ := falls
  refine ⟨by simp, ?_, ?_⟩
  · intro piece member
    rcases List.mem_append.mp member with inside | at_end
    · exact free piece (List.mem_append_left _ inside)
    · rw [List.mem_singleton.mp at_end, List.mem_append, not_or]
      exact ⟨free last (List.mem_append_right _ List.mem_cons_self), more_free⟩
  · clear free
    induction front with
    | nil => simp
    | cons piece front ih =>
      have some_behind : front ++ [last] ≠ [] := by simp
      have some_behind' : front ++ [last ++ more] ≠ [] := by simp
      rw [List.cons_append, List.cons_append, List.intercalate_cons_of_ne_nil some_behind,
        List.intercalate_cons_of_ne_nil some_behind', ih, ← List.append_assoc]

/-- No piece holds the separator. -/
theorem not_mem_of_mem_splitOn (separator : Char) (chars : List Char) :
    ∀ piece ∈ chars.splitOn separator, separator ∉ piece := by
  induction chars with
  | nil => simp
  | cons char chars ih =>
    rw [List.splitOn_cons_eq_if_modifyHead]
    split
    · next same =>
      intro piece member
      rcases List.mem_cons.mp member with rfl | later
      · exact List.not_mem_nil
      · exact ih piece later
    · next other =>
      obtain ⟨first, others, split⟩ :=
        List.exists_cons_of_ne_nil (List.splitOn_ne_nil separator chars)
      rw [split] at ih ⊢
      intro piece member
      rw [List.modifyHead_cons, List.mem_cons] at member
      rcases member with rfl | later
      · have free := ih first List.mem_cons_self
        have not_first : separator ≠ char := fun same => other (beq_iff_eq.mpr same.symm)
        exact List.not_mem_cons_of_ne_of_not_mem not_first free
      · exact ih piece (List.mem_cons_of_mem first later)

/-- A piece is a connected part of the text. -/
theorem FallsInto.infix {piece : List Char} (falls : FallsInto separator chars pieces)
    (member : piece ∈ pieces) : piece <:+: chars := by
  obtain ⟨-, -, rfl⟩ := falls
  induction pieces with
  | nil => contradiction
  | cons first pieces ih =>
    by_cases last : pieces = []
    · subst last
      simp only [List.mem_singleton.mp member, List.intercalate_singleton, List.infix_refl]
    · rw [List.intercalate_cons_of_ne_nil last]
      rcases List.mem_cons.mp member with rfl | later
      · exact ((List.prefix_append piece _).trans (List.prefix_append _ _)).isInfix
      · exact (ih later).trans (List.suffix_append _ _).isInfix

/-- Splitting finds the pieces, and there are no others. -/
theorem fallsInto_iff : FallsInto separator chars pieces ↔ pieces = chars.splitOn separator := by
  constructor
  · rintro ⟨some_pieces, free, rfl⟩
    exact (List.splitOn_intercalate separator free some_pieces).symm
  · rintro rfl
    exact ⟨List.splitOn_ne_nil separator chars, not_mem_of_mem_splitOn separator chars,
      List.intercalate_splitOn separator⟩

end DebugBridge.Text
