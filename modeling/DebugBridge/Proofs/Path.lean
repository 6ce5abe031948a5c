import DebugBridge.Path
import DebugBridge.Proofs.Text.Parts

/-!
# Plain paths

Of the texts that write a path one is plain: no slash is repeated or stands at the end, and no dot
stands behind the first place. Two texts write the same path if and only if their plain forms are
one text (`Path.same_iff`), and text without a slash that is put behind a path makes another one.
-/

namespace DebugBridge.Path

variable {path other : String}

/-- How a part is written. -/
def Part.chars : Part → List Char
  | root => []
  | here => ['.']
  | up => ['.', '.']
  | name chars => chars

/-- Whether a part can stand behind others. -/
def Part.IsInner : Part → Prop
  | root | here => False
  | up => True
  | name chars => '/' ∉ chars ∧ isSolid chars = true ∧ chars ≠ ['.', '.']

/-- The pieces of the plain text for some parts. A lone root needs a piece behind its slash. -/
def spellPieces : List Part → List (List Char)
  | [] => [[]]
  | [.root] => [[], []]
  | parts => parts.map Part.chars

/-- The plain text for some parts. -/
def spell (parts : List Part) : String :=
  String.ofList (['/'].intercalate (spellPieces parts))

/-- The plain text for a path. -/
def plain (path : String) : String :=
  spell (parts path)

/-- Whether a text is the plain one for its path. -/
def IsPlain (path : String) : Prop :=
  plain path = path

instance (path : String) : Decidable (IsPlain path) :=
  inferInstanceAs (Decidable (plain path = path))

/-- A path falls into its pieces at the slashes. -/
theorem fallsInto_pieces (path : String) : Text.FallsInto '/' path.toList (pieces path) :=
  Text.fallsInto_iff.mpr rfl

/-- A path falls into its pieces at the slashes and into no others. -/
theorem pieces_eq_of_fallsInto {list : List (List Char)}
    (falls : Text.FallsInto '/' path.toList list) : pieces path = list :=
  (Text.fallsInto_iff.mp falls).symm

/-- What stands for the beginning of a path, if anything does. -/
inductive IsLead : List Part → Prop
  | nothing : IsLead []
  | root : IsLead [.root]
  | here : IsLead [.here]

/-- What stands in front of the pieces is a beginning. -/
theorem isLead_front (list : List (List Char)) : IsLead (front list) := by
  unfold front
  split
  · exact .root
  · exact .here
  · exact .nothing

/-- A piece is written as it was. -/
theorem chars_partOf (piece : List Char) : (partOf piece).chars = piece := by
  unfold partOf
  split
  · next same => exact same.symm
  · rfl

/-- A piece without a slash that says something can stand behind others. -/
theorem isInner_partOf {piece : List Char} (free : '/' ∉ piece) (solid : isSolid piece = true) :
    (partOf piece).IsInner := by
  unfold partOf
  split
  · trivial
  · next other => exact ⟨free, solid, other⟩

/-- A path consists of what its beginning says and of parts that can stand anywhere. -/
theorem exists_parts (path : String) :
    ∃ lead inner, parts path = lead ++ inner ∧ IsLead lead ∧ ∀ part ∈ inner, part.IsInner := by
  refine ⟨_, _, rfl, isLead_front _, fun part member => ?_⟩
  obtain ⟨piece, inside, rfl⟩ := List.mem_map.mp member
  obtain ⟨piece_of, solid⟩ := List.mem_filter.mp inside
  exact isInner_partOf ((fallsInto_pieces path).free piece piece_of) solid

section Inner

variable {part : Part} {inner : List Part}

/-- A part behind others has no slash in it. -/
theorem Part.IsInner.free (is_inner : part.IsInner) : '/' ∉ part.chars := by
  cases part with
  | root | here => contradiction
  | up => decide
  | name chars => exact is_inner.1

/-- A part behind others is neither empty nor a dot. -/
theorem Part.IsInner.solid (is_inner : part.IsInner) : isSolid part.chars = true := by
  cases part with
  | root | here => contradiction
  | up => rfl
  | name chars => exact is_inner.2.1

/-- A part behind others is read as it is written. -/
theorem Part.IsInner.partOf_chars (is_inner : part.IsInner) : partOf part.chars = part := by
  cases part with
  | root | here => contradiction
  | up => rfl
  | name chars => exact if_neg is_inner.2.2

/-- Parts behind others are read as they are written, and none is passed over. -/
theorem map_partOf_filter (are_inner : ∀ part ∈ inner, part.IsInner) :
    ((inner.map Part.chars).filter isSolid).map partOf = inner := by
  have all_solid : ∀ piece ∈ inner.map Part.chars, isSolid piece = true := by
    intro piece member
    obtain ⟨part, inside, rfl⟩ := List.mem_map.mp member
    exact (are_inner part inside).solid
  have each : ∀ part ∈ inner, (partOf ∘ Part.chars) part = id part := by
    intro part member
    exact (are_inner part member).partOf_chars
  rw [List.filter_eq_self.mpr all_solid, List.map_map, List.map_congr_left each, List.map_id]

/-- A path that starts with a piece has no other beginning. -/
theorem front_of_solid {piece : List Char} (solid : isSolid piece = true)
    (list : List (List Char)) : front (piece :: list) = [] := by
  unfold front
  split
  · next same =>
    obtain ⟨rfl, -⟩ := List.cons.inj same
    contradiction
  · next same =>
    obtain ⟨rfl, -⟩ := List.cons.inj same
    contradiction
  · rfl

/-- Parts without a beginning are written one by one. -/
theorem spellPieces_of_isInner (is_inner : part.IsInner) (inner : List Part) :
    spellPieces (part :: inner) = part.chars :: inner.map Part.chars := by
  cases part with
  | root | here => contradiction
  | up | name => rfl

/-- No piece of a plain text has a slash in it. -/
theorem spellPieces_free {lead : List Part} (is_lead : IsLead lead)
    (are_inner : ∀ part ∈ inner, part.IsInner) :
    ∀ piece ∈ spellPieces (lead ++ inner), '/' ∉ piece := by
  have inner_free : ∀ piece ∈ inner.map Part.chars, '/' ∉ piece := by
    intro piece member
    obtain ⟨part, inside, rfl⟩ := List.mem_map.mp member
    exact (are_inner part inside).free
  cases is_lead with
  | nothing =>
    cases inner with
    | nil => decide
    | cons part inner =>
      rw [List.nil_append, spellPieces_of_isInner (are_inner part List.mem_cons_self)]
      exact inner_free
  | root =>
    cases inner with
    | nil => decide
    | cons part inner => exact List.forall_mem_cons.mpr ⟨List.not_mem_nil, inner_free⟩
  | here => exact List.forall_mem_cons.mpr ⟨by decide, inner_free⟩

/-- The plain text falls into the pieces of which it was made. -/
theorem pieces_spell {lead : List Part} (is_lead : IsLead lead)
    (are_inner : ∀ part ∈ inner, part.IsInner) :
    pieces (spell (lead ++ inner)) = spellPieces (lead ++ inner) := by
  apply pieces_eq_of_fallsInto
  refine ⟨?_, spellPieces_free is_lead are_inner, String.toList_ofList.symm⟩
  unfold spellPieces
  split
  · exact List.cons_ne_nil _ _
  · exact List.cons_ne_nil _ _
  · next some_parts _ => simpa using some_parts

/-- Parts are read back from their plain text. -/
theorem parts_spell {lead : List Part} (is_lead : IsLead lead)
    (are_inner : ∀ part ∈ inner, part.IsInner) :
    parts (spell (lead ++ inner)) = lead ++ inner := by
  have back := map_partOf_filter are_inner
  rw [parts, pieces_spell is_lead are_inner]
  cases is_lead with
  | nothing =>
    cases inner with
    | nil => rfl
    | cons part inner =>
      have is_inner := are_inner part List.mem_cons_self
      rw [List.nil_append, spellPieces_of_isInner is_inner, front_of_solid is_inner.solid]
      exact back
  | root =>
    cases inner with
    | nil => rfl
    | cons part inner => exact congrArg (Part.root :: ·) back
  | here => exact congrArg (Part.here :: ·) back

end Inner

/-- A path starts from the root if its first piece is empty and not its only one. -/
theorem isAbsolute_iff :
    isAbsolute path = true ↔ ∃ second rest, pieces path = [] :: second :: rest := by
  obtain ⟨some_pieces, free, joined⟩ := fallsInto_pieces path
  rw [isAbsolute, decide_eq_true_iff, ← joined]
  match pieces path, some_pieces, free with
  | [first], _, free =>
    have first_free := free first List.mem_cons_self
    cases first with
    | nil => simp
    | cons char first => simpa using (List.ne_of_not_mem_cons first_free).symm
  | first :: second :: rest, _, free =>
    have first_free := free first List.mem_cons_self
    cases first with
    | nil => simp
    | cons char first => simpa using (List.ne_of_not_mem_cons first_free).symm

/-- The plain text of a path writes the same path. -/
theorem parts_plain (path : String) : parts (plain path) = parts path := by
  obtain ⟨lead, inner, whole, is_lead, are_inner⟩ := exists_parts path
  rw [plain, whole]
  exact parts_spell is_lead are_inner

/-- Texts write the same path if their plain forms are one text. -/
theorem same_iff : Same path other ↔ plain path = plain other := by
  constructor
  · exact congrArg spell
  · intro same
    rw [Same, ← parts_plain path, same, parts_plain]

/-- Plain texts write the same path only if they are one text. -/
theorem IsPlain.eq_of_same (first : IsPlain path) (second : IsPlain other)
    (same : Same path other) : path = other := by
  rw [← first, ← second]
  exact same_iff.mp same

example : plain "//keys/.//adbkey/" = "/keys/adbkey" := by decide

section Behind

variable {more : List Char}

theorem isSolid_append (piece : List Char) (solid : isSolid more = true) :
    isSolid (piece ++ more) = true := by
  cases piece with
  | nil => exact solid
  | cons char piece =>
    cases more with
    | nil => contradiction
    | cons first more => simp [isSolid]

/-- Different pieces are different parts. -/
theorem partOf_inj {piece other : List Char} (same : partOf piece = partOf other) :
    piece = other := by
  rw [← chars_partOf piece, same, chars_partOf]

theorem front_cons_cons (first second : List Char) (rest : List (List Char)) :
    front (first :: second :: rest) =
      if first = [] then [.root] else if first = ['.'] then [.here] else [] := by
  unfold front
  split
  · next same => rw [if_pos (List.cons.inj same).1]
  · next same =>
    obtain ⟨rfl, -⟩ := List.cons.inj same
    rfl
  · next not_empty not_dot =>
    rw [if_neg fun empty => not_empty _ _ (by rw [empty]),
      if_neg fun dot => not_dot _ (by rw [dot])]

/-- What the beginning of a path says does not depend on its last piece if it has several. -/
theorem front_append {list : List (List Char)} (several : list ≠ []) (last other : List Char) :
    front (list ++ [last]) = front (list ++ [other]) := by
  obtain ⟨first, list, rfl⟩ := List.exists_cons_of_ne_nil several
  cases list with
  | nil => exact (front_cons_cons _ _ _).trans (front_cons_cons _ _ _).symm
  | cons second list => exact (front_cons_cons _ _ _).trans (front_cons_cons _ _ _).symm

/-- What the last piece of a path contributes. -/
theorem parts_of_pieces {list : List (List Char)} {last : List Char}
    (split : pieces path = list ++ [last]) :
    parts path = front (list ++ [last]) ++ ((list.filter isSolid).map partOf ++
      if isSolid last then [partOf last] else []) := by
  rw [parts, split, List.filter_append, List.map_append]
  cases solid : isSolid last <;> simp [solid]

/-- Only nothing and a single dot say nothing. -/
theorem eq_of_not_isSolid {piece : List Char} (blank : isSolid piece = false) :
    piece = [] ∨ piece = ['.'] := by
  simpa [isSolid, Classical.or_iff_not_imp_left] using blank

/-- Text without a slash that is solid by itself makes another path wherever it is put behind
one. -/
theorem not_same_append {suffix : String} (solid : isSolid suffix.toList = true)
    (free : '/' ∉ suffix.toList) (path : String) : ¬Same path (path ++ suffix) := by
  obtain ⟨list, last, split⟩ : ∃ list last, pieces path = list ++ [last] :=
    ⟨_, _, (List.dropLast_concat_getLast (fallsInto_pieces path).some_pieces).symm⟩
  have falls := fallsInto_pieces path
  rw [split] at falls
  have longer := isSolid_append last solid
  have split' : pieces (path ++ suffix) = list ++ [last ++ suffix.toList] := by
    apply pieces_eq_of_fallsInto
    rw [String.toList_append]
    exact falls.append free
  intro same
  rw [Same, parts_of_pieces split, parts_of_pieces split', if_pos longer] at same
  cases last_solid : isSolid last with
  | true =>
    rw [if_pos last_solid, ← List.append_assoc, ← List.append_assoc] at same
    have equal : last = last ++ suffix.toList :=
      partOf_inj (List.singleton_inj.mp (List.append_inj' same rfl).2)
    rw [List.self_eq_append_right.mp equal] at solid
    contradiction
  | false =>
    rw [last_solid, if_neg Bool.false_ne_true, List.append_nil] at same
    by_cases several : list = []
    · subst several
      rw [List.nil_append, List.nil_append, front_of_solid longer] at same
      rcases eq_of_not_isSolid last_solid with rfl | rfl
      · contradiction
      · have here : Part.here = partOf (['.'] ++ suffix.toList) := (List.cons.inj same).1
        have chars := congrArg Part.chars here
        rw [chars_partOf] at chars
        rw [List.self_eq_append_right.mp chars] at solid
        contradiction
    · rw [front_append several last (last ++ suffix.toList), List.append_cancel_left_eq] at same
      exact absurd (congrArg List.length same) (by simp)

end Behind

end DebugBridge.Path
