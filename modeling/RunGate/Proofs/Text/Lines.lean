import RunGate.CommandLine.Report

/-! The lines of a text. A text that is made of lines falls into them again exactly if none of them has a
line break of its own. -/

namespace RunGate.Text

variable {rest others text : List Char} {first second : String} {parts : List String}

/-- What stands between the line breaks of a text. Where the text ends with one, the last is empty. -/
def lines (text : String) : List String :=
  (text.toList.splitOn '\n').map String.ofList

/-- A text without line breaks. -/
def Unbroken (text : String) : Prop := '\n' ∉ text.toList

instance (text : String) : Decidable (Unbroken text) :=
  inferInstanceAs (Decidable ('\n' ∉ text.toList))

@[simp]
theorem unbroken_append_iff : Unbroken (first ++ second) ↔ Unbroken first ∧ Unbroken second := by
  simp [Unbroken]

/-- A literal is the text of its characters, so this decides it without decoding a text. -/
theorem Unbroken.ofList {chars : List Char} (unbroken : '\n' ∉ chars) :
    Unbroken (String.ofList chars) := by
  rwa [Unbroken, String.toList_ofList]

/-- A text between literals is unbroken if the literals are and it is. -/
theorem unbroken_between_iff {before after : List Char} (unbroken : '\n' ∉ before)
    (unbrokenToo : '\n' ∉ after) :
    Unbroken (String.ofList before ++ first ++ String.ofList after) ↔ Unbroken first := by
  rw [unbroken_append_iff, unbroken_append_iff, and_iff_left (.ofList unbrokenToo),
    and_iff_right (.ofList unbroken)]

theorem unbroken_intercalate_iff {separator : String} (unbroken : Unbroken separator) :
    Unbroken (separator.intercalate parts) ↔ ∀ part ∈ parts, Unbroken part := by
  induction parts with
  | nil => simp [Unbroken]
  | cons part rest ih =>
    cases rest with
    | nil => simp
    | cons next rest =>
      rw [String.intercalate_cons_cons, unbroken_append_iff, unbroken_append_iff, ih,
        and_iff_left unbroken]
      exact List.forall_mem_cons.symm

/-- Where two texts agree they agree up to their first line breaks and after them. -/
theorem append_newline_inj {first second : List Char} (unbroken : '\n' ∉ first)
    (unbrokenToo : '\n' ∉ second) (same : first ++ '\n' :: rest = second ++ '\n' :: others) :
    first = second ∧ rest = others := by
  have parts := congrArg (List.splitOn '\n') same
  rw [List.splitOn_append_cons_self_of_not_mem unbroken,
    List.splitOn_append_cons_self_of_not_mem unbrokenToo] at parts
  obtain ⟨rfl, -⟩ := List.cons.inj parts
  exact ⟨rfl, (List.cons.inj (List.append_cancel_left same)).2⟩

private theorem not_mem_of_mem_splitOn {part : List Char} (member : part ∈ text.splitOn '\n') :
    '\n' ∉ part := by
  induction text generalizing part with
  | nil =>
    obtain rfl := List.mem_singleton.mp member
    exact List.not_mem_nil
  | cons c text ih =>
    rw [List.splitOn_cons_eq_if_modifyHead] at member
    split at member
    · rcases List.mem_cons.mp member with rfl | later
      · exact List.not_mem_nil
      · exact ih later
    · rename_i other
      cases found : text.splitOn '\n' with
      | nil => exact absurd found (List.splitOn_ne_nil _ _)
      | cons head tail =>
        rw [found] at ih
        rw [found, List.modifyHead_cons] at member
        rcases List.mem_cons.mp member with rfl | later
        · have different : '\n' ≠ c := fun same => other (beq_iff_eq.mpr same.symm)
          exact List.not_mem_cons_of_ne_of_not_mem different (ih List.mem_cons_self)
        · exact ih (List.mem_cons_of_mem _ later)

/-- What stands between two line breaks is a line. -/
theorem mem_lines_of_infix (unbroken : Unbroken first)
    (within : '\n' :: (first.toList ++ ['\n']) <:+: second.toList) : first ∈ lines second := by
  obtain ⟨before, after, same⟩ := within
  have split : second.toList = before ++ '\n' :: (first.toList ++ '\n' :: after) := by
    simp [← same]
  rw [lines, split, List.splitOn_append_cons_self,
    List.splitOn_append_cons_self_of_not_mem unbroken]
  simp

theorem toList_textOfLines (parts : List String) :
    (textOfLines parts).toList = parts.flatMap (·.toList ++ ['\n']) := by
  rw [textOfLines, String.toList_join, List.flatMap_map]
  simp

theorem infix_textOfLines {part : String} (member : part ∈ parts) :
    part.toList <:+: (textOfLines parts).toList := by
  rw [toList_textOfLines, List.flatMap_def]
  exact (List.prefix_append part.toList ['\n']).isInfix.trans
    (List.infix_of_mem_flatten (List.mem_map.mpr ⟨part, member, rfl⟩))

private theorem splitOn_textOfLines (unbroken : ∀ part ∈ parts, Unbroken part) :
    (textOfLines parts).toList.splitOn '\n' = parts.map String.toList ++ [[]] := by
  rw [toList_textOfLines]
  induction parts with
  | nil => rfl
  | cons part parts ih =>
    obtain ⟨here, later⟩ := List.forall_mem_cons.mp unbroken
    rw [List.flatMap_cons, List.append_assoc, List.singleton_append,
      List.splitOn_append_cons_self_of_not_mem here, ih later]
    rfl

/-- A text made of lines falls into these lines exactly if none of them has a line break. -/
theorem lines_textOfLines_iff :
    lines (textOfLines parts) = parts ++ [""] ↔ ∀ part ∈ parts, Unbroken part := by
  constructor
  · intro same part member
    have found : part ∈ lines (textOfLines parts) := same ▸ List.mem_append_left _ member
    obtain ⟨line, among, rfl⟩ := List.mem_map.mp found
    rw [Unbroken, String.toList_ofList]
    exact not_mem_of_mem_splitOn among
  · intro unbroken
    simp [lines, splitOn_textOfLines unbroken, Function.comp_def]

end RunGate.Text
