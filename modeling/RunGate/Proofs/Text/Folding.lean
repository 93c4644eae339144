import Mathlib.Data.List.TakeWhile
import RunGate.Text.LowerCase

namespace RunGate.Text

variable {text core before target : List Char} {c : Char}

/-- A text is a core with white space around it; the core neither begins nor ends with white space. -/
inductive Stripped : List Char → List Char → Prop
  | intro {before core after : List Char} (front : ∀ c ∈ before, isBlank c = true)
      (back : ∀ c ∈ after, isBlank c = true) (begins : ∀ c ∈ core.head?, isBlank c = false)
      (ends : ∀ c ∈ core.getLast?, isBlank c = false) : Stripped (before ++ core ++ after) core

private theorem exists_append_trimLeft (text : List Char) :
    ∃ before, (∀ c ∈ before, isBlank c = true) ∧ text = before ++ trimLeft text :=
  ⟨_, fun _ => List.mem_takeWhile_imp, List.takeWhile_append_dropWhile.symm⟩

private theorem exists_trimRight_append (text : List Char) :
    ∃ after, (∀ c ∈ after, isBlank c = true) ∧ text = trimRight text ++ after := by
  obtain ⟨before, blank, whole⟩ := exists_append_trimLeft text.reverse
  refine ⟨before.reverse, fun c member => blank c (List.mem_reverse.mp member), ?_⟩
  rw [trimRight, ← List.reverse_append, ← whole, List.reverse_reverse]

private theorem trimLeft_append (blank : ∀ c ∈ before, isBlank c = true) (text : List Char) :
    trimLeft (before ++ text) = trimLeft text :=
  List.dropWhile_append_of_pos blank

private theorem isBlank_of_mem_head?_trimLeft (first : c ∈ (trimLeft text).head?) :
    isBlank c = false := by
  have stopped := List.head?_dropWhile_not isBlank text
  rw [← trimLeft, Option.mem_def.mp first] at stopped
  exact stopped

private theorem trimLeft_eq_self (begins : ∀ c ∈ text.head?, isBlank c = false) :
    trimLeft text = text := by
  cases text with
  | nil => rfl
  | cons c rest => rw [trimLeft, List.dropWhile_cons_of_neg (by simp [begins c rfl])]

theorem stripped_trim (text : List Char) : Stripped text (trim text) := by
  obtain ⟨before, front, whole⟩ := exists_append_trimLeft text
  obtain ⟨after, back, kept⟩ := exists_trimRight_append (trimLeft text)
  have stripped : Stripped (before ++ trim text ++ after) (trim text) := by
    refine .intro front back (fun c first => ?_) fun c last => ?_
    · have leads : c ∈ (trimLeft text).head? := by
        rw [kept, List.head?_append, ← trim, Option.mem_def.mp first]
        rfl
      exact isBlank_of_mem_head?_trimLeft leads
    · rw [trim, trimRight, List.getLast?_reverse] at last
      exact isBlank_of_mem_head?_trimLeft last
  rwa [trim, List.append_assoc, ← kept, ← whole] at stripped

theorem stripped_iff : Stripped text core ↔ trim text = core := by
  constructor
  · intro stripped
    cases stripped with
    | @intro before _ after front back begins ends =>
      rw [trim, List.append_assoc, trimLeft_append front]
      cases core with
      | nil =>
        have nothing : trimLeft after = [] := List.dropWhile_eq_nil_iff.mpr back
        rw [List.nil_append, nothing]
        rfl
      | cons c rest =>
        have kept : trimLeft (c :: rest ++ after) = c :: rest ++ after := trimLeft_eq_self begins
        have reversed : ∀ c ∈ after.reverse, isBlank c = true :=
          fun c member => back c (List.mem_reverse.mp member)
        rw [kept, trimRight, List.reverse_append, trimLeft_append reversed, trimLeft_eq_self,
          List.reverse_reverse]
        rwa [List.head?_reverse]
  · intro same
    rw [← same]
    exact stripped_trim text

private theorem valid_of_mem_caseRuns : ∀ run ∈ caseRuns,
    run.lower + (run.last - run.first) < 0xD800 ∨
      0xDFFF < run.lower ∧ run.lower + (run.last - run.first) < 0x110000 := by
  decide +kernel

/-- Two runs lead to plain letters: that of the plain capital letters, and that of the sign for
Kelvin. -/
private theorem eq_of_mem_caseRuns : ∀ run ∈ caseRuns, run.lower < 0x80 →
    (run.first, run.last, run.lower) = (0x41, 0x5A, 0x61) ∨
      (run.first, run.last, run.lower) = (0x212A, 0x212A, 0x6B) := by
  decide +kernel

private theorem lowerChar_ofNat : ∀ code < 0x80,
    lowerChar (Char.ofNat code) = [(Char.ofNat code).toLower] := by
  decide +kernel

private theorem lowerChar_of_plain (plain : c.toNat < 0x80) : lowerChar c = [c.toLower] := by
  have lowered := lowerChar_ofNat c.toNat plain
  rwa [Char.ofNat_toNat] at lowered

private theorem toNat_ofNat {code : Nat} (valid : code.isValidChar) :
    (Char.ofNat code).toNat = code := by
  rw [Char.ofNat, dif_pos valid]
  rfl

/-- The lower case of a character that is not plain holds one that is not, or the letter `k`. -/
private theorem exists_mem_lowerChar (foreign : 0x80 ≤ c.toNat) :
    ∃ l ∈ lowerChar c, 0x80 ≤ l.toNat ∨ l = 'k' := by
  unfold lowerChar
  split
  · exact ⟨Char.ofNat 0x307, by simp, .inl (by decide)⟩
  · split
    · rename_i run found
      have member := List.mem_of_find?_eq_some found
      have covers := List.find?_some found
      simp only [CaseRun.covers, Bool.and_eq_true, decide_eq_true_eq] at covers
      obtain ⟨⟨first, last⟩, -⟩ := covers
      refine ⟨_, List.mem_singleton_self _, ?_⟩
      by_cases high : 0x80 ≤ run.lower + (c.toNat - run.first)
      · have valid : (run.lower + (c.toNat - run.first)).isValidChar := by
          have within := valid_of_mem_caseRuns run member
          unfold Nat.isValidChar
          omega
        exact .inl (by rwa [toNat_ofNat valid])
      · right
        have low : run.lower < 0x80 := by omega
        rcases eq_of_mem_caseRuns run member low with capitals | kelvin
        · simp only [Prod.mk.injEq] at capitals
          omega
        · simp only [Prod.mk.injEq] at kelvin
          obtain ⟨starts, ends, lower⟩ := kelvin
          have only : c.toNat = 0x212A := by omega
          rw [lower, only, starts]
    · exact ⟨c, List.mem_singleton_self c, .inl foreign⟩

private theorem toLower_of_foreign (foreign : 0x80 ≤ c.toNat) : c.toLower = c := by
  unfold Char.toLower
  rw [dif_neg]
  intro capital
  have upTo : c.toNat ≤ 0x5A := capital.2
  omega

private theorem lowerAfter_of_plain (plain : ∀ c ∈ text, c.toNat < 0x80) :
    lowerAfter before text = text.map Char.toLower := by
  induction text generalizing before with
  | nil => rfl
  | cons c rest ih =>
    obtain ⟨first, others⟩ := List.forall_mem_cons.mp plain
    have noSigma : (c.toNat == 0x3A3) = false := beq_eq_false_iff_ne.mpr (by omega)
    rw [lowerAfter, ih others, lowerChar_of_plain first, noSigma]
    rfl

private theorem exists_mem_lowerAfter (member : c ∈ text) (foreign : 0x80 ≤ c.toNat) :
    ∃ l ∈ lowerAfter before text, 0x80 ≤ l.toNat ∨ l = 'k' := by
  induction text generalizing before with
  | nil => cases member
  | cons head rest ih =>
    simp only [lowerAfter, List.mem_append]
    rcases List.mem_cons.mp member with rfl | later
    · by_cases sigma : (c.toNat == 0x3A3) = true
      · rw [if_pos sigma]
        refine ⟨_, .inl (List.mem_singleton_self _), .inl ?_⟩
        split <;> decide
      · rw [if_neg sigma]
        obtain ⟨l, found, other⟩ := exists_mem_lowerChar foreign
        exact ⟨l, .inl found, other⟩
    · obtain ⟨l, found, other⟩ := ih later
      exact ⟨l, .inr found, other⟩

/-- Exactly the plain letters, in either case, become a plain word in lower case. The letter `k` is the
one exception: the sign for Kelvin becomes it too. -/
theorem lowerCase_eq_iff (plain : ∀ l ∈ target, l.toNat < 0x80) (noKelvin : 'k' ∉ target) :
    lowerCase text = target ↔ text.map Char.toLower = target := by
  by_cases plainText : ∀ c ∈ text, c.toNat < 0x80
  · rw [lowerCase, lowerAfter_of_plain plainText]
  · obtain ⟨c, member, foreign⟩ : ∃ c ∈ text, 0x80 ≤ c.toNat := by simpa using plainText
    refine iff_of_false (fun lowered => ?_) fun lowered => ?_
    · have kept : ∃ l ∈ lowerCase text, 0x80 ≤ l.toNat ∨ l = 'k' :=
        exists_mem_lowerAfter member foreign
      rw [lowered] at kept
      obtain ⟨l, found, other⟩ := kept
      rcases other with high | kelvin
      · exact absurd (plain l found) (Nat.not_lt.mpr high)
      · exact noKelvin (kelvin ▸ found)
    · have found : c ∈ target := by
        rw [← lowered, ← toLower_of_foreign foreign]
        exact List.mem_map_of_mem member
      exact absurd (plain c found) (Nat.not_lt.mpr foreign)

end RunGate.Text
