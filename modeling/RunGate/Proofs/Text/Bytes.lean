/-! The bytes of texts. Texts are compared character by character, and their bytes, compared one by one,
stand in the same order. -/

namespace RunGate.Text

/-- The bytes of a text as it is encoded. -/
def bytes (text : String) : List UInt8 :=
  text.toUTF8.data.toList

private theorem bytes_eq_flatMap (text : String) :
    bytes text = text.toList.flatMap String.utf8EncodeChar := by
  have encoded : text.toByteArray = text.toList.utf8Encode := by simp
  rw [bytes, String.toUTF8_eq_toByteArray, encoded, List.utf8Encode, List.data_toByteArray]

/-- The bytes of two characters differ before either of them ends, and there the lesser character has
the lesser byte. -/
theorem encode_append_lt {first second : Char} (before : first < second)
    (rest others : List UInt8) :
    String.utf8EncodeChar first ++ rest < String.utf8EncodeChar second ++ others := by
  have lower : first.val.toNat < second.val.toNat := before
  have bound : second.val.toNat < 0x110000 := by
    rcases second.valid with low | ⟨-, high⟩
    · exact Nat.lt_trans low (by decide)
    · exact high
  -- Each byte holds six bits of the rest, so the digits are those of repeated division by 64.
  have nested (n : Nat) : n / 4096 = n / 64 / 64 ∧ n / 262144 = n / 64 / 64 / 64 := by
    simp [Nat.div_div_eq_div_mul]
  unfold String.utf8EncodeChar
  simp only
  generalize first.val.toNat = low at *
  generalize second.val.toNat = high at *
  repeat' split
  all_goals
    simp only [List.cons_append, List.nil_append, List.cons_lt_cons_iff, UInt8.lt_iff_toNat_lt,
      ← UInt8.toNat_inj, UInt8.toNat_ofNat', Nat.reducePow, nested]
    omega

private theorem bytes_lt {first second : String} (before : first < second) :
    bytes first < bytes second := by
  rw [bytes_eq_flatMap, bytes_eq_flatMap]
  have earlier : List.Lex (· < ·) first.toList second.toList := before
  generalize first.toList = characters, second.toList = others at earlier ⊢
  induction earlier with
  | @nil head rest =>
    obtain ⟨byte, more, encoded⟩ :=
      List.exists_cons_of_ne_nil (String.utf8EncodeChar_ne_nil (c := head))
    rw [List.flatMap_cons, encoded]
    exact .nil
  | rel lower =>
    rw [List.flatMap_cons, List.flatMap_cons]
    exact encode_append_lt lower _ _
  | cons _ ih =>
    rw [List.flatMap_cons, List.flatMap_cons]
    exact List.append_left_lt ih

theorem bytes_le {first second : String} (upTo : first ≤ second) : bytes first ≤ bytes second := by
  by_cases same : first = second
  · rw [same]
    exact List.le_refl _
  · exact List.le_of_lt (bytes_lt (Std.lt_of_le_of_ne upTo same))

/-- The parts of a text before a byte and from it on, if no character is cut apart. -/
def cutAt? (text : String) (byte : Nat) : Option (String × String) :=
  if whole : (⟨byte⟩ : String.Pos.Raw).IsValid text then
    let place : text.Pos := ⟨⟨byte⟩, whole⟩
    some ((text.sliceTo place).copy, (text.sliceFrom place).copy)
  else none

theorem cutAt?_append (front back : String) :
    cutAt? (front ++ back) front.utf8ByteSize = some (front, back) := by
  have whole : (⟨front.utf8ByteSize⟩ : String.Pos.Raw).IsValid (front ++ back) :=
    String.Pos.Raw.isValid_iff_exists_append.mpr ⟨front, back, rfl, rfl⟩
  have here : (⟨⟨front.utf8ByteSize⟩, whole⟩ : (front ++ back).Pos).Splits front back := ⟨rfl, rfl⟩
  obtain ⟨before, after⟩ := (String.Pos.splits _).eq here
  rw [cutAt?, dif_pos whole]
  simp only [before, after]

theorem utf8ByteSize_of_narrow {text : List Char} (narrow : ∀ c ∈ text, c.utf8Size = 1) :
    (String.ofList text).utf8ByteSize = text.length := by
  induction text with
  | nil => simp
  | cons c rest ih =>
    obtain ⟨first, others⟩ := List.forall_mem_cons.mp narrow
    rw [← List.singleton_append, String.ofList_append, String.utf8ByteSize_append, ih others,
      ← String.singleton_eq_ofList, String.utf8ByteSize_singleton, first, List.length_append,
      List.length_singleton]

end RunGate.Text
