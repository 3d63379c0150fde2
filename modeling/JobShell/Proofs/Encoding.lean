import JobShell.Text.Bytes

/-!
# Texts and their bytes

A text is decoded from bytes exactly if they are its UTF-8 form (`text?_eq_some_iff`), and the form
of a text is put together from those of its characters (`ofString_eq`).  A byte below 128 stands for
a whole character wherever it occurs (`eq_of_mem_encodeChar`), so such a character is found at the
end of a text exactly if its byte is found at the end of the bytes (`getLast?_encode_iff`).
-/

namespace JobShell

namespace Bytes

theorem toList_loop (bytes : ByteArray) (start : Nat) (before : List UInt8) :
    ByteArray.toList.loop bytes start before = before.reverse ++ bytes.data.toList.drop start := by
  fun_induction ByteArray.toList.loop bytes start before with
  | case1 start before hlt ih =>
    have hlt' : start < bytes.data.toList.length := by simpa using hlt
    have hget : bytes.get! start = bytes.data.toList[start] := by
      show bytes.data[start]! = _
      rw [getElem!_pos bytes.data start (by simpa using hlt)]
      simp
    rw [ih, List.drop_eq_getElem_cons hlt', List.reverse_cons, hget, List.append_assoc]
    rfl
  | case2 start before hge =>
    have hle : bytes.data.toList.length ≤ start := by simpa using hge
    rw [List.drop_of_length_le hle, List.append_nil]

theorem toList_eq (bytes : ByteArray) : bytes.toList = bytes.data.toList :=
  toList_loop bytes 0 []

/-- The UTF-8 form of characters. -/
def encode (cs : List Char) : Bytes := cs.flatMap String.utf8EncodeChar

theorem encode_append (cs ds : List Char) : encode (cs ++ ds) = encode cs ++ encode ds :=
  List.flatMap_append

theorem ofString_eq (s : String) : ofString s = encode s.toList := by
  unfold ofString encode
  rw [toList_eq, String.toUTF8_eq_toByteArray, ← String.utf8Encode_toList]
  exact List.toList_data_toByteArray

theorem ofString_ne_nil {s : String} (h : s ≠ "") : ofString s ≠ [] := by
  obtain ⟨c, cs, hcs⟩ := List.exists_cons_of_ne_nil fun hnil => h (String.toList_eq_nil_iff.mp hnil)
  rw [ofString_eq, hcs]
  intro hnil
  exact String.utf8EncodeChar_ne_nil (List.append_eq_nil_iff.mp hnil).1

/-- Bytes are the text whose UTF-8 form they are. -/
theorem text?_eq_some_iff {bytes : Bytes} {s : String} :
    bytes.text? = some s ↔ ofString s = bytes := by
  have hform : ∀ t : String, t.toByteArray = ⟨bytes.toArray⟩ ↔ ofString t = bytes := by
    intro t
    unfold ofString
    rw [toList_eq, ByteArray.ext_iff, ← Array.toList_inj]
    rfl
  unfold text? String.fromUTF8?
  constructor
  · intro h
    split at h
    · cases h
      exact (hform _).mp rfl
    · cases h
  · intro h
    have hbytes := (hform s).mpr h
    have hvalid : ByteArray.IsValidUTF8 ⟨bytes.toArray⟩ := by
      rw [← hbytes]
      exact s.isValidUTF8
    rw [dif_pos hvalid, Option.some.injEq]
    exact String.toByteArray_inj.mp hbytes.symm

/-- Bytes that are no text are the UTF-8 form of none. -/
theorem text?_eq_none_iff {bytes : Bytes} : bytes.text? = none ↔ ∀ s, ofString s ≠ bytes := by
  simp only [Option.eq_none_iff_forall_ne_some, ne_eq, text?_eq_some_iff]

/-! ## Bytes below 128 -/

/-- The form of a character below 128. -/
theorem encodeChar_of_lt {c : Char} (hc : c.toNat < 128) :
    String.utf8EncodeChar c = [UInt8.ofNat c.toNat] := by
  have hle : c.val.toNat ≤ 127 := Nat.le_of_lt_succ hc
  unfold String.utf8EncodeChar
  exact if_pos hle

/-- A byte below 128 stands for a whole character. -/
theorem toNat_of_mem_encodeChar {c : Char} {b : UInt8} (hmem : b ∈ String.utf8EncodeChar c)
    (hb : b.toNat < 128) : c.toNat = b.toNat := by
  by_cases hc : c.toNat < 128
  · rw [encodeChar_of_lt hc, List.mem_singleton] at hmem
    rw [hmem, UInt8.toNat_ofNat']
    omega
  · -- every byte of a longer form is at least 128
    exfalso
    have hlong : ¬ c.val.toNat ≤ 127 := fun hle => hc (Nat.lt_succ_of_le hle)
    unfold String.utf8EncodeChar at hmem
    simp only [hlong, if_false] at hmem
    split at hmem
    · simp only [List.mem_cons, List.not_mem_nil, or_false] at hmem
      rcases hmem with rfl | rfl <;> rw [UInt8.toNat_ofNat'] at hb <;> omega
    · split at hmem
      · simp only [List.mem_cons, List.not_mem_nil, or_false] at hmem
        rcases hmem with rfl | rfl | rfl <;> rw [UInt8.toNat_ofNat'] at hb <;> omega
      · simp only [List.mem_cons, List.not_mem_nil, or_false] at hmem
        rcases hmem with rfl | rfl | rfl | rfl <;> rw [UInt8.toNat_ofNat'] at hb <;> omega

section

variable {c : Char} (hc : c.toNat < 128)

include hc

theorem eq_of_mem_encodeChar {d : Char} (hmem : UInt8.ofNat c.toNat ∈ String.utf8EncodeChar d) :
    d = c := by
  have hbyte : (UInt8.ofNat c.toNat).toNat = c.toNat := by
    rw [UInt8.toNat_ofNat']
    omega
  have hd : d.toNat = c.toNat := by
    rw [toNat_of_mem_encodeChar hmem (by omega), hbyte]
  exact Char.toNat_inj.mp hd

theorem mem_encode_iff {cs : List Char} : UInt8.ofNat c.toNat ∈ encode cs ↔ c ∈ cs := by
  unfold encode
  rw [List.mem_flatMap]
  constructor
  · rintro ⟨d, hd, hmem⟩
    rwa [eq_of_mem_encodeChar hc hmem] at hd
  · intro hmem
    exact ⟨c, hmem, by rw [encodeChar_of_lt hc]; exact List.mem_singleton_self _⟩

/-- A character below 128 ends a text if its byte ends the form of the text. -/
theorem getLast?_encode_iff {cs : List Char} :
    (encode cs).getLast? = some (UInt8.ofNat c.toNat) ↔ cs.getLast? = some c := by
  by_cases hcs : cs = []
  · subst hcs
    simp [encode]
  · obtain ⟨before, d, rfl⟩ : ∃ before d, cs = before ++ [d] :=
      ⟨_, _, (List.dropLast_concat_getLast hcs).symm⟩
    have hform : encode [d] = String.utf8EncodeChar d := List.append_nil _
    obtain ⟨b, hb⟩ : ∃ b, (String.utf8EncodeChar d).getLast? = some b :=
      ⟨_, List.getLast?_eq_some_getLast String.utf8EncodeChar_ne_nil⟩
    rw [encode_append, hform, List.getLast?_append, hb, Option.some_or, List.getLast?_concat]
    constructor
    · intro h
      rw [Option.some.inj h] at hb
      rw [eq_of_mem_encodeChar hc (List.mem_of_getLast? hb)]
    · intro h
      rw [Option.some.inj h, encodeChar_of_lt hc] at hb
      exact hb.symm

end

end Bytes

end JobShell
