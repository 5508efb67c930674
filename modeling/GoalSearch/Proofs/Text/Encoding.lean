import GoalSearch.File.Tree

/-!
# Texts as bytes

Files and the input of the console are bytes, and their text is the one that these bytes encode:

    textOfBytes bytes = .ok text ↔ bytes = encode text.toList   (textOfBytes_eq_ok_iff)

A byte that is a line feed encodes a line feed and is a part of no other character
(`lineFeed_not_mem_utf8EncodeChar`), so that the lines of a text can be found in its bytes.
-/

namespace GoalSearch.Text

/-- The bytes of characters in UTF-8. -/
def encode (cs : List Char) : List UInt8 := cs.flatMap String.utf8EncodeChar

theorem encode_append (cs ds : List Char) : encode (cs ++ ds) = encode cs ++ encode ds :=
  List.flatMap_append

theorem encode_cons (c : Char) (cs : List Char) :
    encode (c :: cs) = String.utf8EncodeChar c ++ encode cs :=
  List.flatMap_cons

theorem encode_ne_nil {cs : List Char} (h : cs ≠ []) : encode cs ≠ [] := by
  cases cs with
  | nil => exact absurd rfl h
  | cons c rest =>
    rw [encode_cons]
    exact List.append_ne_nil_of_left_ne_nil (String.utf8EncodeChar_ne_nil) _

/-- The text of encoded characters. -/
theorem textOfBytes_encode (cs : List Char) : textOfBytes (encode cs) = .ok (String.ofList cs) := by
  have hbytes : (⟨(encode cs).toArray⟩ : ByteArray) = cs.utf8Encode := by
    rw [List.utf8Encode, ByteArray.ext_iff, List.data_toByteArray]
    rfl
  have hvalid : cs.utf8Encode.IsValidUTF8 := ByteArray.IsValidUTF8.intro cs rfl
  rw [textOfBytes, hbytes, String.fromUTF8?, dif_pos hvalid]
  rfl

/-- **The text of bytes is the one that they encode.** -/
theorem textOfBytes_eq_ok_iff {bytes : List UInt8} {text : String} :
    textOfBytes bytes = .ok text ↔ bytes = encode text.toList := by
  constructor
  · intro h
    rw [textOfBytes, String.fromUTF8?] at h
    split at h
    · next decoded hdecoded =>
      split at hdecoded
      · next hvalid =>
        have htext : String.fromUTF8 ⟨bytes.toArray⟩ hvalid = text :=
          (Option.some.inj hdecoded).trans (Except.ok.inj h)
        have hbytes : (⟨bytes.toArray⟩ : ByteArray) = text.toByteArray := by
          rw [← htext]
          rfl
        rw [← String.ofList_toList (s := text), String.toByteArray_ofList, List.utf8Encode,
          ByteArray.ext_iff, List.data_toByteArray] at hbytes
        exact Array.toList_inj.mpr hbytes
      · cases hdecoded
    · cases h
  · rintro rfl
    rw [textOfBytes_encode, String.ofList_toList]

theorem text_of_read {read : FileReader} {path text : String}
    (h : read path = .ok (encode text.toList)) : read.text path = .ok text := by
  rw [FileReader.text, h]
  exact textOfBytes_eq_ok_iff.mpr rfl

/-! ## Line feeds -/

theorem encode_lineFeed : String.utf8EncodeChar '\n' = [10] := rfl

theorem lineFeed_ne_ofNat {n : Nat} (h : n % 256 ≠ 10) : 10 ≠ UInt8.ofNat n := by
  intro heq
  have htoNat := congrArg UInt8.toNat heq
  rw [UInt8.toNat_ofNat'] at htoNat
  exact h htoNat.symm

/-- The byte of a line feed is a part of no other character. -/
theorem lineFeed_not_mem_utf8EncodeChar {c : Char} (hc : c ≠ '\n') :
    10 ∉ String.utf8EncodeChar c := by
  have hval : c.val.toNat ≠ 10 := fun h => hc (Char.ext (UInt32.toNat_inj.mp h))
  unfold String.utf8EncodeChar
  generalize c.val.toNat = v at hval
  simp only []
  -- the bytes of a character that takes more than one are 128 and more
  split
  · exact fun hmem => lineFeed_ne_ofNat (by omega) (List.mem_singleton.mp hmem)
  · split
    · simp only [List.mem_cons, List.not_mem_nil, or_false, not_or]
      exact ⟨lineFeed_ne_ofNat (by omega), lineFeed_ne_ofNat (by omega)⟩
    · split
      · simp only [List.mem_cons, List.not_mem_nil, or_false, not_or]
        exact ⟨lineFeed_ne_ofNat (by omega), lineFeed_ne_ofNat (by omega),
          lineFeed_ne_ofNat (by omega)⟩
      · simp only [List.mem_cons, List.not_mem_nil, or_false, not_or]
        exact ⟨lineFeed_ne_ofNat (by omega), lineFeed_ne_ofNat (by omega),
          lineFeed_ne_ofNat (by omega), lineFeed_ne_ofNat (by omega)⟩

/-- The byte of a line feed stands for a line feed. -/
theorem lineFeed_not_mem_encode {cs : List Char} (h : '\n' ∉ cs) : 10 ∉ encode cs := by
  intro hmem
  obtain ⟨c, hc, hbyte⟩ := List.mem_flatMap.mp hmem
  exact lineFeed_not_mem_utf8EncodeChar (fun heq => h (heq ▸ hc)) hbyte

end GoalSearch.Text
