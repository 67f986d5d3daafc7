import Mathlib.Data.List.Basic
import Mathlib.Data.List.TakeWhile
import ScriptConsole.Text.Lines
import ScriptConsole.Worker.Serve

/-!
Texts as bytes and back, and the lines of a stream of text. A carriage return at the end of a line
is a blank there, so that whoever trims the lines that are read may forget about it.
-/

namespace ScriptConsole.Text

theorem byteArray_toList (bytes : ByteArray) : bytes.toList = bytes.data.toList := by
  have hloop : ∀ n i r, bytes.size - i = n → i ≤ bytes.size →
      ByteArray.toList.loop bytes i r = r.reverse ++ bytes.data.toList.drop i := by
    intro n
    induction n with
    | zero =>
        intro i r hn hi
        have hsize : bytes.data.toList.length = bytes.size := rfl
        rw [ByteArray.toList.loop, if_neg (by omega), List.drop_eq_nil_of_le (by omega),
          List.append_nil]
    | succ n ih =>
        intro i r hn hi
        have hlt : i < bytes.data.toList.length := by
          have hsize : bytes.data.toList.length = bytes.size := rfl
          omega
        have hget : bytes.get! i = bytes.data.toList[i] := by
          rw [ByteArray.get!, Array.getElem_toList]
          exact getElem!_pos bytes.data i hlt
        rw [ByteArray.toList.loop, if_pos (by omega), ih (i + 1) _ (by omega) (by omega), hget,
          List.drop_eq_getElem_cons hlt]
        simp
  have h := hloop bytes.size 0 [] (by omega) (by omega)
  simpa [ByteArray.toList] using h

theorem toBytes_eq (text : String) : toBytes text = text.toList.flatMap String.utf8EncodeChar := by
  rw [toBytes, byteArray_toList, String.toUTF8_eq_toByteArray, ← String.utf8Encode_toList,
    List.utf8Encode, List.toList_data_toByteArray]

theorem ofBytes_toBytes (text : String) : ofBytes? (toBytes text) = some text := by
  have hbytes : (⟨(toBytes text).toArray⟩ : ByteArray) = text.toByteArray := by
    rw [toBytes, byteArray_toList, String.toUTF8_eq_toByteArray]
  rw [ofBytes?, hbytes, String.fromUTF8?, dif_pos text.isValidUTF8]
  rfl

theorem toBytes_of_ofBytes? {bytes : List UInt8} {text : String}
    (h : ofBytes? bytes = some text) : toBytes text = bytes := by
  rw [ofBytes?, String.fromUTF8?] at h
  split at h
  · next hvalid =>
    have htext := congrArg String.toUTF8 (Option.some.inj h)
    rw [toBytes, ← htext, byteArray_toList]
    rfl
  · cases h

theorem ofBytes?_eq_some_iff {bytes : List UInt8} {text : String} :
    ofBytes? bytes = some text ↔ bytes = toBytes text := by
  constructor
  · exact fun h => (toBytes_of_ofBytes? h).symm
  · rintro rfl
    exact ofBytes_toBytes text

theorem toBytes_append (s t : String) : toBytes (s ++ t) = toBytes s ++ toBytes t := by
  simp only [toBytes_eq, String.toList_append, List.flatMap_append]

theorem toBytes_of_ascii {s : List Char} (hs : ∀ c ∈ s, c.toNat < 0x80) :
    toBytes (String.ofList s) = s.map fun c => UInt8.ofNat c.toNat := by
  rw [toBytes_eq, String.toList_ofList]
  induction s with
  | nil => rfl
  | cons c s ih =>
      obtain ⟨hc, hmore⟩ := List.forall_mem_cons.mp hs
      have hone : String.utf8EncodeChar c = [UInt8.ofNat c.toNat] :=
        String.utf8EncodeChar_eq_singleton (Char.utf8Size_eq_one_iff.mpr (by
          rw [UInt32.le_iff_toNat_le]
          exact Nat.le_of_lt_succ hc))
      rw [List.flatMap_cons, hone, ih hmore, List.map_cons, List.singleton_append]

/-- A byte that stands for a character of its own stands in the bytes of no other character. -/
theorem mem_utf8EncodeChar {c d : Char} (hd : d.toNat < 0x80)
    (hmem : UInt8.ofNat d.toNat ∈ String.utf8EncodeChar c) : c = d := by
  have hmod : ∀ n : Nat, (UInt8.ofNat n).toNat = n % 256 := fun n => rfl
  have heq {n : Nat} (h : UInt8.ofNat d.toNat = UInt8.ofNat n) : d.toNat = n % 256 := by
    have := congrArg UInt8.toNat h
    rw [hmod, hmod] at this
    omega
  have hvalue : c.val.toNat = d.toNat → c = d := fun h => Char.ext (UInt32.toNat.inj h)
  unfold String.utf8EncodeChar at hmem
  simp only at hmem
  split at hmem
  · rcases List.mem_singleton.mp hmem with h
    have := heq h
    exact hvalue (by omega)
  · split at hmem
    · simp only [List.mem_cons, List.not_mem_nil, or_false] at hmem
      rcases hmem with h | h <;> (have hbyte := heq h; omega)
    · split at hmem
      · simp only [List.mem_cons, List.not_mem_nil, or_false] at hmem
        rcases hmem with h | h | h <;> (have hbyte := heq h; omega)
      · simp only [List.mem_cons, List.not_mem_nil, or_false] at hmem
        rcases hmem with h | h | h | h <;> (have hbyte := heq h; omega)

theorem newline_notMem_toBytes {text : String} (htext : '\n' ∉ text.toList) :
    newline ∉ toBytes text := by
  rw [toBytes_eq]
  intro hmem
  obtain ⟨c, hc, hbyte⟩ := List.mem_flatMap.mp hmem
  exact htext (mem_utf8EncodeChar (d := '\n') (by decide) hbyte ▸ hc)

theorem trim_append_blank (s : List Char) {more : List Char} (hmore : allBlank more = true) :
    trim (s ++ more) = trim s := by
  have hblank : ∀ c ∈ more, isBlank c = true := List.all_eq_true.mp hmore
  have hend (t : List Char) : trimEnd (t ++ more) = trimEnd t := by
    rw [trimEnd, List.reverse_append, List.dropWhile_append_of_pos
      fun c hc => hblank c (List.mem_reverse.mp hc), trimEnd]
  rw [trim, trim, trimStart, trimStart, List.dropWhile_append]
  split
  · next hnone =>
      rw [List.isEmpty_iff.mp hnone]
      exact congrArg trimEnd (List.dropWhile_eq_nil_iff.mpr hblank)
  · exact hend _

theorem dropReturn_or (line : List Char) :
    dropReturn line = line ∨ line = dropReturn line ++ ['\r'] := by
  rw [dropReturn]
  split
  · next hlast => exact .inr (List.dropLast_append_getLast? _ hlast).symm
  · exact .inl rfl

theorem trim_dropReturn (line : List Char) : trim (dropReturn line) = trim line := by
  rcases dropReturn_or line with h | h
  · rw [h]
  · conv_rhs => rw [h, trim_append_blank (dropReturn line) (by decide)]

theorem allBlank_dropReturn (line : List Char) : allBlank (dropReturn line) = allBlank line := by
  rcases dropReturn_or line with h | h
  · rw [h]
  · conv_rhs => rw [h, allBlank, List.all_append]
    exact (Bool.and_true _).symm

/-- A line as it is read, without the carriage return at its end. -/
def chomp (line : String) : String :=
  String.ofList (dropReturn line.toList)

theorem dropReturnByte_toBytes (line : String) :
    dropReturnByte (toBytes line) = toBytes (chomp line) := by
  rw [chomp, toBytes_eq, toBytes_eq, String.toList_ofList, dropReturn]
  split
  · next hlast =>
      obtain ⟨s, hs⟩ := List.getLast?_eq_some_iff.mp hlast
      have hreturn : ['\r'].flatMap String.utf8EncodeChar = [carriageReturn] := by decide
      rw [hs, List.dropLast_concat, List.flatMap_append, hreturn, dropReturnByte,
        if_pos List.getLast?_concat, List.dropLast_concat]
  · next hlast =>
      rw [dropReturnByte, if_neg]
      intro hbyte
      -- Only the character itself ends in this byte.
      rcases List.eq_nil_or_concat line.toList with hnil | ⟨s, c, hs⟩
      · rw [hnil] at hbyte
        cases hbyte
      · rw [hs, List.concat_eq_append] at hlast hbyte
        rw [List.flatMap_append, List.flatMap_singleton, List.getLast?_append] at hbyte
        have hsome : (String.utf8EncodeChar c).getLast? ≠ none :=
          fun hnone => String.utf8EncodeChar_ne_nil (List.getLast?_eq_none_iff.mp hnone)
        obtain ⟨byte, hlastByte⟩ := Option.ne_none_iff_exists'.mp hsome
        rw [hlastByte, Option.some_or] at hbyte
        obtain rfl := Option.some.inj hbyte
        have hc := mem_utf8EncodeChar (d := '\r') (by decide) (List.mem_of_getLast? hlastByte)
        exact hlast (hc ▸ List.getLast?_concat)

theorem byteLines_cons {line : List UInt8} (hline : newline ∉ line) (rest : List UInt8) :
    byteLines (line ++ newline :: rest) = dropReturnByte line :: byteLines rest := by
  have hsplit : (line ++ newline :: rest).splitOn newline = line :: rest.splitOn newline := by
    rw [List.splitOn_append_cons_self, List.splitOn_eq_singleton hline]
    rfl
  obtain ⟨piece, pieces, hpieces⟩ := List.exists_cons_of_ne_nil (List.splitOn_ne_nil newline rest)
  rw [byteLines, byteLines, hsplit, hpieces]
  simp

theorem streamLines_cons {line : String} (hline : '\n' ∉ line.toList) (rest : String) :
    streamLines (toBytes (line ++ "\n" ++ rest)) =
      .ok (chomp line) :: streamLines (toBytes rest) := by
  have hend : toBytes "\n" = [newline] := by simp [toBytes_eq, String.utf8EncodeChar, newline]
  rw [toBytes_append, toBytes_append, hend, List.append_assoc, List.singleton_append, streamLines,
    byteLines_cons (newline_notMem_toBytes hline), dropReturnByte_toBytes, List.map_cons,
    ofBytes_toBytes]
  rfl

theorem toBytes_empty : toBytes "" = [] := by
  simp [toBytes_eq]

theorem streamLines_empty : streamLines (toBytes "") = [] := by
  rw [toBytes_empty]
  rfl

theorem streamLines_last {line : String} (hline : '\n' ∉ line.toList) :
    streamLines (toBytes line) = if line = "" then [] else [.ok line] := by
  rw [streamLines, byteLines, List.splitOn_eq_singleton (newline_notMem_toBytes hline)]
  by_cases hempty : line = ""
  · rw [hempty, if_pos rfl, toBytes_empty]
    rfl
  · have hbytes : toBytes line ≠ [] := by
      intro hnil
      have hread := ofBytes_toBytes line
      rw [hnil] at hread
      exact hempty (Option.some.inj hread).symm
    simp only [List.getLastD_cons, List.getLastD_nil, if_neg hbytes, if_neg hempty,
      List.dropLast_singleton, List.map_nil, List.nil_append, List.map_singleton, ofBytes_toBytes]

end ScriptConsole.Text
