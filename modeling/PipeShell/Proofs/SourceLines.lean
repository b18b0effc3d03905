import Mathlib
import PipeShell.LineSource

/-!
# The lines of a text

A source cuts its input at the byte of a newline and reads each piece as UTF-8. In the UTF-8 of a
text that byte stands for nothing but a newline, so the pieces are those of the text itself: each of
them is text again, and the source gives one line for each of them and no fault.
-/
namespace PipeShell.LineSource

def addChar (c : Char) (chunks : List (List Char)) : List (List Char) :=
  if c = '\n' then [c] :: chunks
  else (c :: chunks.headD []) :: chunks.tail

/-- The text cut after each newline. -/
def chunks (text : String) : List (List Char) := text.toList.foldr addChar []

def scriptLines (text : String) : List String :=
  (chunks text).map fun chunk => stripTerminators (String.ofList chunk)

def typedLines (text : String) : List String :=
  (chunks text).map fun chunk => Text.applyBackspaces (stripNewline (String.ofList chunk))

theorem newline_notMem_utf8EncodeChar {c : Char} (h : c ≠ '\n') :
    10 ∉ String.utf8EncodeChar c := by
  have hc : c.val.toNat ≠ 10 := fun he => h (Char.ext (UInt32.toNat_inj.mp he))
  have hbyte (n : Nat) (hn : n % 256 ≠ 10) : (10 : UInt8) ≠ UInt8.ofNat n := fun he => by
    have := congrArg UInt8.toNat he
    simp at this
    omega
  unfold String.utf8EncodeChar
  intro hm
  simp only at hm
  split_ifs at hm <;> simp only [List.mem_cons, List.not_mem_nil, or_false] at hm
  · exact hbyte _ (by omega) hm
  · rcases hm with hm | hm <;> exact hbyte _ (by omega) hm
  · rcases hm with hm | hm | hm <;> exact hbyte _ (by omega) hm
  · rcases hm with hm | hm | hm | hm <;> exact hbyte _ (by omega) hm

theorem foldr_addByte_of_notMem {bytes : List UInt8} (hn : 10 ∉ bytes) (hb : bytes ≠ [])
    (pieces : List (List UInt8)) :
    bytes.foldr addByte pieces = (bytes ++ pieces.headD []) :: pieces.tail := by
  induction bytes with
  | nil => exact absurd rfl hb
  | cons byte bytes ih =>
    obtain ⟨hne, hrest⟩ : 10 ≠ byte ∧ 10 ∉ bytes := by simpa using hn
    rw [List.foldr_cons]
    by_cases he : bytes = []
    · subst he
      cases pieces <;> simp [addByte, Ne.symm hne]
    · rw [ih hrest he]
      simp [addByte, Ne.symm hne]

theorem foldr_addByte_utf8EncodeChar (c : Char) (chunks : List (List Char)) :
    (String.utf8EncodeChar c).foldr addByte (chunks.map (List.flatMap String.utf8EncodeChar)) =
      (addChar c chunks).map (List.flatMap String.utf8EncodeChar) := by
  by_cases hc : c = '\n'
  · subst hc
    rfl
  · rw [foldr_addByte_of_notMem (newline_notMem_utf8EncodeChar hc) String.utf8EncodeChar_ne_nil]
    cases chunks <;> simp [addChar, hc]

theorem pieces_toUTF8 (text : String) :
    pieces text.toUTF8 = (chunks text).map (List.flatMap String.utf8EncodeChar) := by
  have hbytes : text.toUTF8.data.toList = text.toList.flatMap String.utf8EncodeChar := by
    rw [String.toUTF8_eq_toByteArray, ← String.utf8Encode_toList, List.utf8Encode,
      List.toList_data_toByteArray]
  rw [pieces, hbytes, chunks]
  induction text.toList with
  | nil => rfl
  | cons c cs ih =>
    rw [List.flatMap_cons, List.foldr_append, ih, foldr_addByte_utf8EncodeChar, List.foldr_cons]

theorem fromUTF8?_flatMap (cs : List Char) :
    String.fromUTF8? ⟨(cs.flatMap String.utf8EncodeChar).toArray⟩ = some (String.ofList cs) := by
  have hbytes : (⟨(cs.flatMap String.utf8EncodeChar).toArray⟩ : ByteArray) =
      (String.ofList cs).toByteArray := by
    rw [String.toByteArray_ofList, List.utf8Encode]
    exact ByteArray.ext List.data_toByteArray.symm
  rw [hbytes, String.fromUTF8?, dif_pos (String.isValidUTF8 _)]
  rfl

theorem answers_pieces (clean : String → String) (chunks : List (List Char)) :
    answers clean (chunks.map (List.flatMap String.utf8EncodeChar)) =
      (chunks.map fun chunk => clean (String.ofList chunk)).map .ok := by
  induction chunks with
  | nil => rfl
  | cons chunk chunks ih =>
    rw [List.map_cons, answers, fromUTF8?_flatMap, ih]
    rfl

/-- A script that is text gives its lines and no fault. -/
theorem ofScript_toUTF8 (text : String) : ofScript text.toUTF8 = (scriptLines text).map .ok := by
  rw [ofScript, pieces_toUTF8, answers_pieces, scriptLines]

theorem ofTyping_toUTF8 (text : String) : ofTyping text.toUTF8 = (typedLines text).map .ok := by
  rw [ofTyping, pieces_toUTF8, answers_pieces, typedLines]

end PipeShell.LineSource
