import Mathlib.Tactic.IntervalCases
import PageLayers.Digest.Sha256
import PageLayers.Text.Hex

/-! A digest is taken of the bytes of characters and written in hexadecimal digits. -/

namespace PageLayers

/-- A text of at least one hexadecimal digit, and nothing else. -/
def Text.Hexadecimal (s : String) : Prop := s ≠ "" ∧ ∀ c ∈ s.toList, Text.isHexDigit c = true

instance : DecidablePred Text.Hexadecimal := fun s =>
  decidable_of_iff (s ≠ "" ∧ s.toList.all Text.isHexDigit = true)
    (and_congr_right' List.all_eq_true)

namespace Sha256

theorem isHexDigit_digitChar {n : Nat} (h : n < 16) : Text.isHexDigit n.digitChar = true := by
  interval_cases n <;> rfl

theorem isHexDigit_of_mem_hexWord {w : UInt32} {c : Char} (h : c ∈ hexWord w) :
    Text.isHexDigit c = true := by
  obtain ⟨i, -, rfl⟩ := List.mem_map.1 h
  exact isHexDigit_digitChar (Nat.mod_lt _ (by decide))

theorem hexadecimal_ofText (s : String) : Text.Hexadecimal (ofText s) := by
  have hword (w : UInt32) : hexWord w ≠ [] := by simp [hexWord]
  constructor
  · simp [ofText, hex, hword]
  · intro c hc
    rw [ofText, hex, String.toList_ofList, List.mem_flatMap] at hc
    obtain ⟨w, -, hc⟩ := hc
    exact isHexDigit_of_mem_hexWord hc

theorem toList_loop {bs : ByteArray} {i : Nat} {read : List UInt8} :
    ByteArray.toList.loop bs i read = read.reverse ++ bs.data.toList.drop i := by
  fun_induction ByteArray.toList.loop bs i read with
  | case1 i read hi ih =>
    have hlt : i < bs.data.toList.length := hi
    have hget : bs.get! i = bs.data.toList[i] := getElem!_pos bs.data i hi
    rw [ih, List.reverse_cons, List.append_assoc, hget, List.drop_eq_getElem_cons hlt]
    rfl
  | case2 i read hi =>
    have hle : bs.data.toList.length ≤ i := Nat.le_of_not_lt hi
    rw [List.drop_eq_nil_of_le hle, List.append_nil]

/-- The bytes of a text are those of its characters in turn. -/
theorem ofText_ofList {cs : List Char} :
    ofText (String.ofList cs) = hex (cs.flatMap String.utf8EncodeChar) := by
  have hbytes : (String.ofList cs).toUTF8.toList = cs.flatMap String.utf8EncodeChar := by
    rw [ByteArray.toList, toList_loop]
    simp [String.toUTF8, List.utf8Encode]
  rw [ofText, hbytes]

/-- The two texts are told apart by their digests. -/
def Apart (s t : String) : Prop := ofText s = ofText t → s = t

instance (s t : String) : Decidable (Apart s t) :=
  inferInstanceAs (Decidable (ofText s = ofText t → s = t))

end Sha256

end PageLayers
