import Mathlib.Data.List.Chain
import Mathlib.Data.Nat.Notation

/-!
# Texts as bytes

The bytes of a text in UTF-8. A text without control characters has no byte below a blank
(`toNat_of_mem_bytes`), and the byte before a character of one byte is not the first byte of a
longer character (`isChain_bytes`).
-/

namespace Utf8

/-- The bytes of a text. -/
def bytes (text : String) : List UInt8 := text.toList.flatMap String.utf8EncodeChar

/-- A text without control characters. -/
def Printable (text : String) : Prop := ∀ c ∈ text.toList, 0x20 ≤ c.toNat

instance (text : String) : Decidable (Printable text) :=
  List.decidableBAll (fun c : Char => 0x20 ≤ c.toNat) text.toList

variable {text text' : String} {b : UInt8}

theorem bytes_append : bytes (text ++ text') = bytes text ++ bytes text' := by
  rw [bytes, String.toList_append, List.flatMap_append, bytes, bytes]

theorem Printable.append (h : Printable text) (h' : Printable text') :
    Printable (text ++ text') := by
  intro c hc
  rw [String.toList_append] at hc
  exact (List.mem_append.mp hc).elim (h c) (h' c)

/-- The bytes of one character. -/
private theorem utf8EncodeChar_spec (c : Char) :
    (∀ b ∈ String.utf8EncodeChar c, min 0x80 c.toNat ≤ b.toNat) ∧
      (∀ b ∈ (String.utf8EncodeChar c).getLast?, b.toNat < 0xC0) ∧
      (String.utf8EncodeChar c).IsChain fun a b => b.toNat < 0x80 → a.toNat < 0xC0 := by
  have hval : c.val.toNat = c.toNat := rfl
  fun_cases String.utf8EncodeChar c <;>
    simp only [List.mem_cons, List.not_mem_nil, or_false, forall_eq_or_imp, forall_eq,
      List.getLast?_cons_cons, List.getLast?_singleton, Option.mem_some_iff, forall_eq',
      List.isChain_cons_cons, List.isChain_singleton, UInt8.toNat_ofNat', and_true] <;> omega

theorem toNat_of_mem_bytes (h : Printable text) (hb : b ∈ bytes text) : 0x20 ≤ b.toNat := by
  obtain ⟨c, hc, hb⟩ := List.mem_flatMap.mp hb
  have hchar := (utf8EncodeChar_spec c).1 b hb
  have hprintable := h c hc
  omega

/-- Before a byte that is a character comes the last byte of a character. -/
theorem isChain_bytes (text : String) :
    (bytes text).IsChain fun a b => b.toNat < 0x80 → a.toNat < 0xC0 := by
  rw [bytes]
  induction text.toList with
  | nil => exact .nil
  | cons c l ih =>
    rw [List.flatMap_cons, List.isChain_append]
    obtain ⟨-, hlast, hchain⟩ := utf8EncodeChar_spec c
    exact ⟨hchain, ih, fun a ha b _ _ => hlast a ha⟩

end Utf8
