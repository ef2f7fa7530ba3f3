import LocaleText.Table
import Mathlib.Data.List.Basic
import Mathlib.Tactic.SplitIfs

/-!
# LocaleText.Proofs.ByteOrder

Tables are sorted by the code points of their names, files by the bytes of what stands in them. The
two orders are one: UTF-8 encodes a greater character by greater bytes, and no character by the
first bytes of another (`encode_append_lt`), so texts compare as their bytes do
(`Text.bytes_lt_bytes_iff`).
-/

namespace LocaleText
namespace Text

/-- The bytes of a text in UTF-8. -/
def bytes (text : Text) : List UInt8 :=
  text.flatMap String.utf8EncodeChar

@[simp] theorem bytes_nil : bytes [] = [] := rfl

@[simp] theorem bytes_cons (c : Char) (text : Text) :
    bytes (c :: text) = String.utf8EncodeChar c ++ bytes text := rfl

/-- Bytes that are given by numbers compare as the numbers do. The bytes of a character are given
like that, so that the order of two of them is a question of arithmetic. -/
theorem byte_lt_byte_iff {m n : Nat} (hm : m < 256) (hn : n < 256) :
    UInt8.ofNat m < UInt8.ofNat n ↔ m < n := by
  simp [UInt8.lt_iff_toNat_lt, Nat.mod_eq_of_lt, hm, hn]

theorem byte_eq_byte_iff {m n : Nat} (hm : m < 256) (hn : n < 256) :
    UInt8.ofNat m = UInt8.ofNat n ↔ m = n := by
  simp [← UInt8.toNat_inj, Nat.mod_eq_of_lt, hm, hn]

/-- Every character is a code point, surrogates left out. This bounds the first byte of the widest
encoding. -/
theorem toNat_lt_codePoints (c : Char) : c.val.toNat < 0x110000 := by
  rcases c.valid with h | ⟨-, h⟩
  · have : c.val.toNat < 0xd800 := h
    omega
  · exact h

/-- A smaller character has smaller bytes, whatever follows. What follows does not matter, because
no character is encoded by the first bytes of another: the order is decided before the shorter
encoding ends. -/
theorem encode_append_lt {a b : Char} (less : a < b) (left right : List UInt8) :
    String.utf8EncodeChar a ++ left < String.utf8EncodeChar b ++ right := by
  have less : a.val.toNat < b.val.toNat := less
  have small := toNat_lt_codePoints b
  -- The digits to base 64, in the form in which they follow from one another.
  have digits (v : Nat) : v / 4096 = v / 64 / 64 ∧ v / 262144 = v / 64 / 64 / 64 := by omega
  simp only [String.utf8EncodeChar, digits]
  generalize a.val.toNat = m at *
  generalize b.val.toNat = n at *
  -- One case for each pair of widths; a smaller character is not the wider one.
  split_ifs
  all_goals first
    | omega
    | simp (disch := omega) only [List.cons_append, List.nil_append, List.cons_lt_cons_iff,
        byte_lt_byte_iff, byte_eq_byte_iff]
      omega

/-- Texts in the order of their code points are in the order of their bytes. The first difference
decides, and it is either between two characters or between the end of a text and a character. -/
theorem bytes_lt_bytes {a b : Text} (less : a < b) : bytes a < bytes b := by
  induction b generalizing a with
  | nil => exact absurd less (List.not_lt_nil a)
  | cons c cs ih =>
      cases a with
      | nil =>
          obtain ⟨byte, others, same⟩ :=
            List.exists_cons_of_ne_nil (@String.utf8EncodeChar_ne_nil c)
          simp [same]
      | cons d ds =>
          rcases List.cons_lt_cons_iff.1 less with first | ⟨rfl, later⟩
          · exact encode_append_lt first (bytes ds) (bytes cs)
          · exact List.append_left_lt (ih later)

/-- **Bytes and code points** put texts in the same order. The converse needs no second look at the
encoding, because both orders are total. -/
theorem bytes_lt_bytes_iff {a b : Text} : bytes a < bytes b ↔ a < b := by
  refine ⟨fun less => ?_, bytes_lt_bytes⟩
  by_contra other
  by_cases same : a = b
  · subst same
    exact List.lt_irrefl _ less
  · have greater := bytes_lt_bytes (Entries.lt_of_not_lt_of_ne other same)
    exact List.lt_irrefl _ (List.lt_trans less greater)

end Text

/-- The names of a table are in the order of their bytes, although the table itself is sorted by
code points. Names that are listed are listed in this order. -/
theorem Table.names_increasing {α : Type} (table : Table α) :
    table.names.Pairwise fun a b => Text.bytes a < Text.bytes b :=
  List.pairwise_map.2 (table.sorted.imp Text.bytes_lt_bytes)

end LocaleText
