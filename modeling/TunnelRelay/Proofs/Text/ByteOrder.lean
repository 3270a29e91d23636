import Mathlib.Data.String.Basic

/-! Texts in the order of their bytes. A character that comes before another one comes before it
in UTF-8 too, so that texts are in one order by their characters and by their bytes. -/
namespace TunnelRelay.Text

def bytes (text : String) : List UInt8 := text.toUTF8.data.toList

theorem bytesEncoded (text : String) : bytes text = text.toList.flatMap String.utf8EncodeChar := by
  have encoded : text.toUTF8 = (text.toList.flatMap String.utf8EncodeChar).toByteArray := by
    rw [String.toUTF8_eq_toByteArray]
    conv => lhs; rw [← String.ofList_toList (s := text)]
    rfl
  rw [bytes, encoded, List.toList_data_toByteArray]

theorem byteLess {a b : Nat} (first : a < 256) (second : b < 256) :
    UInt8.ofNat a < UInt8.ofNat b ↔ a < b := by
  rw [UInt8.lt_iff_toNat_lt, UInt8.toNat_ofNat_of_lt' first, UInt8.toNat_ofNat_of_lt' second]

theorem byteSame {a b : Nat} (first : a < 256) (second : b < 256) :
    UInt8.ofNat a = UInt8.ofNat b ↔ a = b := by
  rw [← UInt8.toNat_inj, UInt8.toNat_ofNat_of_lt' first, UInt8.toNat_ofNat_of_lt' second]

/- Four lengths of the one by four of the other: a longer one begins with a greater byte, and with
equal lengths the bytes hold the digits of the two numbers, the first one in front. -/
theorem encodedLess {c d : Char} (less : c < d) (front behind : List UInt8) :
    String.utf8EncodeChar c ++ front < String.utf8EncodeChar d ++ behind := by
  have lower : c.val.toNat < d.val.toNat := less
  have small : d.val.toNat < 1114112 := by
    rcases d.valid with low | ⟨-, high⟩ <;> omega
  unfold String.utf8EncodeChar
  generalize c.val.toNat = v at *
  generalize d.val.toNat = w at *
  have twice (n : Nat) : n / 4096 = n / 64 / 64 := (Nat.div_div_eq_div_mul n 64 64).symm
  have thrice (n : Nat) : n / 262144 = n / 64 / 64 / 64 := by
    rw [Nat.div_div_eq_div_mul, Nat.div_div_eq_div_mul]
  simp only [twice, thrice]
  split_ifs <;>
    simp only [List.cons_append, List.nil_append, List.cons_lt_cons_iff] <;>
    simp (disch := omega) only [byteLess, byteSame] <;> omega

theorem encodedLists : ∀ {cs ds : List Char}, cs < ds →
    cs.flatMap String.utf8EncodeChar < ds.flatMap String.utf8EncodeChar
  | _, [], less => absurd less (List.not_lt_nil _)
  | [], d :: ds, _ => by
    obtain ⟨first, rest, encoded⟩ := List.exists_cons_of_ne_nil (String.utf8EncodeChar_ne_nil (c := d))
    rw [List.flatMap_nil, List.flatMap_cons, encoded, List.cons_append]
    exact List.nil_lt_cons _ _
  | c :: cs, d :: ds, less => by
    rw [List.flatMap_cons, List.flatMap_cons]
    rcases List.cons_lt_cons_iff.mp less with before | ⟨rfl, later⟩
    · exact encodedLess before _ _
    · exact List.append_left_lt (encodedLists later)

theorem bytesLess {a b : String} (less : a < b) : bytes a < bytes b := by
  rw [bytesEncoded, bytesEncoded]
  exact encodedLists (String.lt_iff_toList_lt.mp less)

theorem bytesOrder {a b : String} : a < b ↔ bytes a < bytes b := by
  refine ⟨bytesLess, fun less => ?_⟩
  rcases lt_trichotomy a b with before | rfl | after
  · exact before
  · exact absurd less (List.lt_irrefl _)
  · exact absurd less (List.lt_asymm (bytesLess after))

theorem bytesUpTo {a b : String} : a ≤ b ↔ bytes a ≤ bytes b := by
  rw [← not_lt, bytesOrder, List.not_lt]

end TunnelRelay.Text
