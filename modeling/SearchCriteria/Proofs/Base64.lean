import Mathlib.Data.List.Nodup
import SearchCriteria.Text.Base64

/-!
# Base 64 keeps the text

Texts with the same base 64 form are the same. The letters of a group tell its sextets, these tell its
bytes, and the padding of the last group tells how many bytes that has.
-/

namespace SearchCriteria.Text.Base64

theorem nodup_alphabet : alphabet.Nodup := by decide +kernel

theorem length_alphabet : alphabet.length = 64 := by decide +kernel

theorem sextet_lt (n : Nat) : n % 64 < alphabet.length := by
  rw [length_alphabet]
  exact Nat.mod_lt n (by decide)

theorem letter_eq (n : Nat) : letter n = alphabet.get ⟨n % 64, sextet_lt n⟩ := by
  rw [letter, List.getD_eq_getElem?_getD, List.getElem?_eq_getElem (sextet_lt n), Option.getD_some,
    List.get_eq_getElem]

/-- A letter tells the six bits it stands for. -/
theorem letter_inj {m n : Nat} : letter m = letter n ↔ m % 64 = n % 64 := by
  rw [letter_eq, letter_eq, nodup_alphabet.get_inj_iff, Fin.mk.injEq]

@[simp] theorem letter_ne_pad (n : Nat) : letter n ≠ '=' := by
  have mem : letter n ∈ alphabet := by
    rw [letter_eq]
    exact List.get_mem _ _
  have absent : '=' ∉ alphabet := by decide +kernel
  exact fun same => absent (same ▸ mem)

@[simp] theorem pad_ne_letter (n : Nat) : '=' ≠ letter n :=
  (letter_ne_pad n).symm

theorem encode_nil : encode [] = [] := rfl

theorem encode_one (a : UInt8) : encode [a] =
    [letter (a.toNat * 65536 / 262144), letter (a.toNat * 65536 / 4096), '=', '='] := rfl

theorem encode_two (a b : UInt8) : encode [a, b] =
    [letter ((a.toNat * 65536 + b.toNat * 256) / 262144),
      letter ((a.toNat * 65536 + b.toNat * 256) / 4096),
      letter ((a.toNat * 65536 + b.toNat * 256) / 64), '='] := rfl

theorem encode_group (a b c : UInt8) (rest : List UInt8) : encode (a :: b :: c :: rest) =
    letter ((a.toNat * 65536 + b.toNat * 256 + c.toNat) / 262144)
      :: letter ((a.toNat * 65536 + b.toNat * 256 + c.toNat) / 4096)
      :: letter ((a.toNat * 65536 + b.toNat * 256 + c.toNat) / 64)
      :: letter (a.toNat * 65536 + b.toNat * 256 + c.toNat) :: encode rest := rfl

theorem encode_injective : ∀ {bytes bytes' : List UInt8},
    encode bytes = encode bytes' → bytes = bytes'
  | [], [], _ => rfl
  | [a], [a'], h => by
    simp only [encode_one, List.cons.injEq, letter_inj] at h
    have := a.toNat_lt
    have := a'.toNat_lt
    obtain rfl : a = a' := UInt8.toNat_inj.mp (by omega)
    rfl
  | [a, b], [a', b'], h => by
    simp only [encode_two, List.cons.injEq, letter_inj] at h
    have := a.toNat_lt
    have := a'.toNat_lt
    have := b.toNat_lt
    have := b'.toNat_lt
    obtain rfl : a = a' := UInt8.toNat_inj.mp (by omega)
    obtain rfl : b = b' := UInt8.toNat_inj.mp (by omega)
    rfl
  | a :: b :: c :: rest, a' :: b' :: c' :: rest', h => by
    simp only [encode_group, List.cons.injEq, letter_inj] at h
    obtain ⟨first, second, third, fourth, others⟩ := h
    have := a.toNat_lt
    have := a'.toNat_lt
    have := b.toNat_lt
    have := b'.toNat_lt
    have := c.toNat_lt
    have := c'.toNat_lt
    obtain rfl : a = a' := UInt8.toNat_inj.mp (by omega)
    obtain rfl : b = b' := UInt8.toNat_inj.mp (by omega)
    obtain rfl : c = c' := UInt8.toNat_inj.mp (by omega)
    rw [encode_injective others]
  -- Groups of different lengths are padded differently.
  | [], [_], h | [], [_, _], h | [], _ :: _ :: _ :: _, h
  | [_], [], h | [_], [_, _], h | [_], _ :: _ :: _ :: _, h
  | [_, _], [], h | [_, _], [_], h | [_, _], _ :: _ :: _ :: _, h
  | _ :: _ :: _ :: _, [], h | _ :: _ :: _ :: _, [_], h | _ :: _ :: _ :: _, [_, _], h => by
    simp [encode_nil, encode_one, encode_two, encode_group] at h

/-- A text can be read back from its base 64 form. -/
theorem ofText_injective {text text' : String} (h : ofText text = ofText text') : text = text' := by
  have bytes := encode_injective (String.ofList_injective h)
  exact String.toByteArray_inj.mp (ByteArray.ext (Array.toList_inj.mp bytes))

end SearchCriteria.Text.Base64
