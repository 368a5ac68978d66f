/-!
# Bytes and texts

Byte strings are lists of bytes. A text encodes to its UTF-8 bytes; bytes decode to a text strictly, or
with every maximal ill-formed part replaced by the replacement character.
-/

namespace Wayfinder

abbrev Bytes := List UInt8

namespace Text

/-- The UTF-8 bytes of a text. -/
def encode (s : String) : Bytes := s.toUTF8.data.toList

/-- The text that some bytes encode, if they are well formed. -/
def decode? (bytes : Bytes) : Option String := String.fromUTF8? ⟨bytes.toArray⟩

@[simp] theorem decode?_encode (s : String) : decode? (encode s) = some s := by
  have h : (⟨(encode s).toArray⟩ : ByteArray) = s.toUTF8 := by simp [encode]
  unfold decode?
  rw [h]
  exact dif_pos s.isValidUTF8

/-- How a lead byte goes on: how many bytes follow, and the range of the first of them. -/
def continuation (lead : UInt8) : Option (Nat × UInt8 × UInt8) :=
  if 0xc2 ≤ lead ∧ lead ≤ 0xdf then some (1, 0x80, 0xbf)
  else if lead = 0xe0 then some (2, 0xa0, 0xbf)
  else if lead = 0xed then some (2, 0x80, 0x9f)
  else if 0xe1 ≤ lead ∧ lead ≤ 0xef then some (2, 0x80, 0xbf)
  else if lead = 0xf0 then some (3, 0x90, 0xbf)
  else if lead = 0xf4 then some (3, 0x80, 0x8f)
  else if 0xf1 ≤ lead ∧ lead ≤ 0xf3 then some (3, 0x80, 0xbf)
  else none

def replacement : Char := '\ufffd'

/-- Decodes what follows a lead byte: `value` holds the bits read so far, `more` bytes are still due,
and the next of them must lie between `low` and `high`. Bytes that break off a character count together
as one ill-formed part, and the byte that breaks it off is read anew. -/
def decodeLossyFrom : (more value : Nat) → (low high : UInt8) → Bytes → List Char
  | 0, _, _, _, [] => []
  | _ + 1, _, _, _, [] => [replacement]
  | more, value, low, high, b :: rest =>
    let fresh :=
      if b < 0x80 then Char.ofNat b.toNat :: decodeLossyFrom 0 0 0 0 rest
      else match continuation b with
        | some (n, lo, hi) =>
          decodeLossyFrom n (b.toNat % (if n = 1 then 32 else if n = 2 then 16 else 8)) lo hi rest
        | none => replacement :: decodeLossyFrom 0 0 0 0 rest
    match more with
    | 0 => fresh
    | more + 1 =>
      if low ≤ b ∧ b ≤ high then
        let value := value * 64 + b.toNat % 64
        if more = 0 then Char.ofNat value :: decodeLossyFrom 0 0 0 0 rest
        else decodeLossyFrom more value 0x80 0xbf rest
      else replacement :: fresh

/-- How many bytes at the end are no longer read once a character is ill-formed: all from the first byte of the first
ill-formed one. `pending` counts the bytes of the character at hand. -/
def unreadFrom : (more pending : Nat) → (low high : UInt8) → Bytes → Nat
  | 0, _, _, _, [] => 0
  | _ + 1, pending, _, _, [] => pending
  | 0, _, _, _, b :: rest =>
    if b < 0x80 then unreadFrom 0 0 0 0 rest
    else match continuation b with
      | some (n, lo, hi) => unreadFrom n 1 lo hi rest
      | none => rest.length + 1
  | more + 1, pending, low, high, b :: rest =>
    if low ≤ b ∧ b ≤ high then unreadFrom more (pending + 1) 0x80 0xbf rest
    else pending + rest.length + 1

/-- How many bytes stand behind the longest well-formed beginning. -/
def unread (bytes : Bytes) : Nat := unreadFrom 0 0 0 0 bytes

/-- The text of some bytes, ill-formed parts replaced. -/
def decodeLossy (bytes : Bytes) : String := String.ofList (decodeLossyFrom 0 0 0 0 bytes)

end Text

end Wayfinder
