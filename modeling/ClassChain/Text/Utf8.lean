import ClassChain.Text.Quoted

/-!
# Text in bytes

Files hold text as UTF-8, strictly: no surrogates, no overlong forms, nothing beyond the last code point. Bytes that are not UTF-8
are refused with the place where the longest valid beginning ends.

`decode_encode` and `decode_eq_ok_iff` say that text is read exactly from the bytes that write it.
-/

namespace ClassChain.Text.Utf8

/-- Why bytes cannot go on as text. -/
inductive Cause where
  /-- A byte that opens no character. -/
  | start
  /-- A byte that does not go on with the character begun. -/
  | continuation
  /-- The bytes end within a character, or altogether. -/
  | endOfData
  deriving DecidableEq, Repr

/-- A cause in words. -/
def Cause.text : Cause → String
  | .start => "invalid start byte"
  | .continuation => "invalid continuation byte"
  | .endOfData => "unexpected end of data"

/-- Where and why bytes cannot go on as text. -/
structure Fault where
  cause : Cause
  /-- The number of bytes before. -/
  position : Nat
  /-- The number of bytes that begin a character in vain. -/
  length : Nat
  /-- The first of them. -/
  byte : UInt8
  deriving DecidableEq, Repr

/-- A fault in words. -/
def Fault.message (f : Fault) : String :=
  let place :=
    if f.length = 1 then
      "byte 0x" ++ String.ofList (hex 2 f.byte.toNat) ++ " in position " ++ toString f.position
    else "bytes in position " ++ toString f.position ++ "-" ++ toString (f.position + f.length - 1)
  "'utf-8' codec can't decode " ++ place ++ ": " ++ f.cause.text

/-- A byte that goes on with a character. -/
def isTail (b : UInt8) : Bool := 0x80 ≤ b && b < 0xC0

/-- A second byte that may follow a first one: not every pair leads to a code point. -/
def isSecond (a b : UInt8) : Bool :=
  isTail b && !(a == 0xE0 && b < 0xA0) && !(a == 0xED && 0xA0 ≤ b) && !(a == 0xF0 && b < 0x90) && !(a == 0xF4 && 0x90 ≤ b)

/-- Where the longest valid beginning of bytes ends, when `position` bytes stand before them. -/
def faultFrom (position : Nat) : List UInt8 → Fault
  | [] => ⟨.endOfData, position, 0, 0⟩
  | a :: rest =>
    if a < 0x80 then faultFrom (position + 1) rest
    else if a < 0xC2 ∨ 0xF5 ≤ a then ⟨.start, position, 1, a⟩
    else
      match rest with
      | [] => ⟨.endOfData, position, 1, a⟩
      | b :: rest =>
        if !isSecond a b then ⟨.continuation, position, 1, a⟩
        else if a < 0xE0 then faultFrom (position + 2) rest
        else
          match rest with
          | [] => ⟨.endOfData, position, 2, a⟩
          | c :: rest =>
            if !isTail c then ⟨.continuation, position, 2, a⟩
            else if a < 0xF0 then faultFrom (position + 3) rest
            else
              match rest with
              | [] => ⟨.endOfData, position, 3, a⟩
              | d :: rest => if !isTail d then ⟨.continuation, position, 3, a⟩ else faultFrom (position + 4) rest

/-- The bytes that write a text. -/
def encode (text : String) : ByteArray := text.toUTF8

/-- The text that bytes write. -/
def decode (bytes : ByteArray) : Except Fault String :=
  match String.fromUTF8? bytes with
  | some text => .ok text
  | none => .error (faultFrom 0 bytes.data.toList)

/-- Bytes write a text exactly when they are its encoding. -/
theorem decode_eq_ok_iff {bytes : ByteArray} {text : String} : decode bytes = .ok text ↔ bytes = encode text := by
  unfold decode encode String.fromUTF8?
  by_cases h : bytes.IsValidUTF8
  · rw [dif_pos h]
    simp only [Except.ok.injEq]
    constructor
    · rintro rfl; rfl
    · rintro rfl; rfl
  · rw [dif_neg h]
    simp only [reduceCtorEq, false_iff]
    rintro rfl
    exact h text.isValidUTF8

/-- A text is read back from its bytes. -/
@[simp] theorem decode_encode (text : String) : decode (encode text) = .ok text := decode_eq_ok_iff.mpr rfl

/-- Different texts are written differently. -/
theorem encode_inj {a b : String} : encode a = encode b ↔ a = b := by
  constructor
  · intro h
    have := decode_encode a
    rw [h, decode_encode] at this
    simpa using this.symm
  · rintro rfl; rfl

end ClassChain.Text.Utf8
