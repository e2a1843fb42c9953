import TargetAssembly.Text.Quoted

/-!
# UTF-8

Texts are written to files as UTF-8 and read back from arbitrary bytes.  Reading stops at the
first place where the bytes are no UTF-8, and says where that place starts, how many bytes belong
to it and what is wrong with it: a byte that starts no character, a character that breaks off
inside the bytes, or a character that the end of the bytes cuts off.
-/

namespace TargetAssembly.Text.Utf8

/-- The bytes of one character. -/
def encodeChar (c : Char) : List UInt8 := String.utf8EncodeChar c

/-- The bytes of a text. -/
def encode (cs : List Char) : List UInt8 := cs.flatMap encodeChar

/-- What is wrong where the bytes are no UTF-8. -/
inductive Reason where
  /-- No character starts with this byte. -/
  | invalidStart
  /-- A byte that does not continue the character stands where one has to. -/
  | invalidContinuation
  /-- The bytes end inside the character. -/
  | endOfData
deriving DecidableEq, Repr

/-- The wording of a reason. -/
def Reason.text : Reason → String
  | invalidStart => "invalid start byte"
  | invalidContinuation => "invalid continuation byte"
  | endOfData => "unexpected end of data"

/-- The first place where some bytes are no UTF-8. -/
structure Flaw where
  /-- How many bytes stand before the place. -/
  position : Nat
  /-- The bytes of the place, at least one. -/
  bytes : List UInt8
  /-- What is wrong with them. -/
  reason : Reason
deriving DecidableEq, Repr

/-- Where a flaw is: at a byte, or from one byte to another. -/
def Flaw.place (f : Flaw) : String :=
  match f.bytes with
  | [b] => "byte 0x" ++ String.ofList (hexDigits 2 b.toNat) ++ " in position " ++
      toString f.position
  | bs => "bytes in position " ++ toString f.position ++ "-" ++
      toString (f.position + bs.length - 1)

/-- The message of a flaw. -/
def Flaw.message (f : Flaw) : String :=
  "'utf-8' codec can't decode " ++ f.place ++ ": " ++ f.reason.text

/-- Whether a byte may continue a character. -/
def isTail (b : UInt8) : Bool := 0x80 ≤ b && b ≤ 0xbf

/-- Whether a byte may follow the first byte of a character of three or four bytes.  The narrower
ranges leave out the characters that have a shorter form, the halves of surrogate pairs, and what
lies above the last code point. -/
def isSecond (first second : UInt8) : Bool :=
  isTail second &&
    (first != 0xe0 || 0xa0 ≤ second) && (first != 0xed || second < 0xa0) &&
    (first != 0xf0 || 0x90 ≤ second) && (first != 0xf4 || second < 0x90)

/-- The low six bits of a byte that continues a character. -/
def tailBits (b : UInt8) : Nat := b.toNat % 64

/-- Read the bytes as UTF-8; `position` bytes stood before them. -/
def decodeFrom (position : Nat) : List UInt8 → Except Flaw (List Char)
  | [] => .ok []
  | a :: rest =>
    if a < 0x80 then
      (decodeFrom (position + 1) rest).map (Char.ofNat a.toNat :: ·)
    else if a < 0xc2 then .error ⟨position, [a], .invalidStart⟩
    else if a < 0xe0 then
      match rest with
      | [] => .error ⟨position, [a], .endOfData⟩
      | b :: rest =>
        if isTail b then
          (decodeFrom (position + 2) rest).map
            (Char.ofNat (a.toNat % 32 * 64 + tailBits b) :: ·)
        else .error ⟨position, [a], .invalidContinuation⟩
    else if a < 0xf0 then
      match rest with
      | [] => .error ⟨position, [a], .endOfData⟩
      | b :: rest =>
        if !isSecond a b then .error ⟨position, [a], .invalidContinuation⟩
        else match rest with
          | [] => .error ⟨position, [a, b], .endOfData⟩
          | c :: rest =>
            if isTail c then
              (decodeFrom (position + 3) rest).map
                (Char.ofNat ((a.toNat % 16 * 64 + tailBits b) * 64 + tailBits c) :: ·)
            else .error ⟨position, [a, b], .invalidContinuation⟩
    else if a < 0xf5 then
      match rest with
      | [] => .error ⟨position, [a], .endOfData⟩
      | b :: rest =>
        if !isSecond a b then .error ⟨position, [a], .invalidContinuation⟩
        else match rest with
          | [] => .error ⟨position, [a, b], .endOfData⟩
          | c :: rest =>
            if !isTail c then .error ⟨position, [a, b], .invalidContinuation⟩
            else match rest with
              | [] => .error ⟨position, [a, b, c], .endOfData⟩
              | d :: rest =>
                if isTail d then
                  (decodeFrom (position + 4) rest).map
                    (Char.ofNat (((a.toNat % 8 * 64 + tailBits b) * 64 + tailBits c) * 64 +
                      tailBits d) :: ·)
                else .error ⟨position, [a, b, c], .invalidContinuation⟩
    else .error ⟨position, [a], .invalidStart⟩

/-- Read the bytes as UTF-8. -/
def decode (bytes : List UInt8) : Except Flaw (List Char) := decodeFrom 0 bytes

/-- Line ends as a text knows them: a carriage return, with or without a line feed after it,
becomes one line feed. -/
def lineFeeds : List Char → List Char
  | [] => []
  | '\r' :: '\n' :: rest => '\n' :: lineFeeds rest
  | '\r' :: rest => '\n' :: lineFeeds rest
  | c :: rest => c :: lineFeeds rest

/-- A text without carriage returns keeps its line ends. -/
theorem lineFeeds_of_not_mem {cs : List Char} (h : '\r' ∉ cs) : lineFeeds cs = cs := by
  fun_induction lineFeeds cs <;> simp_all

end TargetAssembly.Text.Utf8
