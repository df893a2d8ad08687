/-!
Texts as bytes in UTF-8.

`encode` writes a text, `decode` reads one back or says where the bytes stop being UTF-8: either
the input ends inside a character that is well formed so far (`Failure.incomplete`), or a byte can
not stand where it does (`Failure.invalid`, with the number of bytes of the longest well-formed
beginning of the bad character, at least one).
-/

namespace RemoteCall

/-- The octets of a body. -/
abbrev Bytes := List UInt8

namespace Utf8

/-- The bytes of a text. -/
def encode (s : String) : Bytes := s.toUTF8.toList

/-- Why bytes are no text; `index` counts the bytes of the good part before. -/
inductive Failure where
  | invalid (length index : Nat)
  | incomplete (index : Nat)
deriving DecidableEq

/-- The wording of a failure. -/
def Failure.text : Failure → String
  | invalid length index =>
    "invalid utf-8 sequence of " ++ toString length ++ " bytes from index " ++ toString index
  | incomplete index => "incomplete utf-8 byte sequence from index " ++ toString index

/-- Whether a byte continues a character. -/
def isContinuation (b : UInt8) : Bool := 0x80 ≤ b && b ≤ 0xBF

/-- Whether `b` may follow the first byte `a` of a character of several bytes. The bounds keep out
overlong forms, surrogates and codes above U+10FFFF. -/
def mayFollow (a b : UInt8) : Bool :=
  (if a = 0xE0 then 0xA0 else if a = 0xF0 then 0x90 else 0x80) ≤ b &&
    b ≤ (if a = 0xED then 0x9F else if a = 0xF4 then 0x8F else 0xBF)

/-- The character with the given bits, six for each continuation byte. -/
def join (lead : Nat) (rest : Bytes) : Char :=
  Char.ofNat (rest.foldl (fun n b => n * 64 + b.toNat % 64) lead)

/-- Reads characters from bytes that begin at `index` of the whole input. -/
def decodeFrom (index : Nat) : Bytes → Except Failure (List Char)
  | [] => .ok []
  | a :: rest =>
    if a < 0x80 then
      (decodeFrom (index + 1) rest).map (join a.toNat [] :: ·)
    else if a < 0xC2 || 0xF4 < a then
      .error (.invalid 1 index)
    else
      match rest with
      | [] => .error (.incomplete index)
      | b :: rest =>
        if !mayFollow a b then
          .error (.invalid 1 index)
        else if a < 0xE0 then
          (decodeFrom (index + 2) rest).map (join (a.toNat % 32) [b] :: ·)
        else
          match rest with
          | [] => .error (.incomplete index)
          | c :: rest =>
            if !isContinuation c then
              .error (.invalid 2 index)
            else if a < 0xF0 then
              (decodeFrom (index + 3) rest).map (join (a.toNat % 16) [b, c] :: ·)
            else
              match rest with
              | [] => .error (.incomplete index)
              | d :: rest =>
                if !isContinuation d then
                  .error (.invalid 3 index)
                else
                  (decodeFrom (index + 4) rest).map (join (a.toNat % 8) [b, c, d] :: ·)

/-- The text whose bytes these are. -/
def decode (bytes : Bytes) : Except Failure String :=
  (decodeFrom 0 bytes).map String.ofList

end Utf8

end RemoteCall
