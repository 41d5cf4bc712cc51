/-! Bytes, and the characters they stand for in UTF-8. -/

namespace LineShell

/-- A sequence of bytes: the content of a file, a pipe or a line. -/
abbrev Bytes := List UInt8

namespace Utf8

/-- The bytes of a text, one to four for each character. -/
def encode (text : List Char) : Bytes :=
  text.flatMap String.utf8EncodeChar

/-- The bytes of a string. -/
def ofString (text : String) : Bytes :=
  encode text.toList

/-- The six bits a continuation byte carries. -/
def tail? (byte : UInt8) : Option Nat :=
  if 0x80 ≤ byte && byte < 0xC0 then some (byte.toNat - 0x80) else none

/-- The character with a code that is at least as large as its length demands. -/
def scalar? (least code : Nat) : Option Char :=
  if least ≤ code && Nat.isValidChar code then some (Char.ofNat code) else none

/-- The characters of a byte sequence, if all of it is well formed. -/
def decode? : Bytes → Option (List Char)
  | [] => some []
  | first :: rest =>
    if first < 0x80 then
      (decode? rest).map (Char.ofNat first.toNat :: ·)
    else match rest with
      | [] => none
      | second :: rest =>
        if first < 0xC2 then none
        else if first < 0xE0 then do
          let low ← tail? second
          let c ← scalar? 0x80 ((first.toNat - 0xC0) * 64 + low)
          (decode? rest).map (c :: ·)
        else match rest with
          | [] => none
          | third :: rest =>
            if first < 0xF0 then do
              let middle ← tail? second
              let low ← tail? third
              let c ← scalar? 0x800 (((first.toNat - 0xE0) * 64 + middle) * 64 + low)
              (decode? rest).map (c :: ·)
            else match rest with
              | [] => none
              | fourth :: rest =>
                if first < 0xF5 then do
                  let high ← tail? second
                  let middle ← tail? third
                  let low ← tail? fourth
                  let c ← scalar? 0x10000
                    ((((first.toNat - 0xF0) * 64 + high) * 64 + middle) * 64 + low)
                  (decode? rest).map (c :: ·)
                else none

/-- The string a byte sequence spells, if all of it is well formed. -/
def toString? (data : Bytes) : Option String :=
  (decode? data).map String.ofList

end Utf8

end LineShell
