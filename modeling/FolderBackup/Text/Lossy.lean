/-! Texts of bytes.

Bytes that are the code of a text become that text. Where they are not, every longest run that
could still have started a character, and every byte that could not, becomes one replacement
character. -/
namespace FolderBackup.Text

/-- The replacement character. -/
def replacement : Char := '\uFFFD'

/-- How many bytes follow the first byte of a character, and between which bounds the second
byte lies; none for a byte that starts no character. -/
def leadOf (byte : UInt8) : Option (Nat × UInt8 × UInt8) :=
  if byte < 0x80 then some (0, 0, 0)
  else if 0xC2 ≤ byte ∧ byte ≤ 0xDF then some (1, 0x80, 0xBF)
  else if byte = 0xE0 then some (2, 0xA0, 0xBF)
  else if byte = 0xED then some (2, 0x80, 0x9F)
  else if 0xE1 ≤ byte ∧ byte ≤ 0xEF then some (2, 0x80, 0xBF)
  else if byte = 0xF0 then some (3, 0x90, 0xBF)
  else if 0xF1 ≤ byte ∧ byte ≤ 0xF3 then some (3, 0x80, 0xBF)
  else if byte = 0xF4 then some (3, 0x80, 0x8F)
  else none

/-- The bytes that continue a character: the second one between the bounds. -/
def continuation : Nat → UInt8 → UInt8 → List UInt8 → List UInt8
  | 0, _, _, _ => []
  | _, _, _, [] => []
  | count + 1, low, high, byte :: rest =>
    if low ≤ byte ∧ byte ≤ high then byte :: continuation count 0x80 0xBF rest else []

/-- The character of its bytes. -/
def charOf (first : UInt8) (more : List UInt8) : Char :=
  let start := match more.length with
    | 0 => first.toNat
    | 1 => first.toNat % 32
    | 2 => first.toNat % 16
    | _ => first.toNat % 8
  Char.ofNat (more.foldl (fun n byte => 64 * n + byte.toNat % 64) start)

/-- The characters of some bytes. -/
def charsOfBytes : Nat → List UInt8 → List Char
  | 0, _ => []
  | _, [] => []
  | fuel + 1, byte :: rest =>
    match leadOf byte with
    | none => replacement :: charsOfBytes fuel rest
    | some (count, low, high) =>
      let more := continuation count low high rest
      (if more.length = count then charOf byte more else replacement) ::
        charsOfBytes fuel (rest.drop more.length)

/-- The text of some bytes. -/
def ofBytes (bytes : List UInt8) : String :=
  String.ofList (charsOfBytes bytes.length bytes)

end FolderBackup.Text
