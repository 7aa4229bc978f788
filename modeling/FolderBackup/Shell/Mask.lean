import FolderBackup.Shell.Usage

/-! The mask of permissions.

New files do not get the permissions that are masked. The mask is written as an octal number, or as
the permissions that are left. -/
namespace FolderBackup.Shell.Mask

/-- A mask in octal digits. -/
def octal (mask : Nat) : String :=
  let digits := Nat.toDigits 8 mask
  String.ofList (List.replicate (4 - digits.length) '0' ++ digits)

/-- The permissions of three bits. -/
def letters (bits : Nat) : String :=
  String.ofList ((if bits / 4 % 2 = 1 then ['r'] else []) ++
    (if bits / 2 % 2 = 1 then ['w'] else []) ++ (if bits % 2 = 1 then ['x'] else []))

/-- The permissions that a mask leaves. -/
def symbolic (mask : Nat) : String :=
  let left := 511 - mask % 512
  "u=" ++ letters (left / 64) ++ ",g=" ++ letters (left / 8 % 8) ++ ",o=" ++ letters (left % 8)

/-- The bits of a permission, for everybody. -/
def bits? (c : Char) : Option Nat :=
  if c = 'r' then some 0o444 else if c = 'w' then some 0o222
  else if c = 'x' then some 0o111 else none

/-- The bits of somebody. -/
def owner? (c : Char) : Option Nat :=
  if c = 'u' then some 0o700 else if c = 'g' then some 0o070
  else if c = 'o' then some 0o007 else if c = 'a' then some 0o777 else none

/-- The permissions after a part of a symbolic mode, or what is wrong with it. -/
def afterPart (left : Nat) (part : List Char) : Except String Nat :=
  let who := part.takeWhile fun c => (owner? c).isSome
  let owners := if who.isEmpty then 0o777
    else who.foldl (fun bits c => bits ||| (owner? c).getD 0) 0
  match part.drop who.length with
  | sign :: rest =>
    if sign ≠ '+' ∧ sign ≠ '-' ∧ sign ≠ '=' then
      .error ("\x60" ++ sign.toString ++ "': invalid symbolic mode operator")
    else match rest.find? fun c => (bits? c).isNone with
      | some wrong => .error ("\x60" ++ wrong.toString ++ "': invalid symbolic mode character")
      | none =>
        let chosen := owners &&& rest.foldl (fun bits c => bits ||| (bits? c).getD 0) 0
        if sign = '+' then .ok (left ||| chosen)
        else if sign = '-' then .ok (left - (left &&& chosen))
        else .ok ((left - (left &&& owners)) ||| chosen)
  | [] => .error "\x60': invalid symbolic mode operator"

/-- The mask that a text means, or what is wrong with it. -/
def ofText (mask : Nat) (text : String) : Except String Nat :=
  if text.toList.head?.any Char.isDigit then
    if text.toList.all isOctal && valueOf 8 text.toList < 4096 then
      .ok (valueOf 8 text.toList % 512)
    else .error (text ++ ": octal number out of range")
  else do
    let left ← (text.splitOn ",").foldlM (fun left part => afterPart left part.toList) (511 - mask)
    return 511 - left

/-- `umask` shows or changes the mask. -/
def umask (arguments : List String) : Action Nat :=
  Usage.taking "umask" "pS" "" arguments fun found => do
    let session ← get
    let tell (mask : Nat) : Action Nat := do
      let start := if found.has 'p' then if found.has 'S' then "umask -S " else "umask " else ""
      let _ ← Action.write "umask"
        (start ++ (if found.has 'S' then symbolic mask else octal mask) ++ "\n")
      return 0
    match found.rest with
    | [] => tell session.mask
    | text :: _ =>
      match ofText session.mask text with
      | .ok mask =>
        set { session with mask }
        if found.has 'S' then tell mask else return 0
      | .error message =>
        Action.complainAs "umask" message
        return 1

end FolderBackup.Shell.Mask
