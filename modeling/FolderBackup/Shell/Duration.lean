/-! How long something took.

What a script does takes no time. A format says how that is told: signs with `%` in it stand for times,
with so many places after the point, and in minutes and seconds if wanted. -/
namespace FolderBackup.Shell.Duration

/-- A time without length. -/
def instant (places : Nat) (isLong : Bool) : String :=
  let point := if places = 0 then "" else "." ++ String.ofList (List.replicate places '0')
  if isLong then "0m0" ++ point ++ "s" else "0" ++ point

/-- The sign of a time after `%`, what stands for it and what follows; the wrong letter if there is no such
sign. -/
def sign (text : List Char) : Except (Option Char) (String × List Char) :=
  let (places, rest) := match text with
    | c :: rest => if c.isDigit then (min (c.toNat - 48) 3, rest) else (3, text)
    | [] => (3, [])
  let (isLong, rest) := match rest with
    | 'l' :: rest => (true, rest)
    | rest => (false, rest)
  match rest with
  | [] => .error none
  | c :: rest => if "RESU".contains c then .ok (instant places isLong, rest) else .error (some c)

/-- What a format stands for; the wrong letter if there is one in it. -/
def formatted : Nat → List Char → Except (Option Char) String
  | 0, _ => .ok ""
  | _, [] => .ok ""
  | _, ['%'] => .ok "%"
  | fuel + 1, '%' :: '%' :: rest => do return "%" ++ (← formatted fuel rest)
  | fuel + 1, '%' :: 'P' :: rest => do return instant 2 false ++ (← formatted fuel rest)
  | fuel + 1, '%' :: rest => do
    let (shown, rest) ← sign rest
    return shown ++ (← formatted fuel rest)
  | fuel + 1, c :: rest => do return c.toString ++ (← formatted fuel rest)

/-- The format that is used if there is no other one. -/
def usual : String := "\nreal\t%3lR\nuser\t%3lU\nsys\t%3lS"

/-- The format in seconds alone. -/
def brief : String := "real %2R\nuser %2U\nsys %2S"

end FolderBackup.Shell.Duration
