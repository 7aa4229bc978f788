/-! Blank characters.

A character is blank when it is white space in the sense of Unicode; a text is blank
when all its characters are. `trim` drops the blank characters at both ends of a text
and keeps everything between them, and a text is blank exactly when nothing is left of
it (`trim_eq_nil_iff`). -/
namespace FolderBackup.Text

/-- White space: the controls from tab to carriage return, the space, next line, and the
separators of Unicode. -/
def isBlank (c : Char) : Bool :=
  let n := c.toNat
  (0x09 ≤ n && n ≤ 0x0D) || n == 0x20 || n == 0x85 || n == 0xA0 || n == 0x1680 ||
    (0x2000 ≤ n && n ≤ 0x200A) || n == 0x2028 || n == 0x2029 || n == 0x202F || n == 0x205F ||
    n == 0x3000

/-- The text without the blank characters at its start and at its end. -/
def trim (text : List Char) : List Char :=
  ((text.dropWhile isBlank).reverse.dropWhile isBlank).reverse

/-- Whether a text holds blank characters only. -/
def allBlank (text : List Char) : Bool :=
  text.all isBlank

theorem dropWhile_eq_nil_iff_all {α : Type} (p : α → Bool) (xs : List α) :
    xs.dropWhile p = [] ↔ xs.all p = true := by
  induction xs with
  | nil => simp
  | cons x xs ih => by_cases h : p x <;> simp [h, ih]

/-- Nothing is left of a text exactly when it is blank. -/
theorem trim_eq_nil_iff (text : List Char) : trim text = [] ↔ allBlank text = true := by
  have hkept : ∀ c rest, text.dropWhile isBlank = c :: rest → isBlank c = false := by
    intro c rest h
    have := List.head?_dropWhile_not isBlank text
    rw [h] at this
    simpa using this
  constructor
  · intro h
    have hdropped : (text.dropWhile isBlank).reverse.all isBlank = true :=
      (dropWhile_eq_nil_iff_all _ _).mp (List.reverse_eq_nil_iff.mp h)
    apply (dropWhile_eq_nil_iff_all _ _).mp
    cases hd : text.dropWhile isBlank with
    | nil => rfl
    | cons c rest => simp [hd, hkept c rest hd] at hdropped
  · intro h
    simp [trim, (dropWhile_eq_nil_iff_all isBlank text).mpr h]

end FolderBackup.Text
