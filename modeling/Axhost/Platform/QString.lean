import Mathlib.Algebra.Ring.Nat
import Mathlib.Data.List.TakeWhile

/-!
# Qt strings

A `QChar` is a UTF-16 code unit and a `QString` the list of them.  The functions are
the documented ones that the host calls: `trimmed`, `split` by one character (empty
parts kept), `toUInt` with base 0, and `number` with base 16.
-/

namespace Axhost

abbrev QChar := UInt16

abbrev QString := List QChar

/-- A 32-bit unsigned word. -/
abbrev DWORD := BitVec 32

def qLatin1Char (c : Char) : QChar := c.toNat.toUInt16

def qString (s : String) : QString := s.toList.map qLatin1Char

namespace QString

/-- `QChar::isSpace`. -/
def isSpace (c : QChar) : Bool :=
  let n := c.toNat
  (9 ≤ n && n ≤ 13) || n == 0x20 || n == 0x85 || n == 0xA0 || n == 0x1680 ||
    (0x2000 ≤ n && n ≤ 0x200A) || n == 0x2028 || n == 0x2029 || n == 0x202F ||
    n == 0x205F || n == 0x3000

def trimmed (s : QString) : QString :=
  ((s.dropWhile isSpace).reverse.dropWhile isSpace).reverse

def split (separator : QChar) (s : QString) : List QString :=
  s.splitOn separator

/-! ## Numbers -/

/-- The value of a digit in a base up to 16. -/
def digitValue (c : QChar) : Option Nat :=
  let n := c.toNat
  if 48 ≤ n ∧ n ≤ 57 then some (n - 48)
  else if 65 ≤ n ∧ n ≤ 70 then some (n - 55)
  else if 97 ≤ n ∧ n ≤ 102 then some (n - 87)
  else none

/-- Read digits onto the value of those before them. -/
def digitsFrom (base : Nat) : Nat → QString → Option Nat
  | value, [] => some value
  | value, c :: s =>
    match digitValue c with
    | some digit => if digit < base then digitsFrom base (value * base + digit) s else none
    | none => none

def digitsValue (base : Nat) (s : QString) : Option Nat :=
  if s.isEmpty then none else digitsFrom base 0 s

/-- The C prefix rules of base 0. -/
def prefixedValue (s : QString) : Option Nat :=
  match s with
  | zero :: mark :: digits =>
    if zero ≠ qLatin1Char '0' then digitsValue 10 s
    else if mark = qLatin1Char 'x' ∨ mark = qLatin1Char 'X' then digitsValue 16 digits
    else if mark = qLatin1Char 'b' ∨ mark = qLatin1Char 'B' then digitsValue 2 digits
    else digitsValue 8 s
  | _ => digitsValue 10 s

/-- `toUInt(&ok, 0)`; `none` when `ok` comes back false. -/
def toUInt (s : QString) : Option DWORD := do
  let s := trimmed s
  let s := if s.head? = some (qLatin1Char '+') then s.tail else s
  let value ← prefixedValue s
  if value < 2 ^ 32 then some (BitVec.ofNat 32 value) else none

def number16 (value : DWORD) : QString :=
  (Nat.toDigits 16 value.toNat).map qLatin1Char

/-- A string as `c_str` passes it on, up to its first null character. -/
def cStr (s : QString) : QString := s.takeWhile fun c => c ≠ 0

/-! ## Strings that come back unchanged -/

theorem cStr_cStr (s : QString) : cStr (cStr s) = cStr s := List.takeWhile_idem

theorem cStr_of_unterminated {s : QString} (h : 0 ∉ s) : cStr s = s := by
  unfold cStr
  rw [List.takeWhile_eq_self_iff]
  intro c hc
  have hne : c ≠ 0 := by
    rintro rfl
    exact h hc
  simpa using hne

/-- A string that is put at the end of another may have been passed on before. -/
theorem cStr_append_cStr (s t : QString) : cStr (s ++ cStr t) = cStr (s ++ t) := by
  unfold cStr
  rw [List.takeWhile_append, List.takeWhile_append, List.takeWhile_idem]

theorem trimmed_eq_self {s : QString} (h : ∀ c ∈ s, isSpace c = false) :
    trimmed s = s := by
  have hleft : s.dropWhile isSpace = s := by
    cases s with
    | nil => rfl
    | cons c s => simp [h c (by simp)]
  have hright : s.reverse.dropWhile isSpace = s.reverse := by
    cases hs : s.reverse with
    | nil => rfl
    | cons c t =>
        have hc : c ∈ s := by
          rw [← List.mem_reverse, hs]
          simp
        simp [h c hc]
  rw [trimmed, hleft, hright, List.reverse_reverse]

theorem split_intercalate {parts : List QString} {separator : QChar}
    (hparts : ∀ part ∈ parts, separator ∉ part) (hne : parts ≠ []) :
    split separator ([separator].intercalate parts) = parts :=
  List.splitOn_intercalate separator hparts hne

theorem isSpace_of_digitValue {c : QChar} {digit : Nat} (h : digitValue c = some digit) :
    isSpace c = false := by
  have hrange : 48 ≤ c.toNat ∧ c.toNat ≤ 102 := by
    unfold digitValue at h
    grind
  unfold isSpace
  grind

theorem digit_of_mem_digitsFrom {base value result : Nat} {s : QString}
    (h : digitsFrom base value s = some result) :
    ∀ c ∈ s, ∃ digit, digitValue c = some digit := by
  induction s generalizing value with
  | nil => simp
  | cons c s ih =>
      rw [digitsFrom] at h
      split at h
      · rename_i digit hdigit
        split at h
        · rw [List.forall_mem_cons]
          exact ⟨⟨digit, hdigit⟩, ih h⟩
        · exact absurd h (by simp)
      · exact absurd h (by simp)

theorem digit_of_mem {base value : Nat} {s : QString} (h : digitsValue base s = some value) :
    ∀ c ∈ s, ∃ digit, digitValue c = some digit := by
  unfold digitsValue at h
  split at h
  · exact absurd h (by simp)
  · exact digit_of_mem_digitsFrom h

end QString

end Axhost
