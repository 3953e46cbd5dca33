import Mathlib.Data.List.Basic
import Mathlib.Data.List.Forall2

/-!
# Splitting a command line into arguments

The rule of the Microsoft C runtime over an arbitrary alphabet.  Outside quotes a
blank ends the current token; `2k` backslashes before a quote stand for `k`
backslashes and the quote opens or closes quoting; `2k + 1` stand for `k` backslashes
and a literal quote; other backslashes are literal; a doubled quote inside quotes is a
literal quote.

`Encodes e v` is what an encoder has to establish for one token, and
`split_intercalate` joins any number of encoded tokens.
-/

namespace ArgvSplit

structure Alphabet (α : Type*) where
  space : α
  tab : α
  quote : α
  backslash : α
  quote_ne_backslash : quote ≠ backslash
  quote_ne_space : quote ≠ space
  quote_ne_tab : quote ≠ tab
  backslash_ne_space : backslash ≠ space
  backslash_ne_tab : backslash ≠ tab

/-- `closing` is the state after a quote that was read inside quotes: a second quote
makes it a literal one, anything else leaves the quotes. -/
inductive Mode
  | outside
  | inside
  | closing
deriving DecidableEq, Repr

variable {α : Type*} [DecidableEq α] (A : Alphabet α)

def Alphabet.blank (c : α) : Prop := c = A.space ∨ c = A.tab

instance (c : α) : Decidable (A.blank c) := inferInstanceAs (Decidable (_ ∨ _))

/-- The token read so far, with its pending backslashes taken literally. -/
def flush (pending : Nat) (token : Option (List α)) : List (List α) :=
  match token, pending with
  | none, 0 => []
  | token, pending => [token.getD [] ++ List.replicate pending A.backslash]

/-- Read from `mode` with `pending` backslashes not yet decided; `token` is `none`
between tokens. -/
def scan : Mode → Nat → Option (List α) → List α → List (List α)
  | _, pending, token, [] => flush A pending token
  | mode, pending, token, c :: rest =>
    if c = A.backslash then
      scan (if mode = .closing then .outside else mode) (pending + 1) token rest
    else if c = A.quote then
      let decided := token.getD [] ++ List.replicate (pending / 2) A.backslash
      if pending % 2 = 1 then scan mode 0 (some (decided ++ [A.quote])) rest
      else match mode with
        | .outside => scan .inside 0 (some decided) rest
        | .inside => scan .closing 0 (some decided) rest
        | .closing => scan .inside 0 (some (decided ++ [A.quote])) rest
    else if mode ≠ .inside ∧ A.blank c then
      flush A pending token ++ scan .outside 0 none rest
    else
      scan (if mode = .closing then .outside else mode) 0
        (some (token.getD [] ++ List.replicate pending A.backslash ++ [c])) rest

def split (line : List α) : List (List α) := scan A .outside 0 none line

@[simp] theorem scan_nil (mode : Mode) (pending : Nat) (token : Option (List α)) :
    scan A mode pending token [] = flush A pending token := by
  cases mode <;> rfl

@[simp] theorem split_nil : split A [] = [] := by
  simp [split, flush]

omit [DecidableEq α] in
theorem flush_some (token : List α) : flush A 0 (some token) = [token] := by
  simp [flush]

theorem scan_backslash (mode : Mode) (pending : Nat) (token : Option (List α))
    (rest : List α) :
    scan A mode pending token (A.backslash :: rest) =
      scan A (if mode = .closing then .outside else mode) (pending + 1) token rest := by
  rw [scan, if_pos rfl]

theorem split_quote (rest : List α) :
    split A (A.quote :: rest) = scan A .inside 0 (some []) rest := by
  rw [split, scan, if_neg A.quote_ne_backslash, if_pos rfl]
  rfl

theorem scan_inside_replicate (count pending : Nat) (token : Option (List α))
    (rest : List α) :
    scan A .inside pending token (List.replicate count A.backslash ++ rest) =
      scan A .inside (pending + count) token rest := by
  induction count generalizing pending with
  | zero => simp
  | succ count ih =>
      rw [List.replicate_succ, List.cons_append, scan_backslash, if_neg (by simp), ih]
      congr 1
      omega

theorem scan_inside_quote_even (k : Nat) (token rest : List α) :
    scan A .inside (2 * k) (some token) (A.quote :: rest) =
      scan A .closing 0 (some (token ++ List.replicate k A.backslash)) rest := by
  rw [scan, if_neg A.quote_ne_backslash, if_pos rfl]
  simp

theorem scan_inside_quote_odd (k : Nat) (token rest : List α) :
    scan A .inside (2 * k + 1) (some token) (A.quote :: rest) =
      scan A .inside 0
        (some (token ++ List.replicate k A.backslash ++ [A.quote])) rest := by
  have hdiv : (2 * k + 1) / 2 = k := by omega
  have hmod : (2 * k + 1) % 2 = 1 := by omega
  rw [scan, if_neg A.quote_ne_backslash, if_pos rfl]
  simp [hdiv, hmod]

theorem scan_inside_char {c : α} (hbackslash : c ≠ A.backslash) (hquote : c ≠ A.quote)
    (pending : Nat) (token rest : List α) :
    scan A .inside pending (some token) (c :: rest) =
      scan A .inside 0
        (some (token ++ List.replicate pending A.backslash ++ [c])) rest := by
  rw [scan, if_neg hbackslash, if_neg hquote]
  simp

theorem scan_outside_plain (plain rest : List α) (token : List α)
    (hplain : ∀ c ∈ plain, c ≠ A.backslash ∧ c ≠ A.quote ∧ ¬ A.blank c) :
    scan A .outside 0 (some token) (plain ++ rest) =
      scan A .outside 0 (some (token ++ plain)) rest := by
  induction plain generalizing token with
  | nil => simp
  | cons c plain ih =>
      obtain ⟨hbackslash, hquote, hblank⟩ := hplain c (by simp)
      rw [List.cons_append, scan, if_neg hbackslash, if_neg hquote,
        if_neg (by simp [hblank])]
      simp [ih _ fun d hd => hplain d (by simp [hd])]

/-! ## Joining encoded tokens -/

/-- `e` is read as the one token `v`, at the end of a line and before a space. -/
def Encodes (e v : List α) : Prop :=
  split A e = [v] ∧ ∀ rest, split A (e ++ A.space :: rest) = v :: split A rest

omit [DecidableEq α] in
theorem space_ne_quote : A.space ≠ A.quote := fun h => A.quote_ne_space h.symm

omit [DecidableEq α] in
theorem space_ne_backslash : A.space ≠ A.backslash := fun h => A.backslash_ne_space h.symm

theorem scan_space {mode : Mode} (hmode : mode ≠ .inside) (token rest : List α) :
    scan A mode 0 (some token) (A.space :: rest) = token :: split A rest := by
  rw [scan, if_neg (space_ne_backslash A), if_neg (space_ne_quote A),
    if_pos ⟨hmode, Or.inl rfl⟩, flush_some]
  rfl

theorem encodes_of_scan (mode : Mode) (hmode : mode ≠ .inside) {e v : List α}
    (h : ∀ rest, split A (e ++ rest) = scan A mode 0 (some v) rest) : Encodes A e v := by
  constructor
  · have hend := h []
    rw [List.append_nil, scan_nil, flush_some] at hend
    exact hend
  · intro rest
    rw [h, scan_space A hmode]

theorem encodes_plain {plain : List α} (hne : plain ≠ [])
    (hplain : ∀ c ∈ plain, c ≠ A.backslash ∧ c ≠ A.quote ∧ ¬ A.blank c) :
    Encodes A plain plain := by
  obtain ⟨c, plain, rfl⟩ := List.exists_cons_of_ne_nil hne
  apply encodes_of_scan A .outside (by simp)
  intro rest
  obtain ⟨hbackslash, hquote, hblank⟩ := hplain c (by simp)
  rw [split, List.cons_append, scan, if_neg hbackslash, if_neg hquote,
    if_neg (by simp [hblank])]
  have htail := scan_outside_plain A plain rest [c] fun d hd => hplain d (by simp [hd])
  simpa using htail

/-- Encoded tokens joined by spaces are read back in order. -/
theorem split_intercalate {es vs : List (List α)} (h : List.Forall₂ (Encodes A) es vs) :
    split A ([A.space].intercalate es) = vs := by
  induction h with
  | nil => simp [List.intercalate]
  | @cons e v es vs he hrest ih =>
      cases hrest with
      | nil => simpa [List.intercalate] using he.1
      | cons he' hrest' =>
          rw [List.intercalate_cons_cons, List.append_assoc, List.singleton_append, he.2, ih]

theorem split_intercalate_append {es vs : List (List α)} (hne : es ≠ [])
    (h : List.Forall₂ (Encodes A) es vs) (rest : List α) :
    split A ([A.space].intercalate es ++ A.space :: rest) = vs ++ split A rest := by
  induction h with
  | nil => exact absurd rfl hne
  | @cons e v es vs he hrest ih =>
      cases hrest with
      | nil => simpa [List.intercalate] using he.2 rest
      | cons he' hrest' =>
          rw [List.intercalate_cons_cons, List.append_assoc, List.append_assoc,
            List.singleton_append, he.2, ih (by simp)]
          rfl

end ArgvSplit
