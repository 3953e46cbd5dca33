import Axhost.CommandLine.Quote
import Axhost.Lib.ArgvSplit

/-!
# The command line is split back into its arguments

The quoting loop holds back a run of backslashes until it knows what follows it.
`emitted` is what the rest of the loop will write with `pending` backslashes held back;
the scanner, still without any of them, ends the quoted token with exactly those
backslashes and the remaining characters.
-/

namespace Axhost.CommandLine

open ArgvSplit

theorem quote_ne_backslash : quote ≠ backslash := by decide

def alphabet : Alphabet QChar where
  space := space
  tab := tab
  quote := quote
  backslash := backslash
  quote_ne_backslash := quote_ne_backslash
  quote_ne_space := by decide
  quote_ne_tab := by decide
  backslash_ne_space := by decide
  backslash_ne_tab := by decide

@[simp] theorem alphabet_space : alphabet.space = space := rfl

@[simp] theorem alphabet_quote : alphabet.quote = quote := rfl

@[simp] theorem alphabet_backslash : alphabet.backslash = backslash := rfl

/-! ## The quoting loop -/

def emitted (pending : Nat) : QString → QString
  | [] => List.replicate (pending * 2) backslash ++ [quote]
  | ch :: arg =>
    if ch = backslash then emitted (pending + 1) arg
    else if ch = quote then
      List.replicate (pending * 2) backslash ++ [backslash, quote] ++ emitted 0 arg
    else List.replicate pending backslash ++ [ch] ++ emitted 0 arg

theorem eq_of_intValue {n m : Nat} (h : intValue n = some m) : m = n :=
  (Option.some.inj (Option.ite_none_right_eq_some.mp h).2).symm

/-- A step that does not overflow.  The source skips the runs of length zero, which are empty
anyway. -/
def quoted (s : QuoteState) (ch : QChar) : QuoteState :=
  if ch = backslash then ⟨s.result, s.backslashes + 1⟩
  else if ch = quote then
    ⟨s.result ++ List.replicate (s.backslashes * 2) backslash ++ [backslash, quote], 0⟩
  else ⟨s.result ++ List.replicate s.backslashes backslash ++ [ch], 0⟩

theorem quoteStep_eq_some {s t : QuoteState} {ch : QChar} (h : quoteStep s ch = some t) :
    t = quoted s ch := by
  obtain ⟨result, pending⟩ := s
  unfold quoteStep at h
  unfold quoted
  by_cases hbackslash : ch = backslash
  · rw [if_pos hbackslash] at h ⊢
    obtain ⟨next, hnext, h⟩ := Option.bind_eq_some_iff.mp h
    rw [eq_of_intValue hnext] at h
    exact (Option.some.inj h).symm
  · rw [if_neg hbackslash] at h ⊢
    by_cases hquote : ch = quote
    · rw [if_pos hquote] at h ⊢
      dsimp only at h
      split_ifs at h with hrun
      · obtain ⟨doubled, hdoubled, h⟩ := Option.bind_eq_some_iff.mp h
        rw [eq_of_intValue hdoubled] at h
        obtain rfl := Option.some.inj h
        simp
      · obtain rfl := Option.some.inj h
        have hnone : pending = 0 := by simpa using hrun
        simp [hnone]
    · rw [if_neg hquote] at h ⊢
      obtain rfl := Option.some.inj h
      cases pending <;> simp

/-- What the loop has written, with the run at the end doubled, is what it had to write. -/
theorem foldlM_quoteStep {arg : QString} {s t : QuoteState} (h : arg.foldlM quoteStep s = some t) :
    t.result ++ List.replicate (t.backslashes * 2) backslash ++ [quote] =
      s.result ++ emitted s.backslashes arg := by
  induction arg generalizing s with
  | nil =>
      obtain rfl := Option.some.inj h
      simp [emitted]
  | cons ch arg ih =>
      obtain ⟨s', hstep, hrest⟩ := Option.bind_eq_some_iff.mp h
      rw [ih hrest, quoteStep_eq_some hstep, quoted, emitted]
      split_ifs <;> simp

theorem quoteSingleArg_eq_some {arg e : QString} (h : quoteSingleArg arg = some e) :
    e = quote :: emitted 0 arg := by
  obtain ⟨t, ht, h⟩ := Option.bind_eq_some_iff.mp h
  have hwritten := foldlM_quoteStep ht
  dsimp only at hwritten h
  rw [List.singleton_append] at hwritten
  rw [← hwritten]
  split_ifs at h with hrun
  · obtain ⟨doubled, hdoubled, h⟩ := Option.bind_eq_some_iff.mp h
    rw [eq_of_intValue hdoubled] at h
    exact (Option.some.inj h).symm
  · have hnone : t.backslashes = 0 := by simpa using hrun
    rw [hnone, Nat.zero_mul, List.replicate_zero, List.append_nil]
    exact (Option.some.inj h).symm

/-! ## Counting in an `int` -/

/-- No run of backslashes is too long to be counted and doubled in an `int`. -/
def Countable (arg : QString) : Prop :=
  ∀ count, List.replicate count backslash <:+: arg → count < 2 ^ 30

theorem countable_of_length {arg : QString} (h : arg.length < 2 ^ 30) : Countable arg := by
  intro count hpart
  have hle := hpart.length_le
  rw [List.length_replicate] at hle
  omega

theorem Countable.of_infix {arg arg' : QString} (h : Countable arg) (hpart : arg' <:+: arg) :
    Countable arg' := fun count hcount => h count (hcount.trans hpart)

theorem Countable.pending_lt {pending : Nat} {arg : QString}
    (h : Countable (List.replicate pending backslash ++ arg)) : pending < 2 ^ 30 :=
  h pending (List.prefix_append _ arg).isInfix

theorem Countable.tail {pending : Nat} {ch : QChar} {arg : QString}
    (h : Countable (List.replicate pending backslash ++ ch :: arg)) : Countable arg :=
  h.of_infix ((List.suffix_cons ch arg).trans (List.suffix_append _ _)).isInfix

theorem quoteStep_of_lt {s : QuoteState} (hs : s.backslashes < 2 ^ 30) (ch : QChar) :
    quoteStep s ch = some (quoted s ch) := by
  have hnext : intValue (s.backslashes + 1) = some (s.backslashes + 1) := if_pos (by omega)
  have hdoubled : intValue (s.backslashes * 2) = some (s.backslashes * 2) := if_pos (by omega)
  have hsome : (quoteStep s ch).isSome = true := by
    unfold quoteStep
    rw [hnext, hdoubled]
    simp only [Option.bind_eq_bind, Option.bind_some]
    split_ifs <;> rfl
  obtain ⟨t, ht⟩ := Option.isSome_iff_exists.mp hsome
  rw [ht, quoteStep_eq_some ht]

/-- The loop counts no further than an `int` goes, not even at its end. -/
theorem foldlM_quoteStep_of_countable (arg : QString) (s : QuoteState)
    (hs : Countable (List.replicate s.backslashes backslash ++ arg)) :
    ∃ t, arg.foldlM quoteStep s = some t ∧ t.backslashes < 2 ^ 30 := by
  induction arg generalizing s with
  | nil => exact ⟨s, rfl, hs.pending_lt⟩
  | cons ch arg ih =>
      rw [List.foldlM_cons, quoteStep_of_lt (hs.pending_lt), quoted]
      split_ifs with hbackslash hquote
      · have hrun : Countable (List.replicate (s.backslashes + 1) backslash ++ arg) := by
          rw [List.replicate_succ', List.append_assoc, List.singleton_append]
          exact hbackslash ▸ hs
        exact ih _ hrun
      · exact ih ⟨_, 0⟩ hs.tail
      · exact ih ⟨_, 0⟩ hs.tail

theorem quoteSingleArg_isSome {arg : QString} (h : Countable arg) :
    (quoteSingleArg arg).isSome = true := by
  obtain ⟨t, ht, hlt⟩ := foldlM_quoteStep_of_countable arg ⟨[quote], 0⟩ (by simpa using h)
  have hdoubled : intValue (t.backslashes * 2) = some (t.backslashes * 2) := if_pos (by omega)
  unfold quoteSingleArg
  rw [ht]
  simp only [Option.bind_eq_bind, Option.bind_some, hdoubled]
  split_ifs <;> rfl

theorem quoteArguments_isSome {arguments : List QString} (h : ∀ arg ∈ arguments, Countable arg) :
    (arguments.mapM quoteArgument).isSome = true := by
  induction arguments with
  | nil => rfl
  | cons arg arguments ih =>
      rw [List.forall_mem_cons] at h
      have hfirst : (quoteArgument arg).isSome = true := by
        unfold quoteArgument
        split_ifs
        · exact quoteSingleArg_isSome h.1
        · rfl
      obtain ⟨e, he⟩ := Option.isSome_iff_exists.mp hfirst
      obtain ⟨es, hes⟩ := Option.isSome_iff_exists.mp (ih h.2)
      simp [List.mapM_cons, he, hes]

/-! ## Reading it back -/

/-- Inside quotes, what the loop writes for `arg` with `pending` backslashes held back
is read as those backslashes and `arg`. -/
theorem scan_emitted (arg : QString) (pending : Nat) (token rest : QString) :
    scan alphabet .inside 0 (some token) (emitted pending arg ++ rest) =
      scan alphabet .closing 0
        (some (token ++ List.replicate pending backslash ++ arg)) rest := by
  induction arg generalizing pending token with
  | nil =>
      have hrun := scan_inside_replicate alphabet (pending * 2) 0 (some token)
        (quote :: rest)
      have hclose := scan_inside_quote_even alphabet pending token rest
      rw [Nat.zero_add, Nat.mul_comm] at hrun
      rw [emitted, List.append_assoc, List.singleton_append, Nat.mul_comm]
      simpa using hrun.trans hclose
  | cons ch arg ih =>
      rw [emitted]
      split_ifs with hbackslash hquote
      · -- a backslash joins the run that is held back
        rw [ih, hbackslash]
        simp [List.replicate_succ']
      · -- a quote: the run is doubled and one backslash escapes the quote
        have hrun := scan_inside_replicate alphabet (pending * 2 + 1) 0 (some token)
          (quote :: (emitted 0 arg ++ rest))
        have hliteral := scan_inside_quote_odd alphabet pending token
          (emitted 0 arg ++ rest)
        rw [Nat.zero_add, Nat.mul_comm] at hrun
        have hboth := hrun.trans hliteral
        rw [alphabet_quote, ih] at hboth
        rw [hquote]
        simpa [List.replicate_succ', Nat.mul_comm] using hboth
      · -- any other character makes the run literal
        have hrun := scan_inside_replicate alphabet pending 0 (some token)
          (ch :: (emitted 0 arg ++ rest))
        have hchar := scan_inside_char alphabet hbackslash hquote pending token
          (emitted 0 arg ++ rest)
        rw [Nat.zero_add] at hrun
        have hboth := hrun.trans hchar
        rw [ih] at hboth
        simpa using hboth

theorem encodes_quoteSingleArg {arg e : QString} (h : quoteSingleArg arg = some e) :
    Encodes alphabet e arg := by
  rw [quoteSingleArg_eq_some h]
  refine encodes_of_scan alphabet .closing (by simp) fun rest => ?_
  rw [List.cons_append, ← alphabet_quote, split_quote]
  simpa using scan_emitted arg 0 [] rest

theorem plain_of_not_argNeedsQuotes {arg : QString} (h : argNeedsQuotes arg = false) :
    arg ≠ [] ∧ ∀ c ∈ arg, c ≠ backslash ∧ c ≠ quote ∧ ¬ alphabet.blank c := by
  cases arg with
  | nil => simp [argNeedsQuotes] at h
  | cons d arg =>
      refine ⟨by simp, fun c hc => ?_⟩
      have hspecials : c ∉ specials := by
        simp only [argNeedsQuotes, List.isEmpty_cons, Bool.false_eq_true, if_false,
          List.any_eq_false] at h
        simpa using h c hc
      refine ⟨?_, ?_, ?_⟩
      · rintro rfl
        exact hspecials (by decide)
      · rintro rfl
        exact hspecials (by decide)
      · rintro (rfl | rfl)
        · exact hspecials (by decide)
        · exact hspecials (by decide)

theorem encodes_quoteArgument {arg e : QString} (h : quoteArgument arg = some e) :
    Encodes alphabet e arg := by
  unfold quoteArgument at h
  split_ifs at h with hquotes
  · exact encodes_quoteSingleArg h
  · obtain ⟨hne, hplain⟩ := plain_of_not_argNeedsQuotes (Bool.eq_false_iff.mpr hquotes)
    obtain rfl := Option.some.inj h
    exact encodes_plain alphabet hne hplain

theorem encodes_arguments {arguments es : List QString}
    (h : arguments.mapM quoteArgument = some es) :
    List.Forall₂ (Encodes alphabet) es arguments := by
  induction arguments generalizing es with
  | nil =>
      obtain rfl := Option.some.inj h
      exact .nil
  | cons arg arguments ih =>
      rw [List.mapM_cons] at h
      obtain ⟨e, he, h⟩ := Option.bind_eq_some_iff.mp h
      obtain ⟨es', hes', h⟩ := Option.bind_eq_some_iff.mp h
      obtain rfl := Option.some.inj h
      exact .cons (encodes_quoteArgument he) (ih hes')

theorem intercalate_eq_nil_iff {es vs : List QString}
    (h : List.Forall₂ (Encodes alphabet) es vs) :
    [space].intercalate es = [] ↔ es = [] := by
  constructor
  · intro hnil
    have hsplit := split_intercalate alphabet h
    rw [show [alphabet.space].intercalate es = [] from hnil, split_nil] at hsplit
    rw [← hsplit] at h
    exact List.forall₂_nil_right_iff.mp h
  · rintro rfl
    rfl

/-- The line of encoded tokens and the native arguments. -/
theorem split_line {tokens vs : List QString} (htokens : List.Forall₂ (Encodes alphabet) tokens vs)
    (nativeArguments : QString) :
    split alphabet (if nativeArguments.isEmpty then [space].intercalate tokens
      else (if ([space].intercalate tokens).isEmpty then [space].intercalate tokens
        else [space].intercalate tokens ++ [space]) ++ nativeArguments) =
      vs ++ split alphabet nativeArguments := by
  by_cases hnative : nativeArguments = []
  · rw [hnative, List.isEmpty_nil, if_pos rfl, split_nil, List.append_nil]
    exact split_intercalate alphabet htokens
  · rw [if_neg (by simpa using hnative)]
    by_cases hempty : tokens = []
    · subst hempty
      rw [List.forall₂_nil_left_iff.mp htokens]
      rfl
    · have hline : [space].intercalate tokens ≠ [] := fun h =>
        hempty ((intercalate_eq_nil_iff htokens).mp h)
      rw [if_neg (by simpa using hline), List.append_assoc, List.singleton_append]
      exact split_intercalate_append alphabet hempty htokens nativeArguments

theorem createCommandLine_eq_some {program nativeArguments line : QString}
    {arguments : List QString}
    (h : createCommandLine program arguments nativeArguments = some line) :
    ∃ tokens, List.Forall₂ (Encodes alphabet) tokens
        ((if program = [] then [] else [replaceSlashes program]) ++ arguments) ∧
      line = if nativeArguments.isEmpty then [space].intercalate tokens
        else (if ([space].intercalate tokens).isEmpty then [space].intercalate tokens
          else [space].intercalate tokens ++ [space]) ++ nativeArguments := by
  unfold createCommandLine at h
  simp only [Option.bind_eq_bind, Option.bind_some] at h
  by_cases hnone : program = []
  · rw [if_pos (by simpa using hnone)] at h
    obtain ⟨es, hes, h⟩ := Option.bind_eq_some_iff.mp h
    rw [List.nil_append] at h
    refine ⟨es, ?_, ?_⟩
    · rw [if_pos hnone, List.nil_append]
      exact encodes_arguments hes
    · split_ifs at h ⊢ <;> exact (Option.some.inj h).symm
  · rw [if_neg (by simpa using hnone)] at h
    obtain ⟨e, he, h⟩ := Option.bind_eq_some_iff.mp h
    obtain ⟨es, hes, h⟩ := Option.bind_eq_some_iff.mp h
    rw [List.singleton_append] at h
    refine ⟨e :: es, ?_, ?_⟩
    · rw [if_neg hnone, List.singleton_append]
      exact .cons (encodes_quoteSingleArg he) (encodes_arguments hes)
    · split_ifs at h ⊢ <;> exact (Option.some.inj h).symm

theorem createCommandLine_isSome {program : QString} {arguments : List QString}
    (hprogram : Countable (replaceSlashes program)) (harguments : ∀ arg ∈ arguments, Countable arg)
    (nativeArguments : QString) :
    (createCommandLine program arguments nativeArguments).isSome = true := by
  obtain ⟨e, he⟩ := Option.isSome_iff_exists.mp (quoteSingleArg_isSome hprogram)
  obtain ⟨es, hes⟩ := Option.isSome_iff_exists.mp (quoteArguments_isSome harguments)
  unfold createCommandLine
  rw [he, hes]
  simp only [Option.bind_eq_bind, Option.bind_some]
  split_ifs <;> rfl

/-- A command line is split into the program with its slashes turned, the arguments and the split
of the native arguments.  There is one unless a run of 2^30 backslashes or more is too long to be
counted, and Windows ends command lines at 32767 characters. -/
theorem split_createCommandLine (program : QString) (arguments : List QString)
    (nativeArguments : QString) :
    (∀ line, createCommandLine program arguments nativeArguments = some line →
      split alphabet line =
        (if program = [] then []
          else [program.map fun c => if c = qLatin1Char '/' then qLatin1Char '\\' else c]) ++
        arguments ++ split alphabet nativeArguments) ∧
    (Countable (program.map fun c => if c = qLatin1Char '/' then qLatin1Char '\\' else c) →
      (∀ arg ∈ arguments, Countable arg) →
        (createCommandLine program arguments nativeArguments).isSome = true) := by
  constructor
  · intro line hline
    obtain ⟨tokens, htokens, rfl⟩ := createCommandLine_eq_some hline
    exact split_line htokens nativeArguments
  · intro hprogram harguments
    exact createCommandLine_isSome hprogram harguments nativeArguments

/-- A program with slashes, and an argument that is all quotes and backslashes. -/
theorem split_createCommandLine_slashes :
    (createCommandLine (qString "c:/axhost.exe") [qString "\\\\\x22"] []).map (split alphabet) =
      some [qString "c:\\axhost.exe", qString "\\\\\x22"] := by
  have hshort (arg : QString) (h : arg.length ≤ 20) : Countable arg :=
    countable_of_length (by omega)
  obtain ⟨hsplit, hsome⟩ :=
    split_createCommandLine (qString "c:/axhost.exe") [qString "\\\\\x22"] []
  obtain ⟨line, hline⟩ := Option.isSome_iff_exists.mp
    (hsome (hshort _ (by decide)) (by simpa using hshort _ (by decide)))
  rw [hline, Option.map_some, hsplit line hline]
  decide

end Axhost.CommandLine
