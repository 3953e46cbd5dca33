import Axhost.Registration.Surrogate

/-!
# Items as they are written

A field that cannot be read is left at the value that also stands for an omitted field, and
`ClassSpec::sanitize` then gives it the default.  Numbers are read with the prefix rules of C, so
that a leading zero makes them octal.

* `QString.toUInt_of_numeralValue`: when a numeral is read as what it is written as;
* `HostSurrogate.registersAsWritten_iff`: when the registrations are those that were asked for.
-/

namespace Axhost

namespace QString

/-! ## Numerals that are read in another base -/

/-- Digits in decimal, or `0x` and hexadecimal digits. -/
def numeralDigits : QString → Option Nat
  | zero :: mark :: digits =>
    if zero = qLatin1Char '0' ∧ (mark = qLatin1Char 'x' ∨ mark = qLatin1Char 'X') then
      digitsValue 16 digits
    else digitsValue 10 (zero :: mark :: digits)
  | digits => digitsValue 10 digits

/-- The value of a decimal or `0x` numeral below `2 ^ 32`. -/
def numeralValue (text : QString) : Option DWORD :=
  (numeralDigits (trimmed text)).bind fun value =>
    if value < 2 ^ 32 then some (BitVec.ofNat 32 value) else none

/-- A decimal numeral that is longer than it has to be. -/
def LeadingZero (text : QString) : Prop :=
  (trimmed text).head? = some (qLatin1Char '0') ∧ (trimmed text).tail ≠ [] ∧
    ¬ ((trimmed text).tail.head? = some (qLatin1Char 'x') ∨
      (trimmed text).tail.head? = some (qLatin1Char 'X'))

instance (text : QString) : Decidable (LeadingZero text) :=
  inferInstanceAs (Decidable (_ ∧ _ ∧ _))

theorem digitsFrom_cons {base value result : Nat} {c : QChar} {s : QString} :
    digitsFrom base value (c :: s) = some result ↔ ∃ digit, digitValue c = some digit ∧
      digit < base ∧ digitsFrom base (value * base + digit) s = some result := by
  rw [digitsFrom]
  cases digitValue c with
  | none => simp
  | some digit =>
      by_cases hlt : digit < base
      · simp [hlt]
      · simp [hlt]

theorem digitsFrom_le {base value result : Nat} {s : QString} (hbase : 0 < base)
    (h : digitsFrom base value s = some result) : value ≤ result := by
  induction s generalizing value with
  | nil =>
      rw [digitsFrom] at h
      exact (Option.some.inj h).le
  | cons c s ih =>
      obtain ⟨digit, -, -, hrest⟩ := digitsFrom_cons.mp h
      have hstep := ih hrest
      have hscaled : value ≤ value * base := Nat.le_mul_of_pos_right value hbase
      omega

/-- Octal digits stand for less than the same digits in decimal, once anything precedes them. -/
theorem digitsFrom_octal_lt {octal decimal n m : Nat} {s : QString} (hlt : octal < decimal)
    (hn : digitsFrom 8 octal s = some n) (hm : digitsFrom 10 decimal s = some m) : n < m := by
  induction s generalizing octal decimal with
  | nil =>
      rw [digitsFrom] at hn hm
      obtain rfl := Option.some.inj hn
      obtain rfl := Option.some.inj hm
      exact hlt
  | cons c s ih =>
      obtain ⟨digit, hdigit, -, hn⟩ := digitsFrom_cons.mp hn
      obtain ⟨digit', hdigit', -, hm⟩ := digitsFrom_cons.mp hm
      obtain rfl := Option.some.inj (hdigit.symm.trans hdigit')
      exact ih (by omega) hn hm

/-- Decimal digits read as octal keep their value just when that is a single digit. -/
theorem digitsFrom_octal_iff {value m : Nat} {s : QString} (hvalue : value < 8)
    (hm : digitsFrom 10 value s = some m) : digitsFrom 8 value s = some m ↔ m < 8 := by
  induction s generalizing value with
  | nil =>
      rw [digitsFrom] at hm
      obtain rfl := Option.some.inj hm
      exact iff_of_true rfl hvalue
  | cons c s ih =>
      obtain ⟨digit, hdigit, hten, hrest⟩ := digitsFrom_cons.mp hm
      have hle := digitsFrom_le (by omega) hrest
      by_cases hzero : value = 0
      · subst hzero
        by_cases height : digit < 8
        · have hfirst : 0 * 10 + digit < 8 := by omega
          rw [← ih hfirst hrest, digitsFrom_cons]
          simp [hdigit, height]
        · refine iff_of_false (fun hn => ?_) (by omega)
          obtain ⟨digit', hdigit', hlt, -⟩ := digitsFrom_cons.mp hn
          obtain rfl := Option.some.inj (hdigit.symm.trans hdigit')
          exact height hlt
      · refine iff_of_false (fun hn => ?_) (by omega)
        obtain ⟨digit', hdigit', -, hn⟩ := digitsFrom_cons.mp hn
        obtain rfl := Option.some.inj (hdigit.symm.trans hdigit')
        exact absurd (digitsFrom_octal_lt (by omega) hn hrest) (lt_irrefl m)

theorem bounded_eq_some {value? : Option Nat} {value : DWORD} :
    (value?.bind fun n => if n < 2 ^ 32 then some (BitVec.ofNat 32 n) else none) = some value ↔
      value? = some value.toNat := by
  have hlt : value.toNat < 2 ^ 32 := value.isLt
  cases value? with
  | none => simp
  | some n =>
      rw [Option.bind_some, Option.some.injEq]
      constructor
      · intro h
        split_ifs at h with hn
        obtain rfl := Option.some.inj h
        exact (Nat.mod_eq_of_lt hn).symm
      · rintro rfl
        rw [if_pos hlt, BitVec.ofNat_toNat]
        simp

theorem digitValue_plus : digitValue (qLatin1Char '+') = none := by decide

/-- A character that stands for a decimal digit marks no prefix and is no sign. -/
theorem prefixedValue_decimal {c : QChar} {s : QString} {m : Nat}
    (h : digitsFrom 10 0 (c :: s) = some m) :
    (c ≠ qLatin1Char '+') ∧ prefixedValue (c :: s) =
      if c = qLatin1Char '0' ∧ s ≠ [] then digitsValue 8 (c :: s) else some m := by
  obtain ⟨digit, hdigit, -, hrest⟩ := digitsFrom_cons.mp h
  refine ⟨?_, ?_⟩
  · rintro rfl
    exact absurd (digitValue_plus.symm.trans hdigit) (by simp)
  · cases s with
    | nil =>
        rw [if_neg fun hboth => hboth.2 rfl]
        exact h
    | cons mark s =>
        obtain ⟨digit', hdigit', hten, -⟩ := digitsFrom_cons.mp hrest
        have hmark (c : Char) (hc : 10 ≤ (digitValue (qLatin1Char c)).getD 10) :
            mark ≠ qLatin1Char c := by
          rintro rfl
          rw [hdigit', Option.getD_some] at hc
          omega
        have hhex : ¬ (mark = qLatin1Char 'x' ∨ mark = qLatin1Char 'X') :=
          not_or.mpr ⟨hmark 'x' (by decide), hmark 'X' (by decide)⟩
        have hbinary : ¬ (mark = qLatin1Char 'b' ∨ mark = qLatin1Char 'B') :=
          not_or.mpr ⟨hmark 'b' (by decide), hmark 'B' (by decide)⟩
        rw [prefixedValue]
        by_cases hzero : c = qLatin1Char '0'
        · rw [if_neg (not_not.mpr hzero), if_neg hhex, if_neg hbinary,
            if_pos ⟨hzero, List.cons_ne_nil _ _⟩]
        · rw [if_pos hzero, if_neg fun hboth => hzero hboth.1]
          exact h

theorem numeralDigits_decimal {c : QChar} {s : QString}
    (h : ¬ (c = qLatin1Char '0' ∧ (s.head? = some (qLatin1Char 'x') ∨
      s.head? = some (qLatin1Char 'X')))) :
    numeralDigits (c :: s) = digitsFrom 10 0 (c :: s) := by
  cases s with
  | nil => rfl
  | cons mark s =>
      simp only [List.head?_cons, Option.some.injEq] at h
      rw [numeralDigits, if_neg h]
      rfl

/-- When a numeral is read as what it is written as. -/
theorem toUInt_of_numeralValue {text : QString} {value : DWORD}
    (h : numeralValue text = some value) :
    toUInt text = some value ↔ (LeadingZero text → value.toNat < 8) := by
  have hvalue := bounded_eq_some.mp h
  unfold toUInt LeadingZero
  refine bounded_eq_some.trans ?_
  generalize trimmed text = s at hvalue ⊢
  cases s with
  | nil => exact absurd hvalue (by simp [numeralDigits, digitsValue])
  | cons zero s =>
      simp only [List.head?_cons, List.tail_cons, Option.some.injEq]
      by_cases hhex : zero = qLatin1Char '0' ∧ (s.head? = some (qLatin1Char 'x') ∨
          s.head? = some (qLatin1Char 'X'))
      · refine iff_of_true ?_ fun hdecimal => absurd hhex.2 hdecimal.2.2
        obtain ⟨rfl, hmark⟩ := hhex
        cases s with
        | nil => simp at hmark
        | cons mark digits =>
            simp only [List.head?_cons, Option.some.injEq] at hmark
            rw [numeralDigits, if_pos ⟨rfl, hmark⟩] at hvalue
            rw [if_neg (by decide), prefixedValue, if_neg (by simp), if_pos hmark]
            exact hvalue
      · rw [numeralDigits_decimal hhex] at hvalue
        obtain ⟨hplus, hprefixed⟩ := prefixedValue_decimal hvalue
        rw [if_neg hplus, hprefixed]
        by_cases hzero : zero = qLatin1Char '0' ∧ s ≠ []
        · have hleading : ¬ (s.head? = some (qLatin1Char 'x') ∨
              s.head? = some (qLatin1Char 'X')) := fun hmark => hhex ⟨hzero.1, hmark⟩
          rw [if_pos hzero, ← and_assoc, and_iff_left hleading, forall_prop_of_true hzero]
          exact digitsFrom_octal_iff (by omega) hvalue
        · rw [if_neg hzero]
          exact iff_of_true rfl fun hdecimal => absurd ⟨hdecimal.1, hdecimal.2.1⟩ hzero

end QString

namespace ClassSpec

open QString

/-! ## What an item asks for -/

/-- A field that is left out has its default, one that is written what it is written as. -/
def written {α : Type} (read : QString → Option α) (default : α) : Option QString → Option α
  | none => some default
  | some text => read text

/-- The registration that an item asks for; none if one of its fields denotes nothing. -/
def asWritten (ole : Ole32) (suspend : Bool) (regcls : DWORD) (item : QString) :
    Option LoadDllServerExArgs := do
  let parts := QString.split slash item
  let clsid ← clsidPart ole item 0
  let aliasClsid ← written (fun text => ole.clsid? (trimmed text)) clsid (part parts 1)
  let clsctxCreate ← written numeralValue CLSCTX_INPROC_SERVER (part parts 2)
  let clsctxRegister ← written numeralValue CLSCTX_LOCAL_SERVER (part parts 3)
  let flags ← written numeralValue (HostSurrogate.mergedRegcls suspend regcls) (part parts 4)
  some
    { clsid := clsid
      aliasClsid := aliasClsid
      clsctxCreate := clsctxCreate
      clsctxRegister := clsctxRegister
      regcls := flags }

theorem asWritten_eq_some {ole : Ole32} {suspend : Bool} {regcls : DWORD} {item : QString}
    {args : LoadDllServerExArgs} : asWritten ole suspend regcls item = some args ↔
      clsidPart ole item 0 = some args.clsid ∧
      written (fun text => ole.clsid? (trimmed text)) args.clsid
        (part (QString.split slash item) 1) = some args.aliasClsid ∧
      written numeralValue CLSCTX_INPROC_SERVER (part (QString.split slash item) 2) =
        some args.clsctxCreate ∧
      written numeralValue CLSCTX_LOCAL_SERVER (part (QString.split slash item) 3) =
        some args.clsctxRegister ∧
      written numeralValue (HostSurrogate.mergedRegcls suspend regcls)
        (part (QString.split slash item) 4) = some args.regcls := by
  unfold asWritten
  simp only [Option.bind_eq_bind, Option.bind_eq_some_iff, Option.some.injEq]
  constructor
  · rintro ⟨clsid, hclsid, aliasClsid, halias, create, hcreate, register, hregister, flags, hflags,
      rfl⟩
    exact ⟨hclsid, halias, hcreate, hregister, hflags⟩
  · rintro ⟨hclsid, halias, hcreate, hregister, hflags⟩
    exact ⟨_, hclsid, _, halias, _, hcreate, _, hregister, _, hflags, rfl⟩

/-! ## When a field takes effect -/

/-- The number of a field is read as it is written, and is not the zero of an omitted one. -/
def ReadsNumber (text : QString) : Prop :=
  ∃ value, numeralValue text = some value ∧ value ≠ 0 ∧ (LeadingZero text → value.toNat < 8)

/-- The flags of a field are, or cannot be read and are the global ones anyway. -/
def ReadsFlags (suspend : Bool) (regcls : DWORD) (text : QString) : Prop :=
  ∃ value, numeralValue text = some value ∧ (LeadingZero text → value.toNat < 8 ∨
    toUInt text = none ∧ value = HostSurrogate.mergedRegcls suspend regcls)

def ReadsAlias (ole : Ole32) (clsid : Option QUuid) (text : QString) : Prop :=
  ∃ u, ole.clsid? (trimmed text) = some u ∧ (u = 0 → clsid = some 0)

theorem written_alias_iff (ole : Ole32) (item : QString) (index : Nat) (clsid : QUuid) :
    written (fun text => ole.clsid? (trimmed text)) clsid
        (part (QString.split slash item) index) =
        some (if QUuid.isNull ((clsidPart ole item index).getD 0) then clsid
          else (clsidPart ole item index).getD 0) ↔
      ∀ text, part (QString.split slash item) index = some text →
        ReadsAlias ole (some clsid) text := by
  unfold clsidPart
  cases part (QString.split slash item) index with
  | none => simp [written, QUuid.isNull]
  | some text =>
      unfold ReadsAlias
      simp only [written, Option.map_some, Option.bind_some, Option.some.injEq, forall_eq']
      cases ole.clsid? (trimmed text) with
      | none => simp
      | some u =>
          simp only [Option.getD_some, Option.some.injEq, exists_eq_left']
          by_cases hnull : u = 0
          · rw [if_pos (by simpa [QUuid.isNull] using hnull), forall_prop_of_true hnull, hnull]
            exact eq_comm
          · rw [if_neg (by simpa [QUuid.isNull] using hnull)]
            exact iff_of_true rfl fun h => absurd h hnull

theorem written_number_iff (item : QString) (index : Nat) {default : DWORD} (hne : default ≠ 0)
    (hlt : default.toNat < 8) :
    written numeralValue default (part (QString.split slash item) index) =
        some (if (numberPart item index).getD 0 = 0 then default
          else (numberPart item index).getD 0) ↔
      ∀ text, part (QString.split slash item) index = some text → ReadsNumber text := by
  unfold numberPart
  cases part (QString.split slash item) index with
  | none => simp [written]
  | some text =>
      unfold ReadsNumber
      simp only [written, Option.bind_some, Option.some.injEq, forall_eq']
      cases hvalue : numeralValue text with
      | none => simp
      | some value =>
          simp only [Option.some.injEq, exists_eq_left', ← toUInt_of_numeralValue hvalue]
          constructor
          · intro h
            split_ifs at h with hzero
            · -- the default is read in any base
              have hread := (toUInt_of_numeralValue hvalue).mpr fun _ => h ▸ hlt
              rw [hread, Option.getD_some] at hzero
              exact absurd (h.symm.trans hzero) hne
            · cases hread : toUInt text with
              | none => simp [hread] at hzero
              | some read =>
                  rw [hread, Option.getD_some] at h hzero
                  exact ⟨h ▸ hzero, congrArg some h.symm⟩
          · rintro ⟨hvalue, hread⟩
            rw [hread, Option.getD_some, if_neg hvalue]

theorem written_flags_iff (item : QString) (index : Nat) (suspend : Bool) (regcls : DWORD) :
    written numeralValue (HostSurrogate.mergedRegcls suspend regcls)
        (part (QString.split slash item) index) =
        some ((numberPart item index).getD (HostSurrogate.mergedRegcls suspend regcls)) ↔
      ∀ text, part (QString.split slash item) index = some text →
        ReadsFlags suspend regcls text := by
  unfold numberPart
  cases part (QString.split slash item) index with
  | none => simp [written]
  | some text =>
      unfold ReadsFlags
      simp only [written, Option.bind_some, Option.some.injEq, forall_eq']
      cases hvalue : numeralValue text with
      | none => simp
      | some value =>
          simp only [Option.some.injEq, exists_eq_left']
          have hread := toUInt_of_numeralValue hvalue
          cases hparsed : toUInt text with
          | none =>
              rw [hparsed] at hread
              constructor
              · intro h _
                exact Or.inr ⟨rfl, h⟩
              · intro h
                by_contra hne
                exact absurd (hread.mpr fun hzero => (h hzero).resolve_right fun hr => hne hr.2)
                  (by simp)
          | some read =>
              simp only [reduceCtorEq, false_and, or_false, ← hread, hparsed, Option.getD_some,
                Option.some.injEq]
              exact eq_comm

/-- The fields of an item that must be right for its registration to be the one it asks for. -/
structure TakesEffect (ole : Ole32) (suspend : Bool) (regcls : DWORD) (item : QString) : Prop where
  clsid : (clsidPart ole item 0).isSome = true
  aliasClsid : ∀ text, part (QString.split slash item) 1 = some text →
    ReadsAlias ole (clsidPart ole item 0) text
  clsctxCreate : ∀ text, part (QString.split slash item) 2 = some text → ReadsNumber text
  clsctxRegister : ∀ text, part (QString.split slash item) 3 = some text → ReadsNumber text
  regcls : ∀ text, part (QString.split slash item) 4 = some text → ReadsFlags suspend regcls text

theorem sanitize_fromString_regcls (ole : Ole32) (item : QString) {regcls : DWORD}
    (hne : regcls ≠ 0) :
    ((fromString ole item).1.sanitize regcls).regcls = (numberPart item 4).getD regcls := by
  cases hnumber : numberPart item 4 with
  | none =>
      rw [sanitize_regcls_default (by rw [fromString_eq, hnumber]; rfl) hne, Option.getD_none]
  | some value =>
      rw [sanitize_regcls_explicit (by rw [fromString_eq, hnumber]; rfl), fromString_eq, hnumber]
      rfl

theorem asWritten_iff (ole : Ole32) (suspend : Bool) (regcls : DWORD) (item : QString) :
    asWritten ole suspend regcls item =
        some (HostSurrogate.loadArgs ((fromString ole item).1.sanitize
          (HostSurrogate.mergedRegcls suspend regcls))) ↔
      TakesEffect ole suspend regcls item := by
  have hflags := sanitize_fromString_regcls ole item
    (HostSurrogate.mergedRegcls_ne_zero suspend regcls)
  rw [asWritten_eq_some]
  unfold HostSurrogate.loadArgs
  dsimp only
  rw [hflags, sanitize_clsid, sanitize_aliasClsid, sanitize_clsctxCreate, sanitize_clsctxRegister,
    fromString_eq]
  dsimp only
  rw [written_alias_iff, written_number_iff _ _ (by decide) (by decide),
    written_number_iff _ _ (by decide) (by decide), written_flags_iff]
  cases hclsid : clsidPart ole item 0 with
  | none =>
      refine iff_of_false (fun h => absurd h.1 (by simp)) fun h => ?_
      have hsome := h.clsid
      rw [hclsid] at hsome
      exact absurd hsome (by simp)
  | some clsid =>
      rw [Option.getD_some]
      constructor
      · rintro ⟨-, halias, hcreate, hregister, hflags⟩
        exact ⟨by rw [hclsid]; rfl, by rwa [hclsid], hcreate, hregister, hflags⟩
      · rintro ⟨-, halias, hcreate, hregister, hflags⟩
        exact ⟨rfl, by rwa [hclsid] at halias, hcreate, hregister, hflags⟩

end ClassSpec

namespace HostSurrogate

open ClassSpec

variable {γ : Type*}

/-- Every registration that is made for an item is the one that the item asks for; an item that
asks for none has none. -/
def RegistersAsWritten (ole : Ole32) (com : Com γ) (items : List QString) (suspend : Bool)
    (regcls : DWORD) (s : HostSurrogate γ) : Prop :=
  List.Forall₂
    (fun item spec => failed spec.result = false →
      asWritten ole suspend regcls item = some (loadArgs spec))
    items (s.registerAllClassFactories com (parsed ole items) suspend regcls).1.2

theorem forall₂_congr_of {α β : Type*} {R P Q : α → β → Prop} (h : ∀ a b, R a b → (P a b ↔ Q a b))
    {l : List α} {l' : List β} (hl : List.Forall₂ R l l') :
    List.Forall₂ P l l' ↔ List.Forall₂ Q l l' := by
  induction hl with
  | nil => simp
  | cons hab _ ih => rw [List.forall₂_cons, List.forall₂_cons, h _ _ hab, ih]

theorem forall₂_left_iff {α β : Type*} {R : α → β → Prop} {P : α → Prop} {Q : β → Prop}
    {l : List α} {l' : List β} (hl : List.Forall₂ R l l') (hQ : ∀ b ∈ l', Q b) :
    List.Forall₂ (fun a b => Q b → P a) l l' ↔ ∀ a ∈ l, P a := by
  induction hl with
  | nil => simp
  | cons hab _ ih =>
      rw [List.forall_mem_cons] at hQ
      rw [List.forall₂_cons, List.forall_mem_cons, ih hQ.2, forall_prop_of_true hQ.1]

/-- The items whose registration COM accepts must take effect, in every field; where it accepts
all of them, these are all items. -/
theorem registersAsWritten_iff (ole : Ole32) (com : Com γ) (items : List QString) (suspend : Bool)
    (regcls : DWORD) (s : HostSurrogate γ) :
    (RegistersAsWritten ole com items suspend regcls s ↔
      List.Forall₂
        (fun item spec => failed spec.result = false → TakesEffect ole suspend regcls item)
        items (s.registerAllClassFactories com (parsed ole items) suspend regcls).1.2) ∧
    ((∀ spec ∈ (s.registerAllClassFactories com (parsed ole items) suspend regcls).1.2,
        failed spec.result = false) →
      (RegistersAsWritten ole com items suspend regcls s ↔
        ∀ item ∈ items, TakesEffect ole suspend regcls item)) := by
  have hrecords := registerLoop_records com (mergedRegcls suspend regcls) (parsed ole items) S_OK s
  rw [parsed, List.forall₂_map_left_iff] at hrecords
  have hgeneral := forall₂_congr_of (P := fun item spec => failed spec.result = false →
    asWritten ole suspend regcls item = some (loadArgs spec))
    (Q := fun item spec => failed spec.result = false → TakesEffect ole suspend regcls item)
    (fun item spec hspec => by rw [hspec.loadArgs_eq, asWritten_iff]) hrecords
  exact ⟨hgeneral, fun haccepted => hgeneral.trans (forall₂_left_iff hrecords haccepted)⟩

/-- An item whose alias lacks its last brace. -/
def mistypedAlias : QString :=
  qString "\x7b0002DF01-0000-0000-C000-000000000046\x7d/\x7b0002DF01-0000-0000-C000-000000000047"

/-- An item whose flags are written with a leading zero. -/
def octalFlags : QString := qString "\x7b0002DF01-0000-0000-C000-000000000046\x7d////010"

/-- COM without a DLL, which gives every registration the same cookie. -/
def sameCookieCom : Com Unit where
  coGetClassObject _ _ _ := ((E_FAIL, none), ())
  coRegisterClassObject _ _ _ _ _ := ((S_OK, 1), ())
  coRevokeClassObject _ _ := (S_OK, ())
  getLastError _ := 0
  getLastErrorMessage _ := []

theorem not_registersAsWritten_mistypedAlias :
    -- the alias becomes the source
    ¬ RegistersAsWritten (.ofProgIDs fun _ => none) sameCookieCom [mistypedAlias] true 0
      { com := () } ∧
      -- ten becomes eight
      ¬ RegistersAsWritten (.ofProgIDs fun _ => none) sameCookieCom [octalFlags] true 0
        { com := () } := by
  unfold RegistersAsWritten
  decide +kernel

end HostSurrogate

end Axhost
