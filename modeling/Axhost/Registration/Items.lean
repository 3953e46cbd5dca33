import Axhost.Registration.Surrogate

/-!
# From `--clsid` items to registrations

`ClassItem` is a well-formed item `c[/a[/cc[/cr[/r]]]]` together with what its fields
denote; an ill-formed one cannot be built.  Parsing its text recovers every field, and
the registration loop then calls `LoadDllServerEx` once per item with the denoted or
default values.
-/

namespace Axhost

/-- Decimal numerals without leading zeros and `0x` numerals, below `2 ^ 32`. -/
inductive Numeral : QString → DWORD → Prop
  | zero : Numeral [qLatin1Char '0'] 0
  | decimal (digits : QString) (value : Nat) (hfirst : digits.head? ≠ some (qLatin1Char '0'))
      (hvalue : QString.digitsValue 10 digits = some value) (hlt : value < 2 ^ 32) :
      Numeral digits (BitVec.ofNat 32 value)
  | hex (mark : QChar) (digits : QString) (value : Nat)
      (hmark : mark = qLatin1Char 'x' ∨ mark = qLatin1Char 'X')
      (hvalue : QString.digitsValue 16 digits = some value) (hlt : value < 2 ^ 32) :
      Numeral (qLatin1Char '0' :: mark :: digits) (BitVec.ofNat 32 value)

/-- A field that is left empty, or written with a meaning. -/
inductive Field {α : Type} (Denotes : QString → α → Prop)
  | omitted
  | given (text : QString) (value : α) (denotes : Denotes text value)

namespace Field

variable {α : Type} {Denotes : QString → α → Prop}

def text : Field Denotes → QString
  | omitted => []
  | given text _ _ => text

def value? : Field Denotes → Option α
  | omitted => none
  | given _ value _ => some value

def value (default : α) (field : Field Denotes) : α := field.value?.getD default

@[simp] theorem text_given (text : QString) (value : α) (denotes : Denotes text value) :
    (given text value denotes).text = text := rfl

@[simp] theorem value?_given (text : QString) (value : α) (denotes : Denotes text value) :
    (given text value denotes).value? = some value := rfl

@[simp] theorem value_omitted (default : α) :
    (omitted : Field Denotes).value default = default := rfl

@[simp] theorem value_given (default : α) (text : QString) (value : α)
    (denotes : Denotes text value) : (given text value denotes).value default = value := rfl

end Field

/-- A well-formed item; the first `written` of its five fields are in the text. -/
structure ClassItem where
  c : QString
  clsid : QUuid
  valid : QUuid.ofRegistryForm c = some clsid
  a : Field fun text (u : QUuid) => QUuid.ofRegistryForm text = some u ∧ u ≠ 0
  cc : Field fun text (value : DWORD) => Numeral text value ∧ value ≠ 0
  cr : Field fun text (value : DWORD) => Numeral text value ∧ value ≠ 0
  r : Field Numeral
  written : Nat
  positive : 1 ≤ written
  trailing : ∀ field ∈ [a.text, cc.text, cr.text, r.text].drop (written - 1), field = []

namespace ClassItem

def fields (item : ClassItem) : List QString :=
  [item.c, item.a.text, item.cc.text, item.cr.text, item.r.text]

def text (item : ClassItem) : QString :=
  [ClassSpec.slash].intercalate (item.fields.take item.written)

/-- The call an item stands for, under the global flags. -/
def registration (suspend : Bool) (regcls : DWORD) (item : ClassItem) :
    LoadDllServerExArgs where
  clsid := item.clsid
  aliasClsid := item.a.value item.clsid
  clsctxCreate := item.cc.value CLSCTX_INPROC_SERVER
  clsctxRegister := item.cr.value CLSCTX_LOCAL_SERVER
  regcls := item.r.value
    (regcls ||| REGCLS_MULTI_SEPARATE ||| if suspend then REGCLS_SUSPENDED else 0)

end ClassItem

/-! ## Numerals -/

namespace Numeral

theorem digit_or_mark {s : QString} {value : DWORD} (h : Numeral s value) :
    ∀ c ∈ s, (∃ digit, QString.digitValue c = some digit) ∨
      c = qLatin1Char 'x' ∨ c = qLatin1Char 'X' := by
  intro c hc
  cases h with
  | zero =>
      rw [List.mem_singleton.mp hc]
      exact Or.inl ⟨0, by decide⟩
  | decimal digits value hfirst hvalue hlt =>
      exact Or.inl (QString.digit_of_mem hvalue c hc)
  | hex mark digits value hmark hvalue hlt =>
      rcases List.mem_cons.mp hc with rfl | hc
      · exact Or.inl ⟨0, by decide⟩
      · rcases List.mem_cons.mp hc with rfl | hc
        · exact Or.inr hmark
        · exact Or.inl (QString.digit_of_mem hvalue c hc)

theorem isSpace_eq_false {s : QString} {value : DWORD} (h : Numeral s value) :
    ∀ c ∈ s, QString.isSpace c = false := by
  intro c hc
  rcases h.digit_or_mark c hc with ⟨digit, hdigit⟩ | rfl | rfl
  · exact QString.isSpace_of_digitValue hdigit
  · decide
  · decide

theorem slash_not_mem {s : QString} {value : DWORD} (h : Numeral s value) :
    ClassSpec.slash ∉ s := by
  intro hc
  rcases h.digit_or_mark _ hc with ⟨digit, hdigit⟩ | hmark | hmark
  · exact absurd hdigit (by simp [show QString.digitValue ClassSpec.slash = none by decide])
  · exact absurd hmark (by decide)
  · exact absurd hmark (by decide)

theorem ne_nil {s : QString} {value : DWORD} (h : Numeral s value) : s ≠ [] := by
  cases h with
  | zero => simp
  | decimal digits value hfirst hvalue hlt =>
      rintro rfl
      simp [QString.digitsValue] at hvalue
  | hex => simp

theorem head_ne_plus {s : QString} {value : DWORD} (h : Numeral s value) :
    s.head? ≠ some (qLatin1Char '+') := by
  intro hplus
  have hmem : qLatin1Char '+' ∈ s := List.mem_of_mem_head? hplus
  rcases h.digit_or_mark _ hmem with ⟨digit, hdigit⟩ | hmark | hmark
  · exact absurd hdigit (by simp [show QString.digitValue (qLatin1Char '+') = none by decide])
  · exact absurd hmark (by decide)
  · exact absurd hmark (by decide)

theorem prefixedValue_eq {s : QString} {value : DWORD} (h : Numeral s value) :
    ∃ n, QString.prefixedValue s = some n ∧ n < 2 ^ 32 ∧ BitVec.ofNat 32 n = value := by
  cases h with
  | zero => exact ⟨0, by decide, by decide, rfl⟩
  | decimal _ value hfirst hvalue hlt =>
      refine ⟨value, ?_, hlt, rfl⟩
      cases s with
      | nil => simp [QString.digitsValue] at hvalue
      | cons c digits =>
          have hzero : c ≠ qLatin1Char '0' := by simpa using hfirst
          cases digits with
          | nil => exact hvalue
          | cons d digits =>
              rw [QString.prefixedValue, if_pos hzero]
              exact hvalue
  | hex mark digits value hmark hvalue hlt =>
      refine ⟨value, ?_, hlt, rfl⟩
      rw [QString.prefixedValue, if_neg (by simp), if_pos hmark]
      exact hvalue

theorem toUInt_eq {s : QString} {value : DWORD} (h : Numeral s value) :
    QString.toUInt s = some value := by
  obtain ⟨n, hprefixed, hlt, hvalue⟩ := h.prefixedValue_eq
  simp only [QString.toUInt, QString.trimmed_eq_self h.isSpace_eq_false,
    if_neg h.head_ne_plus, hprefixed, Option.bind_eq_bind, Option.bind_some, if_pos hlt, hvalue]

end Numeral

/-! ## Parsing an item -/

namespace ClassItem

open ClassSpec

theorem slash_not_mem_fields (item : ClassItem) : ∀ field ∈ item.fields, slash ∉ field := by
  obtain ⟨c, clsid, valid, a, cc, cr, r, written, positive, trailing⟩ := item
  simp only [fields, List.forall_mem_cons, List.not_mem_nil, false_imp_iff, implies_true,
    and_true]
  refine ⟨QUuid.slash_not_mem_of_ofRegistryForm valid, ?_, ?_, ?_, ?_⟩
  · cases a with
    | omitted => simp [Field.text]
    | given text u h => exact QUuid.slash_not_mem_of_ofRegistryForm h.1
  · cases cc with
    | omitted => simp [Field.text]
    | given text value h => exact h.1.slash_not_mem
  · cases cr with
    | omitted => simp [Field.text]
    | given text value h => exact h.1.slash_not_mem
  · cases r with
    | omitted => simp [Field.text]
    | given text value h => exact h.slash_not_mem

theorem split_text (item : ClassItem) :
    QString.split slash item.text = item.fields.take item.written := by
  apply QString.split_intercalate
  · intro field hfield
    exact item.slash_not_mem_fields field (List.mem_of_mem_take hfield)
  · have hpositive := item.positive
    cases hwritten : item.written with
    | zero => omega
    | succ written => simp [fields]

/-- A field that the text leaves out reads like an empty one. -/
theorem part_split_text (item : ClassItem) (index : Nat) :
    part (QString.split slash item.text) index = part item.fields index := by
  rw [split_text]
  unfold part
  by_cases hindex : index < item.written
  · rw [List.getElem?_take, if_pos hindex]
  · rw [List.getElem?_take, if_neg hindex]
    cases hfield : item.fields[index]? with
    | none => rfl
    | some field =>
        have hpositive := item.positive
        have hnil : field = [] := by
          apply item.trailing
          apply List.mem_of_getElem? (i := index - item.written)
          rw [List.getElem?_drop]
          have hindex' : item.written - 1 + (index - item.written) + 1 = index := by omega
          rw [← hindex'] at hfield
          simpa [fields] using hfield
        simp [hnil, Option.filter]

theorem part_omitted_or_given (s : QString) (parts : List QString) (index : Nat)
    (h : parts[index]? = some s) : part parts index = if s.isEmpty then none else some s := by
  rw [part, h]
  cases s <;> simp

theorem clsid_ne_nil {s : QString} {u : QUuid} (h : QUuid.ofRegistryForm s = some u) :
    s ≠ [] := by
  rintro rfl
  exact absurd (QUuid.head_of_ofRegistryForm h) (by simp)

theorem trimmed_clsid (ole : Ole32) {s : QString} {u : QUuid}
    (h : QUuid.ofRegistryForm s = some u) :
    QString.trimmed s = s ∧ clsidFromQString ole s = (u, []) := by
  refine ⟨QString.trimmed_eq_self (QUuid.isSpace_of_ofRegistryForm h), ?_⟩
  rw [clsidFromQString, QUuid.cStr_of_ofRegistryForm h, ole.clsidFromString_of_registryForm h]

theorem clsid_field {Extra : QUuid → Prop}
    (field : Field fun text u => QUuid.ofRegistryForm text = some u ∧ Extra u)
    (parts : List QString) (index : Nat) (h : parts[index]? = some field.text) :
    part parts index = field.value?.map fun _ => field.text := by
  rw [part_omitted_or_given _ _ _ h]
  cases field with
  | omitted => rfl
  | given text value hdenotes =>
      have hne : text.isEmpty = false := by simpa using clsid_ne_nil hdenotes.1
      simp [hne]

theorem number_field {Denotes : QString → DWORD → Prop}
    (hnumeral : ∀ text value, Denotes text value → Numeral text value)
    (field : Field Denotes) (parts : List QString) (index : Nat)
    (h : parts[index]? = some field.text) :
    (part parts index).bind QString.toUInt = field.value? := by
  rw [part_omitted_or_given _ _ _ h]
  cases field with
  | omitted => rfl
  | given text value hdenotes =>
      have hvalue := hnumeral text value hdenotes
      have hne : text.isEmpty = false := by simpa using hvalue.ne_nil
      simp [hne, hvalue.toUInt_eq]

/-- What the text of an item is parsed to: the denoted values, zero where a field is
omitted, and no warning. -/
theorem fromString_text (ole : Ole32) (item : ClassItem) :
    fromString ole item.text =
      ({ clsid := item.clsid
         aliasClsid := item.a.value 0
         clsidInput := item.c
         aliasInput := item.a.text
         clsctxCreate := item.cc.value 0
         clsctxRegister := item.cr.value 0
         regcls := item.r.value 0
         regclsExplicit := item.r.value?.isSome }, []) := by
  have hc : part item.fields 0 = some item.c := by
    have hne : item.c.isEmpty = false := by simpa using clsid_ne_nil item.valid
    rw [part_omitted_or_given item.c _ _ rfl, hne]
    rfl
  have ha := clsid_field item.a item.fields 1 rfl
  have hcc := number_field (fun _ _ h => h.1) item.cc item.fields 2 rfl
  have hcr := number_field (fun _ _ h => h.1) item.cr item.fields 3 rfl
  have hr := number_field (fun _ _ h => h) item.r item.fields 4 rfl
  unfold fromString Field.value
  simp only [part_split_text, hc, ha, hcc, hcr, hr, trimmed_clsid ole item.valid]
  cases hfield : item.a with
  | omitted =>
      cases item.cc.value? <;> cases item.cr.value? <;> cases item.r.value? <;> rfl
  | given text u h =>
      simp only [Field.value?_given, Field.text_given, Option.map_some, trimmed_clsid ole h.1]
      cases item.cc.value? <;> cases item.cr.value? <;> cases item.r.value? <;> rfl

theorem mergedRegcls_eq (suspend : Bool) (regcls : DWORD) :
    HostSurrogate.mergedRegcls suspend regcls =
      regcls ||| REGCLS_MULTI_SEPARATE ||| if suspend then REGCLS_SUSPENDED else 0 := by
  unfold HostSurrogate.mergedRegcls
  cases suspend with
  | false => simp
  | true => simp [BitVec.or_assoc, BitVec.or_comm REGCLS_SUSPENDED]

/-- Sanitizing the parsed item gives the call it stands for. -/
theorem loadArgs_sanitize_fromString (ole : Ole32) (item : ClassItem) (suspend : Bool)
    (regcls : DWORD) :
    HostSurrogate.loadArgs ((fromString ole item.text).1.sanitize
        (HostSurrogate.mergedRegcls suspend regcls)) =
      item.registration suspend regcls := by
  have hmerged := HostSurrogate.mergedRegcls_ne_zero suspend regcls
  rw [fromString_text]
  unfold HostSurrogate.loadArgs registration
  simp only [sanitize_clsid, sanitize_aliasClsid, sanitize_clsctxCreate,
    sanitize_clsctxRegister, LoadDllServerExArgs.mk.injEq, true_and]
  refine ⟨?_, ?_, ?_, ?_⟩
  · cases item.a with
    | omitted => rfl
    | given text u h =>
        have hne : QUuid.isNull u = false := by simpa [QUuid.isNull] using h.2
        simp [hne]
  · cases item.cc with
    | omitted => rfl
    | given text value h => exact if_neg h.2
  · cases item.cr with
    | omitted => rfl
    | given text value h => exact if_neg h.2
  · cases item.r with
    | omitted =>
        rw [sanitize_regcls_default rfl hmerged, mergedRegcls_eq]
        rfl
    | given text value h =>
        rw [sanitize_regcls_explicit rfl]
        rfl

/-- Parsing the items and registering them calls `LoadDllServerEx` once per item, in list
order, with the values each item stands for; whatever COM answers. -/
theorem registerAllClassFactories_loads {γ : Type*} (ole : Ole32) (com : Com γ)
    (s : HostSurrogate γ) (items : List ClassItem) (suspend : Bool) (regcls : DWORD) :
    (HostSurrogate.registerAllClassFactories com
        (items.map fun item => (fromString ole item.text).1) suspend regcls s).2.loads =
      s.loads ++ items.map (registration suspend regcls) := by
  unfold HostSurrogate.registerAllClassFactories
  rw [HostSurrogate.registerLoop_loads, List.map_map]
  congr 1
  apply List.map_congr_left
  intro item _
  exact loadArgs_sanitize_fromString ole item suspend regcls

/-- The item `c//0x1//3` of the class `c`: separate and multiple use, never suspended. -/
example :
    ∃ item : ClassItem,
      item.text = qString "\x7b0002DF01-0000-0000-C000-000000000046\x7d//0x1//3" ∧
      item.registration true REGCLS_SINGLEUSE =
        { clsid := 0x0002DF0100000000C000000000000046
          aliasClsid := 0x0002DF0100000000C000000000000046
          clsctxCreate := CLSCTX_INPROC_SERVER
          clsctxRegister := CLSCTX_LOCAL_SERVER
          regcls := REGCLS_MULTIPLEUSE ||| REGCLS_MULTI_SEPARATE } :=
  ⟨{ c := qString "\x7b0002DF01-0000-0000-C000-000000000046\x7d"
     clsid := 0x0002DF0100000000C000000000000046
     valid := by decide +kernel
     a := .omitted
     cc := .given (qString "0x1") 1
       ⟨.hex (qLatin1Char 'x') (qString "1") 1 (Or.inl rfl) (by decide) (by decide), by decide⟩
     cr := .omitted
     r := .given (qString "3") 3 (.decimal (qString "3") 3 (by decide) (by decide) (by decide))
     written := 5
     positive := by decide
     trailing := by decide }, by decide +kernel, by decide⟩

end ClassItem

end Axhost
