import Axhost.Platform.QString

/-!
# Windows values

Result codes, class identifiers in registry form, and the flag values of `CLSCTX` and
`REGCLS` that the host reads.
-/

namespace Axhost

/-- A result code; the sign bit marks a failure. -/
abbrev HRESULT := BitVec 32

def failed (hr : HRESULT) : Bool := hr.msb

def succeeded (hr : HRESULT) : Bool := !hr.msb

@[simp] theorem succeeded_eq (hr : HRESULT) : succeeded hr = !failed hr := rfl

def S_OK : HRESULT := 0x00000000
def E_NOTIMPL : HRESULT := 0x80004001
def E_NOINTERFACE : HRESULT := 0x80004002
def E_POINTER : HRESULT := 0x80004003
def E_FAIL : HRESULT := 0x80004005
def E_UNEXPECTED : HRESULT := 0x8000FFFF
def E_INVALIDARG : HRESULT := 0x80070057
def E_OUTOFMEMORY : HRESULT := 0x8007000E
def CLASS_E_NOAGGREGATION : HRESULT := 0x80040110
def CLASS_E_CLASSNOTAVAILABLE : HRESULT := 0x80040111
def DISP_E_UNKNOWNINTERFACE : HRESULT := 0x80020001
def CO_E_CLASSSTRING : HRESULT := 0x800401F3

theorem failed_S_OK : failed S_OK = false := by decide

theorem failed_of_eq_S_OK {hr : HRESULT} (h : hr = S_OK) : failed hr = false :=
  (congrArg failed h).trans failed_S_OK

/-! ## Flags -/

def CLSCTX_INPROC_SERVER : DWORD := 0x1
def CLSCTX_LOCAL_SERVER : DWORD := 0x4

def REGCLS_SINGLEUSE : DWORD := 0
def REGCLS_MULTIPLEUSE : DWORD := 1
def REGCLS_MULTI_SEPARATE : DWORD := 2
def REGCLS_SUSPENDED : DWORD := 4
def REGCLS_SURROGATE : DWORD := 8

/-- `flags & bit` as a condition. -/
def hasFlag (flags bit : DWORD) : Bool := flags &&& bit != 0

/-- Whether a cookie is one of those that are held. -/
instance DWORD.decidableMem (value : DWORD) (values : List DWORD) : Decidable (value ∈ values) :=
  List.instDecidableMemOfLawfulBEq value values

/-! ## Class identifiers -/

/-- The 128 bits of a class identifier, in the order its digits are written. -/
abbrev QUuid := BitVec 128

namespace QUuid

def isNull (u : QUuid) : Bool := u == 0

/-- The registry form: `some c` is the character `c`, `none` a hexadecimal digit. -/
def registryForm : List (Option QChar) :=
  some (qLatin1Char '\x7b') :: List.replicate 8 none ++
    some (qLatin1Char '-') :: List.replicate 4 none ++
    some (qLatin1Char '-') :: List.replicate 4 none ++
    some (qLatin1Char '-') :: List.replicate 4 none ++
    some (qLatin1Char '-') :: List.replicate 12 none ++ [some (qLatin1Char '\x7d')]

/-- The digits of a string that has the given form. -/
def readForm : List (Option QChar) → QString → Option QString
  | [], [] => some []
  | some c :: form, d :: s => if d = c then readForm form s else none
  | none :: form, d :: s =>
    match QString.digitValue d, readForm form s with
    | some _, some digits => some (d :: digits)
    | _, _ => none
  | _, _ => none

/-- What a text in the registry form stands for. -/
def ofRegistryForm (s : QString) : Option QUuid := do
  let digits ← readForm registryForm s
  let value ← QString.digitsValue 16 digits
  some (BitVec.ofNat 128 value)

/-- `QUuid::toString`. -/
def toString (u : QUuid) : QString :=
  let digits := (List.range 32).map fun i =>
    qLatin1Char (Nat.digitChar (u.toNat / 16 ^ (31 - i) % 16))
  let dash := [qLatin1Char '-']
  [qLatin1Char '\x7b'] ++ digits.take 8 ++ dash ++ (digits.drop 8).take 4 ++ dash ++
    (digits.drop 12).take 4 ++ dash ++ (digits.drop 16).take 4 ++ dash ++
    digits.drop 20 ++ [qLatin1Char '\x7d']

theorem mem_of_readForm {form : List (Option QChar)} {s digits : QString}
    (h : readForm form s = some digits) :
    ∀ c ∈ s, some c ∈ form ∨ ∃ digit, QString.digitValue c = some digit := by
  induction form generalizing s digits with
  | nil =>
      cases s with
      | nil => simp
      | cons d s => simp [readForm] at h
  | cons expected form ih =>
      cases s with
      | nil => simp
      | cons d s =>
          rw [List.forall_mem_cons]
          have htail : ∀ rest, readForm form s = some rest → ∀ c ∈ s,
              some c ∈ expected :: form ∨ ∃ digit, QString.digitValue c = some digit := by
            intro rest hrest c hc
            exact (ih hrest c hc).imp_left (List.mem_cons_of_mem _)
          cases expected with
          | some c =>
              rw [readForm] at h
              split at h
              · rename_i hd
                exact ⟨Or.inl (by simp [hd]), htail digits h⟩
              · exact absurd h (by simp)
          | none =>
              rw [readForm] at h
              split at h
              · rename_i digit rest hdigit hrest
                exact ⟨Or.inr ⟨digit, hdigit⟩, htail rest hrest⟩
              · exact absurd h (by simp)

theorem mem_of_ofRegistryForm {s : QString} {u : QUuid} (h : ofRegistryForm s = some u) :
    ∀ c ∈ s, some c ∈ registryForm ∨ ∃ digit, QString.digitValue c = some digit := by
  obtain ⟨digits, hform, -⟩ := Option.bind_eq_some_iff.mp h
  exact mem_of_readForm hform

theorem isSpace_of_ofRegistryForm {s : QString} {u : QUuid}
    (h : ofRegistryForm s = some u) : ∀ c ∈ s, QString.isSpace c = false := by
  intro c hc
  rcases mem_of_ofRegistryForm h c hc with hform | ⟨digit, hdigit⟩
  · have hliteral : (registryForm.filterMap id).all (fun d => !QString.isSpace d) = true := by
      decide
    have hnot := List.all_eq_true.mp hliteral c (List.mem_filterMap.mpr ⟨some c, hform, rfl⟩)
    simpa using hnot
  · exact QString.isSpace_of_digitValue hdigit

theorem slash_not_mem_of_ofRegistryForm {s : QString} {u : QUuid}
    (h : ofRegistryForm s = some u) : qLatin1Char '/' ∉ s := by
  intro hc
  rcases mem_of_ofRegistryForm h _ hc with hform | ⟨digit, hdigit⟩
  · exact absurd hform (by decide)
  · exact absurd hdigit (by simp [show QString.digitValue (qLatin1Char '/') = none by decide])

theorem head_of_ofRegistryForm {s : QString} {u : QUuid} (h : ofRegistryForm s = some u) :
    s.head? = some (qLatin1Char '\x7b') := by
  obtain ⟨digits, hform, -⟩ := Option.bind_eq_some_iff.mp h
  cases s with
  | nil => simp [registryForm, readForm] at hform
  | cons c s =>
      obtain ⟨hbrace, -⟩ := Option.ite_none_right_eq_some.mp hform
      exact congrArg some hbrace

theorem cStr_of_ofRegistryForm {s : QString} {u : QUuid} (h : ofRegistryForm s = some u) :
    QString.cStr s = s := by
  refine QString.cStr_of_unterminated fun hzero => ?_
  rcases mem_of_ofRegistryForm h _ hzero with hform | ⟨digit, hdigit⟩
  · exact absurd hform (by decide)
  · exact absurd hdigit (by simp [show QString.digitValue 0 = none by decide])

end QUuid

/-- `CLSIDFromString`, which is part of Windows.  A text that begins with a brace is read in the
registry form alone.  Any other may be a ProgID, which the machine knows or does not know. -/
structure Ole32 where
  clsidFromString : QString → Except HRESULT QUuid
  failed_of_error : ∀ {s hr}, clsidFromString s = .error hr → failed hr = true
  braced : ∀ {s u}, s.head? = some (qLatin1Char '\x7b') →
    (clsidFromString s = .ok u ↔ QUuid.ofRegistryForm s = some u)

namespace Ole32

variable (ole : Ole32)

/-- The identifier that a string is read as, up to its first null character. -/
def clsid? (s : QString) : Option QUuid := (ole.clsidFromString s.cStr).toOption

theorem clsidFromString_of_registryForm {s : QString} {u : QUuid}
    (h : QUuid.ofRegistryForm s = some u) : ole.clsidFromString s = .ok u :=
  (ole.braced (QUuid.head_of_ofRegistryForm h)).mpr h

theorem clsid?_of_registryForm {s : QString} {u : QUuid} (h : QUuid.ofRegistryForm s = some u) :
    ole.clsid? s = some u := by
  rw [clsid?, QUuid.cStr_of_ofRegistryForm h, ole.clsidFromString_of_registryForm h]
  rfl

/-- A machine with these ProgIDs. -/
def ofProgIDs (progIDs : QString → Option QUuid) : Ole32 where
  clsidFromString s :=
    match if s.head? = some (qLatin1Char '\x7b') then QUuid.ofRegistryForm s else progIDs s with
    | some u => .ok u
    | none => .error CO_E_CLASSSTRING
  failed_of_error h := by
    split at h
    · exact absurd h (by simp)
    · exact Except.error.inj h ▸ by decide
  braced {s u} hbrace := by
    rw [if_pos hbrace]
    cases QUuid.ofRegistryForm s with
    | none => simp
    | some u => simp

end Ole32

/-! ## Interface identifiers -/

abbrev IID := QUuid

def IID_NULL : IID := 0
def IID_IUnknown : IID := 0x0000000000000000C000000000000046
def IID_IClassFactory : IID := 0x0000000100000000C000000000000046
def IID_IExternalConnection : IID := 0x0000001900000000C000000000000046
def IID_IDispatch : IID := 0x0002040000000000C000000000000046
def IID_IConnectionPointContainer : IID := 0xB196B284BAB4101AB69C00AA00341D07
def IID_IProvideClassInfo : IID := 0xB196B283BAB4101AB69C00AA00341D07
def IID_IProvideClassInfo2 : IID := 0xA6BC3AC0DBAA11CE9DE300AA004BB851

end Axhost
